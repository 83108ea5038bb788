import VisionForge.FormalUsage.UsageStateSafety

/-! # Leases and the permits they open

Within a session each lease that is accounted for should open the data plane once at most. A
staged renewal is recognised by the sequence alone, which the lease in force has as well.
-/

namespace VisionForge.FormalUsage.DualMachineFormalUsageStateMachine

open Lib.Histories Lib.Run

/-- The leases accounted for in a session, and which of them opened the permit, the newest
first; leases are numbered from one. -/
structure Tally where
  accounted : Nat
  openings : List Nat
  deriving DecidableEq

def Operation.begins : Operation → Bool
  | .verifiedInitialLeaseInstalled .. => true
  | _ => false

/-- The session begins with its initial lease; a change of the permit from closed to open is
put down to the latest lease. -/
def note (tally : Tally) (before : DualMachineFormalUsageStateMachine) (op : Operation)
    (result : DualMachineFormalUsageStateMachine × Answer) : Tally :=
  let session : Tally := if op.begins ∧ result.2 = .done then ⟨0, []⟩ else tally
  let accounted :=
    if op.leases ∧ result.2 = .done then session.accounted + 1 else session.accounted
  let openings :=
    if before.permitsDataPlane = false ∧ result.1.permitsDataPlane = true then
      accounted :: session.openings
    else session.openings
  ⟨accounted, openings⟩

def tallyAfter (operations : List Operation) : Tally :=
  (exec (observed step note) (new, ⟨0, []⟩) operations).2

/-- No lease opens the permit twice, and it opens no more often than leases are accounted for. -/
structure OpensOnce (tally : Tally) : Prop where
  distinct : tally.openings.Pairwise (· > ·)
  bounded : tally.openings.length ≤ tally.accounted

instance (tally : Tally) : Decidable (OpensOnce tally) :=
  decidable_of_iff (tally.openings.Pairwise (· > ·) ∧ tally.openings.length ≤ tally.accounted)
    ⟨fun both => ⟨both.1, both.2⟩, fun once => ⟨once.distinct, once.bounded⟩⟩

/-- A gap is not ended by activating a lease that has opened the permit before. -/
def Fresh (earlier : List Operation) (op : Operation) : Prop :=
  op = .stagedRenewalActivated (machineAfter earlier).leaseSequence →
    (machineAfter earlier).state = .renewalGap →
      (tallyAfter earlier).accounted ∉ (tallyAfter earlier).openings

theorem machineAfter_observed (ops : List Operation) :
    (exec (observed step note) (new, ⟨0, []⟩) ops).1 = machineAfter ops :=
  exec_observed step note new ⟨0, []⟩ ops

theorem tallyAfter_append (ops : List Operation) (op : Operation) :
    tallyAfter (ops ++ [op]) =
      note (tallyAfter ops) (machineAfter ops) op
        ((machineAfter ops).step op) := by
  rw [tallyAfter, exec_append, ← machineAfter_observed]
  rfl

def Permitted (machine : DualMachineFormalUsageStateMachine) : Prop :=
  machine.state = .active → machine.permitsDataPlane = true

section

variable {before next : DualMachineFormalUsageStateMachine} {op : Operation}
  {ans : Answer} {tally : Tally}

theorem Effect.permitted (effect : Effect before op ans next)
    (cons : Consistent before) (permitted : Permitted before) : Permitted next := by
  intro on
  rcases effect.session cons with sess | ⟨out, -⟩
  · cases sess with
    | keeps state _ permit | stages _ state _ permit =>
      rw [permit]
      exact permitted (state ▸ on)
    | begins _ _ _ permit | renews _ _ _ permit | activates _ _ _ permit => exact permit
    | expires _ gap => simp [gap] at on
  · exact absurd on out.1

end

theorem machineAfter_permitted (ops : List Operation) : Permitted (machineAfter ops) := by
  induction ops using List.reverseRecOn with
  | nil => exact fun on => by simp [machineAfter, new] at on
  | append_singleton ops op ih =>
    rw [machineAfter_append]
    exact (step_hasEffect _ op).permitted (machineAfter_consistent ops) ih

/-- The leases that opened the permit are distinct ones that have been accounted for. -/
structure Tally.Sound (tally : Tally) : Prop where
  distinct : tally.openings.Pairwise (· > ·)
  numbered : ∀ lease ∈ tally.openings, 0 < lease ∧ lease ≤ tally.accounted

theorem length_le_of_descending {numbers : List Nat} {bound : Nat}
    (descending : numbers.Pairwise (· > ·))
    (numbered : ∀ number ∈ numbers, 0 < number ∧ number ≤ bound) : numbers.length ≤ bound := by
  induction numbers generalizing bound with
  | nil => exact Nat.zero_le bound
  | cons first rest ih =>
    obtain ⟨larger, descending⟩ := List.pairwise_cons.mp descending
    have isFirst := numbered first List.mem_cons_self
    have shorter := @ih (first - 1) descending (fun number mem => by
      have smaller := larger number mem
      have pos := (numbered number (List.mem_cons_of_mem first mem)).1
      omega)
    rw [List.length_cons]
    omega

theorem Tally.Sound.opensOnce {tally : Tally} (sound : tally.Sound) : OpensOnce tally :=
  ⟨sound.distinct, length_le_of_descending sound.distinct sound.numbered⟩

theorem Tally.Sound.account {tally : Tally} (sound : tally.Sound) :
    Tally.Sound ⟨tally.accounted + 1, tally.openings⟩ :=
  ⟨sound.distinct, fun lease mem =>
    ⟨(sound.numbered lease mem).1, (sound.numbered lease mem).2.trans (Nat.le_succ _)⟩⟩

theorem Tally.Sound.opens {tally : Tally} (sound : tally.Sound) (some : 0 < tally.accounted)
    (fresh : tally.accounted ∉ tally.openings) :
    Tally.Sound ⟨tally.accounted, tally.accounted :: tally.openings⟩ where
  distinct := by
    refine List.pairwise_cons.mpr ⟨fun lease mem => ?_, sound.distinct⟩
    refine lt_of_le_of_ne (sound.numbered lease mem).2 ?_
    rintro rfl
    exact fresh mem
  numbered := by
    intro lease mem
    rcases List.mem_cons.mp mem with rfl | old
    · exact ⟨some, le_rfl⟩
    · exact sound.numbered lease old

section

variable {before next : DualMachineFormalUsageStateMachine} {op : Operation}
  {ans : Answer} {tally : Tally}

structure Tallied (tally : Tally) (machine : DualMachineFormalUsageStateMachine) : Prop where
  sound : tally.Sound
  begun : machine.state = .active ∨ machine.state = .renewalGap → 0 < tally.accounted

theorem note_idle (idle : op.leases = false ∨ ans ≠ .done)
    (closed : before.permitsDataPlane = false → next.permitsDataPlane = false) :
    note tally before op (next, ans) = tally := by
  have noLease : ¬ (op.leases = true ∧ ans = .done) := by
    rcases idle with other | refused
    · simp [other]
    · simp [refused]
  have noBegin : ¬ (op.begins = true ∧ ans = .done) := by
    cases op <;> simp_all [Operation.begins, Operation.leases]
  have noOpening : ¬ (before.permitsDataPlane = false ∧ next.permitsDataPlane = true) := by
    rintro ⟨wasClosed, permits⟩
    simp [closed wasClosed] at permits
  simp only [note, noLease, noBegin, noOpening, if_false]

theorem Effect.tallied (effect : Effect before op ans next)
    (cons : Consistent before) (permitted : Permitted before) (tallied : Tallied tally before)
    (fresh : op = .stagedRenewalActivated before.leaseSequence →
      before.state = .renewalGap → tally.accounted ∉ tally.openings) :
    Tallied (note tally before op (next, ans)) next := by
  have after := effect.consistent cons
  rcases effect.session cons with sess | ⟨out, idle⟩
  · cases sess with
    | keeps state seq permit idle =>
      rw [note_idle idle (fun closed => permit.trans closed)]
      exact ⟨tallied.sound, state ▸ tallied.begun⟩
    | begins starting on seq permit =>
      have closed := cons.closed (by simp [starting])
      simp only [note, Operation.begins, Operation.leases, closed, permit, and_self, if_true]
      exact ⟨⟨by simp, by simp⟩, fun _ => Nat.one_pos⟩
    | expires on gap =>
      rw [note_idle (.inl rfl) (fun _ => after.closed (by simp [gap]))]
      exact ⟨tallied.sound, fun _ => tallied.begun (.inl on)⟩
    | renews renewable on seq permit =>
      simp only [note, Operation.begins, Operation.leases, permit, and_true, if_true,
        Bool.false_eq_true, if_false]
      refine ⟨?_, fun _ => Nat.succ_pos _⟩
      have counted := tallied.sound.account
      split
      · refine counted.opens (Nat.succ_pos _) fun mem => ?_
        have bound := (tallied.sound.numbered _ mem).2
        exact absurd bound (by simp)
      · exact counted
    | stages renewable state seq permit =>
      have noOpening : ¬ (before.permitsDataPlane = false ∧ next.permitsDataPlane = true) := by
        rw [permit]
        simp
      simp only [note, Operation.begins, Operation.leases, and_true, if_true,
        Bool.false_eq_true, if_false, noOpening]
      exact ⟨tallied.sound.account, fun _ => Nat.succ_pos _⟩
    | activates renewable on seq permit =>
      simp only [note, Operation.begins, Operation.leases, permit, and_true,
        Bool.false_eq_true, if_false]
      split
      · rename_i closed
        have gap : before.state = .renewalGap := by
          rcases renewable with hact | gap
          · simp [permitted hact] at closed
          · exact gap
        exact ⟨tallied.sound.opens (tallied.begun renewable) (fresh rfl gap),
          fun _ => tallied.begun renewable⟩
      · exact ⟨tallied.sound, fun _ => tallied.begun renewable⟩
  · rw [note_idle idle (fun _ => after.closed out.1)]
    refine ⟨tallied.sound, fun running => ?_⟩
    simp [out.1, out.2] at running

end

theorem tallyAfter_tallied {ops : List Operation} (fresh : Each Fresh ops) :
    Tallied (tallyAfter ops) (machineAfter ops) := by
  induction ops using List.reverseRecOn with
  | nil => exact ⟨⟨List.Pairwise.nil, by simp [tallyAfter]⟩, by simp [machineAfter, new]⟩
  | append_singleton ops op ih =>
    obtain ⟨old, last⟩ := each_append.mp fresh
    rw [machineAfter_append, tallyAfter_append]
    exact (step_hasEffect _ op).tallied (machineAfter_consistent ops)
      (machineAfter_permitted ops) (ih old) last

theorem note_activation {machine : DualMachineFormalUsageStateMachine} {tally : Tally}
    (cons : Consistent machine) (gap : machine.state = .renewalGap) :
    note tally machine (.stagedRenewalActivated machine.leaseSequence)
        (machine.step (.stagedRenewalActivated machine.leaseSequence)) =
      ⟨tally.accounted, tally.accounted :: tally.openings⟩ := by
  have closed := cons.closed (by simp [gap])
  have activated : machine.step (.stagedRenewalActivated machine.leaseSequence) =
      ({ machine with permitsDataPlane := true, state := .active }, .done) := by
    unfold step
    simp only [perform, stagedRenewalActivated, permit, bind_assoc, get_bind, require_bind,
      modify_bind, pure_run]
    rw [if_pos (by simp [gap])]
    rfl
  rw [activated]
  simp [note, Operation.begins, Operation.leases, closed]

/-- Throughout a run each lease opens the permit once at most exactly when no gap is ended by
activating a lease that has opened the permit before. -/
theorem lease_opens_once_iff (ops : List Operation) :
    (∀ old later, ops = old ++ later → OpensOnce (tallyAfter old)) ↔
      Each Fresh ops := by
  constructor
  · rintro once old op later split rfl gap member
    have after := once (old ++ [.stagedRenewalActivated (machineAfter old).leaseSequence])
      later (by simp [split])
    rw [tallyAfter_append, note_activation (machineAfter_consistent old) gap] at after
    have distinct := (List.pairwise_cons.mp after.distinct).1 _ member
    exact absurd distinct (lt_irrefl _)
  · rintro fresh old later rfl
    have freshEarlier : Each Fresh old := fresh.of_append
    exact (tallyAfter_tallied freshEarlier).sound.opensOnce

/-- The lease in force expires and is taken for a staged one. -/
def reopenedSession : List Operation :=
  startedSession ++ [.leaseExpiredLocally, .stagedRenewalActivated 0]

/-- The one lease of the session has opened the permit twice. -/
theorem reopenedSession_opens_twice :
    (tallyAfter reopenedSession).accounted = 1 ∧
      (tallyAfter reopenedSession).openings.length = 2 ∧
      ¬ OpensOnce (tallyAfter reopenedSession) := by
  decide

end VisionForge.FormalUsage.DualMachineFormalUsageStateMachine
