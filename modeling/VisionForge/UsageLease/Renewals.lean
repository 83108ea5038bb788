import VisionForge.UsageLease.GateRuns

/-! # A session's leases at a gate whose clock may lag

An abstract issuer starts a session with one lease and renews it: a renewal is
issued no earlier than the lease it renews begins, and its window begins at the
later of the issue time and the end of that lease. The gate receives every lease
when it is issued, on a clock that is a constant number of seconds behind.
-/

namespace VisionForge.UsageLease

open Lib.Run

/-- The first lease of a session, issued at `now`. -/
structure Opens (binding : UsageLeaseBinding) (now : Nat) (ticket : VerifiedUsageLease) :
    Prop where
  valid : ClaimsValid ticket now
  binding : ticket.claims.binding = binding
  genesis : leaseChain.Genesis ticket
  issued : ticket.claims.issuedAtEpoch = now
  start : ticket.claims.notBeforeEpoch = now

/-- The lease that renews `previous`, issued at `now`. -/
structure Renews (binding : UsageLeaseBinding) (previous : VerifiedUsageLease) (now : Nat)
    (ticket : VerifiedUsageLease) : Prop where
  valid : ClaimsValid ticket now
  binding : ticket.claims.binding = binding
  sequence : ticket.claims.sequence = previous.claims.sequence + 1
  bounded : previous.claims.sequence < kMaximumSequence
  link : ticket.claims.previousTicketSha256 = previous.ticketSha256
  issued : ticket.claims.issuedAtEpoch = now
  begun : previous.claims.notBeforeEpoch ≤ now
  start : ticket.claims.notBeforeEpoch = max now previous.claims.expiresAtEpoch

/-- The leases of one session with their issue times. -/
inductive SessionLeases (binding : UsageLeaseBinding) :
    List (Nat × VerifiedUsageLease) → Prop where
  | first {now ticket} : Opens binding now ticket → SessionLeases binding [(now, ticket)]
  | next {front earlier previous now ticket} :
      SessionLeases binding (front ++ [(earlier, previous)]) → earlier ≤ now →
      Renews binding previous now ticket →
      SessionLeases binding (front ++ [(earlier, previous)] ++ [(now, ticket)])

/-- Submitting every lease when it is issued, on a clock `lag` seconds behind. -/
def submissions (lag : Nat) (leases : List (Nat × VerifiedUsageLease)) : List GateOp :=
  leases.map (fun lease => .submit lease.2 (lease.1 - lag))

def allStored (gate : UsageLeaseGate) (ops : List GateOp) : Prop :=
  ∀ entry ∈ trace gateStep gate ops,
    entry.2 = .admission .acceptedCurrent ∨ entry.2 = .admission .stagedFuture

/-- When a renewal issued at `now` finds room in a gate that lags behind: it is issued
    before the lease it renews ends, unless there is no lag, and the lease it renews has
    begun on the gate's own clock, unless it is the first. -/
def Punctual (lag : Nat) (isFirst : Prop) (previous : VerifiedUsageLease) (now : Nat) : Prop :=
  (lag = 0 ∨ now ≤ previous.claims.expiresAtEpoch) ∧
    (isFirst ∨ previous.claims.notBeforeEpoch + lag ≤ now)

def PunctualFrom (lag : Nat) (isFirst : Prop) : List (Nat × VerifiedUsageLease) → Prop
  | [] => True
  | [_] => True
  | (_, previous) :: (now, ticket) :: rest =>
    Punctual lag isFirst previous now ∧ PunctualFrom lag False ((now, ticket) :: rest)

def AllPunctual (lag : Nat) (leases : List (Nat × VerifiedUsageLease)) : Prop :=
  PunctualFrom lag True leases

theorem ClaimsValid.behind {ticket : VerifiedUsageLease} {now lag : Nat}
    (h : ClaimsValid ticket now) (issued : ticket.claims.issuedAtEpoch = now)
    (lagBound : lag ≤ kUsageLeaseServerAheadGraceSeconds) (known : lag < now) :
    ClaimsValid ticket (now - lag) :=
  { h with
    now := by omega
    serverAhead := by omega }

namespace UsageLeaseGate

/-- A gate that stored `last` at trusted time `clock`. Either `last` is its current
    ticket or it is staged behind the ticket before it. -/
inductive Stored (lag : Nat) (isFirst : Prop) (binding : UsageLeaseBinding)
    (last : VerifiedUsageLease) (clock : Nat) (gate : UsageLeaseGate) : Prop where
  | head : gate.binding = binding → gate.state = .active → gate.lastTrustedNowEpoch = clock →
      gate.current = some last → gate.future = none → (isFirst ∨ lag = 0) →
      Stored lag isFirst binding last clock gate
  | staged {current : VerifiedUsageLease} : gate.binding = binding → gate.state = .active →
      gate.lastTrustedNowEpoch = clock → gate.current = some current →
      gate.future = some last → last.claims.sequence = current.claims.sequence + 1 →
      last.claims.notBeforeEpoch = current.claims.expiresAtEpoch → ¬isFirst →
      Stored lag isFirst binding last clock gate

inductive Advanced (lag : Nat) (isFirst : Prop) (binding : UsageLeaseBinding)
    (last : VerifiedUsageLease) (now : Nat) (gate : UsageLeaseGate) : Prop where
  | running : gate.binding = binding → gate.state = .active → gate.lastTrustedNowEpoch = now →
      gate.current = some last → gate.future = none → now < last.claims.expiresAtEpoch →
      (isFirst ∨ lag = 0 ∨ last.claims.notBeforeEpoch ≤ now) →
      Advanced lag isFirst binding last now gate
  | ended : gate.binding = binding → gate.state = .expired → gate.lastTrustedNowEpoch = now →
      gate.current = some last → gate.future = none → last.claims.expiresAtEpoch ≤ now →
      Advanced lag isFirst binding last now gate
  | behind {current : VerifiedUsageLease} : gate.binding = binding → gate.state = .active →
      gate.current = some current → gate.future = some last →
      last.claims.sequence = current.claims.sequence + 1 → now < last.claims.notBeforeEpoch →
      ¬isFirst → Advanced lag isFirst binding last now gate

section

variable {lag : Nat} {isFirst : Prop} {binding : UsageLeaseBinding}
  {last ticket : VerifiedUsageLease} {clock now : Nat} {gate : UsageLeaseGate}

theorem evaluateLocked_active {cur : StoredLease} (on : gate.state = .active)
    (held : gate.current = some cur) (pos : 0 < now)
    (later : gate.lastTrustedNowEpoch ≤ now) :
    gate.evaluateLocked now = { gate with lastTrustedNowEpoch := now }.evaluateActive cur now := by
  unfold evaluateLocked
  have open_ : terminal gate.state = false := by rw [on]; rfl
  rw [if_neg (by simp [open_]), if_neg (by omega), if_neg (by omega)]
  simp only [on, held]

theorem Stored.advanced (h : Stored lag isFirst binding last clock gate) (pos : 0 < now)
    (later : clock ≤ now) : Advanced lag isFirst binding last now (gate.evaluateLocked now).1 := by
  cases h with
  | head bound on observed held free ready =>
    rw [evaluateLocked_active on held pos (by omega)]
    unfold evaluateActive
    by_cases isOver : last.claims.expiresAtEpoch ≤ now
    · rw [if_pos isOver]
      simp only [free, expireLocked]
      exact .ended bound rfl rfl held rfl isOver
    · rw [if_neg isOver]
      exact .running bound on rfl held free (by omega) (ready.imp_right .inl)
  | @staged cur bound on observed held staged follows adjacent later_ =>
    rw [evaluateLocked_active on held pos (by omega)]
    unfold evaluateActive
    by_cases isOver : cur.claims.expiresAtEpoch ≤ now
    · rw [if_pos isOver]
      simp only [staged]
      by_cases hin : last.claims.notBeforeEpoch ≤ now ∧ now < last.claims.expiresAtEpoch
      · rw [if_pos hin]
        exact .running bound on rfl rfl rfl hin.2 (.inr (.inr hin.1))
      · rw [if_neg hin]
        exact .ended bound rfl rfl rfl rfl (by omega)
    · rw [if_neg isOver]
      exact .behind bound on held staged follows (by omega) later_

theorem submitVerifiedTicket_continues {cur : StoredLease} (valid : ClaimsValid ticket now)
    (bound : ticket.claims.binding = (gate.evaluateLocked now).1.binding)
    (open_ : terminal (gate.evaluateLocked now).1.state = false)
    (started : (gate.evaluateLocked now).1.state ≠ .empty)
    (held : (gate.evaluateLocked now).1.current = some cur)
    (isNew : ticket ≠ cur ∧ (gate.evaluateLocked now).1.future ≠ some ticket) :
    gate.submitVerifiedTicket ticket now =
      (gate.evaluateLocked now).1.submitSuccessor cur ticket now := by
  unfold submitVerifiedTicket
  simp only [open_, claimsValid_iff.mpr valid, bindingMatches_iff.mpr bound, started, held,
    isNew.1, isNew.2, Bool.not_true, Bool.false_eq_true, if_false]

theorem Stored.submit (h : Stored lag isFirst binding last (clock - lag) gate)
    (lagBound : lag ≤ kUsageLeaseServerAheadGraceSeconds) (known : lag < clock)
    (later : clock ≤ now) (renews : Renews binding last now ticket) :
    ((gate.submitVerifiedTicket ticket (now - lag)).2.stores = true ↔
        Punctual lag isFirst last now) ∧
      ((gate.submitVerifiedTicket ticket (now - lag)).2.stores = true →
        Stored lag False binding ticket (now - lag)
          (gate.submitVerifiedTicket ticket (now - lag)).1) := by
  have valid := renews.valid.behind renews.issued lagBound (by omega)
  have win := renews.valid.window
  have start := renews.start
  have begun := renews.begun
  have advanced := @Stored.advanced _ _ _ _ _ (now - lag) _ h (by omega) (by omega)
  have isNew : ∀ other : VerifiedUsageLease,
      other.claims.sequence ≤ last.claims.sequence → ticket ≠ other := by
    intro other old same
    have step := renews.sequence
    rw [same] at step
    omega
  have link : ¬(last.claims.sequence = kMaximumSequence ∨
      ticket.claims.sequence ≠ last.claims.sequence + 1) := by
    have bounded := renews.bounded
    have seq := renews.sequence
    omega
  have apart : ¬ticket.claims.notBeforeEpoch < last.claims.expiresAtEpoch := by omega
  cases advanced with
  | running bound on observed held free hin ready =>
    rw [submitVerifiedTicket_continues valid (renews.binding.trans bound.symm)
      (by rw [on]; rfl) (by rw [on]; decide) held
      ⟨isNew last le_rfl, by rw [free]; simp⟩]
    unfold submitSuccessor
    rw [if_neg link, if_neg (not_not.mpr renews.link), if_neg apart,
      if_neg (by rw [on]; decide), if_neg (by rw [free]; simp)]
    by_cases gap : last.claims.expiresAtEpoch < ticket.claims.notBeforeEpoch
    · rw [if_pos gap]
      refine ⟨⟨by simp [UsageLeaseAdmission.stores], ?_⟩, by simp [UsageLeaseAdmission.stores]⟩
      intro punctual
      obtain ⟨early, -⟩ := punctual
      omega
    · rw [if_neg gap, if_neg (by omega)]
      refine ⟨⟨fun _ => ⟨.inr (by omega), ?_⟩, fun _ => rfl⟩, ?_⟩
      · rcases ready with isFirst | noLag | begun
        · exact .inl isFirst
        · exact .inr (by omega)
        · exact .inr (by omega)
      · intro _
        exact .staged bound on observed held rfl renews.sequence (by omega) (fun h => h)
  | ended bound expired observed held free isOver =>
    rw [submitVerifiedTicket_continues valid (renews.binding.trans bound.symm)
      (by rw [expired]; rfl) (by rw [expired]; decide) held
      ⟨isNew last le_rfl, by rw [free]; simp⟩]
    unfold submitSuccessor
    rw [if_neg link, if_neg (not_not.mpr renews.link), if_neg apart, if_pos expired]
    by_cases late : now - lag < ticket.claims.notBeforeEpoch ∨
        ticket.claims.expiresAtEpoch ≤ now - lag
    · rw [if_pos late]
      refine ⟨⟨by simp [UsageLeaseAdmission.stores], ?_⟩, by simp [UsageLeaseAdmission.stores]⟩
      intro punctual
      obtain ⟨early, -⟩ := punctual
      omega
    · rw [if_neg late]
      have noLag : lag = 0 := by omega
      refine ⟨⟨fun _ => ⟨.inl noLag, .inr (by omega)⟩, fun _ => rfl⟩, ?_⟩
      intro _
      exact .head bound rfl observed rfl free (.inr noLag)
  | @behind cur bound on held staged follows early notFirst =>
    rw [submitVerifiedTicket_continues valid (renews.binding.trans bound.symm)
      (by rw [on]; rfl) (by rw [on]; decide) held
      ⟨isNew cur (by omega), by
        rw [staged]
        exact fun same => isNew last le_rfl (Option.some.inj same).symm⟩]
    unfold submitSuccessor
    rw [if_pos (.inr (by omega))]
    refine ⟨⟨by simp [UsageLeaseAdmission.stores], ?_⟩, by simp [UsageLeaseAdmission.stores]⟩
    intro punctual
    obtain ⟨-, isFirst | begun⟩ := punctual
    · exact absurd isFirst notFirst
    · omega

theorem new_submit (lagBound : lag ≤ kUsageLeaseServerAheadGraceSeconds)
    (opens : Opens binding now ticket) :
    (((UsageLeaseGate.new binding).submitVerifiedTicket ticket (now - lag)).2.stores = true ↔
        lag < now) ∧
      (((UsageLeaseGate.new binding).submitVerifiedTicket ticket (now - lag)).2.stores = true →
        Stored lag True binding ticket (now - lag)
          ((UsageLeaseGate.new binding).submitVerifiedTicket ticket (now - lag)).1) := by
  have fine : bindingValid binding = true := by
    rw [← opens.binding]
    exact opens.valid.bindingValid
  by_cases known : lag < now
  swap
  · -- without a time the claim check refuses every ticket
    have noTime : now - lag = 0 := by omega
    have refused : ((UsageLeaseGate.new binding).submitVerifiedTicket ticket 0).2.stores =
        false := by
      simp [submitVerifiedTicket, evaluateLocked, UsageLeaseGate.new, fine, terminal,
        UsageLease.claimsValid, UsageLeaseAdmission.stores]
    rw [noTime, refused]
    exact ⟨by simp [known], by simp⟩
  have valid := opens.valid.behind opens.issued lagBound known
  have win := opens.valid.window
  have start := opens.start
  have evaluated : ((UsageLeaseGate.new binding).evaluateLocked (now - lag)).1 =
      { UsageLeaseGate.new binding with lastTrustedNowEpoch := now - lag } := by
    have pos : now - lag ≠ 0 := by omega
    simp [evaluateLocked, UsageLeaseGate.new, fine, terminal, pos]
  have timely : ¬(ticket.claims.expiresAtEpoch ≤ now - lag ∨
      (now - lag < ticket.claims.notBeforeEpoch ∧
        kUsageLeaseServerAheadGraceSeconds < ticket.claims.notBeforeEpoch - (now - lag))) := by
    omega
  have ans : (UsageLeaseGate.new binding).submitVerifiedTicket ticket (now - lag) =
      ({ UsageLeaseGate.new binding with
          lastTrustedNowEpoch := now - lag
          current := some ticket
          state := .active },
        if now - lag < ticket.claims.notBeforeEpoch then .stagedFuture else .acceptedCurrent) := by
    have isEmpty : (UsageLeaseGate.new binding).state = .empty := by
      simp [UsageLeaseGate.new, fine]
    have seq : ticket.claims.sequence = 0 := opens.genesis.sequence
    have link : ticket.claims.previousTicketSha256 = kEmptyPreviousTicketSha256 :=
      opens.genesis.previous
    have matching : bindingMatches (UsageLeaseGate.new binding).binding ticket.claims = true :=
      bindingMatches_iff.mpr opens.binding
    have open_ : terminal .empty = false := rfl
    unfold submitVerifiedTicket
    rw [evaluated]
    simp only [open_, isEmpty, claimsValid_iff.mpr valid, matching, Bool.not_true,
      Bool.false_eq_true, if_false, if_true, submitInitial, seq, link, ne_eq,
      not_true_eq_false, if_neg timely]
  rw [ans]
  refine ⟨⟨fun _ => known, fun _ => by split <;> rfl⟩, ?_⟩
  intro _
  exact .head rfl rfl rfl rfl rfl (.inl trivial)

end

end UsageLeaseGate

theorem punctualFrom_concat {lag : Nat} {isFirst : Prop}
    (front : List (Nat × VerifiedUsageLease)) (old : Nat) (previous : VerifiedUsageLease)
    (now : Nat) (ticket : VerifiedUsageLease) :
    PunctualFrom lag isFirst (front ++ [(old, previous)] ++ [(now, ticket)]) ↔
      PunctualFrom lag isFirst (front ++ [(old, previous)]) ∧
        Punctual lag (front = [] ∧ isFirst) previous now := by
  induction front generalizing isFirst with
  | nil => simp [PunctualFrom]
  | cons lease front ih =>
    cases front with
    | nil => simp [PunctualFrom]
    | cons snd front =>
      have rest := @ih False
      simp only [List.cons_append, PunctualFrom, reduceCtorEq, false_and] at rest ⊢
      rw [and_assoc, rest]

theorem allStored_concat {gate : UsageLeaseGate} {ops : List GateOp} {ticket : VerifiedUsageLease}
    {now : Nat} :
    allStored gate (ops ++ [.submit ticket now]) ↔
      allStored gate ops ∧
        ((exec gateStep gate ops).submitVerifiedTicket ticket now).2.stores = true := by
  unfold allStored
  rw [trace_append, List.forall_mem_append]
  apply and_congr Iff.rfl
  simp only [trace_cons, trace_nil, List.forall_mem_singleton, gateStep, GateAnswer.admission.injEq]
  generalize ((exec gateStep gate ops).submitVerifiedTicket ticket now).2 = admission
  cases admission <;> decide

theorem submissions_concat (lag : Nat) (leases : List (Nat × VerifiedUsageLease)) (now : Nat)
    (ticket : VerifiedUsageLease) :
    submissions lag (leases ++ [(now, ticket)]) =
      submissions lag leases ++ [.submit ticket (now - lag)] := by
  simp [submissions]

/-- What a gate that stored every lease of a session holds. -/
def HoldsLast (lag : Nat) (binding : UsageLeaseBinding)
    (leases : List (Nat × VerifiedUsageLease)) (gate : UsageLeaseGate) : Prop :=
  ∀ front earlier last, leases = front ++ [(earlier, last)] →
    lag < earlier ∧ gate.Stored lag (front = []) binding last (earlier - lag)

variable {binding : UsageLeaseBinding} {leases : List (Nat × VerifiedUsageLease)}

theorem SessionLeases.stored (h : SessionLeases binding leases) {lag : Nat}
    (lagBound : lag ≤ kUsageLeaseServerAheadGraceSeconds) :
    (allStored (UsageLeaseGate.new binding) (submissions lag leases) ↔
      (∀ first ∈ leases.head?, lag < first.1) ∧ AllPunctual lag leases) ∧
    (allStored (UsageLeaseGate.new binding) (submissions lag leases) →
      HoldsLast lag binding leases
        (exec gateStep (UsageLeaseGate.new binding) (submissions lag leases))) := by
  induction h with
  | @first now ticket opens =>
    have step := UsageLeaseGate.new_submit lagBound opens
    have one : allStored (UsageLeaseGate.new binding) (submissions lag [(now, ticket)]) ↔
        ((UsageLeaseGate.new binding).submitVerifiedTicket ticket (now - lag)).2.stores = true := by
      have split := @allStored_concat (UsageLeaseGate.new binding) [] ticket (now - lag)
      exact split.trans ⟨And.right, fun stores => ⟨by simp [allStored], stores⟩⟩
    refine ⟨?_, ?_⟩
    · rw [one, step.1]
      simp [AllPunctual, PunctualFrom]
    · intro stored front time last same
      have stores := one.mp stored
      cases front with
      | nil =>
        cases same
        refine ⟨step.1.mp stores, ?_⟩
        rw [eq_self_iff_true]
        exact step.2 stores
      | cons lease front => simp at same
  | @next front old previous now ticket h later renews ih =>
    obtain ⟨exactly, holds⟩ := ih
    rw [submissions_concat, allStored_concat, exec_append]
    have concat := @punctualFrom_concat lag True front old previous now ticket
    have head : (front ++ [(old, previous)] ++ [(now, ticket)]).head? =
        (front ++ [(old, previous)]).head? := by
      cases front <;> rfl
    have step : allStored (UsageLeaseGate.new binding)
          (submissions lag (front ++ [(old, previous)])) → _ := fun stored =>
      (holds stored front old previous rfl).2.submit lagBound
        (holds stored front old previous rfl).1 later renews
    refine ⟨?_, ?_⟩
    · rw [head, AllPunctual, concat, ← and_assoc]
      constructor
      · rintro ⟨stored, stores⟩
        refine ⟨exactly.mp stored, ?_⟩
        simpa using (step stored).1.mp stores
      · rintro ⟨earlierOnes, punctual⟩
        have stored := exactly.mpr earlierOnes
        exact ⟨stored, (step stored).1.mpr (by simpa using punctual)⟩
    · rintro ⟨stored, stores⟩ shorter time last same
      obtain ⟨rfl, lastSame⟩ := List.append_inj' same rfl
      cases lastSame
      have known := (holds stored front old previous rfl).1
      have later_ : front ++ [(old, previous)] ≠ [] := by simp
      refine ⟨by omega, ?_⟩
      rw [eq_false later_]
      exact (step stored).2 stores

/-- A gate stores every lease of a session exactly when its clock knows the time of
    the first one and every renewal is punctual. -/
theorem SessionLeases.allStored_iff (h : SessionLeases binding leases) {lag : Nat}
    (lagBound : lag ≤ kUsageLeaseServerAheadGraceSeconds) :
    allStored (UsageLeaseGate.new binding) (submissions lag leases) ↔
      (∀ first ∈ leases.head?, lag < first.1) ∧ AllPunctual lag leases :=
  (h.stored lagBound).1

theorem SessionLeases.head_pos (h : SessionLeases binding leases) :
    ∀ first ∈ leases.head?, 0 < first.1 := by
  induction h with
  | first opens =>
    intro first isFirst
    cases isFirst
    exact opens.valid.now
  | @next front old previous now ticket h later renews ih =>
    intro first isFirst
    apply ih
    cases front <;> exact isFirst

theorem SessionLeases.allPunctual_zero (h : SessionLeases binding leases) :
    AllPunctual 0 leases := by
  induction h with
  | first opens => trivial
  | @next front old previous now ticket h later renews ih =>
    apply (punctualFrom_concat front old previous now ticket).mpr
    exact ⟨ih, .inl rfl, .inr renews.begun⟩

/-- On the issuer's own clock a gate stores every lease of a session. -/
theorem SessionLeases.allStored_zero (h : SessionLeases binding leases) :
    allStored (UsageLeaseGate.new binding) (submissions 0 leases) :=
  (h.allStored_iff (Nat.zero_le _)).mpr ⟨h.head_pos, h.allPunctual_zero⟩

end VisionForge.UsageLease
