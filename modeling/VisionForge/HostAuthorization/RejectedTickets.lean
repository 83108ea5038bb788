import VisionForge.UsageLease.GateRuns

/-! # The data-plane authorization gate of the Host

Composition of a confirmed peer binding with the usage-lease gate. The trusted
epoch is anchored to a monotonic millisecond clock when a lease is accepted; later
permit checks derive the epoch from that clock. A clock reading is an argument of
the operation that takes it and is `none` when the clock source is missing or
throws.
-/

namespace VisionForge.HostAuthorization

open UsageLease

structure TrustedTimeAnchor where
  trustedEpoch : Nat := 0
  monotonicMilliseconds : Nat := 0
  deriving DecidableEq

structure HostDataPlaneAuthorizationGate where
  leaseGate : Option UsageLeaseGate := none
  anchor : TrustedTimeAnchor := {}
  peerConfirmed : Bool := false
  trustedTimeAnchored : Bool := false
  monotonicClockRollback : Bool := false
  deriving DecidableEq

structure Snapshot where
  peerConfirmed : Bool := false
  trustedTimeAnchored : Bool := false
  monotonicClockRollback : Bool := false
  permitsDataPlane : Bool := false
  leaseState : UsageLeaseGateState := .invalidBinding
  trustedNowEpoch : Nat := 0
  sequence : Nat := 0
  expiresAtEpoch : Nat := 0
  deriving DecidableEq

def kMaximumEpoch : Nat := 2 ^ 64 - 1

def admissionAcceptsCurrent (admission : UsageLeaseAdmission) : Bool :=
  admission == .acceptedCurrent || admission == .acceptedIdempotent || admission == .stagedFuture

namespace HostDataPlaneAuthorizationGate

def new : HostDataPlaneAuthorizationGate := {}

def installConfirmedPeerBinding (_gate : HostDataPlaneAuthorizationGate)
    (binding : UsageLeaseBinding) : HostDataPlaneAuthorizationGate × Bool :=
  let candidate := (UsageLeaseGate.new binding).evaluate 0
  if candidate.2.state ≠ .empty then
    ({}, false)
  else
    ({ leaseGate := some candidate.1, peerConfirmed := true }, true)

def revokeLocked (gate : HostDataPlaneAuthorizationGate) : HostDataPlaneAuthorizationGate :=
  { gate with leaseGate := gate.leaseGate.map (·.revoke) }

def elapsed (gate : HostDataPlaneAuthorizationGate) (monotonicNow : Nat) : Nat :=
  (monotonicNow - gate.anchor.monotonicMilliseconds) / 1000

/-- The ticket goes to the lease gate; only an accepted one moves the anchor. -/
def admitTicket (gate : HostDataPlaneAuthorizationGate) (leaseGate : UsageLeaseGate)
    (ticket : VerifiedUsageLease) (trustedNowEpoch monotonicNow : Nat) :
    HostDataPlaneAuthorizationGate × UsageLeaseAdmission :=
  let (admittedGate, admission) := leaseGate.submitVerifiedTicket ticket trustedNowEpoch
  if admissionAcceptsCurrent admission then
    ({ gate with
        leaseGate := some admittedGate
        anchor := { trustedEpoch := trustedNowEpoch, monotonicMilliseconds := monotonicNow }
        trustedTimeAnchored := true }, admission)
  else
    ({ gate with leaseGate := some admittedGate }, admission)

def submitVerifiedTicket (gate : HostDataPlaneAuthorizationGate) (ticket : VerifiedUsageLease)
    (trustedNowEpoch : Nat) (reading : Option Nat) :
    HostDataPlaneAuthorizationGate × UsageLeaseAdmission :=
  match gate.leaseGate with
  | none => (gate, .rejectedGateClosed)
  | some leaseGate =>
    if !gate.peerConfirmed || gate.monotonicClockRollback || trustedNowEpoch == 0 then
      (gate, .rejectedGateClosed)
    else
      match reading with
      | none => (gate.revokeLocked, .rejectedGateClosed)
      | some monotonicNow =>
        if gate.trustedTimeAnchored then
          if monotonicNow < gate.anchor.monotonicMilliseconds then
            ({ gate with monotonicClockRollback := true }.revokeLocked, .rejectedGateClosed)
          else if kMaximumEpoch - gate.anchor.trustedEpoch < gate.elapsed monotonicNow then
            (gate.revokeLocked, .rejectedGateClosed)
          else if trustedNowEpoch < gate.anchor.trustedEpoch + gate.elapsed monotonicNow then
            (gate.revokeLocked, .rejectedTime)
          else
            gate.admitTicket leaseGate ticket trustedNowEpoch monotonicNow
        else
          gate.admitTicket leaseGate ticket trustedNowEpoch monotonicNow

/-- The epoch derived from the anchor, or the gate as the failed derivation leaves it. -/
def deriveTrustedNowLocked (gate : HostDataPlaneAuthorizationGate) (reading : Option Nat) :
    HostDataPlaneAuthorizationGate × Option Nat :=
  if !gate.trustedTimeAnchored then
    (gate, none)
  else
    match reading with
    | none => (gate.revokeLocked, none)
    | some monotonicNow =>
      if monotonicNow < gate.anchor.monotonicMilliseconds then
        ({ gate with monotonicClockRollback := true }.revokeLocked, none)
      else if kMaximumEpoch - gate.anchor.trustedEpoch < gate.elapsed monotonicNow then
        (gate.revokeLocked, none)
      else
        (gate, some (gate.anchor.trustedEpoch + gate.elapsed monotonicNow))

def snapshotLocked (gate : HostDataPlaneAuthorizationGate) (reading : Option Nat) :
    HostDataPlaneAuthorizationGate × Snapshot :=
  let result : Snapshot :=
    { peerConfirmed := gate.peerConfirmed
      trustedTimeAnchored := gate.trustedTimeAnchored
      monotonicClockRollback := gate.monotonicClockRollback }
  match gate.leaseGate with
  | none => (gate, result)
  | some leaseGate =>
    if !gate.peerConfirmed || !gate.trustedTimeAnchored || gate.monotonicClockRollback then
      (gate, result)
    else
      match gate.deriveTrustedNowLocked reading with
      | (derived, none) =>
        (derived, { result with monotonicClockRollback := derived.monotonicClockRollback })
      | (derived, some trustedNow) =>
        let (evaluated, lease) := leaseGate.evaluate trustedNow
        ({ derived with leaseGate := some evaluated },
          { result with
            trustedNowEpoch := trustedNow
            leaseState := lease.state
            permitsDataPlane := lease.permitsDataPlane
            sequence := lease.sequence
            expiresAtEpoch := lease.expiresAtEpoch })

def snapshot (gate : HostDataPlaneAuthorizationGate) (reading : Option Nat) :
    HostDataPlaneAuthorizationGate × Snapshot :=
  gate.snapshotLocked reading

def stop (gate : HostDataPlaneAuthorizationGate) : HostDataPlaneAuthorizationGate :=
  { gate with leaseGate := gate.leaseGate.map (·.stop) }

def revoke (gate : HostDataPlaneAuthorizationGate) : HostDataPlaneAuthorizationGate :=
  gate.revokeLocked

def reset (_gate : HostDataPlaneAuthorizationGate) : HostDataPlaneAuthorizationGate := {}

end HostDataPlaneAuthorizationGate

inductive HostGateOp where
  | install (binding : UsageLeaseBinding)
  | submit (ticket : VerifiedUsageLease) (trustedNowEpoch : Nat) (reading : Option Nat)
  | snapshot (reading : Option Nat)
  | stop
  | revoke
  | reset
  deriving DecidableEq

inductive HostGateAnswer where
  | installed (valid : Bool)
  | admission (admission : UsageLeaseAdmission)
  | snapshot (snapshot : Snapshot)
  | done
  deriving DecidableEq

def hostGateStep (gate : HostDataPlaneAuthorizationGate) :
    HostGateOp → HostDataPlaneAuthorizationGate × HostGateAnswer
  | .install binding =>
    ((gate.installConfirmedPeerBinding binding).1,
      .installed (gate.installConfirmedPeerBinding binding).2)
  | .submit ticket now reading =>
    ((gate.submitVerifiedTicket ticket now reading).1,
      .admission (gate.submitVerifiedTicket ticket now reading).2)
  | .snapshot reading => ((gate.snapshot reading).1, .snapshot (gate.snapshot reading).2)
  | .stop => (gate.stop, .done)
  | .revoke => (gate.revoke, .done)
  | .reset => (gate.reset, .done)

namespace HostDataPlaneAuthorizationGate

/-- A reading from which the gate derives `epoch`: not before the anchor and
    without leaving 64 bits. -/
structure Derives (gate : HostDataPlaneAuthorizationGate) (monotonicNow epoch : Nat) : Prop where
  notBefore : gate.anchor.monotonicMilliseconds ≤ monotonicNow
  fits : gate.elapsed monotonicNow ≤ kMaximumEpoch - gate.anchor.trustedEpoch
  epoch_eq : epoch = gate.anchor.trustedEpoch + gate.elapsed monotonicNow

/-- A gate whose checks before the lease evaluation all pass. -/
structure Anchored (gate : HostDataPlaneAuthorizationGate) (leaseGate : UsageLeaseGate) :
    Prop where
  leaseGate : gate.leaseGate = some leaseGate
  confirmed : gate.peerConfirmed = true
  anchored : gate.trustedTimeAnchored = true
  steady : gate.monotonicClockRollback = false

variable {gate : HostDataPlaneAuthorizationGate} {leaseGate : UsageLeaseGate}

theorem Derives.derive {monotonicNow epoch : Nat} (h : gate.Derives monotonicNow epoch)
    (anchored : gate.trustedTimeAnchored = true) :
    gate.deriveTrustedNowLocked (some monotonicNow) = (gate, some epoch) := by
  unfold deriveTrustedNowLocked
  simp only [anchored, Bool.not_true, Bool.false_eq_true, if_false]
  rw [if_neg (not_lt.mpr h.notBefore), if_neg (not_lt.mpr h.fits), h.epoch_eq]

theorem Derives.of_derive {reading : Option Nat} {epoch : Nat}
    (h : (gate.deriveTrustedNowLocked reading).2 = some epoch) :
    ∃ monotonicNow, reading = some monotonicNow ∧ gate.Derives monotonicNow epoch := by
  unfold deriveTrustedNowLocked at h
  split at h
  · cases h
  cases reading with
  | none => cases h
  | some monotonicNow =>
    simp only at h
    split at h
    · cases h
    split at h
    · cases h
    · rename_i back isOver
      cases h
      exact ⟨monotonicNow, rfl, not_lt.mp back, not_lt.mp isOver, rfl⟩

theorem Anchored.snapshot_eq {monotonicNow epoch : Nat} (h : gate.Anchored leaseGate)
    (derives : gate.Derives monotonicNow epoch) :
    gate.snapshot (some monotonicNow) =
      ({ gate with leaseGate := some (leaseGate.evaluate epoch).1 },
        { peerConfirmed := true
          trustedTimeAnchored := true
          monotonicClockRollback := false
          permitsDataPlane := (leaseGate.evaluate epoch).2.permitsDataPlane
          leaseState := (leaseGate.evaluate epoch).2.state
          trustedNowEpoch := epoch
          sequence := (leaseGate.evaluate epoch).2.sequence
          expiresAtEpoch := (leaseGate.evaluate epoch).2.expiresAtEpoch }) := by
  simp [snapshot, snapshotLocked, h.leaseGate, h.confirmed, h.anchored, h.steady,
    derives.derive h.anchored]

/-- A permitting snapshot passed every check of the composition: the epoch it
    reports was derived from the anchor and the lease gate permits at it. -/
theorem snapshot_permits {reading : Option Nat}
    (permits : (gate.snapshot reading).2.permitsDataPlane = true) :
    ∃ leaseGate monotonicNow epoch, gate.Anchored leaseGate ∧ reading = some monotonicNow ∧
      gate.Derives monotonicNow epoch ∧
      (leaseGate.evaluate epoch).2.permitsDataPlane = true := by
  cases held : gate.leaseGate with
  | none => simp [snapshot, snapshotLocked, held] at permits
  | some leaseGate =>
    by_cases ready : (!gate.peerConfirmed || !gate.trustedTimeAnchored ||
        gate.monotonicClockRollback) = true
    · simp only [snapshot, snapshotLocked, held, if_pos ready] at permits
      cases permits
    simp only [Bool.or_eq_true, Bool.not_eq_true', not_or, Bool.not_eq_false,
      Bool.not_eq_true] at ready
    have anchored : gate.Anchored leaseGate := ⟨held, ready.1.1, ready.1.2, ready.2⟩
    cases reading with
    | none =>
      simp [snapshot, snapshotLocked, held, ready.1.1, ready.1.2, ready.2,
        deriveTrustedNowLocked] at permits
    | some monotonicNow =>
      by_cases back : monotonicNow < gate.anchor.monotonicMilliseconds
      · simp [snapshot, snapshotLocked, held, ready.1.1, ready.1.2, ready.2,
          deriveTrustedNowLocked, back] at permits
      by_cases isOver : kMaximumEpoch - gate.anchor.trustedEpoch < gate.elapsed monotonicNow
      · simp [snapshot, snapshotLocked, held, ready.1.1, ready.1.2, ready.2,
          deriveTrustedNowLocked, back, isOver] at permits
      have derives : gate.Derives monotonicNow
          (gate.anchor.trustedEpoch + gate.elapsed monotonicNow) :=
        ⟨not_lt.mp back, not_lt.mp isOver, rfl⟩
      rw [anchored.snapshot_eq derives] at permits
      exact ⟨leaseGate, monotonicNow, _, anchored, rfl, derives, permits⟩

end HostDataPlaneAuthorizationGate

/-! ## Rejected tickets and the permission of the Host

The lease gate inside the authorization gate is always the result of some run of
`UsageLeaseGate`, so its invariant is available here. A ticket the lease gate turns
down still moves the lease gate's own clock, while the anchor of the authorization
gate stays where it was: a later snapshot permits exactly when the epoch it derives
has caught up with the epoch of the rejected submission.
-/

/-- Answers that turn a ticket down for what it says. -/
def turnsDown : UsageLeaseAdmission → Bool
  | .rejectedClaims | .rejectedBinding | .rejectedSequence | .rejectedPreviousTicket
  | .rejectedOverlap | .rejectedGap | .rejectedFutureCapacity => true
  | _ => false

def Runs (leaseGate : UsageLeaseGate) : Prop :=
  ∃ binding ops, leaseGate = Lib.Run.exec gateStep (.new binding) ops

variable {leaseGate : UsageLeaseGate}

theorem Runs.step (h : Runs leaseGate) (op : GateOp) : Runs (gateStep leaseGate op).1 := by
  obtain ⟨binding, ops, rfl⟩ := h
  exact ⟨binding, ops ++ [op], by rw [Lib.Run.exec_append]; rfl⟩

def HoldsRun (gate : HostDataPlaneAuthorizationGate) : Prop :=
  ∀ leaseGate, gate.leaseGate = some leaseGate → Runs leaseGate

namespace HostDataPlaneAuthorizationGate

variable {gate : HostDataPlaneAuthorizationGate}

theorem HoldsRun.revoke (h : HoldsRun gate) : HoldsRun gate.revokeLocked := by
  intro leaseGate held
  obtain ⟨before, isHeld, rfl⟩ := Option.map_eq_some_iff.mp held
  exact (h before isHeld).step .revoke

theorem HoldsRun.stop (h : HoldsRun gate) : HoldsRun gate.stop := by
  intro leaseGate held
  obtain ⟨before, isHeld, rfl⟩ := Option.map_eq_some_iff.mp held
  exact (h before isHeld).step .stop

theorem HoldsRun.install (binding : UsageLeaseBinding) :
    HoldsRun (gate.installConfirmedPeerBinding binding).1 := by
  intro leaseGate held
  unfold installConfirmedPeerBinding at held
  simp only at held
  split at held
  · cases held
  · cases held
    exact ⟨binding, [.evaluate 0], rfl⟩

theorem HoldsRun.ticket (h : HoldsRun gate) (held : gate.leaseGate = some leaseGate)
    (ticket : VerifiedUsageLease) (now mono : Nat) :
    HoldsRun (gate.admitTicket leaseGate ticket now mono).1 := by
  intro admitted isHeld
  unfold admitTicket at isHeld
  simp only at isHeld
  have run : Runs (leaseGate.submitVerifiedTicket ticket now).1 :=
    (h leaseGate held).step (.submit ticket now)
  split at isHeld <;> cases isHeld <;> exact run

theorem HoldsRun.submit (h : HoldsRun gate) (ticket : VerifiedUsageLease) (now : Nat)
    (reading : Option Nat) : HoldsRun (gate.submitVerifiedTicket ticket now reading).1 := by
  unfold submitVerifiedTicket
  split
  · exact h
  rename_i leaseGate held
  split
  · exact h
  split
  · exact HoldsRun.revoke h
  split
  · split
    · have kept : HoldsRun { gate with monotonicClockRollback := true } := h
      exact HoldsRun.revoke kept
    split
    · exact HoldsRun.revoke h
    split
    · exact HoldsRun.revoke h
    · exact HoldsRun.ticket h held ticket now _
  · exact HoldsRun.ticket h held ticket now _

theorem HoldsRun.derive (h : HoldsRun gate) (reading : Option Nat) :
    HoldsRun (gate.deriveTrustedNowLocked reading).1 := by
  unfold deriveTrustedNowLocked
  split
  · exact h
  split
  · exact HoldsRun.revoke h
  split
  · have kept : HoldsRun { gate with monotonicClockRollback := true } := h
    exact HoldsRun.revoke kept
  split
  · exact HoldsRun.revoke h
  · exact h

theorem HoldsRun.snapshot (h : HoldsRun gate) (reading : Option Nat) :
    HoldsRun (gate.snapshot reading).1 := by
  unfold HostDataPlaneAuthorizationGate.snapshot snapshotLocked
  have derived := HoldsRun.derive h reading
  split
  · exact h
  rename_i leaseGate held
  split
  · exact h
  split
  · rename_i failed res
    rw [res] at derived
    exact derived
  · intro evaluated isHeld
    cases isHeld
    exact (h leaseGate held).step (.evaluate _)

theorem HoldsRun.step (h : HoldsRun gate) (op : HostGateOp) : HoldsRun (hostGateStep gate op).1 := by
  cases op with
  | install binding => exact HoldsRun.install binding
  | submit ticket now reading => exact HoldsRun.submit h ticket now reading
  | snapshot reading => exact HoldsRun.snapshot h reading
  | stop => exact HoldsRun.stop h
  | revoke => exact HoldsRun.revoke h
  | reset =>
    intro leaseGate held
    cases held

end HostDataPlaneAuthorizationGate

theorem hostRun_holdsRun (ops : List HostGateOp) :
    HoldsRun (Lib.Run.exec hostGateStep .new ops) := by
  apply Lib.Run.exec_invariant hostGateStep
  · intro leaseGate held
    cases held
  · intro _ op kept
    exact HostDataPlaneAuthorizationGate.HoldsRun.step kept op

structure Serves (leaseGate : UsageLeaseGate) (lease : VerifiedUsageLease) : Prop where
  active : leaseGate.state = .active
  current : leaseGate.current = some lease

/-- Inside the window of the served lease, permission only asks for the clock not
    to have gone back. -/
theorem Serves.permits_iff {lease : VerifiedUsageLease} {now : Nat} (h : Serves leaseGate lease)
    (seen : 0 < leaseGate.lastTrustedNowEpoch) (starts : lease.claims.notBeforeEpoch ≤ now)
    (ends : now < lease.claims.expiresAtEpoch) :
    (leaseGate.evaluate now).2.permitsDataPlane = true ↔ leaseGate.lastTrustedNowEpoch ≤ now := by
  have run := leaseGate.evaluateLocked_evaluates now
  constructor
  · intro permits
    exact (run.clock (run.permits permits).2.1).1
  · intro later
    change (leaseGate.evaluateLocked now).2.permitsDataPlane = true
    generalize leaseGate.evaluateLocked now = res at run ⊢
    obtain ⟨next, snapshot⟩ := res
    simp only at run ⊢
    cases run with
    | closed closed => simp [h.active, terminal] at closed
    | rollback _ back => omega
    | untimed _ unseen => omega
    | idle _ _ _ inactive => simp [h.active, h.current] at inactive
    | holds _ _ _ held _ =>
      rw [h.current, Option.some.injEq] at held
      subst held
      exact UsageLeaseGate.withinWindow_iff.mpr ⟨starts, ends⟩
    | promotes _ _ _ held isOver =>
      rw [h.current, Option.some.injEq] at held
      subst held
      omega
    | expires _ _ _ held isOver =>
      rw [h.current, Option.some.injEq] at held
      subst held
      omega

/-- A lease gate that serves `lease` after one evaluation serves it after every
    evaluation inside the window of `lease` that does not close the gate. -/
theorem Runs.serves {lease : VerifiedUsageLease} {epoch now : Nat} (h : Runs leaseGate)
    (permits : (leaseGate.evaluate epoch).2.permitsDataPlane = true)
    (held : (leaseGate.evaluate epoch).1.current = some lease) (pos : 0 < now)
    (starts : lease.claims.notBeforeEpoch ≤ now) (ends : now < lease.claims.expiresAtEpoch)
    (still : terminal (leaseGate.evaluateLocked now).1.state = false) :
    Serves (leaseGate.evaluateLocked now).1 lease := by
  have first := leaseGate.evaluateLocked_evaluates epoch
  change (leaseGate.evaluateLocked epoch).2.permitsDataPlane = true at permits
  change (leaseGate.evaluateLocked epoch).1.current = some lease at held
  have snd := leaseGate.evaluateLocked_evaluates now
  generalize leaseGate.evaluateLocked epoch = reported at first permits held
  generalize leaseGate.evaluateLocked now = res at snd still ⊢
  obtain ⟨next, snapshot⟩ := res
  obtain ⟨reportedGate, report⟩ := reported
  simp only at first snd permits held still ⊢
  cases first with
  | closed | rollback | untimed => simp [UsageLeaseGate.stateOnlySnapshot] at permits
  | idle _ _ _ _ _ closed => simp [closed] at permits
  | expires _ _ _ _ _ _ _ _ closed => simp [closed] at permits
  | holds on _ _ cur _ =>
    simp only [cur, Option.some.injEq] at held
    subst held
    cases snd with
    | closed closed => simp [on, terminal] at closed
    | rollback => simp [UsageLeaseGate.closeLocked, terminal] at still
    | untimed => exact ⟨on, cur⟩
    | idle _ _ _ inactive => simp [on, cur] at inactive
    | holds => exact ⟨on, cur⟩
    | promotes _ _ _ same isOver =>
      rw [cur, Option.some.injEq] at same
      subst same
      omega
    | expires _ _ _ same isOver =>
      rw [cur, Option.some.injEq] at same
      subst same
      omega
  | @promotes cur future on _ _ isCurrent _ staged _ =>
    simp only [Option.some.injEq] at held
    subst held
    have contiguous : future.claims.notBeforeEpoch = cur.claims.expiresAtEpoch := by
      obtain ⟨binding, ops, rfl⟩ := h
      have open_ := (gateRun_invariant binding ops).notClosed (by rw [on]; rfl)
      have ends := open_.holds
      rw [staged, isCurrent] at ends
      obtain ⟨holder, same, contiguous⟩ := ends.of_staged
      cases same
      exact contiguous
    cases snd with
    | closed closed => simp [on, terminal] at closed
    | rollback => simp [UsageLeaseGate.closeLocked, terminal] at still
    | untimed _ _ zero => omega
    | idle _ _ _ inactive => simp [on, isCurrent] at inactive
    | holds _ _ _ same pre =>
      rw [isCurrent, Option.some.injEq] at same
      subst same
      omega
    | promotes _ _ _ _ _ same =>
      rw [staged, Option.some.injEq] at same
      subst same
      exact ⟨on, rfl⟩
    | expires _ _ _ _ _ _ late =>
      have win := late future staged
      simp [UsageLeaseGate.withinWindow, starts, ends] at win

namespace HostDataPlaneAuthorizationGate

variable {gate : HostDataPlaneAuthorizationGate} {leaseGate : UsageLeaseGate}
  {ticket : VerifiedUsageLease} {now : Nat}

theorem admitTicket_turnsDown {mono : Nat}
    (rejected : turnsDown (gate.admitTicket leaseGate ticket now mono).2 = true) :
    (gate.admitTicket leaseGate ticket now mono).1 =
        { gate with leaseGate := some (leaseGate.evaluateLocked now).1 } ∧
      terminal (leaseGate.evaluateLocked now).1.state = false := by
  unfold admitTicket at rejected ⊢
  have done := leaseGate.submitVerifiedTicket_submits ticket now
  generalize leaseGate.submitVerifiedTicket ticket now = res at done rejected ⊢
  obtain ⟨next, admission⟩ := res
  simp only at done rejected ⊢
  have turned : turnsDown admission = true := by
    split at rejected <;> exact rejected
  have refused : admissionAcceptsCurrent admission = false := by
    cases admission <;> first | rfl | simp [turnsDown] at turned
  have notStored : admission.stores = false := by
    cases admission <;> first | rfl | simp [turnsDown] at turned
  simp only [refused, Bool.false_eq_true, if_false]
  cases done with
  | keeps _ live =>
    refine ⟨rfl, live ?_⟩
    rintro rfl
    simp [turnsDown] at turned
  | initial stores => simp [stores] at notStored
  | replaces => simp [UsageLeaseAdmission.stores] at notStored
  | stages => simp [UsageLeaseAdmission.stores] at notStored

theorem submit_turnsDown {reading : Option Nat} (h : gate.Anchored leaseGate)
    (rejected : turnsDown (gate.submitVerifiedTicket ticket now reading).2 = true) :
    0 < now ∧ (gate.submitVerifiedTicket ticket now reading).1 =
        { gate with leaseGate := some (leaseGate.evaluateLocked now).1 } ∧
      terminal (leaseGate.evaluateLocked now).1.state = false := by
  have hc := rejected
  unfold submitVerifiedTicket at hc
  simp only [h.leaseGate, h.confirmed, h.steady, h.anchored, Bool.not_true, Bool.false_or,
    if_true] at hc
  split at hc
  · cases hc
  rename_i nonzero
  have pos : 0 < now := by
    apply Nat.pos_of_ne_zero
    simpa using nonzero
  cases reading with
  | none => cases hc
  | some mono =>
    simp only at hc
    split at hc
    · cases hc
    split at hc
    · cases hc
    split at hc
    · cases hc
    rename_i back isOver early
    have admits : gate.submitVerifiedTicket ticket now (some mono) =
        gate.admitTicket leaseGate ticket now mono := by
      unfold submitVerifiedTicket
      simp only [h.leaseGate, h.confirmed, h.steady, h.anchored, nonzero, back, isOver, early,
        Bool.not_true, Bool.false_or, Bool.false_eq_true, if_true, if_false]
    rw [admits]
    exact ⟨pos, admitTicket_turnsDown hc⟩

end HostDataPlaneAuthorizationGate

/-- After a ticket was turned down while the gate was permitting, a snapshot that
    derives an epoch inside the served lease's window permits exactly when that
    epoch is not below the epoch the rejected ticket came with. -/
theorem rejected_ticket_keeps_permission_iff (ops : List HostGateOp)
    (reading submitReading : Option Nat) (lease ticket : VerifiedUsageLease)
    (trustedNow laterReading laterEpoch : Nat) :
    let gate := Lib.Run.exec hostGateStep .new ops
    let after := (gate.submitVerifiedTicket ticket trustedNow submitReading).1
    (gate.snapshot reading).2.permitsDataPlane = true →
    (gate.snapshot reading).1.leaseGate.bind (·.current) = some lease →
    turnsDown (gate.submitVerifiedTicket ticket trustedNow submitReading).2 = true →
    lease.claims.notBeforeEpoch ≤ trustedNow → trustedNow < lease.claims.expiresAtEpoch →
    (after.deriveTrustedNowLocked (some laterReading)).2 = some laterEpoch →
    lease.claims.notBeforeEpoch ≤ laterEpoch → laterEpoch < lease.claims.expiresAtEpoch →
    ((after.snapshot (some laterReading)).2.permitsDataPlane = true ↔
      trustedNow ≤ gate.anchor.trustedEpoch + gate.elapsed laterReading) := by
  intro gate after permits held rejected starts ends derived laterStarts laterEnds
  have runs : HoldsRun gate := hostRun_holdsRun ops
  obtain ⟨leaseGate, mono, epoch, anchored, rfl, derives, served⟩ :=
    HostDataPlaneAuthorizationGate.snapshot_permits permits
  rw [anchored.snapshot_eq derives] at held
  obtain ⟨pos, left, still⟩ := HostDataPlaneAuthorizationGate.submit_turnsDown anchored rejected
  have isLeft : after = { gate with leaseGate := some (leaseGate.evaluateLocked trustedNow).1 } :=
    left
  have serves : Serves (leaseGate.evaluateLocked trustedNow).1 lease :=
    (runs leaseGate anchored.leaseGate).serves served held pos starts ends still
  have recorded : (leaseGate.evaluateLocked trustedNow).1.lastTrustedNowEpoch = trustedNow :=
    ((leaseGate.evaluateLocked_evaluates trustedNow).clock still).2
  have anchoredAfter : after.Anchored (leaseGate.evaluateLocked trustedNow).1 := by
    rw [isLeft]
    exact ⟨rfl, anchored.confirmed, anchored.anchored, anchored.steady⟩
  obtain ⟨_, isReading, laterDerives⟩ :=
    HostDataPlaneAuthorizationGate.Derives.of_derive derived
  cases isReading
  have epoch_eq : laterEpoch = gate.anchor.trustedEpoch + gate.elapsed laterReading := by
    rw [laterDerives.epoch_eq, isLeft]
    rfl
  rw [anchoredAfter.snapshot_eq laterDerives, ← epoch_eq]
  have iff := serves.permits_iff (by omega) laterStarts laterEnds
  rw [recorded] at iff
  exact iff

/-- An accepted lease at epoch 1000 (reading 100900), then a lease with a skipped
    sequence number: 200 ms later its epoch 1001 is ahead of the derived 1000. -/
def sequenceSkip : List HostGateOp × VerifiedUsageLease × VerifiedUsageLease :=
  let first := sessionLease 0 1000 1000 1010 kEmptyPreviousTicketSha256 (List.replicate 64 97)
  let skipped := sessionLease 2 1001 1010 1020 (List.replicate 64 97) (List.replicate 64 98)
  ([.install sessionBinding, .submit first 1000 (some 100900)], first, skipped)

/-- A first snapshot taken once the derived epoch has caught up still permits. -/
theorem skipped_sequence_permits_a_second_later :
    let gate := Lib.Run.exec hostGateStep .new sequenceSkip.1
    let after := (gate.submitVerifiedTicket sequenceSkip.2.2 1001 (some 101100)).1
    (after.snapshot (some 101900)).2.permitsDataPlane = true ↔
      1001 ≤ gate.anchor.trustedEpoch + gate.elapsed 101900 :=
  rejected_ticket_keeps_permission_iff sequenceSkip.1 (some 100950) (some 101100)
    sequenceSkip.2.1 sequenceSkip.2.2 1001 101900 1001
    (by decide) (by decide) (by decide) (by decide) (by decide) (by decide) (by decide) (by decide)

/-- The gate permits, a ticket is turned down inside the lease window, and the next
    snapshot inside the same window reports a clock rollback and no permission. -/
theorem skipped_sequence_takes_permission :
    let gate := Lib.Run.exec hostGateStep .new sequenceSkip.1
    let submitted := gate.submitVerifiedTicket sequenceSkip.2.2 1001 (some 101100)
    let lease := sequenceSkip.2.1
    (gate.snapshot (some 100950)).2.permitsDataPlane = true ∧
      (gate.snapshot (some 100950)).1.leaseGate.bind (·.current) = some lease ∧
      (gate.deriveTrustedNowLocked (some 101100)).2 = some 1000 ∧
      submitted.2 = .rejectedSequence ∧
      lease.claims.notBeforeEpoch ≤ 1001 ∧ 1001 < lease.claims.expiresAtEpoch ∧
      (submitted.1.deriveTrustedNowLocked (some 101200)).2 = some 1000 ∧
      lease.claims.notBeforeEpoch ≤ 1000 ∧ 1000 < lease.claims.expiresAtEpoch ∧
      (submitted.1.snapshot (some 101200)).2.leaseState = .trustedTimeRollback ∧
      (submitted.1.snapshot (some 101200)).2.permitsDataPlane = false := by
  decide

end VisionForge.HostAuthorization
