import VisionForge.HostAuthorization.RejectedTickets

/-! # The authorization gate is fail-closed

Every permission goes back to the last binding that was installed and to a ticket
accepted since; what closes the gate keeps it closed until the next binding.
-/

namespace VisionForge.UsageLease

namespace UsageLeaseGate

variable {gate next : UsageLeaseGate} {now : Nat} {snapshot : UsageLeaseGateSnapshot}

def Holds (gate : UsageLeaseGate) (ticket : VerifiedUsageLease) : Prop :=
  gate.current = some ticket ∨ gate.future = some ticket

variable {ticket : VerifiedUsageLease}

theorem Evaluates.held (h : Evaluates gate now next snapshot) (held : Holds next ticket) :
    Holds gate ticket := by
  cases h with
  | closed | untimed | idle | holds => exact held
  | rollback => simp [Holds, closeLocked] at held
  | promotes _ _ _ _ _ staged =>
    simp only [Holds, Option.some.injEq, reduceCtorEq, or_false] at held
    exact .inr (held ▸ staged)
  | @expires cur head _ _ _ _ isCurrent _ isHead =>
    simp only [Holds, Option.some.injEq, reduceCtorEq, or_false] at held
    subst held
    cases staged : gate.future with
    | none =>
      rw [staged] at isHead
      exact .inl (isHead ▸ isCurrent)
    | some future =>
      rw [staged] at isHead
      exact .inr (isHead ▸ staged)

theorem Evaluates.terminal (h : Evaluates gate now next snapshot)
    (closed : UsageLease.terminal gate.state = true) : UsageLease.terminal next.state = true := by
  by_contra isOpen
  have wasOpen := h.was_open (Bool.eq_false_iff.mpr isOpen)
  rw [closed] at wasOpen
  cases wasOpen

variable {admission : UsageLeaseAdmission}

theorem Submits.binding_eq (h : Submits gate ticket now next admission) :
    next.binding = gate.binding := by
  have kept := (gate.evaluateLocked_evaluates now).binding_eq
  cases h <;> exact kept

theorem Submits.held {other : VerifiedUsageLease} (h : Submits gate ticket now next admission)
    (held : Holds next other) :
    Holds gate other ∨
      (other = ticket ∧ admission.stores = true ∧ ticket.claims.binding = gate.binding) := by
  have evaluates := gate.evaluateLocked_evaluates now
  have kept := evaluates.binding_eq
  cases h with
  | keeps => exact .inl (evaluates.held held)
  | initial stores _ _ bound =>
    cases held with
    | inl isCurrent => exact .inr ⟨(Option.some.inj isCurrent).symm, stores, kept ▸ bound⟩
    | inr isFuture => exact .inl (evaluates.held (.inr isFuture))
  | replaces _ _ _ bound =>
    cases held with
    | inl isCurrent => exact .inr ⟨(Option.some.inj isCurrent).symm, rfl, kept ▸ bound⟩
    | inr isFuture => exact .inl (evaluates.held (.inr isFuture))
  | stages _ _ _ _ _ _ bound =>
    cases held with
    | inl isCurrent => exact .inl (evaluates.held (.inl isCurrent))
    | inr isFuture => exact .inr ⟨(Option.some.inj isFuture).symm, rfl, kept ▸ bound⟩

theorem Submits.terminal (h : Submits gate ticket now next admission)
    (closed : UsageLease.terminal gate.state = true) : UsageLease.terminal next.state = true := by
  have evaluated := (gate.evaluateLocked_evaluates now).terminal closed
  cases h with
  | keeps => exact evaluated
  | initial _ empty =>
    rw [empty] at evaluated
    cases evaluated
  | replaces expired =>
    rw [expired] at evaluated
    cases evaluated
  | stages live =>
    rw [live] at evaluated
    cases evaluated

end UsageLeaseGate

end VisionForge.UsageLease

namespace VisionForge.HostAuthorization

open UsageLease

abbrev HostGateHistory := List (HostGateOp × HostGateAnswer)

def acceptedTicket : HostGateOp × HostGateAnswer → Option VerifiedUsageLease
  | (.submit ticket _ _, .admission admission) => if admission.stores then some ticket else none
  | _ => none

def anchorOf : HostGateOp × HostGateAnswer → Option TrustedTimeAnchor
  | (.submit _ epoch (some monotonic), .admission admission) =>
    if admissionAcceptsCurrent admission then some ⟨epoch, monotonic⟩ else none
  | _ => none

def HostGateOp.replaces : HostGateOp → Bool
  | .install _ | .reset => true
  | _ => false

def HostGateOp.closes : HostGateOp → Bool
  | .stop | .revoke => true
  | _ => false

namespace HostDataPlaneAuthorizationGate

inductive Submits (gate : HostDataPlaneAuthorizationGate) (ticket : VerifiedUsageLease)
    (now : Nat) (reading : Option Nat) :
    HostDataPlaneAuthorizationGate → UsageLeaseAdmission → Prop where
  | refused : Submits gate ticket now reading gate .rejectedGateClosed
  | revoked {latched : Bool} {admission : UsageLeaseAdmission} :
      admission = .rejectedGateClosed ∨ admission = .rejectedTime →
      Submits gate ticket now reading
        { gate with monotonicClockRollback := latched }.revokeLocked admission
  | accepted {leaseGate next : UsageLeaseGate} {monotonic : Nat}
      {admission : UsageLeaseAdmission} :
      gate.leaseGate = some leaseGate → reading = some monotonic →
      leaseGate.Submits ticket now next admission → admissionAcceptsCurrent admission = true →
      Submits gate ticket now reading
        { gate with
          leaseGate := some next
          anchor := { trustedEpoch := now, monotonicMilliseconds := monotonic }
          trustedTimeAnchored := true } admission
  | turnedDown {leaseGate next : UsageLeaseGate} {admission : UsageLeaseAdmission} :
      gate.leaseGate = some leaseGate → leaseGate.Submits ticket now next admission →
      admissionAcceptsCurrent admission = false →
      Submits gate ticket now reading { gate with leaseGate := some next } admission

variable {gate : HostDataPlaneAuthorizationGate}

theorem admitTicket_submits {leaseGate : UsageLeaseGate} (held : gate.leaseGate = some leaseGate)
    (ticket : VerifiedUsageLease) (now monotonic : Nat) :
    Submits gate ticket now (some monotonic) (gate.admitTicket leaseGate ticket now monotonic).1
      (gate.admitTicket leaseGate ticket now monotonic).2 := by
  have submits := leaseGate.submitVerifiedTicket_submits ticket now
  unfold admitTicket
  by_cases accepts :
      admissionAcceptsCurrent (leaseGate.submitVerifiedTicket ticket now).2 = true
  · simp only [if_pos accepts]
    exact .accepted held rfl submits accepts
  · simp only [if_neg accepts]
    exact .turnedDown held submits (Bool.eq_false_iff.mpr accepts)

theorem submitVerifiedTicket_submits (gate : HostDataPlaneAuthorizationGate)
    (ticket : VerifiedUsageLease) (now : Nat) (reading : Option Nat) :
    Submits gate ticket now reading (gate.submitVerifiedTicket ticket now reading).1
      (gate.submitVerifiedTicket ticket now reading).2 := by
  have revoked {admission : UsageLeaseAdmission}
      (refuses : admission = .rejectedGateClosed ∨ admission = .rejectedTime) :
      Submits gate ticket now reading gate.revokeLocked admission :=
    @Submits.revoked gate ticket now reading gate.monotonicClockRollback admission refuses
  unfold submitVerifiedTicket
  cases held : gate.leaseGate with
  | none => exact .refused
  | some leaseGate =>
    simp only
    split
    · exact .refused
    cases reading with
    | none => exact revoked (.inl rfl)
    | some monotonic =>
      simp only
      split
      · split
        · have latched :=
            @Submits.revoked gate ticket now (some monotonic) true _ (.inl rfl)
          rw [held] at latched
          exact latched
        split
        · exact revoked (.inl rfl)
        split
        · exact revoked (.inr rfl)
        · exact admitTicket_submits held ticket now monotonic
      · exact admitTicket_submits held ticket now monotonic

/-- A gate that was given a binding, and what happened since. -/
structure Since (binding : UsageLeaseBinding) (since : HostGateHistory)
    (gate : HostDataPlaneAuthorizationGate) (leaseGate : UsageLeaseGate) : Prop where
  kept : ∀ entry ∈ since, entry.1.replaces = false
  valid : bindingValid binding = true
  bound : leaseGate.binding = binding
  held : ∀ ticket, leaseGate.Holds ticket →
    ticket ∈ since.filterMap acceptedTicket ∧ ticket.claims.binding = binding
  anchor : gate.trustedTimeAnchored = true →
    (since.filterMap anchorOf).getLast? = some gate.anchor
  closed : (∃ entry ∈ since, entry.1.closes = true) → terminal leaseGate.state = true

/-- Every lease gate goes back to the installation of its binding. -/
def Installed (hist : HostGateHistory) (gate : HostDataPlaneAuthorizationGate) : Prop :=
  ∀ leaseGate, gate.leaseGate = some leaseGate →
    ∃ before binding since,
      hist = before ++ (.install binding, .installed true) :: since ∧
        Since binding since gate leaseGate

variable {binding : UsageLeaseBinding} {since : HostGateHistory} {leaseGate : UsageLeaseGate}

variable {entry : HostGateOp × HostGateAnswer} {next : HostDataPlaneAuthorizationGate}

theorem Since.extend {nextLease : UsageLeaseGate} (h : Since binding since gate leaseGate)
    (keeps : entry.1.replaces = false) (sameBinding : nextLease.binding = leaseGate.binding)
    (held : ∀ ticket, nextLease.Holds ticket → leaseGate.Holds ticket ∨
      (acceptedTicket entry = some ticket ∧ ticket.claims.binding = binding))
    (anchor : next.trustedTimeAnchored = true →
      anchorOf entry = some next.anchor ∨
        (anchorOf entry = none ∧ gate.trustedTimeAnchored = true ∧ next.anchor = gate.anchor))
    (closed : terminal leaseGate.state = true ∨ entry.1.closes = true →
      terminal nextLease.state = true) :
    Since binding (since ++ [entry]) next nextLease where
  kept := by
    intro other member
    cases List.mem_append.mp member with
    | inl old => exact h.kept other old
    | inr new =>
      rw [List.mem_singleton.mp new]
      exact keeps
  valid := h.valid
  bound := sameBinding.trans h.bound
  held := by
    intro ticket isHeld
    rw [List.filterMap_append, List.mem_append]
    cases held ticket isHeld with
    | inl old =>
      obtain ⟨member, bound⟩ := h.held ticket old
      exact ⟨.inl member, bound⟩
    | inr new =>
      refine ⟨.inr ?_, new.2⟩
      rw [List.filterMap_cons_some new.1]
      exact List.mem_cons_self
  anchor := by
    intro anchored
    rw [List.filterMap_append]
    cases anchor anchored with
    | inl sets =>
      rw [List.filterMap_cons_some sets, List.filterMap_nil, List.getLast?_concat]
    | inr keepsAnchor =>
      obtain ⟨silent, wasAnchored, same⟩ := keepsAnchor
      rw [List.filterMap_cons_none silent, List.filterMap_nil, List.append_nil, same]
      exact h.anchor wasAnchored
  closed := by
    rintro ⟨other, member, closes⟩
    apply closed
    cases List.mem_append.mp member with
    | inl old => exact .inl (h.closed ⟨other, old, closes⟩)
    | inr new =>
      rw [List.mem_singleton.mp new] at closes
      exact .inr closes

variable {hist : HostGateHistory}

theorem Installed.extend (h : Installed hist gate)
    (step : ∀ nextLease, next.leaseGate = some nextLease →
      ∃ leaseGate, gate.leaseGate = some leaseGate ∧
        ∀ binding since, Since binding since gate leaseGate →
          Since binding (since ++ [entry]) next nextLease) :
    Installed (hist ++ [entry]) next := by
  intro nextLease isNext
  obtain ⟨leaseGate, held, later⟩ := step nextLease isNext
  obtain ⟨before, binding, since, same, installed⟩ := h leaseGate held
  refine ⟨before, binding, since ++ [entry], ?_, later binding since installed⟩
  rw [same, List.append_assoc, List.cons_append]

theorem Since.close {nextLease : UsageLeaseGate} (h : Since binding since gate leaseGate)
    (keeps : entry.1.replaces = false) (sameBinding : nextLease.binding = leaseGate.binding)
    (cur : nextLease.current = none) (future : nextLease.future = none)
    (closed : terminal nextLease.state = true) (silent : anchorOf entry = none)
    (anchored : next.trustedTimeAnchored = gate.trustedTimeAnchored)
    (anchor : next.anchor = gate.anchor) : Since binding (since ++ [entry]) next nextLease := by
  apply h.extend keeps sameBinding
  · intro ticket held
    simp [UsageLeaseGate.Holds, cur, future] at held
  · intro isAnchored
    exact .inr ⟨silent, anchored ▸ isAnchored, anchor⟩
  · intro _
    exact closed

theorem Since.same (h : Since binding since gate leaseGate) (keeps : entry.1.replaces = false)
    (silent : anchorOf entry = none) (opens : entry.1.closes = false) :
    Since binding (since ++ [entry]) gate leaseGate := by
  apply h.extend keeps rfl
  · intro ticket held
    exact .inl held
  · intro isAnchored
    exact .inr ⟨silent, isAnchored, rfl⟩
  · intro closed
    cases closed with
    | inl wasClosed => exact wasClosed
    | inr closes => simp [opens] at closes

theorem Installed.submit {now : Nat} {reading : Option Nat} (h : Installed hist gate)
    (submits : Submits gate ticket now reading next admission) :
    Installed (hist ++ [(.submit ticket now reading, .admission admission)]) next := by
  apply h.extend
  intro nextLease isNext
  have notAnchoring (refuses : admissionAcceptsCurrent admission = false) :
      anchorOf (.submit ticket now reading, .admission admission) = none := by
    cases reading <;> simp [anchorOf, refuses]
  cases submits with
  | refused => exact ⟨nextLease, isNext, fun _ _ since => since.same rfl (notAnchoring rfl) rfl⟩
  | revoked refuses =>
    obtain ⟨leaseGate, held, rfl⟩ := Option.map_eq_some_iff.mp isNext
    refine ⟨leaseGate, held, fun _ _ since => since.close rfl rfl rfl rfl rfl ?_ rfl rfl⟩
    cases refuses with
    | inl closed => exact notAnchoring (closed ▸ rfl)
    | inr early => exact notAnchoring (early ▸ rfl)
  | @accepted leaseGate _ monotonic _ held isReading inner accepts =>
    cases isNext
    subst isReading
    refine ⟨leaseGate, held, fun binding _ since => since.extend rfl inner.binding_eq ?_ ?_ ?_⟩
    · intro other isHeld
      cases inner.held isHeld with
      | inl old => exact .inl old
      | inr new =>
        obtain ⟨rfl, stores, bound⟩ := new
        exact .inr ⟨by simp [acceptedTicket, stores], bound.trans since.bound⟩
    · intro _
      exact .inl (by simp [anchorOf, accepts])
    · intro closed
      cases closed with
      | inl wasClosed => exact inner.terminal wasClosed
      | inr closes => cases closes
  | @turnedDown leaseGate _ _ held inner refuses =>
    cases isNext
    refine ⟨leaseGate, held, fun binding _ since => since.extend rfl inner.binding_eq ?_ ?_ ?_⟩
    · intro other isHeld
      cases inner.held isHeld with
      | inl old => exact .inl old
      | inr new =>
        obtain ⟨rfl, stores, bound⟩ := new
        exact .inr ⟨by simp [acceptedTicket, stores], bound.trans since.bound⟩
    · intro anchored
      exact .inr ⟨notAnchoring refuses, anchored, rfl⟩
    · intro closed
      cases closed with
      | inl wasClosed => exact inner.terminal wasClosed
      | inr closes => cases closes

inductive Snaps (gate : HostDataPlaneAuthorizationGate) : HostDataPlaneAuthorizationGate → Prop where
  | same : Snaps gate gate
  | revoked (latched : Bool) : Snaps gate { gate with monotonicClockRollback := latched }.revokeLocked
  | evaluated {leaseGate : UsageLeaseGate} (now : Nat) : gate.leaseGate = some leaseGate →
      Snaps gate { gate with leaseGate := some (leaseGate.evaluateLocked now).1 }

theorem snapshot_snaps (gate : HostDataPlaneAuthorizationGate) (reading : Option Nat) :
    Snaps gate (gate.snapshot reading).1 := by
  unfold snapshot snapshotLocked
  cases held : gate.leaseGate with
  | none => exact .same
  | some leaseGate =>
    simp only
    split
    · exact .same
    unfold deriveTrustedNowLocked
    split
    · rename_i derived res
      split at res
      · cases res
        exact .same
      split at res
      · cases res
        exact .revoked gate.monotonicClockRollback
      split at res
      · cases res
        exact .revoked true
      split at res
      · cases res
        exact .revoked gate.monotonicClockRollback
      · cases res
    · rename_i derived now res
      split at res
      · cases res
      split at res
      · cases res
      split at res
      · cases res
      split at res
      · cases res
      · cases res
        exact .evaluated _ held

theorem Installed.snapshot {reading : Option Nat} {ans : Snapshot} (h : Installed hist gate)
    (snaps : Snaps gate next) :
    Installed (hist ++ [(.snapshot reading, .snapshot ans)]) next := by
  apply h.extend
  intro nextLease isNext
  cases snaps with
  | same => exact ⟨nextLease, isNext, fun _ _ since => since.same rfl rfl rfl⟩
  | revoked latched =>
    obtain ⟨leaseGate, held, rfl⟩ := Option.map_eq_some_iff.mp isNext
    exact ⟨leaseGate, held, fun _ _ since => since.close rfl rfl rfl rfl rfl rfl rfl rfl⟩
  | @evaluated leaseGate now held =>
    cases isNext
    have evaluates := leaseGate.evaluateLocked_evaluates now
    refine ⟨leaseGate, held, fun _ _ since =>
      since.extend rfl evaluates.binding_eq ?_ ?_ ?_⟩
    · intro ticket isHeld
      exact .inl (evaluates.held isHeld)
    · intro anchored
      exact .inr ⟨rfl, anchored, rfl⟩
    · intro closed
      cases closed with
      | inl wasClosed => exact evaluates.terminal wasClosed
      | inr closes => cases closes

theorem Installed.stop (h : Installed hist gate) :
    Installed (hist ++ [(.stop, .done)]) gate.stop := by
  apply h.extend
  intro nextLease isNext
  obtain ⟨leaseGate, held, rfl⟩ := Option.map_eq_some_iff.mp isNext
  refine ⟨leaseGate, held, fun _ _ since => ?_⟩
  unfold UsageLeaseGate.stop
  split
  · exact since.close rfl rfl rfl rfl rfl rfl rfl rfl
  · rename_i revoked
    have isRevoked : leaseGate.state = .revoked := not_not.mp revoked
    apply since.extend rfl rfl
    · intro ticket isHeld
      exact .inl isHeld
    · intro anchored
      exact .inr ⟨rfl, anchored, rfl⟩
    · intro _
      rw [isRevoked]
      rfl

theorem Installed.step (h : Installed hist gate) (op : HostGateOp) :
    Installed (hist ++ [(op, (hostGateStep gate op).2)]) (hostGateStep gate op).1 := by
  cases op with
  | install binding =>
    intro leaseGate isNext
    simp only [hostGateStep, installConfirmedPeerBinding] at isNext ⊢
    split at isNext
    · cases isNext
    · rename_i fresh
      have valid : bindingValid binding = true := by
        by_contra invalid
        apply fresh
        simp [UsageLeaseGate.evaluate, UsageLeaseGate.evaluateLocked, UsageLeaseGate.new, invalid,
          terminal, UsageLeaseGate.stateOnlySnapshot]
      cases isNext
      rw [if_neg fresh]
      refine ⟨hist, binding, [], rfl, by simp, valid, ?_, ?_, by simp, by simp⟩
      · exact ((UsageLeaseGate.new binding).evaluateLocked_evaluates 0).binding_eq
      · intro ticket held
        have pre := ((UsageLeaseGate.new binding).evaluateLocked_evaluates 0).held held
        simp [UsageLeaseGate.Holds, UsageLeaseGate.new] at pre
  | submit ticket now reading => exact h.submit (gate.submitVerifiedTicket_submits ticket now reading)
  | snapshot reading => exact h.snapshot (gate.snapshot_snaps reading)
  | stop => exact h.stop
  | revoke =>
    apply h.extend
    intro nextLease isNext
    obtain ⟨leaseGate, held, rfl⟩ := Option.map_eq_some_iff.mp isNext
    exact ⟨leaseGate, held, fun _ _ since => since.close rfl rfl rfl rfl rfl rfl rfl rfl⟩
  | reset =>
    intro leaseGate isNext
    cases isNext

/-- A gate that cannot permit until a binding is installed. -/
def Closed (gate : HostDataPlaneAuthorizationGate) : Prop :=
  ∀ leaseGate, gate.leaseGate = some leaseGate →
    gate.peerConfirmed = false ∨ gate.monotonicClockRollback = true ∨
      terminal leaseGate.state = true

theorem Closed.permits (h : Closed gate) (reading : Option Nat) :
    (gate.snapshot reading).2.permitsDataPlane = false := by
  by_contra permits
  obtain ⟨leaseGate, monotonic, epoch, anchored, -, -, served⟩ :=
    snapshot_permits (Bool.not_eq_false _ ▸ permits)
  have evaluates := leaseGate.evaluateLocked_evaluates epoch
  have isOpen := evaluates.was_open (evaluates.permits served).2.1
  cases h leaseGate anchored.leaseGate with
  | inl unconfirmed => simp [anchored.confirmed] at unconfirmed
  | inr other =>
    cases other with
    | inl rollback => simp [anchored.steady] at rollback
    | inr closed => simp [isOpen] at closed

theorem closed_revokeLocked (gate : HostDataPlaneAuthorizationGate) : Closed gate.revokeLocked := by
  intro leaseGate held
  obtain ⟨before, -, rfl⟩ := Option.map_eq_some_iff.mp held
  exact .inr (.inr rfl)

theorem Closed.step (h : Closed gate) {op : HostGateOp} (keeps : ∀ binding, op ≠ .install binding) :
    Closed (hostGateStep gate op).1 := by
  cases op with
  | install binding => exact absurd rfl (keeps binding)
  | submit ticket now reading =>
    have submits := gate.submitVerifiedTicket_submits ticket now reading
    change Closed (gate.submitVerifiedTicket ticket now reading).1
    generalize gate.submitVerifiedTicket ticket now reading = res at submits
    obtain ⟨next, admission⟩ := res
    cases submits with
    | refused => exact h
    | revoked => exact closed_revokeLocked _
    | accepted held _ inner =>
      intro nextLease isNext
      cases isNext
      exact (h _ held).imp_right (fun other => other.imp_right inner.terminal)
    | turnedDown held inner =>
      intro nextLease isNext
      cases isNext
      exact (h _ held).imp_right (fun other => other.imp_right inner.terminal)
  | snapshot reading =>
    have snaps := gate.snapshot_snaps reading
    change Closed (gate.snapshot reading).1
    generalize (gate.snapshot reading).1 = next at snaps
    cases snaps with
    | same => exact h
    | revoked => exact closed_revokeLocked _
    | @evaluated leaseGate now held =>
      intro nextLease isNext
      cases isNext
      have evaluates := leaseGate.evaluateLocked_evaluates now
      exact (h _ held).imp_right (fun other => other.imp_right evaluates.terminal)
  | stop =>
    intro nextLease isNext
    obtain ⟨leaseGate, held, rfl⟩ := Option.map_eq_some_iff.mp isNext
    refine .inr (.inr ?_)
    unfold UsageLeaseGate.stop
    split
    · rfl
    · rename_i revoked
      rw [not_not.mp revoked]
      rfl
  | revoke => exact closed_revokeLocked gate
  | reset =>
    intro leaseGate isNext
    cases isNext

theorem Closed.exec (h : Closed gate) {ops : List HostGateOp}
    (keeps : ∀ op ∈ ops, ∀ binding, op ≠ .install binding) :
    Closed (Lib.Run.exec hostGateStep gate ops) := by
  induction ops generalizing gate with
  | nil => exact h
  | cons op ops ih =>
    exact ih (h.step (keeps op List.mem_cons_self))
      (fun later mem => keeps later (List.mem_cons_of_mem op mem))

end HostDataPlaneAuthorizationGate

/-- The clock reading an operation asks for; without a trusted epoch a submission does
    not look at the clock. -/
def HostGateOp.reading : HostGateOp → Option Nat
  | .submit _ now reading => if now = 0 then none else reading
  | .snapshot reading => reading
  | _ => none

namespace HostDataPlaneAuthorizationGate

variable {gate : HostDataPlaneAuthorizationGate}

/-- An operation that shows the gate a clock or an epoch that went back. -/
def SeesRollback (gate : HostDataPlaneAuthorizationGate) (op : HostGateOp) : Prop :=
  gate.trustedTimeAnchored = true ∧ ∃ monotonic, op.reading = some monotonic ∧
    (monotonic < gate.anchor.monotonicMilliseconds ∨
      ∃ ticket now reading, op = .submit ticket now reading ∧
        now < gate.anchor.trustedEpoch + gate.elapsed monotonic)

theorem closed_of_sees (op : HostGateOp) (sees : gate.SeesRollback op) :
    Closed (hostGateStep gate op).1 := by
  obtain ⟨anchored, monotonic, reads, back⟩ := sees
  cases op with
  | install | stop | revoke | reset => cases reads
  | submit ticket now reading =>
    simp only [HostGateOp.reading] at reads
    split at reads
    · cases reads
    rename_i pos
    subst reads
    change Closed (gate.submitVerifiedTicket ticket now (some monotonic)).1
    unfold submitVerifiedTicket
    cases held : gate.leaseGate with
    | none =>
      intro leaseGate isHeld
      rw [held] at isHeld
      cases isHeld
    | some leaseGate =>
      dsimp only
      split
      · rename_i guarded
        intro other isHeld
        rw [held] at isHeld
        cases isHeld
        simp only [Bool.or_eq_true, Bool.not_eq_true', beq_iff_eq, pos, or_false]
          at guarded
        cases guarded with
        | inl unconfirmed => exact .inl unconfirmed
        | inr rollback => exact .inr (.inl rollback)
      · split
        · exact closed_revokeLocked _
        split
        · exact closed_revokeLocked _
        split
        · exact closed_revokeLocked _
        · rename_i steady _ fresh
          exfalso
          cases back with
          | inl less => exact steady less
          | inr early =>
            obtain ⟨_, _, _, same, less⟩ := early
            cases same
            exact fresh less
  | snapshot reading =>
    cases reads
    have less : monotonic < gate.anchor.monotonicMilliseconds := by
      cases back with
      | inl less => exact less
      | inr early =>
        obtain ⟨_, _, _, same, -⟩ := early
        cases same
    change Closed (gate.snapshot (some monotonic)).1
    unfold snapshot snapshotLocked
    cases held : gate.leaseGate with
    | none =>
      intro leaseGate isHeld
      rw [held] at isHeld
      cases isHeld
    | some leaseGate =>
      dsimp only
      split
      · rename_i guarded
        intro other isHeld
        rw [held] at isHeld
        cases isHeld
        simp only [Bool.or_eq_true, Bool.not_eq_true', anchored, Bool.true_eq_false, or_false]
          at guarded
        cases guarded with
        | inl unconfirmed => exact .inl unconfirmed
        | inr rollback => exact .inr (.inl rollback)
      · simp only [deriveTrustedNowLocked, anchored, Bool.not_true, Bool.false_eq_true, if_false,
          if_pos less]
        exact closed_revokeLocked _

end HostDataPlaneAuthorizationGate

theorem hostRun_installed (ops : List HostGateOp) :
    HostDataPlaneAuthorizationGate.Installed (Lib.Run.trace hostGateStep .new ops)
      (Lib.Run.exec hostGateStep .new ops) := by
  apply Lib.Run.history_invariant hostGateStep
  · intro leaseGate held
    cases held
  · intro _ _ op installed
    exact installed.step op

/-- What stands behind a permission of the gate after a run with this history. -/
structure Permitted (history : HostGateHistory) (gate : HostDataPlaneAuthorizationGate)
    (monotonic now : Nat) (binding : UsageLeaseBinding) (ticket : VerifiedUsageLease) : Prop where
  installed : ∃ before since, history = before ++ (.install binding, .installed true) :: since ∧
    (∀ entry ∈ since, entry.1.replaces = false ∧ entry.1.closes = false) ∧
    (since.filterMap anchorOf).getLast? = some gate.anchor ∧
    ticket ∈ since.filterMap acceptedTicket
  valid : bindingValid binding = true
  bound : ticket.claims.binding = binding
  anchored : gate.anchor.monotonicMilliseconds ≤ monotonic
  derived : now = gate.anchor.trustedEpoch + (monotonic - gate.anchor.monotonicMilliseconds) / 1000
  fits : gate.anchor.trustedEpoch ≤ kMaximumEpoch → now ≤ kMaximumEpoch
  starts : ticket.claims.notBeforeEpoch ≤ now
  ends : now < ticket.claims.expiresAtEpoch

theorem permitted_of_snapshot {ops : List HostGateOp} {reading : Option Nat}
    (permits : ((Lib.Run.exec hostGateStep .new ops).snapshot reading).2.permitsDataPlane = true) :
    ∃ monotonic binding ticket, reading = some monotonic ∧
      Permitted (Lib.Run.trace hostGateStep .new ops) (Lib.Run.exec hostGateStep .new ops)
        monotonic ((Lib.Run.exec hostGateStep .new ops).snapshot reading).2.trustedNowEpoch binding
        ticket := by
  have hist := hostRun_installed ops
  generalize Lib.Run.exec hostGateStep .new ops = gate at permits hist ⊢
  obtain ⟨leaseGate, monotonic, epoch, anchored, rfl, derives, served⟩ :=
    HostDataPlaneAuthorizationGate.snapshot_permits permits
  obtain ⟨before, binding, since, same, installed⟩ := hist leaseGate anchored.leaseGate
  have evaluates := leaseGate.evaluateLocked_evaluates epoch
  obtain ⟨-, live, ticket, cur, win, -⟩ := evaluates.permits served
  have hin := UsageLeaseGate.withinWindow_iff.mp win
  obtain ⟨accepted, bound⟩ := installed.held ticket (evaluates.held (.inl cur))
  have unclosed : ∀ entry ∈ since, entry.1.closes = false := by
    intro entry mem
    by_contra closes
    have closed := installed.closed ⟨entry, mem, Bool.not_eq_false _ ▸ closes⟩
    rw [evaluates.was_open live] at closed
    cases closed
  refine ⟨monotonic, binding, ticket, rfl, ?_⟩
  rw [anchored.snapshot_eq derives]
  exact
    { installed := ⟨before, since, same,
        fun entry mem => ⟨installed.kept entry mem, unclosed entry mem⟩,
        installed.anchor anchored.anchored, accepted⟩
      valid := installed.valid
      bound := bound
      anchored := derives.notBefore
      derived := derives.epoch_eq
      fits := by
        intro small
        have fits := derives.fits
        have derived := derives.epoch_eq
        change epoch ≤ kMaximumEpoch
        omega
      starts := hin.1
      ends := hin.2 }

/-- In every run, a permission goes back to the binding installed last, to the anchor of
    the ticket accepted last and to the window of an accepted ticket; and once the
    clock or the trusted epoch was seen to go back, nothing is permitted until a
    binding is installed. -/
theorem permission_is_fail_closed (ops : List HostGateOp) :
    (∀ reading,
      ((Lib.Run.exec hostGateStep .new ops).snapshot reading).2.permitsDataPlane = true →
      ∃ monotonic binding ticket, reading = some monotonic ∧
        Permitted (Lib.Run.trace hostGateStep .new ops) (Lib.Run.exec hostGateStep .new ops)
          monotonic ((Lib.Run.exec hostGateStep .new ops).snapshot reading).2.trustedNowEpoch
          binding ticket) ∧
    (∀ op later, (Lib.Run.exec hostGateStep .new ops).SeesRollback op →
      (∀ other ∈ later, ∀ binding, other ≠ .install binding) →
      ∀ reading, ((Lib.Run.exec hostGateStep .new (ops ++ op :: later)).snapshot
        reading).2.permitsDataPlane = false) := by
  refine ⟨fun reading permits => permitted_of_snapshot permits, ?_⟩
  intro op later sees keeps reading
  have closed := HostDataPlaneAuthorizationGate.closed_of_sees op sees
  rw [Lib.Run.exec_append, Lib.Run.exec_cons]
  exact (closed.exec keeps).permits reading

/-- A binding is installed and a first lease accepted at epoch 1000. -/
def servedRun : List HostGateOp :=
  [.install sessionBinding,
    .submit (sessionLease 0 1000 1000 1010 kEmptyPreviousTicketSha256 (List.replicate 64 97)) 1000
      (some 100900)]

/-- The run permits nine seconds later, and a reading before the anchor ends that. -/
theorem served_run_permits_until_rollback :
    ((Lib.Run.exec hostGateStep .new servedRun).snapshot (some 109900)).2.permitsDataPlane = true ∧
      (∃ monotonic binding ticket, some 109900 = some monotonic ∧
        Permitted (Lib.Run.trace hostGateStep .new servedRun)
          (Lib.Run.exec hostGateStep .new servedRun) monotonic 1009 binding ticket) ∧
      ((Lib.Run.exec hostGateStep .new (servedRun ++ [.snapshot (some 100899), .stop])).snapshot
        (some 109900)).2.permitsDataPlane = false := by
  have permits : ((Lib.Run.exec hostGateStep .new servedRun).snapshot
      (some 109900)).2.permitsDataPlane = true := by decide
  have closed := permission_is_fail_closed servedRun
  refine ⟨permits, closed.1 (some 109900) permits, closed.2 (.snapshot (some 100899)) [.stop] ?_ ?_
    (some 109900)⟩
  · exact ⟨by decide, 100899, rfl, .inl (by decide)⟩
  · intro other member binding same
    rw [List.mem_singleton.mp member] at same
    cases same

/-- A ticket without a trusted epoch is refused before the clock is read: its epoch is
    below the derived one, and the gate goes on permitting. -/
theorem zero_epoch_keeps_permission :
    let gate := Lib.Run.exec hostGateStep .new servedRun
    let ticket := sessionLease 1 1000 1010 1020 (List.replicate 64 97) (List.replicate 64 98)
    gate.trustedTimeAnchored = true ∧
      (gate.deriveTrustedNowLocked (some 101900)).2 = some 1001 ∧
      (gate.submitVerifiedTicket ticket 0 (some 101900)).2 = .rejectedGateClosed ∧
      ((Lib.Run.exec hostGateStep .new
        (servedRun ++ [.submit ticket 0 (some 101900)])).snapshot
          (some 102900)).2.permitsDataPlane = true := by
  decide

end VisionForge.HostAuthorization
