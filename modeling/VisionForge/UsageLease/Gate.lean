import VisionForge.Lib.Run
import VisionForge.UsageLease.Contract

/-! # The usage-lease gate of the Host

The fail-closed semantic gate for verified leases: one current ticket, at most one
staged successor and the last trusted epoch. Every public operation holds the
gate's mutex, so a run is a sequence of operations. Each operation is followed by
the lemma that says everything it can do; later proofs use only those lemmas.
-/

namespace VisionForge.UsageLease

open Lib.Ascii

inductive UsageLeaseAdmission where
  | acceptedCurrent
  | stagedFuture
  | acceptedIdempotent
  | rejectedGateClosed
  | rejectedClaims
  | rejectedBinding
  | rejectedTime
  | rejectedSequence
  | rejectedPreviousTicket
  | rejectedOverlap
  | rejectedGap
  | rejectedFutureCapacity
  deriving DecidableEq

/-- The ticket was stored, as the current or as the staged one. -/
def UsageLeaseAdmission.stores : UsageLeaseAdmission → Bool
  | .acceptedCurrent | .stagedFuture => true
  | _ => false

inductive UsageLeaseGateState where
  | invalidBinding
  | empty
  | active
  | stopped
  | revoked
  | expired
  | trustedTimeRollback
  deriving DecidableEq

structure UsageLeaseGateSnapshot where
  state : UsageLeaseGateState := .empty
  permitsDataPlane : Bool := false
  futureTicketStaged : Bool := false
  currentTicketSha256 : Bytes := []
  futureTicketSha256 : Bytes := []
  sequence : Nat := 0
  notBeforeEpoch : Nat := 0
  expiresAtEpoch : Nat := 0
  deriving DecidableEq

/-- Stored tickets have the two members of a verified lease. -/
abbrev StoredLease := VerifiedUsageLease

structure UsageLeaseGate where
  binding : UsageLeaseBinding
  state : UsageLeaseGateState
  current : Option StoredLease
  future : Option StoredLease
  lastTrustedNowEpoch : Nat
  deriving DecidableEq

def terminal (state : UsageLeaseGateState) : Bool :=
  state == .invalidBinding || state == .stopped || state == .revoked ||
    state == .trustedTimeRollback

def kMaximumSequence : Nat := 2 ^ 64 - 1

namespace UsageLeaseGate

def new (binding : UsageLeaseBinding) : UsageLeaseGate where
  binding := binding
  state := if bindingValid binding then .empty else .invalidBinding
  current := none
  future := none
  lastTrustedNowEpoch := 0

variable (gate : UsageLeaseGate)

def closeLocked (state : UsageLeaseGateState) : UsageLeaseGate :=
  { gate with current := none, future := none, state := state }

/-- A staged ticket becomes the chain head even when its own window is over. -/
def expireLocked : UsageLeaseGate :=
  match gate.future with
  | some future => { gate with current := some future, future := none, state := .expired }
  | none => { gate with state := .expired }

def stateOnlySnapshot : UsageLeaseGateSnapshot := { state := gate.state }

def currentSnapshot (permitsDataPlane futureTicketStaged : Bool) : UsageLeaseGateSnapshot :=
  { state := gate.state
    permitsDataPlane := permitsDataPlane
    futureTicketStaged := futureTicketStaged
    currentTicketSha256 := (gate.current.map (·.ticketSha256)).getD []
    futureTicketSha256 := (gate.future.map (·.ticketSha256)).getD []
    sequence := (gate.current.map (·.claims.sequence)).getD 0
    notBeforeEpoch := (gate.current.map (·.claims.notBeforeEpoch)).getD 0
    expiresAtEpoch := (gate.current.map (·.claims.expiresAtEpoch)).getD 0 }

def withinWindow (ticket : VerifiedUsageLease) (now : Nat) : Bool :=
  decide (ticket.claims.notBeforeEpoch ≤ now) && decide (now < ticket.claims.expiresAtEpoch)

/-- The part of `evaluateLocked` that runs on an active gate with a current ticket,
    after the trusted epoch has been recorded. -/
def evaluateActive (current : StoredLease) (now : Nat) : UsageLeaseGate × UsageLeaseGateSnapshot :=
  if current.claims.expiresAtEpoch ≤ now then
    match gate.future with
    | some future =>
      if future.claims.notBeforeEpoch ≤ now ∧ now < future.claims.expiresAtEpoch then
        let promoted := { gate with current := some future, future := none }
        (promoted, promoted.currentSnapshot (withinWindow future now) false)
      else
        (gate.expireLocked, gate.expireLocked.currentSnapshot false false)
    | none => (gate.expireLocked, gate.expireLocked.currentSnapshot false false)
  else
    (gate, gate.currentSnapshot (withinWindow current now) gate.future.isSome)

def evaluateLocked (now : Nat) : UsageLeaseGate × UsageLeaseGateSnapshot :=
  if terminal gate.state then
    (gate, gate.stateOnlySnapshot)
  else if now = 0 then
    if gate.lastTrustedNowEpoch ≠ 0 then
      let closed := gate.closeLocked .trustedTimeRollback
      (closed, closed.stateOnlySnapshot)
    else
      (gate, gate.stateOnlySnapshot)
  else if gate.lastTrustedNowEpoch ≠ 0 ∧ now < gate.lastTrustedNowEpoch then
    let closed := gate.closeLocked .trustedTimeRollback
    (closed, closed.stateOnlySnapshot)
  else
    let observed := { gate with lastTrustedNowEpoch := now }
    match observed.state, observed.current with
    | .expired, some _ => (observed, observed.currentSnapshot false false)
    | .active, some current => observed.evaluateActive current now
    | _, _ => (observed, observed.stateOnlySnapshot)

/-- The first ticket of a session, offered to an empty gate. -/
def submitInitial (ticket : VerifiedUsageLease) (now : Nat) :
    UsageLeaseGate × UsageLeaseAdmission :=
  let claims := ticket.claims
  if claims.sequence ≠ 0 then
    (gate, .rejectedSequence)
  else if claims.previousTicketSha256 ≠ kEmptyPreviousTicketSha256 then
    (gate, .rejectedPreviousTicket)
  else if claims.expiresAtEpoch ≤ now ∨
      (now < claims.notBeforeEpoch ∧
        kUsageLeaseServerAheadGraceSeconds < claims.notBeforeEpoch - now) then
    (gate, .rejectedTime)
  else
    ({ gate with current := some ticket, state := .active },
      if now < claims.notBeforeEpoch then .stagedFuture else .acceptedCurrent)

/-- A ticket that has to continue the chain of `current`. -/
def submitSuccessor (current : StoredLease) (ticket : VerifiedUsageLease) (now : Nat) :
    UsageLeaseGate × UsageLeaseAdmission :=
  let claims := ticket.claims
  if current.claims.sequence = kMaximumSequence ∨
      claims.sequence ≠ current.claims.sequence + 1 then
    (gate, .rejectedSequence)
  else if claims.previousTicketSha256 ≠ current.ticketSha256 then
    (gate, .rejectedPreviousTicket)
  else if claims.notBeforeEpoch < current.claims.expiresAtEpoch then
    (gate, .rejectedOverlap)
  else if gate.state = .expired then
    if now < claims.notBeforeEpoch ∨ claims.expiresAtEpoch ≤ now then
      (gate, .rejectedTime)
    else
      ({ gate with current := some ticket, state := .active }, .acceptedCurrent)
  else if gate.future.isSome then
    (gate, .rejectedFutureCapacity)
  else if current.claims.expiresAtEpoch < claims.notBeforeEpoch then
    (gate, .rejectedGap)
  else if claims.notBeforeEpoch ≤ now then
    (gate, .rejectedTime)
  else
    ({ gate with future := some ticket }, .stagedFuture)

def submitVerifiedTicket (ticket : VerifiedUsageLease) (now : Nat) :
    UsageLeaseGate × UsageLeaseAdmission :=
  let gate := (gate.evaluateLocked now).1
  if terminal gate.state then
    (gate, .rejectedGateClosed)
  else if !claimsValid ticket now then
    (gate, .rejectedClaims)
  else if !bindingMatches gate.binding ticket.claims then
    (gate, .rejectedBinding)
  else if gate.state = .empty then
    gate.submitInitial ticket now
  else
    match gate.current with
    | none => (gate, .rejectedGateClosed)
    | some current =>
      if ticket = current then
        (gate, .acceptedIdempotent)
      else if gate.future = some ticket then
        (gate, .acceptedIdempotent)
      else
        gate.submitSuccessor current ticket now

def evaluate (now : Nat) : UsageLeaseGate × UsageLeaseGateSnapshot :=
  gate.evaluateLocked now

def stop : UsageLeaseGate :=
  if gate.state ≠ .revoked then gate.closeLocked .stopped else gate

def revoke : UsageLeaseGate := gate.closeLocked .revoked

/-- Everything one evaluation can do to a gate, with the snapshot it reports. -/
inductive Evaluates (gate : UsageLeaseGate) (now : Nat) :
    UsageLeaseGate → UsageLeaseGateSnapshot → Prop where
  | closed : terminal gate.state = true → Evaluates gate now gate gate.stateOnlySnapshot
  | rollback : terminal gate.state = false → now < gate.lastTrustedNowEpoch →
      Evaluates gate now (gate.closeLocked .trustedTimeRollback)
        (gate.closeLocked .trustedTimeRollback).stateOnlySnapshot
  | untimed : terminal gate.state = false → gate.lastTrustedNowEpoch = 0 → now = 0 →
      Evaluates gate now gate gate.stateOnlySnapshot
  | idle {snapshot : UsageLeaseGateSnapshot} : terminal gate.state = false → 0 < now →
      gate.lastTrustedNowEpoch ≤ now → (gate.state ≠ .active ∨ gate.current = none) →
      snapshot.state = gate.state → snapshot.permitsDataPlane = false →
      Evaluates gate now { gate with lastTrustedNowEpoch := now } snapshot
  | holds {current : StoredLease} : gate.state = .active → 0 < now →
      gate.lastTrustedNowEpoch ≤ now → gate.current = some current →
      now < current.claims.expiresAtEpoch →
      Evaluates gate now { gate with lastTrustedNowEpoch := now }
        ({ gate with lastTrustedNowEpoch := now }.currentSnapshot (withinWindow current now)
          gate.future.isSome)
  | promotes {current future : StoredLease} : gate.state = .active → 0 < now →
      gate.lastTrustedNowEpoch ≤ now → gate.current = some current →
      current.claims.expiresAtEpoch ≤ now → gate.future = some future →
      withinWindow future now = true →
      Evaluates gate now
        { gate with lastTrustedNowEpoch := now, current := some future, future := none }
        ({ gate with lastTrustedNowEpoch := now, current := some future, future := none
          }.currentSnapshot true false)
  | expires {current head : StoredLease} {snapshot : UsageLeaseGateSnapshot} :
      gate.state = .active → 0 < now →
      gate.lastTrustedNowEpoch ≤ now → gate.current = some current →
      current.claims.expiresAtEpoch ≤ now → gate.future.getD current = head →
      (∀ future, gate.future = some future → withinWindow future now = false) →
      snapshot.state = .expired → snapshot.permitsDataPlane = false →
      Evaluates gate now
        { gate with
          lastTrustedNowEpoch := now, current := some head, future := none, state := .expired }
        snapshot

theorem evaluateActive_evaluates {gate : UsageLeaseGate} {cur : StoredLease} {now : Nat}
    (on : gate.state = .active) (pos : 0 < now) (later : gate.lastTrustedNowEpoch ≤ now)
    (held : gate.current = some cur) :
    Evaluates gate now ({ gate with lastTrustedNowEpoch := now }.evaluateActive cur now).1
      ({ gate with lastTrustedNowEpoch := now }.evaluateActive cur now).2 := by
  unfold evaluateActive
  by_cases isOver : cur.claims.expiresAtEpoch ≤ now
  · cases staged : gate.future with
    | none =>
      obtain ⟨binding, state, held', staged', last⟩ := gate
      subst held staged
      simp only [if_pos isOver, expireLocked]
      exact .expires on pos later rfl isOver rfl (fun _ none => by simp at none) rfl rfl
    | some future =>
      by_cases due : withinWindow future now = true
      · have win := due
        simp only [withinWindow, Bool.and_eq_true, decide_eq_true_eq] at win
        simp only [if_pos isOver, if_pos win, due]
        exact .promotes on pos later held isOver staged due
      · have win : ¬(future.claims.notBeforeEpoch ≤ now ∧
            now < future.claims.expiresAtEpoch) := by
          simpa only [withinWindow, Bool.and_eq_true, decide_eq_true_eq] using due
        simp only [if_pos isOver, if_neg win, expireLocked]
        refine .expires on pos later held isOver (by simp [staged]) ?_ rfl rfl
        intro other isStaged
        rw [staged, Option.some.injEq] at isStaged
        exact isStaged ▸ Bool.eq_false_iff.mpr due
  · simp only [if_neg isOver]
    exact .holds on pos later held (Nat.not_le.mp isOver)

theorem evaluateLocked_evaluates (now : Nat) :
    Evaluates gate now (gate.evaluateLocked now).1 (gate.evaluateLocked now).2 := by
  unfold evaluateLocked
  by_cases closed : terminal gate.state = true
  · simp only [if_pos closed]
    exact .closed closed
  · have live : terminal gate.state = false := Bool.eq_false_iff.mpr closed
    simp only [if_neg closed]
    by_cases zero : now = 0
    · simp only [if_pos zero]
      by_cases seen : gate.lastTrustedNowEpoch = 0
      · simp only [seen, ne_eq, not_true_eq_false, if_false]
        exact .untimed live seen zero
      · simp only [ne_eq, seen, not_false_eq_true, if_true]
        exact .rollback live (by omega)
    · have pos : 0 < now := Nat.pos_of_ne_zero zero
      simp only [if_neg zero]
      by_cases back : gate.lastTrustedNowEpoch ≠ 0 ∧ now < gate.lastTrustedNowEpoch
      · simp only [if_pos back]
        exact .rollback live back.2
      · have later : gate.lastTrustedNowEpoch ≤ now := by omega
        simp only [if_neg back]
        obtain ⟨binding, state, cur, future, last⟩ := gate
        cases cur with
        | none => cases state <;> exact .idle live pos later (.inr rfl) rfl rfl
        | some cur =>
          cases state with
          | active => exact evaluateActive_evaluates rfl pos later rfl
          | _ => exact .idle live pos later (.inl (by simp)) rfl rfl

/-- Everything one submission can do. It always evaluates the gate first; only the
    last three cases store the ticket. -/
inductive Submits (gate : UsageLeaseGate) (ticket : VerifiedUsageLease) (now : Nat) :
    UsageLeaseGate → UsageLeaseAdmission → Prop where
  | keeps {admission : UsageLeaseAdmission} : admission.stores = false →
      (admission ≠ .rejectedGateClosed → terminal (gate.evaluateLocked now).1.state = false) →
      Submits gate ticket now (gate.evaluateLocked now).1 admission
  | initial {admission : UsageLeaseAdmission} : admission.stores = true →
      (gate.evaluateLocked now).1.state = .empty → ClaimsValid ticket now →
      ticket.claims.binding = (gate.evaluateLocked now).1.binding → leaseChain.Genesis ticket →
      Submits gate ticket now
        { (gate.evaluateLocked now).1 with current := some ticket, state := .active } admission
  | replaces {current : StoredLease} :
      (gate.evaluateLocked now).1.state = .expired →
      (gate.evaluateLocked now).1.current = some current → ClaimsValid ticket now →
      ticket.claims.binding = (gate.evaluateLocked now).1.binding →
      leaseChain.Follows current ticket →
      Submits gate ticket now
        { (gate.evaluateLocked now).1 with current := some ticket, state := .active }
        .acceptedCurrent
  | stages {current : StoredLease} :
      terminal (gate.evaluateLocked now).1.state = false →
      (gate.evaluateLocked now).1.state ≠ .empty → (gate.evaluateLocked now).1.state ≠ .expired →
      (gate.evaluateLocked now).1.current = some current →
      (gate.evaluateLocked now).1.future = none → ClaimsValid ticket now →
      ticket.claims.binding = (gate.evaluateLocked now).1.binding →
      leaseChain.Follows current ticket →
      ticket.claims.notBeforeEpoch = current.claims.expiresAtEpoch →
      Submits gate ticket now { (gate.evaluateLocked now).1 with future := some ticket }
        .stagedFuture

theorem submitVerifiedTicket_submits (ticket : VerifiedUsageLease) (now : Nat) :
    Submits gate ticket now (gate.submitVerifiedTicket ticket now).1
      (gate.submitVerifiedTicket ticket now).2 := by
  unfold submitVerifiedTicket
  by_cases closed : terminal (gate.evaluateLocked now).1.state = true
  · simp only [if_pos closed]
    exact .keeps rfl (fun notClosed => absurd rfl notClosed)
  have live : terminal (gate.evaluateLocked now).1.state = false := Bool.eq_false_iff.mpr closed
  simp only [if_neg closed]
  by_cases valid : claimsValid ticket now = true
  swap
  · simp only [valid, Bool.not_false, if_true]
    exact .keeps rfl (fun _ => live)
  by_cases bound : bindingMatches (gate.evaluateLocked now).1.binding ticket.claims = true
  swap
  · simp only [valid, bound, Bool.not_true, Bool.not_false, Bool.false_eq_true, if_false, if_true]
    exact .keeps rfl (fun _ => live)
  simp only [valid, bound, Bool.not_true, Bool.false_eq_true, if_false]
  have claims := claimsValid_iff.mp valid
  have binding := bindingMatches_iff.mp bound
  by_cases empty : (gate.evaluateLocked now).1.state = .empty
  · simp only [if_pos empty, submitInitial]
    split
    · exact .keeps rfl (fun _ => live)
    split
    · exact .keeps rfl (fun _ => live)
    split
    · exact .keeps rfl (fun _ => live)
    rename_i seq previous _
    exact .initial (by split <;> rfl) empty claims binding
      ⟨not_not.mp seq, not_not.mp previous⟩
  simp only [if_neg empty]
  cases held : (gate.evaluateLocked now).1.current with
  | none => exact .keeps rfl (fun _ => live)
  | some cur =>
    simp only
    split
    · exact .keeps rfl (fun _ => live)
    split
    · exact .keeps rfl (fun _ => live)
    simp only [submitSuccessor]
    split
    · exact .keeps rfl (fun _ => live)
    split
    · exact .keeps rfl (fun _ => live)
    split
    · exact .keeps rfl (fun _ => live)
    rename_i seq previous windows
    have follows : leaseChain.Follows cur ticket :=
      ⟨not_not.mp (not_or.mp seq).2, not_not.mp previous, not_lt.mp windows⟩
    split
    · rename_i expired
      split
      · exact .keeps rfl (fun _ => live)
      · exact .replaces expired held claims binding follows
    rename_i expired
    split
    · exact .keeps rfl (fun _ => live)
    split
    · exact .keeps rfl (fun _ => live)
    split
    · exact .keeps rfl (fun _ => live)
    rename_i free gap _
    exact .stages live empty expired held (by simpa using free) claims binding follows
      (le_antisymm (not_lt.mp gap) follows.windows)

end UsageLeaseGate

inductive GateOp where
  | submit (ticket : VerifiedUsageLease) (trustedNowEpoch : Nat)
  | evaluate (trustedNowEpoch : Nat)
  | stop
  | revoke
  deriving DecidableEq

inductive GateAnswer where
  | admission (admission : UsageLeaseAdmission)
  | snapshot (snapshot : UsageLeaseGateSnapshot)
  | done
  deriving DecidableEq

def gateStep (gate : UsageLeaseGate) : GateOp → UsageLeaseGate × GateAnswer
  | .submit ticket now =>
    ((gate.submitVerifiedTicket ticket now).1, .admission (gate.submitVerifiedTicket ticket now).2)
  | .evaluate now => ((gate.evaluate now).1, .snapshot (gate.evaluate now).2)
  | .stop => (gate.stop, .done)
  | .revoke => (gate.revoke, .done)

/-- The trusted epoch an operation supplies, if it takes one. -/
def GateOp.epoch : GateOp → Option Nat
  | .submit _ now => some now
  | .evaluate now => some now
  | .stop => none
  | .revoke => none

end VisionForge.UsageLease
