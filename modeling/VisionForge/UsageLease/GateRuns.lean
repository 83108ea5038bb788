import Mathlib.Data.Finset.Basic
import VisionForge.UsageLease.Gate

/-! # Runs of the usage-lease gate

The invariant ties the three stored pieces of the gate to its history: the stored
tickets form one linked chain, the gate holds the end of that chain, and while the
gate is not closed the trusted epochs never went back. Safety of permission and the
chain law both follow from it.
-/

namespace VisionForge.UsageLease

open Lib.Ascii Lib.HashChain

abbrev GateHistory := List (GateOp × GateAnswer)

/-- The trusted epochs supplied in a history, in order. -/
def trustedEpochs (hist : GateHistory) : List Nat :=
  hist.filterMap (fun entry => entry.1.epoch)

def storedTicket : GateOp × GateAnswer → Option VerifiedUsageLease
  | (.submit ticket _, .admission admission) => if admission.stores then some ticket else none
  | _ => none

/-- Tickets answered `acceptedCurrent` or `stagedFuture`, in acceptance order. -/
def storedTickets (hist : GateHistory) : List VerifiedUsageLease :=
  hist.filterMap storedTicket

/-- The epoch at which an answered operation reported an open data plane. -/
def permittedEpoch : GateOp × GateAnswer → Option Nat
  | (.evaluate now, .snapshot snapshot) => if snapshot.permitsDataPlane then some now else none
  | _ => none

def permittedEpochs (hist : GateHistory) : Finset Nat := (hist.filterMap permittedEpoch).toFinset

/-- The gate holds the end of the chain of stored tickets. -/
inductive HoldsEnd : List VerifiedUsageLease → UsageLeaseGateState → Option StoredLease →
    Option StoredLease → Prop where
  | empty : HoldsEnd [] .empty none none
  | single {front current state} : state = .active ∨ state = .expired →
      HoldsEnd (front ++ [current]) state (some current) none
  | staged {front current future} :
      future.claims.notBeforeEpoch = current.claims.expiresAtEpoch →
      HoldsEnd (front ++ [current] ++ [future]) .active (some current) (some future)

/-- What a gate that is not closed remembers about its history. -/
structure Open (history : GateHistory) (gate : UsageLeaseGate) : Prop where
  notStopped : GateOp.stop ∉ history.map Prod.fst
  notRevoked : GateOp.revoke ∉ history.map Prod.fst
  ordered : (trustedEpochs history).Pairwise (· ≤ ·)
  latest : ∀ epoch ∈ trustedEpochs history, epoch ≤ gate.lastTrustedNowEpoch
  holds : HoldsEnd (storedTickets history) gate.state gate.current gate.future

structure GateInvariant (binding : UsageLeaseBinding) (history : GateHistory)
    (gate : UsageLeaseGate) : Prop where
  bound : gate.binding = binding
  linked : Linked leaseChain (storedTickets history)
  admitted : ∀ ticket ∈ storedTickets history, ∃ now,
    GateOp.submit ticket now ∈ history.map Prod.fst ∧ ClaimsValid ticket now ∧
      ticket.claims.binding = binding
  covered : ∀ now ∈ permittedEpochs history, ∃ ticket ∈ storedTickets history,
    ticket.claims.notBeforeEpoch ≤ now ∧ now < ticket.claims.expiresAtEpoch
  notClosed : terminal gate.state = false → Open history gate

namespace UsageLeaseGate

variable {gate next : UsageLeaseGate} {now : Nat} {snapshot : UsageLeaseGateSnapshot}

theorem Evaluates.binding_eq (h : Evaluates gate now next snapshot) :
    next.binding = gate.binding := by
  cases h <;> rfl

theorem Evaluates.was_open (h : Evaluates gate now next snapshot)
    (still : terminal next.state = false) : terminal gate.state = false := by
  cases h with
  | closed closed => exact absurd still (by simp [closed])
  | rollback live _ => exact live
  | untimed live => exact live
  | idle live => exact live
  | holds on => rw [on]; rfl
  | promotes on => rw [on]; rfl
  | expires on => rw [on]; rfl

/-- A gate that survives an evaluation has recorded an epoch that did not go back. -/
theorem Evaluates.clock (h : Evaluates gate now next snapshot)
    (still : terminal next.state = false) :
    gate.lastTrustedNowEpoch ≤ now ∧ next.lastTrustedNowEpoch = now := by
  cases h with
  | closed closed => exact absurd still (by simp [closed])
  | rollback => exact absurd still (by simp [closeLocked, terminal])
  | untimed _ unseen zero => rw [unseen, zero]; exact ⟨le_rfl, rfl⟩
  | idle _ _ later => exact ⟨later, rfl⟩
  | holds _ _ later => exact ⟨later, rfl⟩
  | promotes _ _ later => exact ⟨later, rfl⟩
  | expires _ _ later => exact ⟨later, rfl⟩

variable {tickets : List VerifiedUsageLease}

theorem Evaluates.holdsEnd (h : Evaluates gate now next snapshot)
    (still : terminal next.state = false)
    (holds : HoldsEnd tickets gate.state gate.current gate.future) :
    HoldsEnd tickets next.state next.current next.future := by
  cases h with
  | closed | untimed | idle | holds => exact holds
  | rollback => exact absurd still (by simp [closeLocked, terminal])
  | promotes on _ _ held _ staged _ =>
    rw [on, held, staged] at holds
    cases holds
    simp only [on]
    exact .single (.inl rfl)
  | expires on _ _ held _ head _ _ _ =>
    rw [on, held] at holds
    cases staged : gate.future with
    | none =>
      rw [staged] at holds head
      cases holds
      exact head ▸ .single (.inr rfl)
    | some future =>
      rw [staged] at holds head
      cases holds
      exact head ▸ .single (.inr rfl)

/-- Permission is reported for the ticket the gate then holds, inside its window. -/
theorem Evaluates.permits (h : Evaluates gate now next snapshot)
    (permits : snapshot.permitsDataPlane = true) :
    0 < now ∧ terminal next.state = false ∧ ∃ cur, next.current = some cur ∧
      withinWindow cur now = true ∧ snapshot.currentTicketSha256 = cur.ticketSha256 ∧
      snapshot.sequence = cur.claims.sequence ∧
      snapshot.notBeforeEpoch = cur.claims.notBeforeEpoch ∧
      snapshot.expiresAtEpoch = cur.claims.expiresAtEpoch := by
  cases h with
  | closed | rollback | untimed => simp [stateOnlySnapshot] at permits
  | idle _ _ _ _ _ closed => simp [closed] at permits
  | expires _ _ _ _ _ _ _ _ closed => simp [closed] at permits
  | @holds cur on pos _ held _ =>
    refine ⟨pos, by simp [on, terminal], cur, held, permits, ?_⟩
    simp [currentSnapshot, held]
  | @promotes cur future on pos _ _ _ _ due =>
    refine ⟨pos, by simp [on, terminal], future, rfl, due, ?_⟩
    simp [currentSnapshot]

theorem withinWindow_iff {ticket : VerifiedUsageLease} :
    withinWindow ticket now = true ↔
      ticket.claims.notBeforeEpoch ≤ now ∧ now < ticket.claims.expiresAtEpoch := by
  simp only [withinWindow, Bool.and_eq_true, decide_eq_true_eq]

end UsageLeaseGate

theorem HoldsEnd.current_mem {state : UsageLeaseGateState} {current : StoredLease}
    {future : Option StoredLease} (h : HoldsEnd tickets state (some current) future) :
    current ∈ tickets := by
  cases h <;> simp

theorem HoldsEnd.of_empty {cur future : Option StoredLease}
    (h : HoldsEnd tickets .empty cur future) : tickets = [] ∧ future = none := by
  cases h with
  | empty => exact ⟨rfl, rfl⟩
  | single states => simp at states

theorem HoldsEnd.of_expired {cur : StoredLease} {future : Option StoredLease}
    (h : HoldsEnd tickets .expired (some cur) future) :
    tickets.getLast? = some cur ∧ future = none := by
  cases h
  simp

theorem HoldsEnd.of_unstaged {state : UsageLeaseGateState} {cur : StoredLease}
    (h : HoldsEnd tickets state (some cur) none) (notExpired : state ≠ .expired) :
    ∃ front, tickets = front ++ [cur] ∧ state = .active := by
  cases h with
  | @single front _ _ states => exact ⟨front, rfl, states.resolve_right notExpired⟩

theorem HoldsEnd.of_staged {state : UsageLeaseGateState} {cur : Option StoredLease}
    {future : StoredLease} (h : HoldsEnd tickets state cur (some future)) :
    ∃ held, cur = some held ∧
      future.claims.notBeforeEpoch = held.claims.expiresAtEpoch := by
  cases h with
  | @staged _ held _ contiguous => exact ⟨held, rfl, contiguous⟩

section

variable {binding : UsageLeaseBinding} {hist : GateHistory} {gate next : UsageLeaseGate}
  {now : Nat}

theorem trustedEpochs_concat (entry : GateOp × GateAnswer) :
    trustedEpochs (hist ++ [entry]) = trustedEpochs hist ++ entry.1.epoch.toList := by
  simp only [trustedEpochs, List.filterMap_append]
  cases h : entry.1.epoch <;> simp [h]

theorem storedTickets_concat (entry : GateOp × GateAnswer) :
    storedTickets (hist ++ [entry]) = storedTickets hist ++ (storedTicket entry).toList := by
  simp only [storedTickets, List.filterMap_append]
  cases h : storedTicket entry <;> simp [h]

theorem mem_permittedEpochs_concat {entry : GateOp × GateAnswer} {epoch : Nat}
    (h : epoch ∈ permittedEpochs (hist ++ [entry])) :
    epoch ∈ permittedEpochs hist ∨ permittedEpoch entry = some epoch := by
  simp only [permittedEpochs, List.filterMap_append, List.mem_toFinset, List.mem_append] at h ⊢
  refine h.imp id fun inEntry => ?_
  simpa [List.mem_filterMap] using inEntry

/-- Appending one supplied epoch to an open history, once the evaluation accepted it. -/
theorem Open.observed (entry : GateOp × GateAnswer) {snapshot : UsageLeaseGateSnapshot}
    (invariant : GateInvariant binding hist gate)
    (run : gate.Evaluates now next snapshot) (still : terminal next.state = false)
    (epoch : entry.1.epoch = some now) :
    GateOp.stop ∉ (hist ++ [entry]).map Prod.fst ∧
      GateOp.revoke ∉ (hist ++ [entry]).map Prod.fst ∧
      (trustedEpochs (hist ++ [entry])).Pairwise (· ≤ ·) ∧
      ∀ e ∈ trustedEpochs (hist ++ [entry]), e ≤ next.lastTrustedNowEpoch := by
  have pre := invariant.notClosed (run.was_open still)
  obtain ⟨later, recorded⟩ := run.clock still
  have bounded : ∀ e ∈ trustedEpochs hist, e ≤ now := fun e he => (pre.latest e he).trans later
  have notStop : GateOp.stop ≠ entry.1 := by rintro isStop; simp [← isStop, GateOp.epoch] at epoch
  have notRevoke : GateOp.revoke ≠ entry.1 := by
    rintro isRevoke
    simp [← isRevoke, GateOp.epoch] at epoch
  rw [trustedEpochs_concat, epoch]
  refine ⟨?_, ?_, ?_, ?_⟩
  · simpa [notStop] using pre.notStopped
  · simpa [notRevoke] using pre.notRevoked
  · exact List.pairwise_append.mpr ⟨pre.ordered, List.pairwise_singleton _ _,
      fun e he f hf => by rw [List.mem_singleton.mp hf]; exact bounded e he⟩
  · intro e he
    rw [recorded]
    rcases List.mem_append.mp he with he | he
    · exact bounded e he
    · exact (List.mem_singleton.mp he).le

variable (invariant : GateInvariant binding hist gate)

include invariant

/-- An operation that supplies an epoch and stores no ticket. -/
theorem GateInvariant.observes (entry : GateOp × GateAnswer) (epoch : entry.1.epoch = some now)
    (keeps : storedTicket entry = none)
    (covers : ∀ permitted, permittedEpoch entry = some permitted → ∃ ticket ∈ storedTickets hist,
      ticket.claims.notBeforeEpoch ≤ permitted ∧ permitted < ticket.claims.expiresAtEpoch) :
    GateInvariant binding (hist ++ [entry]) (gate.evaluateLocked now).1 := by
  have run := gate.evaluateLocked_evaluates now
  have unchanged : storedTickets (hist ++ [entry]) = storedTickets hist := by
    rw [storedTickets_concat, keeps]
    exact List.append_nil _
  refine ⟨run.binding_eq.trans invariant.bound, unchanged ▸ invariant.linked, ?_, ?_, ?_⟩
  · intro ticket stored
    obtain ⟨at_, hsub, facts⟩ := invariant.admitted ticket (unchanged ▸ stored)
    exact ⟨at_, by simp [hsub], facts⟩
  · rw [unchanged]
    intro permitted isPermitted
    exact (mem_permittedEpochs_concat isPermitted).elim (invariant.covered permitted)
      (covers permitted)
  · intro still
    obtain ⟨notStopped, notRevoked, ordered, latest⟩ := Open.observed entry invariant run still epoch
    exact ⟨notStopped, notRevoked, ordered, latest,
      unchanged ▸ run.holdsEnd still (invariant.notClosed (run.was_open still)).holds⟩

theorem GateInvariant.evaluate (now : Nat) :
    GateInvariant binding (hist ++ [(.evaluate now, .snapshot (gate.evaluate now).2)])
      (gate.evaluate now).1 := by
  refine invariant.observes _ rfl rfl fun permitted here => ?_
  have run := gate.evaluateLocked_evaluates now
  simp only [permittedEpoch] at here
  split at here
  · obtain ⟨-, still, cur, held, win, -⟩ := run.permits ‹_›
    have holds := run.holdsEnd still (invariant.notClosed (run.was_open still)).holds
    rw [held] at holds
    cases here
    exact ⟨cur, holds.current_mem, UsageLeaseGate.withinWindow_iff.mp win⟩
  · cases here

theorem GateInvariant.submit_stored {ticket : VerifiedUsageLease} {admission : UsageLeaseAdmission}
    (stores : admission.stores = true) (still : terminal (gate.evaluateLocked now).1.state = false)
    (binding_eq : next.binding = (gate.evaluateLocked now).1.binding)
    (clock_eq : next.lastTrustedNowEpoch = (gate.evaluateLocked now).1.lastTrustedNowEpoch)
    (valid : ClaimsValid ticket now)
    (bound : ticket.claims.binding = (gate.evaluateLocked now).1.binding)
    (linked : Linked leaseChain (storedTickets hist ++ [ticket]))
    (holds : HoldsEnd (storedTickets hist ++ [ticket]) next.state next.current next.future) :
    GateInvariant binding (hist ++ [(.submit ticket now, .admission admission)]) next := by
  have run := gate.evaluateLocked_evaluates now
  have appended : storedTickets (hist ++ [(.submit ticket now, .admission admission)]) =
      storedTickets hist ++ [ticket] := by
    rw [storedTickets_concat]
    simp [storedTicket, stores]
  have sameBinding : (gate.evaluateLocked now).1.binding = binding :=
    run.binding_eq.trans invariant.bound
  refine ⟨binding_eq.trans sameBinding, appended ▸ linked, ?_, ?_, ?_⟩
  · rw [appended]
    intro other stored
    rcases List.mem_append.mp stored with old | here
    · obtain ⟨at_, hsub, facts⟩ := invariant.admitted other old
      exact ⟨at_, by simp [hsub], facts⟩
    · rw [List.mem_singleton.mp here]
      exact ⟨now, by simp, valid, bound.trans sameBinding⟩
  · rw [appended]
    intro epoch permitted
    rcases mem_permittedEpochs_concat permitted with old | here
    · obtain ⟨other, stored, win⟩ := invariant.covered epoch old
      exact ⟨other, List.mem_append_left _ stored, win⟩
    · cases here
  · intro _
    obtain ⟨notStopped, notRevoked, ordered, latest⟩ := Open.observed
      (.submit ticket now, .admission admission) invariant run still rfl
    exact ⟨notStopped, notRevoked, ordered, clock_eq ▸ latest, appended ▸ holds⟩

theorem GateInvariant.submit_kept {ticket : VerifiedUsageLease} {admission : UsageLeaseAdmission}
    (keeps : admission.stores = false) :
    GateInvariant binding (hist ++ [(.submit ticket now, .admission admission)])
      (gate.evaluateLocked now).1 :=
  invariant.observes _ rfl (by simp [storedTicket, keeps]) nofun

theorem GateInvariant.submit (ticket : VerifiedUsageLease) (now : Nat) :
    GateInvariant binding
      (hist ++ [(.submit ticket now, .admission (gate.submitVerifiedTicket ticket now).2)])
      (gate.submitVerifiedTicket ticket now).1 := by
  have run := gate.evaluateLocked_evaluates now
  have held : terminal (gate.evaluateLocked now).1.state = false →
      HoldsEnd (storedTickets hist) (gate.evaluateLocked now).1.state
        (gate.evaluateLocked now).1.current (gate.evaluateLocked now).1.future := fun still =>
    run.holdsEnd still (invariant.notClosed (run.was_open still)).holds
  have done := gate.submitVerifiedTicket_submits ticket now
  generalize gate.submitVerifiedTicket ticket now = res at done ⊢
  obtain ⟨next, admission⟩ := res
  cases done with
  | keeps keeps _ => exact invariant.submit_kept keeps
  | initial stores empty valid bound genesis =>
    have still : terminal (gate.evaluateLocked now).1.state = false := by rw [empty]; rfl
    obtain ⟨none, free⟩ := (empty ▸ held still : HoldsEnd _ .empty _ _).of_empty
    refine invariant.submit_stored stores still rfl rfl valid bound ?_ ?_
    · rw [none]
      exact .first genesis
    · rw [free]
      exact .single (.inl rfl)
  | @replaces cur expired holds valid bound follows =>
    have still : terminal (gate.evaluateLocked now).1.state = false := by rw [expired]; rfl
    obtain ⟨last, free⟩ := (expired ▸ holds ▸ held still : HoldsEnd _ .expired _ _).of_expired
    refine invariant.submit_stored rfl still rfl rfl valid bound ?_ ?_
    · exact invariant.linked.concat last follows
    · rw [free]
      exact .single (.inl rfl)
  | @stages cur still notEmpty notExpired holds free valid bound follows contiguous =>
    have ends := held still
    rw [holds, free] at ends
    obtain ⟨front, known, on⟩ := ends.of_unstaged notExpired
    refine invariant.submit_stored rfl still rfl rfl valid bound ?_ ?_
    · exact invariant.linked.concat (by rw [known]; simp) follows
    · rw [known, on, holds]
      exact .staged contiguous

theorem GateInvariant.close {op : GateOp} {ans : GateAnswer}
    (noTicket : storedTicket (op, ans) = none) (noPermit : permittedEpoch (op, ans) = none)
    (bound : next.binding = gate.binding) (closed : terminal next.state = true) :
    GateInvariant binding (hist ++ [(op, ans)]) next := by
  have unchanged : storedTickets (hist ++ [(op, ans)]) = storedTickets hist := by
    rw [storedTickets_concat, noTicket]
    exact List.append_nil _
  refine ⟨bound.trans invariant.bound, unchanged ▸ invariant.linked, ?_, ?_, ?_⟩
  · intro ticket stored
    obtain ⟨at_, hsub, facts⟩ := invariant.admitted ticket (unchanged ▸ stored)
    exact ⟨at_, by simp [hsub], facts⟩
  · rw [unchanged]
    intro epoch permitted
    rcases mem_permittedEpochs_concat permitted with old | here
    · exact invariant.covered epoch old
    · exact absurd here (by simp [noPermit])
  · intro still
    exact absurd still (by simp [closed])

theorem GateInvariant.step (op : GateOp) :
    GateInvariant binding (hist ++ [(op, (gateStep gate op).2)]) (gateStep gate op).1 := by
  cases op with
  | submit ticket now => exact invariant.submit ticket now
  | evaluate now => exact invariant.evaluate now
  | stop =>
    have closed : terminal gate.stop.state = true := by
      unfold UsageLeaseGate.stop
      split
      · rfl
      · rename_i revoked
        rw [not_not.mp revoked]
        rfl
    refine invariant.close rfl rfl ?_ closed
    change gate.stop.binding = gate.binding
    unfold UsageLeaseGate.stop
    split <;> rfl
  | revoke => exact invariant.close rfl rfl rfl rfl

end

theorem gateRun_invariant (binding : UsageLeaseBinding) (ops : List GateOp) :
    GateInvariant binding (Lib.Run.trace gateStep (.new binding) ops)
      (Lib.Run.exec gateStep (.new binding) ops) := by
  refine Lib.Run.history_invariant gateStep ?_ (fun _ _ op kept => kept.step op) ops
  refine ⟨rfl, .nil, by simp [storedTickets], by simp [permittedEpochs], ?_⟩
  intro still
  have empty : (UsageLeaseGate.new binding).state = .empty := by
    unfold UsageLeaseGate.new at still ⊢
    by_cases valid : bindingValid binding = true
    · simp [valid]
    · simp [valid, terminal] at still
  refine ⟨by simp, by simp, .nil, by simp [trustedEpochs], ?_⟩
  rw [empty]
  exact .empty

/-- An evaluation that reports an open data plane, anywhere in a run, was reached
    without a stop, a revocation or an epoch going back, and reports a ticket that
    was admitted earlier in the run and is inside its window. -/
theorem permitted_evaluation_is_safe (binding : UsageLeaseBinding) (ops : List GateOp)
    (before after : GateHistory) (t : Nat) (snapshot : UsageLeaseGateSnapshot)
    (run : Lib.Run.trace gateStep (.new binding) ops =
      before ++ (.evaluate t, .snapshot snapshot) :: after)
    (permits : snapshot.permitsDataPlane = true) :
    t ≠ 0 ∧ (∀ epoch ∈ trustedEpochs before, epoch ≤ t) ∧
      GateOp.stop ∉ before.map Prod.fst ∧ GateOp.revoke ∉ before.map Prod.fst ∧
      (trustedEpochs before).Pairwise (· ≤ ·) ∧
      ∃ ticket submittedAt, GateOp.submit ticket submittedAt ∈ before.map Prod.fst ∧
        claimsValid ticket submittedAt = true ∧ ticket.claims.binding = binding ∧
        snapshot.currentTicketSha256 = ticket.ticketSha256 ∧
        snapshot.sequence = ticket.claims.sequence ∧
        snapshot.notBeforeEpoch = ticket.claims.notBeforeEpoch ∧
        snapshot.expiresAtEpoch = ticket.claims.expiresAtEpoch ∧
        ticket.claims.notBeforeEpoch ≤ t ∧ t < ticket.claims.expiresAtEpoch ∧
        ticket.claims.expiresAtEpoch - ticket.claims.notBeforeEpoch ≤
          kMaximumUsageLeaseTtlSeconds := by
  obtain ⟨old, rfl, answer⟩ := Lib.Run.trace_split gateStep run
  have invariant := gateRun_invariant binding old
  generalize Lib.Run.exec gateStep (.new binding) old = gate at answer invariant
  have evaluates := gate.evaluateLocked_evaluates t
  have reported : snapshot = (gate.evaluateLocked t).2 := GateAnswer.snapshot.inj answer
  rw [← reported] at evaluates
  obtain ⟨pos, still, current, held, win, sha, sequence, starts, ends⟩ := evaluates.permits permits
  have notClosed := invariant.notClosed (evaluates.was_open still)
  have later := (evaluates.clock still).1
  have holds := evaluates.holdsEnd still notClosed.holds
  rw [held] at holds
  obtain ⟨submittedAt, submitted, valid, bound⟩ := invariant.admitted current holds.current_mem
  have inside := UsageLeaseGate.withinWindow_iff.mp win
  exact ⟨pos.ne', fun epoch supplied => (notClosed.latest epoch supplied).trans later,
    notClosed.notStopped, notClosed.notRevoked, notClosed.ordered, current, submittedAt, submitted,
    claimsValid_iff.mpr valid, bound, sha, sequence, starts, ends, inside.1, inside.2, valid.ttl⟩

/-- A peer binding of a session, with digits standing for the device identities. -/
def sessionBinding : UsageLeaseBinding where
  entitlementId := List.replicate 32 49
  pairId := List.replicate 32 50
  sessionId := List.replicate 32 51
  protocolVersion := kUsageLeaseProtocolVersion
  revocationVersion := 7
  hostKeySha256 := List.replicate 64 52
  androidKeySha256 := List.replicate 64 53
  channelBindingSha256 := List.replicate 64 54

/-- A lease of `sessionBinding`, issued at `issuedAt` and valid in `[notBefore, expiresAt)`. -/
def sessionLease (sequence issuedAt notBefore expiresAt : Nat) (previous ticketSha256 : Bytes) :
    VerifiedUsageLease where
  claims :=
    { type := kUsageLeaseType
      issuer := kUsageLeaseIssuer
      audience := kUsageLeaseAudience
      entitlementId := sessionBinding.entitlementId
      pairId := sessionBinding.pairId
      sessionId := sessionBinding.sessionId
      protocolVersion := sessionBinding.protocolVersion
      revocationVersion := sessionBinding.revocationVersion
      hostKeySha256 := sessionBinding.hostKeySha256
      androidKeySha256 := sessionBinding.androidKeySha256
      channelBindingSha256 := sessionBinding.channelBindingSha256
      previousTicketSha256 := previous
      sequence := sequence
      phase := kUsageLeaseActivePhase
      authorizationKind := ascii "day"
      isPermanent := false
      remainingSeconds := 100
      leaseId := List.replicate 32 55
      issuedAtEpoch := issuedAt
      notBeforeEpoch := notBefore
      expiresAtEpoch := expiresAt }
  ticketSha256 := ticketSha256

/-- A ticket submitted at 1000 still permits at 1009, one second before its end. -/
theorem permitted_at_last_second :
    (1009 : Nat) ≠ 0 ∧ ∃ ticket submittedAt,
      GateOp.submit ticket submittedAt ∈
        [GateOp.submit (sessionLease 0 1000 1000 1010 kEmptyPreviousTicketSha256
          (List.replicate 64 97)) 1000] ∧
      ticket.claims.binding = sessionBinding := by
  let first := sessionLease 0 1000 1000 1010 kEmptyPreviousTicketSha256 (List.replicate 64 97)
  have safe := permitted_evaluation_is_safe sessionBinding [.submit first 1000, .evaluate 1009]
    [(.submit first 1000, .admission .acceptedCurrent)] [] 1009
    { state := .active, permitsDataPlane := true, currentTicketSha256 := List.replicate 64 97
      notBeforeEpoch := 1000, expiresAtEpoch := 1010 } (by decide) rfl
  obtain ⟨nonzero, -, -, -, -, ticket, submittedAt, submitted, -, bound, -⟩ := safe
  exact ⟨nonzero, ticket, submittedAt, submitted, bound⟩

/-- The tickets a gate stores are numbered without gap or repeat, name their
    predecessor, occupy successive windows, and bound how often the gate can open. -/
theorem stored_tickets_form_one_chain (binding : UsageLeaseBinding) (ops : List GateOp) :
    let hist := Lib.Run.trace gateStep (.new binding) ops
    let gate := Lib.Run.exec gateStep (.new binding) ops
    let tickets := storedTickets hist
    (∀ i (ticket : VerifiedUsageLease), tickets[i]? = some ticket → ticket.claims.sequence = i) ∧
      tickets.Nodup ∧
      (∀ ticket : VerifiedUsageLease, tickets.head? = some ticket →
        ticket.claims.previousTicketSha256 = kEmptyPreviousTicketSha256) ∧
      (∀ i (ticket next : VerifiedUsageLease), tickets[i]? = some ticket →
        tickets[i + 1]? = some next →
        next.claims.previousTicketSha256 = ticket.ticketSha256) ∧
      (∀ ticket ∈ tickets, ticket.claims.notBeforeEpoch < ticket.claims.expiresAtEpoch) ∧
      tickets.Pairwise
        (fun old later => old.claims.expiresAtEpoch ≤ later.claims.notBeforeEpoch) ∧
      (gate.state = .active → ∀ future, gate.future = some future →
        ∃ current, gate.current = some current ∧
          future.claims.notBeforeEpoch = current.claims.expiresAtEpoch) ∧
      (permittedEpochs hist).card ≤ kMaximumUsageLeaseTtlSeconds * tickets.length := by
  intro hist gate tickets
  have invariant : GateInvariant binding hist gate := gateRun_invariant binding ops
  have proper : ∀ ticket ∈ tickets,
      ticket.claims.notBeforeEpoch < ticket.claims.expiresAtEpoch ∧
        ticket.claims.expiresAtEpoch - ticket.claims.notBeforeEpoch ≤
          kMaximumUsageLeaseTtlSeconds := by
    intro ticket stored
    obtain ⟨_, _, valid, _⟩ := invariant.admitted ticket stored
    exact ⟨valid.window, valid.ttl⟩
  have numbered : ∀ i (ticket : VerifiedUsageLease), tickets[i]? = some ticket →
      ticket.claims.sequence = i :=
    fun i _ at_i => invariant.linked.sequence_eq i at_i
  refine ⟨numbered, ?_, ?_, ?_, fun ticket stored => (proper ticket stored).1, ?_, ?_, ?_⟩
  · rw [List.nodup_iff_getElem?_ne_getElem?]
    intro i j lt inside same
    have atI := List.getElem?_eq_getElem (lt.trans inside)
    have first := numbered i _ atI
    have second := numbered j _ (same ▸ atI)
    omega
  · exact fun _ head => (invariant.linked.genesis head).previous
  · exact fun i _ _ here there => (invariant.linked.follows i here there).previous
  · exact invariant.linked.windows (fun ticket stored => (proper ticket stored).1.le)
  · intro active future staged
    have holds := (invariant.notClosed (by rw [active]; rfl)).holds
    rw [staged] at holds
    exact holds.of_staged
  · exact card_covered_le (L := leaseChain) (fun ticket stored => (proper ticket stored).2)
      invariant.covered

end VisionForge.UsageLease
