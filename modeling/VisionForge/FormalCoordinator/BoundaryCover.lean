import VisionForge.FormalCoordinator.Runs

/-! # What other threads leave alone

A condition is stable if no section of another thread breaks it and it does not look at the
session. Most methods of the coordinator only change the session; whatever is stable holds
after them if it held before.
-/

namespace VisionForge.FormalCoordinator

open DualMachineSidecarPort DualMachineSidecarValues FormalUsage Lib.Long Lib.Methods Lib.Utf
open PhoneLease
open FormalUsage.DualMachineFormalUsageStateMachine (Snapshot)

/-- A change of a generation that nobody's claim to it depends on. -/
structure Minor (change : PendingStart → PendingStart) : Prop where
  before : ∀ pending, (change pending).before = pending.before
  request : ∀ pending, (change pending).request = pending.request
  cancellationResponse :
    ∀ pending, (change pending).cancellationResponse = pending.cancellationResponse
  terminalFinalized : ∀ pending, (change pending).terminalFinalized = pending.terminalFinalized
  startRequestDispatched :
    ∀ pending, (change pending).startRequestDispatched = pending.startRequestDispatched

structure Stable (cond : World → Prop) : Prop where
  inward : ∀ {world : World} session stateMachine answered, cond world →
    cond { world with session := session, stateMachine := stateMachine, answered := answered }
  minor : ∀ {world : World} generation {change}, Minor change → cond world →
    cond { world with ownership.generations :=
      world.ownership.generations.modify generation change }
  beside : ∀ {world : World} step, cond world → cond (besideStep world step)

section

variable {cond : World → Prop} (stable : Stable cond) {α γ : Type}

theorem keeps_given (outcome : Except Failure α) : Keeps cond (given outcome) := by
  intro world holds
  cases outcome <;> exact holds

theorem keeps_require (premise : Bool) (failure : Failure) :
    Keeps cond (require premise failure) := keeps_given _

theorem keeps_present (value : Option α) : Keeps cond (present value) := keeps_given _

theorem keeps_choose {premise : Bool} {yes no : Coordinator α} (first : Keeps cond yes)
    (snd : Keeps cond no) : Keeps cond (choose premise yes no) := by
  cases premise
  · exact snd
  · exact first

theorem keeps_whenever {premise : Bool} {body : Coordinator Unit} (first : Keeps cond body) :
    Keeps cond (whenever premise body) := keeps_choose first (Keeps.pure _)

theorem keeps_ownership : Keeps cond ownership := fun _ holds => holds

theorem keeps_session : Keeps cond session := fun _ holds => holds

theorem keeps_snapshot : Keeps cond snapshot := fun _ holds => holds

theorem keeps_generationAt (gen : Nat) : Keeps cond (generationAt gen) :=
  keeps_ownership.bind fun _ => keeps_given _

theorem keeps_orElse {body : Coordinator α} (value : α) (first : Keeps cond body) :
    Keeps cond (orElse body value) := first.tryCatch fun _ => Keeps.pure _

theorem keeps_discard {body : Coordinator α} (first : Keeps cond body) :
    Keeps cond (discard body) := first.bind fun _ => Keeps.pure _

theorem keeps_map {body : Coordinator α} {change : α → γ} (first : Keeps cond body) :
    Keeps cond (change <$> body) := first.bind fun _ => Keeps.pure _

theorem keeps_ensuring {body : Coordinator α} {last : Coordinator Unit}
    (first : Keeps cond body) (snd : Keeps cond last) :
    Keeps cond (ensuring body last) :=
  (Keeps.tryCatch (keeps_map first) fun _ => Keeps.pure _).bind fun _ =>
    snd.bind fun _ => keeps_given _

include stable

theorem returns_changeSession (change : Session → Session) :
    Returns cond (changeSession change) fun _ => cond :=
  Returns.modify fun world holds => stable.inward _ world.stateMachine world.answered holds

theorem keeps_changeSession (change : Session → Session) :
    Keeps cond (changeSession change) := (returns_changeSession stable change).keeps

theorem keeps_ask (ans : Outside → Nat → Except Failure α) : Keeps cond (ask ans) := by
  intro world holds
  have moved := stable.inward world.session world.stateMachine (world.answered + 1) holds
  change cond (after (ask ans world))
  unfold ask
  cases ans world.outside world.answered <;> exact moved

theorem keeps_onStateMachine (method : DualMachineFormalUsageStateMachine.Method α) :
    Keeps cond (onStateMachine method) := by
  intro world holds
  change cond (after (onStateMachine method world))
  unfold onStateMachine
  cases method.run world.stateMachine with
  | ok value stateMachine => exact stable.inward world.session stateMachine world.answered holds
  | error error stateMachine =>
    exact stable.inward world.session stateMachine world.answered holds

theorem besides_keeps (steps : List Beside) {world : World} (holds : cond world) :
    cond (steps.foldl besideStep world) := by
  induction steps generalizing world with
  | nil => exact holds
  | cons step steps ih => exact ih (stable.beside step holds)

theorem returns_pause : Returns cond pause fun _ => cond :=
  Returns.modify fun world holds => besides_keeps stable _
    (stable.inward world.session world.stateMachine (world.answered + 1) holds)

theorem keeps_pause : Keeps cond pause := (returns_pause stable).keeps

theorem keeps_callOut (ans : Outside → Nat → Except Failure α) : Keeps cond (callOut ans) :=
  (keeps_pause stable).bind fun _ => keeps_ask stable ans

theorem keeps_requireNotStopped : Keeps cond requireNotStopped :=
  (keeps_pause stable).bind fun _ => keeps_ownership.bind fun _ => keeps_require _ _

theorem keeps_nextId (name : String) : Keeps cond (nextId name) :=
  (keeps_callOut stable _).bind fun _ => keeps_given _

theorem keeps_nextDistinctId (first : Units) (name : String) :
    Keeps cond (nextDistinctId first name) :=
  (keeps_nextId stable name).bind fun _ => (keeps_require _ _).bind fun _ => Keeps.pure _

omit stable in
theorem keeps_sha256Hex (value : Lib.Ascii.Bytes) : Keeps cond (sha256Hex value) :=
  fun _ holds => holds

theorem keeps_sign (payload : SignedPayload.SignedProof Units Int) : Keeps cond (sign payload) := by
  unfold sign
  cases SignedPayload.Java.build payload with
  | error message => exact Keeps.throw _
  | ok bytes => exact keeps_callOut stable _

theorem keeps_signed {payload : Session → SignedPayload.SignedProof Units Int}
    {proof : SignedProof → Except Failure UsageProof}
    {create : Session → UsageProof → Except Failure α} :
    Keeps cond (do
      let session ← session
      let signed ← sign (payload session)
      let proof ← given (proof signed)
      given (create session proof)) :=
  keeps_session.bind fun _ => (keeps_sign stable _).bind fun _ =>
    (keeps_given _).bind fun _ => keeps_given _

variable (ent : DualMachineEntitlementRecord)

theorem keeps_startChallengeRequest (requestId requestNonce : Units) :
    Keeps cond (startChallengeRequest ent requestId requestNonce) :=
  keeps_signed stable

theorem keeps_startRequest (requestId requestNonce : Units) (chal : StartChallengeResponse) :
    Keeps cond (startRequest ent requestId requestNonce chal) :=
  keeps_session.bind fun _ => (keeps_sha256Hex _).bind fun _ => (keeps_sign stable _).bind fun _ =>
    (keeps_given _).bind fun _ => keeps_given _

theorem keeps_startCancellationRequest (requestId requestNonce startRequestId : Units) :
    Keeps cond
      (startCancellationRequest ent requestId requestNonce startRequestId) :=
  keeps_signed stable

theorem keeps_heartbeatRequest (lastLease : VerifiedLease) (requestId requestNonce : Units)
    (seq hostFrames androidFrames : Int) :
    Keeps cond (heartbeatRequest ent lastLease requestId requestNonce seq
      hostFrames androidFrames) :=
  keeps_signed stable

theorem keeps_stopRequest (lease : VerifiedLease) (leaseToken : Units) :
    Keeps cond (stopRequest ent lease leaseToken) :=
  (keeps_nextId stable _).bind fun _ => (keeps_nextDistinctId stable _ _).bind fun _ =>
    keeps_signed stable

theorem keeps_verifyLeaseResponse (resp : Option UsageLeaseResponse) (pre : Snapshot)
    (expectedSequence : Int) (previous : Units) :
    Keeps cond (verifyLeaseResponse resp pre expectedSequence previous) := by
  unfold verifyLeaseResponse
  split
  · refine (keeps_require _ _).bind fun _ => (keeps_callOut stable _).bind fun _ =>
      (keeps_callOut stable _).bind fun _ => (keeps_require _ _).bind fun _ =>
      keeps_session.bind fun pre => (keeps_given _).bind fun _ =>
      (keeps_callOut stable _).bind fun _ => (keeps_require _ _).bind fun _ => ?_
    split
    · exact Keeps.pure _
    · split
      · exact Keeps.throw _
      · exact (keeps_given _).bind fun _ => Keeps.pure _
  · exact Keeps.throw _

omit stable in
theorem keeps_createPermit (lease : VerifiedLease) (signedUsageLease startRequestId : Units) :
    Keeps cond (DataPlanePermit.create lease signedUsageLease startRequestId) :=
  (keeps_given _).bind fun _ => (keeps_given _).bind fun _ => (keeps_sha256Hex _).bind fun _ =>
    (keeps_require _ _).bind fun _ => Keeps.pure _

theorem keeps_onPart (part : Session → Option γ) (put : γ → Session → Session)
    (method : EStateM Throwable γ α) : Keeps cond (onPart part put method) := by
  refine keeps_session.bind fun _ => (keeps_present _).bind fun value => ?_
  cases method.run value with
  | ok ans value => exact (keeps_changeSession stable _).bind fun _ => Keeps.pure _
  | error error value => exact (keeps_changeSession stable _).bind fun _ => Keeps.throw _

theorem keeps_reading (ans : Outside → Nat → Except Failure Int) :
    Keeps cond (reading ans) := keeps_orElse _ (keeps_map (keeps_callOut stable _))

theorem keeps_installLease (lease : VerifiedLease) : Keeps cond (installLease lease) :=
  (keeps_reading stable _).bind fun _ => keeps_onPart stable _ _ _

theorem keeps_gateActiveLease : Keeps cond gateActiveLease :=
  (keeps_reading stable _).bind fun _ => keeps_onPart stable _ _ _

theorem keeps_gateIsOpen : Keeps cond gateIsOpen :=
  (keeps_reading stable _).bind fun _ => keeps_onPart stable _ _ _

theorem keeps_observeHostProgress : Keeps cond observeHostProgress :=
  (keeps_reading stable _).bind fun _ => keeps_onPart stable _ _ _

theorem keeps_observeAndroidProgress : Keeps cond observeAndroidProgress :=
  (keeps_reading stable _).bind fun _ => keeps_onPart stable _ _ _

theorem keeps_machineCall (method : DualMachineFormalUsageStateMachine.Method α) :
    Keeps cond (machineCall method) :=
  (keeps_pause stable).bind fun _ => keeps_onStateMachine stable method

theorem keeps_machineSnapshot : Keeps cond machineSnapshot :=
  (keeps_pause stable).bind fun _ => keeps_snapshot

theorem returns_cancelScheduledDeadline : Returns cond cancelScheduledDeadline fun _ => cond := by
  have read : Returns cond session fun _ => cond := fun world holds => ⟨_, _, rfl, holds⟩
  refine read.bind fun pre => (returns_changeSession stable _).bind fun _ => ?_
  cases pre.scheduledDeadline with
  | true => exact Returns.caught (keeps_callOut stable _) ()
  | false => exact Returns.pure fun _ holds => holds

theorem keeps_cancelScheduledDeadline : Keeps cond cancelScheduledDeadline :=
  (returns_cancelScheduledDeadline stable).keeps

theorem keeps_scheduleLeaseBoundary (deadline : Int) :
    Keeps cond (scheduleLeaseBoundary deadline) :=
  (keeps_cancelScheduledDeadline stable).bind fun _ => (keeps_changeSession stable _).bind fun _ =>
    keeps_session.bind fun _ => (keeps_callOut stable _).bind fun _ =>
    (keeps_require _ _).bind fun _ => keeps_changeSession stable _

theorem keeps_scheduleStagedActivationIfNeeded : Keeps cond scheduleStagedActivationIfNeeded :=
  keeps_session.bind fun _ => keeps_whenever (keeps_scheduleLeaseBoundary stable _)

theorem keeps_finishRunningStateLocally : Keeps cond finishRunningStateLocally :=
  (keeps_machineSnapshot stable).bind fun _ => keeps_whenever
    ((keeps_machineCall stable _).bind fun _ => keeps_machineCall stable _)

omit stable in
theorem keeps_requireLifecycleStartRequestId : Keeps cond requireLifecycleStartRequestId := by
  refine keeps_ownership.bind fun ownership => ?_
  cases ownership.lifecycleStart with
  | none => exact Keeps.throw _
  | some gen => exact (keeps_generationAt _).bind fun _ => Keeps.pure _

theorem keeps_leaveStopping (ambiguous serverRevoked : Bool) (rem : Int) :
    Keeps cond (leaveStopping ambiguous serverRevoked rem) :=
  (keeps_machineSnapshot stable).bind fun _ => keeps_whenever (keeps_machineCall stable _)

theorem keeps_startDefinitelyNotStarted (startToCancel : Option Nat) (serverConfirmed : Bool) :
    Keeps cond (startDefinitelyNotStarted startToCancel serverConfirmed) := by
  cases startToCancel with
  | none => exact Keeps.pure _
  | some gen =>
    exact (keeps_pause stable).bind fun _ => (keeps_generationAt _).bind fun _ => Keeps.pure _

theorem keeps_requireFreshChallenge (chal : Option StartChallengeResponse) :
    Keeps cond (requireFreshChallenge chal) := by
  cases chal with
  | none => exact Keeps.throw _
  | some chal =>
    exact (keeps_callOut stable _).bind fun _ => (keeps_require _ _).bind fun _ =>
      (keeps_require _ _).bind fun _ => Keeps.pure _

omit stable in
theorem keeps_requireIdentityBinding : Keeps cond (requireIdentityBinding ent) :=
  Keeps.get.bind fun _ => (keeps_given _).bind fun _ => (keeps_given _).bind fun _ =>
    keeps_require _ _

omit stable in
theorem keeps_generationBound (cause : Failure) (gen : Nat) :
    Keeps cond (generationBound cause gen) :=
  (keeps_generationAt _).bind fun _ => Keeps.pure _

theorem keeps_mustPreserve (gen : Nat) : Keeps cond (mustPreserve gen) :=
  (keeps_pause stable).bind fun _ => keeps_ownership.bind fun _ =>
    (keeps_generationAt _).bind fun _ => Keeps.pure _

theorem keeps_capturePendingStartRetryAdmission : Keeps cond capturePendingStartRetryAdmission := by
  refine (keeps_pause stable).bind fun _ => keeps_ownership.bind fun ownership =>
    (keeps_machineSnapshot stable).bind fun _ => ?_
  cases ownership.pendingStart with
  | none => exact Keeps.throw _
  | some gen => exact (keeps_require _ _).bind fun _ => Keeps.pure _

theorem keeps_requireRenewableSession : Keeps cond requireRenewableSession := by
  refine (keeps_machineSnapshot stable).bind fun _ => keeps_session.bind fun sess => ?_
  cases sess.lastLease with
  | none => exact Keeps.throw _
  | some lastLease => exact (keeps_require _ _).bind fun _ => Keeps.pure _

theorem keeps_accountRenewal (installed : DualMachineUsageLeaseGate.InstallResult)
    (verified : VerifiedLease) (resp : UsageLeaseResponse) :
    Keeps cond (accountRenewal installed verified resp) := by
  cases installed with
  | futureStaged | currentInstalled => exact keeps_machineCall stable _
  | idempotent => exact (keeps_machineSnapshot stable).bind fun _ => keeps_require _ _

theorem keeps_readTimingClock : Keeps cond readTimingClock :=
  keeps_discard (keeps_callOut stable _)

theorem keeps_beginRenewal (lastLease : VerifiedLease) (hostTotal androidTotal : Int) :
    Keeps cond (beginRenewal lastLease hostTotal androidTotal) :=
  (keeps_machineSnapshot stable).bind fun _ => (keeps_nextId stable _).bind fun _ =>
    (keeps_nextDistinctId stable _ _).bind fun _ => (keeps_given _).bind fun _ =>
    (keeps_readTimingClock stable).bind fun _ =>
    (keeps_ensuring ((keeps_present _).bind fun _ => keeps_heartbeatRequest stable _ _ _ _ _ _ _)
      (keeps_readTimingClock stable)).bind fun _ =>
    (keeps_changeSession stable _).bind fun _ => Keeps.pure _

theorem keeps_reconcileKnownAndroidPipelineRestart :
    Keeps cond reconcileKnownAndroidPipelineRestart :=
  (keeps_requireNotStopped stable).bind fun _ => (keeps_requireRenewableSession stable).bind fun _ =>
    keeps_session.bind fun _ => (keeps_require _ _).bind fun _ =>
    keeps_observeAndroidProgress stable

theorem keeps_expireLocally (cur : Snapshot) : Keeps cond (expireLocally cur) :=
  keeps_whenever (keeps_machineCall stable _)

end

/-! ## Stops and the permits that the boundary holds

The boundary is closed only while an obligation to close it stands. Opening the data plane sets
the obligation, staging a lease does not; a stop then reaches every permit as long as a lease is
staged only while the obligation stands.
-/

open DualMachineSidecarPort FormalUsage Lib.Methods Lib.Utf PhoneLease

def Event.hands : Event → Bool
  | .openDataPlane .. | .stageFutureLease .. => true
  | _ => false

/-- Whatever is handed to the data plane is followed by a close of it. -/
def HandedBeforeClose (log : List Event) : Prop :=
  ∀ earlier event later, log = earlier ++ event :: later → event.hands = true →
    .closeDataPlane ∈ later

/-- A lease is staged while nothing obliges to close the boundary. -/
def Event.stagedUnobliged : Event → Bool
  | .stageFutureLease _ _ closeRequired => !closeRequired
  | _ => false

/-- A lease was staged only while the obligation to close stood. -/
def StagedObliged (log : List Event) : Prop := ∀ event ∈ log, event.stagedUnobliged = false

instance (log : List Event) : Decidable (StagedObliged log) :=
  inferInstanceAs (Decidable (∀ event ∈ log, event.stagedUnobliged = false))

/-- A permit was handed over since the latest close. -/
def outstanding (log : List Event) : Bool :=
  log.foldl (fun held event => event.hands || (held && event != .closeDataPlane)) false

@[simp] theorem outstanding_append (log : List Event) (event : Event) :
    outstanding (log ++ [event]) =
      (event.hands || (outstanding log && event != .closeDataPlane)) := by
  simp [outstanding]

theorem StagedObliged.of_append {log : List Event} {event : Event}
    (obliged : StagedObliged (log ++ [event])) : StagedObliged log := fun _ mem =>
  obliged _ (List.mem_append_left _ mem)

theorem handedBeforeClose_iff {log : List Event} :
    HandedBeforeClose log ↔ outstanding log = false := by
  induction log using List.reverseRecOn with
  | nil => simp [HandedBeforeClose, outstanding]
  | append_singleton log last ih =>
    rw [outstanding_append]
    constructor
    · intro closed
      have last_idle : last.hands = false := by
        by_contra hands
        simpa using closed log last [] rfl (by simpa using hands)
      by_cases isClose : last = .closeDataPlane
      · simp [isClose, Event.hands]
      · have old : HandedBeforeClose log := by
          rintro earlier event later rfl hands
          have mem := closed earlier event (later ++ [last]) (by simp) hands
          simpa [Ne.symm isClose] using mem
        simp [last_idle, ih.mp old]
    · intro none earlier event later split hands
      rcases List.eq_nil_or_concat later with rfl | ⟨later, other, rfl⟩
      · obtain ⟨-, same⟩ := List.append_inj' split rfl
        obtain rfl := List.singleton_inj.mp same
        simp [hands] at none
      · rw [List.concat_eq_append, ← List.cons_append, ← List.append_assoc] at split
        obtain ⟨rfl, same⟩ := List.append_inj' split rfl
        obtain rfl := List.singleton_inj.mp same
        simp only [List.concat_eq_append, List.mem_append, List.mem_singleton]
        by_cases isClose : last = .closeDataPlane
        · exact .inr isClose.symm
        · simp only [Bool.or_eq_false_iff, Bool.and_eq_false_iff, isClose, bne_eq_false_iff_eq,
            or_false] at none
          exact .inl (ih.mpr none.2 earlier event later rfl hands)

/-- What the boundary holds is covered by the obligation to close it; when it is shut, nothing
is held after a stop. -/
structure Covered (isShut : Bool) (world : World) : Prop where
  closes : ∀ turn, world.outside.closeDataPlane turn = .ok ()
  required : StagedObliged world.ownership.log → outstanding world.ownership.log = true →
    world.ownership.runtimeBoundaryCloseRequired = true
  stopped : isShut = true → StagedObliged world.ownership.log →
    world.ownership.immediateStopRequested = true → outstanding world.ownership.log = false

variable {isShut : Bool}

theorem Covered.relax {world : World} (covered : Covered true world) : Covered isShut world :=
  ⟨covered.closes, covered.required, fun _ => covered.stopped rfl⟩

theorem Covered.of_same {world next : World} (covered : Covered isShut world)
    (out : next.outside = world.outside)
    (latch : next.ownership.immediateStopRequested = world.ownership.immediateStopRequested)
    (obligation : next.ownership.runtimeBoundaryCloseRequired =
      world.ownership.runtimeBoundaryCloseRequired)
    (log : next.ownership.log = world.ownership.log) : Covered isShut next := by
  obtain ⟨closes, required, stopped⟩ := covered
  exact ⟨by simpa [out] using closes, by simpa [obligation, log] using required,
    by simpa [latch, log] using stopped⟩

/-- A change that neither the latch nor the boundary has to do with. -/
structure Aside (change : Ownership → Ownership) : Prop where
  latch : ∀ ownership,
    (change ownership).immediateStopRequested = ownership.immediateStopRequested
  obligation : ∀ ownership,
    (change ownership).runtimeBoundaryCloseRequired = ownership.runtimeBoundaryCloseRequired
  log : ∀ ownership, (change ownership).log = ownership.log

theorem changeOwnership_covered {change : Ownership → Ownership} (aside : Aside change) :
    Returns (Covered isShut) (changeOwnership change) fun _ => Covered isShut :=
  Returns.modify fun _ covered =>
    covered.of_same rfl (aside.latch _) (aside.obligation _) (aside.log _)

theorem keeps_changeOwnership {change : Ownership → Ownership} (aside : Aside change) :
    Keeps (Covered isShut) (changeOwnership change) := (changeOwnership_covered aside).keeps

theorem keeps_changeGeneration (gen : Nat) (change : PendingStart → PendingStart) :
    Keeps (Covered isShut) (changeGeneration gen change) :=
  keeps_changeOwnership (by constructor <;> exact fun _ => rfl)

theorem keeps_record {event : Event} (idle : event.hands = false)
    (noClose : event ≠ .closeDataPlane) : Keeps (Covered isShut) (record event) := by
  refine Keeps.modify fun world covered => ?_
  have same : outstanding (world.ownership.log ++ [event]) = outstanding world.ownership.log := by
    simp [idle, noClose]
  exact ⟨covered.closes, fun obliged held => covered.required obliged.of_append (same ▸ held),
    fun shut obliged latch => same.trans (covered.stopped shut obliged.of_append latch)⟩

theorem keeps_obligation : Keeps (Covered isShut)
    (changeOwnership fun ownership => { ownership with runtimeBoundaryCloseRequired := true }) :=
  Keeps.modify fun _ covered => ⟨covered.closes, fun _ _ => rfl, covered.stopped⟩

theorem setImmediateStopRequested_covered :
    Returns (Covered isShut) setImmediateStopRequested fun _ => Covered false := by
  intro world covered
  refine ⟨(), _, rfl, covered.closes, fun obliged held => ?_, fun shut => by simp at shut⟩
  have same : outstanding (world.ownership.log ++ [.latched world.ownership.lifecycleStart]) =
      outstanding world.ownership.log := by
    simp [Event.hands]
  exact covered.required obliged.of_append (same ▸ held)

theorem run_closeDataPlane {world : World}
    (closes : ∀ turn, world.outside.closeDataPlane turn = .ok ()) :
    (ask (·.closeDataPlane)).run world = .ok () { world with answered := world.answered + 1 } := by
  change ask (·.closeDataPlane) world = _
  rw [ask, closes]

theorem closeRuntimeBoundaryOnce_shuts :
    Ensures (Covered isShut) closeRuntimeBoundaryOnce (fun res =>
      Covered true (after res)) := by
  intro world covered
  by_cases required : world.ownership.runtimeBoundaryCloseRequired = true
  · have run : after (closeRuntimeBoundaryOnce.run world) =
        { world with
          ownership := { world.ownership with
            runtimeBoundaryCloseRequired := false
            log := world.ownership.log ++ [.closeDataPlane] }
          answered := world.answered + 1 } := by
      simp only [closeRuntimeBoundaryOnce, ownership, changeOwnership, record, EStateM.run_bind,
        EStateM.run_get, EStateM.run_modify, EStateM.run_pure, required, if_true, run_tryCatch]
      rw [run_closeDataPlane]
      · rfl
      · exact covered.closes
    rw [run]
    exact ⟨covered.closes, by simp [Event.hands], by simp [Event.hands]⟩
  · have run : after (closeRuntimeBoundaryOnce.run world) = world := by
      simp [closeRuntimeBoundaryOnce, ownership, required]
    rw [run]
    have none : StagedObliged world.ownership.log → outstanding world.ownership.log = false :=
      fun obliged => by
        by_contra held
        exact required (covered.required obliged (by simpa using held))
    exact ⟨covered.closes, covered.required, fun _ obliged _ => none obliged⟩

theorem keeps_closeRuntimeBoundaryOnce : Keeps (Covered isShut) closeRuntimeBoundaryOnce :=
  fun world covered => (closeRuntimeBoundaryOnce_shuts world covered).relax

theorem keeps_setDataPlaneOpen (dataPlaneOpen : Bool) :
    Keeps (Covered isShut) (setDataPlaneOpen dataPlaneOpen) :=
  Keeps.modify fun _ covered => covered.of_same rfl rfl rfl rfl

theorem stopLocally_shuts :
    Ensures (Covered isShut) stopLocally (fun res => Covered true (after res)) := by
  refine setImmediateStopRequested_covered.ensures fun _ => ?_
  refine (changeOwnership_covered ?_).ensures fun _ => ?_
  · constructor <;> exact fun _ => rfl
  · exact closeRuntimeBoundaryOnce_shuts.bind (fun _ _ covered => covered) fun _ =>
      keeps_setDataPlaneOpen false

theorem keeps_stopLocally : Keeps (Covered isShut) stopLocally :=
  fun world covered => (stopLocally_shuts world covered).relax

theorem keeps_latchImmediateLocalStop : Keeps (Covered isShut) latchImmediateLocalStop := by
  refine keeps_ownership.bind fun ownership => ?_
  cases ownership.immediateStopRequested with
  | true => exact Keeps.pure _
  | false => exact keeps_stopLocally.bind fun _ => Keeps.pure _

theorem keeps_latchGenerationStop (gen : Nat) :
    Keeps (Covered isShut) (latchGenerationStop gen) := by
  refine keeps_ownership.bind fun ownership => ?_
  split
  · exact keeps_stopLocally.bind fun _ => Keeps.pure _
  · exact Keeps.pure _

theorem keeps_answer {α : Type} (ans : Outside → Nat → Except Failure α) :
    Keeps (Covered isShut) (ask ans) := by
  intro world covered
  change Covered isShut (after (ask ans world))
  unfold ask
  cases ans world.outside world.answered <;> exact covered.of_same rfl rfl rfl rfl

theorem keeps_enforceRuntimeLeaseWindowLocked :
    Keeps (Covered isShut) enforceRuntimeLeaseWindowLocked := by
  refine keeps_ownership.bind fun ownership => ?_
  split
  · exact keeps_closeRuntimeBoundaryOnce.bind fun _ => Keeps.pure _
  · exact keeps_orElse _ (keeps_answer _)

theorem keeps_recordedCancellation (gen : Nat) :
    Keeps (Covered isShut) (recordedCancellation gen) :=
  (keeps_generationAt _).bind fun _ => Keeps.pure _

theorem keeps_sendAndRecordStartCancellation (gen : Nat) :
    Keeps (Covered isShut) (sendAndRecordStartCancellation gen) := by
  refine keeps_orElse _ ?_
  refine (keeps_generationAt _).bind fun pend => (keeps_answer _).bind fun resp =>
    (keeps_record rfl (by simp)).bind fun _ => ?_
  split
  · exact (keeps_changeGeneration _ _).bind fun _ => keeps_recordedCancellation _
  · exact Keeps.pure _

theorem keeps_finalizeAutomaticUsageGeneration (gen : Option Nat) (outcome : StopOutcome) :
    Keeps (Covered isShut) (finalizeAutomaticUsageGeneration gen outcome) := by
  cases gen with
  | none => exact Keeps.pure _
  | some gen =>
    refine (keeps_generationAt _).bind fun pend => ?_
    split
    · exact Keeps.pure _
    · exact (keeps_changeGeneration _ _).bind fun _ =>
        (keeps_record rfl (by simp)).bind fun _ => keeps_answer _

theorem keeps_section (task : Task) : Keeps (Covered isShut) task.section := by
  cases task with
  | latch call | requestLatch => exact keeps_latchImmediateLocalStop.bind fun _ => Keeps.pure _
  | capture call firstStop =>
    cases call with
    | cancelPendingStart =>
      refine (keeps_ownership.bind fun _ => Keeps.pure _).bind fun handle => ?_
      cases handle with
      | none => exact keeps_session.bind fun _ => Keeps.pure _
      | some gen => exact Keeps.pure _
    | stopForRuntimeLifecycle =>
      refine (keeps_ownership.bind fun _ => Keeps.pure _).bind fun handle => ?_
      cases handle with
      | none => exact Keeps.pure _
      | some handle => exact Keeps.pure _
    | failCloseFromEntitlementRevocation | failCloseFromRuntimeLoss =>
      exact (keeps_ownership.bind fun _ => Keeps.pure _).bind fun _ => Keeps.pure _
  | sendCancellation call firstStop lifecycle =>
    exact (keeps_sendAndRecordStartCancellation _).bind fun _ => Keeps.pure _
  | latchGeneration handle => exact (keeps_latchGenerationStop _).bind fun _ => Keeps.pure _
  | sendEarly handle | sendExact gen =>
    exact (keeps_sendAndRecordStartCancellation _).bind fun _ => Keeps.pure _
  | sendLate handle earlyResponse =>
    change Keeps _ (if handle.cancelsStart && earlyResponse.isNone then _ else _)
    split
    · exact (keeps_sendAndRecordStartCancellation _).bind fun _ => Keeps.pure _
    · exact Keeps.pure _
  | report handle resp =>
    exact (keeps_recordedCancellation _).bind fun _ => (keeps_generationAt _).bind fun _ =>
      (keeps_whenever (keeps_changeGeneration _ _)).bind fun _ =>
      (keeps_finalizeAutomaticUsageGeneration _ _).bind fun _ => Keeps.pure _
  | enforceDeadline gen =>
    refine keeps_session.bind fun sess => ?_
    split
    · exact keeps_enforceRuntimeLeaseWindowLocked.bind fun _ => Keeps.pure _
    · exact Keeps.pure _
  | noteDeadline gen runtimeState =>
    change Keeps _ (if runtimeState = .opened then _ else _)
    split
    · exact Keeps.pure _
    · exact (keeps_setDataPlaneOpen _).bind fun _ => Keeps.pure _
  | close call firstStop lifecycle => exact Keeps.pure _
  | claim handle earlyResponse => exact Keeps.pure _
  | runDeadline gen => exact Keeps.pure _

theorem settleTask_covered (index : Nat) {res : EStateM.Result Failure World Progress}
    (covered : Covered isShut (after res)) : Covered isShut (settleTask index res) := by
  unfold settleTask
  split <;> exact covered.of_same rfl rfl rfl rfl

theorem besideStep_covered {world : World} (step : Beside) (covered : Covered isShut world) :
    Covered isShut (besideStep world step) := by
  cases step with
  | enter task =>
    simp only [besideStep]
    split
    · exact covered.of_same rfl rfl rfl rfl
    · exact covered
  | proceed index =>
    simp only [besideStep]
    cases world.ownership.taskAt index with
    | none => exact covered
    | some task =>
      cases holds : task.holdsMonitor with
      | true => simpa [holds] using covered
      | false => simpa [holds] using settleTask_covered index (keeps_section task world covered)
  | cardOperation op => exact covered.of_same rfl rfl rfl rfl

theorem stable_covered : Stable (Covered isShut) where
  inward _ _ _ covered := covered.of_same rfl rfl rfl rfl
  minor _ _ _ covered := covered.of_same rfl rfl rfl rfl
  beside step covered := besideStep_covered step covered

end VisionForge.FormalCoordinator
