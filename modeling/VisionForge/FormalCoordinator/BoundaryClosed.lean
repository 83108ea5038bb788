import VisionForge.FormalCoordinator.BoundaryCover

/-! # Every call leaves the boundary covered

A call that holds the monitor starts and ends with the boundary shut after a stop; only a local
close leaves it open for a moment, between the latch and its own close.
-/

namespace VisionForge.FormalCoordinator

open DualMachineSidecarPort FormalUsage Lib.Methods Lib.Utf PhoneLease
open DualMachineUsageLeaseGate (InstallResult)
open FormalUsage.DualMachineFormalUsageStateMachine (Snapshot)

abbrev Shut : World → Prop := Covered true

theorem keeps_closeDataPlaneOnly : Keeps Shut closeDataPlaneOnly :=
  (keeps_pause stable_covered).bind fun _ => keeps_closeRuntimeBoundaryOnce.bind fun _ =>
    (keeps_setDataPlaneOpen _).bind fun _ => Keeps.pure _

theorem closeDataPlaneOnly_shuts :
    Ensures (Covered false) closeDataPlaneOnly (fun res => Shut (after res)) := by
  refine (returns_pause stable_covered).ensures fun _ => ?_
  exact closeRuntimeBoundaryOnce_shuts.bind (fun _ _ shut => shut) fun _ =>
    (keeps_setDataPlaneOpen _).bind fun _ => Keeps.pure _

theorem keeps_enforceRuntimeLeaseWindow : Keeps Shut enforceRuntimeLeaseWindow :=
  (keeps_pause stable_covered).bind fun _ => keeps_enforceRuntimeLeaseWindowLocked

theorem keeps_refuseWhenStopped (message : String) : Keeps Shut (refuseWhenStopped message) := by
  refine keeps_ownership.bind fun ownership => ?_
  split
  · exact keeps_closeRuntimeBoundaryOnce.bind fun _ => Keeps.throw _
  · exact Keeps.pure _

theorem Covered.hand {world : World} (shut : Shut world) (event : Event)
    (unlatched : world.ownership.immediateStopRequested = false)
    (obliged : StagedObliged (world.ownership.log ++ [event]) →
      world.ownership.runtimeBoundaryCloseRequired = true) :
    Shut { world with ownership.log := world.ownership.log ++ [event] } :=
  ⟨shut.closes, fun staged _ => obliged staged, fun _ _ latched => by simp [unlatched] at latched⟩

theorem keeps_openDataPlaneWhileNotStopped (permit : DataPlanePermit) :
    Keeps Shut (openDataPlaneWhileNotStopped permit) := by
  refine (keeps_pause stable_covered).bind fun _ => ?_
  intro world shut
  have rest : Keeps Shut (do
      ask (·.openDataPlane · permit)
      refuseWhenStopped "formal usage was stopped while opening data plane"
      setDataPlaneOpen true) :=
    (keeps_answer _).bind fun _ => (keeps_refuseWhenStopped _).bind fun _ =>
      keeps_setDataPlaneOpen _
  change Shut (after (EStateM.run (if world.ownership.immediateStopRequested then _ else _) world))
  cases latch : world.ownership.immediateStopRequested with
  | true => simpa using shut
  | false =>
    have obliged : Shut { world with ownership.runtimeBoundaryCloseRequired := true } :=
      keeps_obligation world shut
    exact rest _ (obliged.hand (.openDataPlane world.ownership.lifecycleStart permit) latch
      fun _ => rfl)

theorem keeps_stageFutureLeaseWhileNotStopped (permit : DataPlanePermit) :
    Keeps Shut (stageFutureLeaseWhileNotStopped permit) := by
  refine (keeps_pause stable_covered).bind fun _ => ?_
  intro world shut
  have rest : Keeps Shut (do
      ask (·.stageFutureLease · permit)
      refuseWhenStopped "formal usage was stopped while staging lease") :=
    (keeps_answer _).bind fun _ => keeps_refuseWhenStopped _
  change Shut (after (EStateM.run (if world.ownership.immediateStopRequested then _ else _) world))
  cases latch : world.ownership.immediateStopRequested with
  | true => simpa using shut
  | false =>
    refine rest _ (shut.hand (.stageFutureLease world.ownership.lifecycleStart permit
      world.ownership.runtimeBoundaryCloseRequired) latch fun staged => ?_)
    simpa [Event.stagedUnobliged] using staged _ List.mem_concat_self

theorem keeps_clearGeneration : Keeps Shut clearGeneration :=
  (keeps_cancelScheduledDeadline stable_covered).bind fun _ => (keeps_pause stable_covered).bind
    fun _ => (keeps_changeSession stable_covered _).bind fun _ =>
    keeps_changeOwnership (by constructor <;> exact fun _ => rfl)

theorem keeps_closeLocally : Keeps Shut closeLocally := by
  have last : Keeps Shut (do
      failProgressCounters
      let current ← machineSnapshot
      whenever current.canFormalStop
        (machineCall DualMachineFormalUsageStateMachine.closeLocalForRuntimeStop)) :=
    (keeps_changeSession stable_covered _).bind fun _ =>
      (keeps_machineSnapshot stable_covered).bind fun _ =>
      keeps_whenever (keeps_machineCall stable_covered _)
  refine (keeps_pause stable_covered).bind fun _ => ?_
  refine setImmediateStopRequested_covered.ensures fun _ => ?_
  refine (returns_changeSession stable_covered _).ensures fun _ => ?_
  refine (returns_cancelScheduledDeadline stable_covered).ensures fun _ => ?_
  exact closeDataPlaneOnly_shuts.bind (fun _ _ shut => shut) fun _ => last

theorem keeps_abortStartingGeneration : Keeps Shut abortStartingGeneration :=
  keeps_closeDataPlaneOnly.bind fun _ => (keeps_changeSession stable_covered _).bind fun _ =>
    (keeps_changeSession stable_covered _).bind fun _ =>
    (keeps_machineSnapshot stable_covered).bind fun _ =>
    (keeps_choose (keeps_machineCall stable_covered _)
      (keeps_finishRunningStateLocally stable_covered)).bind fun _ => keeps_clearGeneration

theorem keeps_initializeGeneration (channelBinding : Units) :
    Keeps Shut (initializeGeneration channelBinding) :=
  keeps_clearGeneration.bind fun _ => (keeps_given _).bind fun _ =>
    (keeps_changeSession stable_covered _).bind fun _ => (keeps_onPart stable_covered _ _ _).bind
    fun _ => (keeps_changeSession stable_covered _).bind fun _ =>
    (keeps_reading stable_covered _).bind fun _ => (keeps_onPart stable_covered _ _ _).bind fun _ =>
    (keeps_reading stable_covered _).bind fun _ => (keeps_onPart stable_covered _ _ _).bind fun _ =>
    keeps_changeSession stable_covered _

theorem keeps_requestPreparedStop (stopGeneration : Option Nat) (pre : Snapshot) :
    Keeps Shut (requestPreparedStop stopGeneration pre) := by
  cases stopGeneration with
  | none => exact Keeps.pure _
  | some gen =>
    refine (keeps_generationAt _).bind fun pend => ?_
    cases pend.preparedStopRequest with
    | none => exact Keeps.pure _
    | some req =>
      exact keeps_orElse _ ((keeps_callOut stable_covered _).bind fun _ =>
        (keeps_record rfl (by simp)).bind fun _ => Keeps.pure _)

theorem keeps_sendStartCancellation (gen : Nat) : Keeps Shut (sendStartCancellation gen) :=
  (keeps_pause stable_covered).bind fun _ => keeps_sendAndRecordStartCancellation _

theorem keeps_readRecordedCancellation (gen : Nat) : Keeps Shut (readRecordedCancellation gen) :=
  (keeps_pause stable_covered).bind fun _ => keeps_recordedCancellation _

theorem keeps_settleStartCancellation (gen : Nat) : Keeps Shut (settleStartCancellation gen) := by
  refine (keeps_readRecordedCancellation _).bind fun recorded => ?_
  split
  · exact Keeps.pure _
  refine (keeps_sendStartCancellation _).bind fun first => ?_
  split
  · exact Keeps.pure _
  refine (keeps_sendStartCancellation _).bind fun snd => ?_
  split
  · exact Keeps.pure _
  · exact keeps_readRecordedCancellation _

theorem keeps_confirmStop (stopGeneration startToCancel : Option Nat) (pre : Snapshot) :
    Keeps Shut (confirmStop stopGeneration startToCancel pre) := by
  refine (keeps_requestPreparedStop _ _).bind fun stopped => ?_
  split
  · exact (keeps_settleStartCancellation _).bind fun _ => Keeps.pure _
  · exact Keeps.pure _

theorem keeps_publishOutcome (cacheForQueuedStopOwner : Bool) (lifecycleGeneration : Option Nat)
    (outcome : StopOutcome) :
    Keeps Shut (publishOutcome cacheForQueuedStopOwner lifecycleGeneration outcome) := by
  cases lifecycleGeneration with
  | none => exact keeps_whenever (keeps_changeSession stable_covered _)
  | some gen =>
    exact (keeps_changeGeneration _ _).bind fun _ => keeps_changeSession stable_covered _

theorem keeps_finishRuntimeStop (cacheForQueuedStopOwner : Bool)
    (lifecycleGeneration startToCancel : Option Nat) :
    Keeps Shut (finishRuntimeStop cacheForQueuedStopOwner lifecycleGeneration startToCancel) :=
  (keeps_require _ _).bind fun _ => (keeps_machineSnapshot stable_covered).bind fun _ =>
    (keeps_changeSession stable_covered _).bind fun _ =>
    (keeps_cancelScheduledDeadline stable_covered).bind fun _ => keeps_closeDataPlaneOnly.bind
    fun _ => (keeps_changeSession stable_covered _).bind fun _ =>
    (keeps_whenever (keeps_machineCall stable_covered _)).bind fun _ => keeps_ownership.bind
    fun _ => (keeps_confirmStop _ _ _).bind fun _ =>
    (keeps_startDefinitelyNotStarted stable_covered _ _).bind fun _ =>
    (keeps_leaveStopping stable_covered _ _ _).bind fun _ => (keeps_pause stable_covered).bind
    fun _ => (keeps_finalizeAutomaticUsageGeneration _ _).bind fun _ =>
    (keeps_whenever (keeps_publishOutcome _ _ _)).bind fun _ =>
    (keeps_whenever keeps_clearGeneration).bind fun _ => Keeps.pure _

theorem keeps_cancelledStart (initialStart : Nat) : Keeps Shut (cancelledStart initialStart) :=
  (keeps_finishRuntimeStop _ _ _).bind fun _ => Keeps.throw _

theorem keeps_openFailed (initialStart : Nat) (failure : Failure) :
    Keeps Shut (openFailed initialStart failure) := by
  refine (keeps_pause stable_covered).bind fun _ => keeps_ownership.bind fun _ => ?_
  refine (keeps_orElse _ ((keeps_pause stable_covered).bind fun _ =>
    keeps_latchImmediateLocalStop.bind fun _ => (keeps_finishRuntimeStop _ _ _).bind fun _ =>
    Keeps.pure _)).bind fun stopped => ?_
  split <;> exact Keeps.throw _

theorem keeps_openInitialLease (initialStart : Nat) (ent : DualMachineEntitlementRecord)
    (verified : VerifiedLease) (resp : UsageLeaseResponse) (permit : DataPlanePermit) :
    Keeps Shut (openInitialLease initialStart ent verified resp permit) :=
  (keeps_openDataPlaneWhileNotStopped _).bind fun _ => (keeps_stopRequest stable_covered _ _ _).bind
    fun _ => (keeps_changeGeneration _ _).bind fun _ => keeps_scheduleLeaseBoundary stable_covered _

theorem keeps_installInitialResponse (pre : Snapshot) (ans : Option UsageLeaseResponse) :
    Keeps Shut (installInitialResponse pre ans) := by
  refine keeps_ownership.bind fun owned => ?_
  split
  · refine (keeps_verifyLeaseResponse stable_covered _ _ _ _).bind fun _ => (keeps_given _).bind
      fun _ => (keeps_changeGeneration _ _).bind fun _ => (keeps_installLease stable_covered _).bind
      fun _ => (keeps_machineCall stable_covered _).bind fun _ =>
      (keeps_changeSession stable_covered _).bind fun _ => (keeps_generationAt _).bind fun _ =>
      (keeps_createPermit _ _ _).bind fun _ => (keeps_pause stable_covered).bind fun _ =>
      keeps_ownership.bind fun _ => ?_
    split
    · exact keeps_cancelledStart _
    refine (Keeps.tryCatch (keeps_openInitialLease _ _ _ _ _) fun _ => keeps_openFailed _ _).bind
      fun _ => (keeps_pause stable_covered).bind fun _ => keeps_ownership.bind fun _ => ?_
    split
    · exact keeps_cancelledStart _
    · exact (keeps_changeOwnership (by constructor <;> exact fun _ => rfl)).bind
        fun _ => Keeps.pure _
  · exact Keeps.throw _

theorem keeps_publishGeneration (gen : PendingStart) : Keeps Shut (publishGeneration gen) :=
  (keeps_pause stable_covered).bind fun _ => keeps_ownership.bind fun _ =>
    (keeps_changeOwnership (by constructor <;> exact fun _ => rfl)).bind fun _ => Keeps.pure _

theorem keeps_dispatchStart (gen : Nat) (req : StartUsageRequest) :
    Keeps Shut (dispatchStart gen req) :=
  (keeps_changeGeneration _ _).bind fun _ => (keeps_pause stable_covered).bind fun _ =>
    (keeps_record rfl (by simp)).bind fun _ => (keeps_answer _).bind fun _ =>
    (keeps_changeGeneration _ _).bind fun _ => Keeps.pure _

theorem keeps_requestAndInstallInitialLease (pre : Snapshot)
    (ent : DualMachineEntitlementRecord) :
    Keeps Shut (requestAndInstallInitialLease pre ent) :=
  (keeps_nextId stable_covered _).bind fun _ => (keeps_nextDistinctId stable_covered _ _).bind
    fun _ => (keeps_startChallengeRequest stable_covered _ _ _).bind fun _ =>
    (keeps_callOut stable_covered _).bind fun _ => (keeps_requireNotStopped stable_covered).bind
    fun _ => (keeps_requireFreshChallenge stable_covered _).bind fun _ =>
    (keeps_startRequest stable_covered _ _ _ _).bind fun _ =>
    (keeps_nextDistinctId stable_covered _ _).bind fun _ => (keeps_require _ _).bind fun _ =>
    (keeps_nextDistinctId stable_covered _ _).bind fun _ => (keeps_require _ _).bind fun _ =>
    (keeps_startCancellationRequest stable_covered _ _ _ _).bind fun _ =>
    (keeps_publishGeneration _).bind fun _ => keeps_session.bind fun _ =>
    (keeps_callOut stable_covered _).bind fun _ => (keeps_requireNotStopped stable_covered).bind
    fun _ => (keeps_dispatchStart _ _).bind fun _ => keeps_installInitialResponse _ _

theorem keeps_startFailed (failure : Failure) : Keeps Shut (startFailed failure) := by
  unfold startFailed
  split
  · exact Keeps.throw _
  refine keeps_ownership.bind fun owned => ?_
  split
  · exact keeps_abortStartingGeneration.bind fun _ => Keeps.throw _
  · exact (keeps_choose (keeps_mustPreserve stable_covered _) (Keeps.pure _)).bind fun _ =>
      (keeps_choose keeps_closeLocally (keeps_discard keeps_closeDataPlaneOnly)).bind fun _ =>
      (keeps_generationBound _ _).bind fun _ => Keeps.throw _

theorem keeps_consumeAdmission (admission : Nat) : Keeps Shut (consumeAdmission admission) :=
  (keeps_pause stable_covered).bind fun _ => keeps_ownership.bind fun _ =>
    (keeps_require _ _).bind fun _ =>
    keeps_changeOwnership (by constructor <;> exact fun _ => rfl)

theorem keeps_startAfterVerifiedHostVideo (admission : Nat) :
    Keeps Shut (startAfterVerifiedHostVideo admission) :=
  (keeps_consumeAdmission _).bind fun _ => (keeps_requireNotStopped stable_covered).bind fun _ =>
    (keeps_machineSnapshot stable_covered).bind fun _ => (keeps_require _ _).bind fun _ =>
    (keeps_present _).bind fun _ => (keeps_requireIdentityBinding _).bind fun _ =>
    Keeps.tryCatch
      (keeps_obligation.bind fun _ => (keeps_callOut stable_covered _).bind fun _ =>
        (keeps_requireNotStopped stable_covered).bind fun _ =>
        (keeps_machineCall stable_covered _).bind fun _ => (keeps_initializeGeneration _).bind
        fun _ => keeps_requestAndInstallInitialLease _ _)
      keeps_startFailed

theorem keeps_boundTo {α : Type} {gen : Nat} {cleanup : Failure → Coordinator Unit}
    {body : Coordinator α} (cleaned : ∀ failure, Keeps Shut (cleanup failure))
    (first : Keeps Shut body) : Keeps Shut (boundTo gen cleanup body) := by
  refine first.tryCatch fun failure => ?_
  split
  · exact Keeps.throw _
  · exact (cleaned _).bind fun _ => (keeps_generationBound _ _).bind fun _ => Keeps.throw _

theorem keeps_retryPendingStart (gen : Nat) : Keeps Shut (retryPendingStart gen) :=
  keeps_ownership.bind fun _ => (keeps_machineSnapshot stable_covered).bind fun _ =>
    (keeps_require _ _).bind fun _ => (keeps_requireNotStopped stable_covered).bind fun _ =>
    (keeps_generationAt _).bind fun _ =>
    (keeps_boundTo (fun _ => Keeps.pure _) (keeps_session.bind fun _ =>
      (keeps_callOut stable_covered _).bind fun _ => keeps_requireNotStopped stable_covered)).bind
    fun _ => (keeps_boundTo (fun _ => keeps_choose (keeps_discard keeps_closeDataPlaneOnly)
      keeps_closeLocally) (keeps_dispatchStart _ _)).bind fun _ =>
    keeps_boundTo (fun _ => keeps_closeLocally) (keeps_installInitialResponse _ _)

theorem keeps_ensureDataPlaneOpen (verified : VerifiedLease) (signedUsageLease : Units) :
    Keeps Shut (ensureDataPlaneOpen verified signedUsageLease) := by
  refine (keeps_gateIsOpen stable_covered).bind fun isOpen => ?_
  split
  · exact keeps_requireLifecycleStartRequestId.bind fun _ => (keeps_createPermit _ _ _).bind
      fun _ => (keeps_openDataPlaneWhileNotStopped _).bind fun _ =>
      keeps_scheduleLeaseBoundary stable_covered _
  · exact keeps_discard keeps_closeDataPlaneOnly

theorem keeps_applyRuntimeLease (installed : InstallResult) (verified : VerifiedLease)
    (signedUsageLease : Units) :
    Keeps Shut (applyRuntimeLease installed verified signedUsageLease) := by
  cases installed with
  | futureStaged =>
    exact keeps_requireLifecycleStartRequestId.bind fun _ => (keeps_createPermit _ _ _).bind
      fun _ => (keeps_stageFutureLeaseWhileNotStopped _).bind fun _ =>
      (keeps_changeSession stable_covered _).bind fun _ =>
      (keeps_gateActiveLease stable_covered).bind fun _ =>
      keeps_whenever (keeps_scheduleStagedActivationIfNeeded stable_covered)
  | currentInstalled => exact keeps_ensureDataPlaneOpen _ _
  | idempotent => exact Keeps.pure _

theorem keeps_synchronizeStagedLeaseIfDue : Keeps Shut synchronizeStagedLeaseIfDue := by
  refine keeps_session.bind fun staged => ?_
  split
  · refine (keeps_choose (keeps_gateActiveLease stable_covered) (Keeps.pure _)).bind
      fun on => ?_
    split
    · exact Keeps.pure _
    · exact keeps_requireLifecycleStartRequestId.bind fun _ => (keeps_createPermit _ _ _).bind
        fun _ => (keeps_openDataPlaneWhileNotStopped _).bind fun _ =>
        (keeps_changeSession stable_covered _).bind fun _ =>
        (keeps_machineCall stable_covered _).bind fun _ =>
        (keeps_observeHostProgress stable_covered).bind fun _ =>
        (keeps_changeSession stable_covered _).bind fun _ =>
        (keeps_observeAndroidProgress stable_covered).bind fun _ =>
        (keeps_changeSession stable_covered _).bind fun _ =>
        keeps_scheduleLeaseBoundary stable_covered _
  · exact Keeps.pure _

theorem keeps_installRenewalResponse (pend : PendingHeartbeat)
    (ans : Option UsageLeaseResponse) : Keeps Shut (installRenewalResponse pend ans) := by
  refine (keeps_requireNotStopped stable_covered).bind fun _ => keeps_session.bind fun _ =>
    (keeps_present _).bind fun _ => (keeps_verifyLeaseResponse stable_covered _ _ _ _).bind
    fun _ => keeps_ownership.bind fun owned => ?_
  split
  · exact Keeps.throw _
  · exact (keeps_installLease stable_covered _).bind fun _ => (keeps_given _).bind fun _ =>
      (keeps_requireNotStopped stable_covered).bind fun _ => (keeps_applyRuntimeLease _ _ _).bind
      fun _ => (keeps_present _).bind fun _ => (keeps_stopRequest stable_covered _ _ _).bind
      fun _ => (keeps_accountRenewal stable_covered _ _ _).bind fun _ =>
      (keeps_changeGeneration _ _).bind fun _ => (keeps_changeSession stable_covered _).bind
      fun _ => Keeps.pure _

theorem keeps_sendRenewal (pend : PendingHeartbeat) : Keeps Shut (sendRenewal pend) :=
  (keeps_ensuring (keeps_callOut stable_covered _) (keeps_readTimingClock stable_covered)).bind
    fun _ => keeps_ensuring
      ((keeps_installRenewalResponse _ _).tryCatch fun _ =>
        keeps_closeLocally.bind fun _ => Keeps.throw _)
      (keeps_readTimingClock stable_covered)

theorem keeps_renewAfterObservedProgress : Keeps Shut renewAfterObservedProgress := by
  refine (keeps_requireNotStopped stable_covered).bind fun _ =>
    (keeps_requireRenewableSession stable_covered).bind fun _ => keeps_session.bind fun _ =>
    (keeps_require _ _).bind fun _ => (keeps_whenever keeps_synchronizeStagedLeaseIfDue).bind
    fun _ => keeps_session.bind fun cur => ?_
  split
  · exact Keeps.pure _
  refine (keeps_observeHostProgress stable_covered).bind fun _ =>
    (keeps_observeAndroidProgress stable_covered).bind fun _ => ?_
  split
  · exact Keeps.pure _
  · exact (keeps_beginRenewal stable_covered _ _ _).bind fun _ => keeps_sendRenewal _

theorem keeps_retryPendingRenewal : Keeps Shut retryPendingRenewal := by
  refine (keeps_requireNotStopped stable_covered).bind fun _ =>
    (keeps_requireRenewableSession stable_covered).bind fun _ => keeps_session.bind fun pre => ?_
  split
  · exact Keeps.throw _
  · exact (keeps_readTimingClock stable_covered).bind fun _ => keeps_sendRenewal _

theorem keeps_closeExpired (cur : Snapshot) : Keeps Shut (closeExpired cur) :=
  (keeps_discard keeps_closeDataPlaneOnly).bind fun _ =>
    (keeps_cancelScheduledDeadline stable_covered).bind fun _ =>
    (keeps_expireLocally stable_covered _).bind fun _ => Keeps.pure _

theorem keeps_enforceOpen : Keeps Shut enforceOpen := by
  refine (Keeps.tryCatch (keeps_synchronizeStagedLeaseIfDue.bind fun _ => Keeps.pure _) fun _ =>
    keeps_closeLocally.bind fun _ => Keeps.pure _).bind fun synchronized => ?_
  split
  · refine (keeps_gateActiveLease stable_covered).bind fun on => ?_
    split
    · exact (keeps_discard keeps_closeDataPlaneOnly).bind fun _ =>
        (keeps_cancelScheduledDeadline stable_covered).bind fun _ =>
        (keeps_machineSnapshot stable_covered).bind fun _ =>
        (keeps_expireLocally stable_covered _).bind fun _ => Keeps.pure _
    · exact (keeps_machineSnapshot stable_covered).bind fun _ => keeps_session.bind fun _ =>
        Keeps.pure _
  · exact Keeps.pure _

theorem keeps_enforceAndGetDataPlanePermitState : Keeps Shut enforceAndGetDataPlanePermitState := by
  refine (keeps_pause stable_covered).bind fun _ => keeps_ownership.bind fun pre => ?_
  split
  · exact Keeps.pure _
  refine (keeps_machineSnapshot stable_covered).bind fun _ => keeps_session.bind fun staged => ?_
  extract_lets stagedGap
  split
  · exact (keeps_discard keeps_closeDataPlaneOnly).bind fun _ =>
      (keeps_expireLocally stable_covered _).bind fun _ => Keeps.pure _
  refine keeps_enforceRuntimeLeaseWindow.bind fun runtimeState => ?_
  split
  · exact keeps_enforceOpen
  · refine keeps_session.bind fun staged => ?_
    split
    · exact (keeps_setDataPlaneOpen _).bind fun _ => (keeps_expireLocally stable_covered _).bind
        fun _ => (keeps_scheduleStagedActivationIfNeeded stable_covered).bind fun _ => Keeps.pure _
    · exact (keeps_discard keeps_closeDataPlaneOnly).bind fun _ =>
        (keeps_cancelScheduledDeadline stable_covered).bind fun _ => Keeps.pure _
  · exact keeps_closeExpired _

theorem keeps_closeOwned (lifecycle : Option LifecycleStopHandle) {otherwise : Coordinator Unit}
    (closed : Keeps Shut otherwise) : Keeps Shut (closeOwned lifecycle otherwise) := by
  refine keeps_ownership.bind fun ownership => ?_
  split
  · exact keeps_discard (keeps_finishRuntimeStop _ _ _)
  · exact closed

theorem keeps_closeForRevocation (firstStop : Bool) (lifecycle : Option LifecycleStopHandle) :
    Keeps Shut (closeForRevocation firstStop lifecycle) := by
  refine keeps_ownership.bind fun ownership => ?_
  split
  · exact Keeps.pure _
  · exact (keeps_changeSession stable_covered _).bind fun _ =>
      (keeps_closeOwned _ ((keeps_cancelScheduledDeadline stable_covered).bind fun _ =>
        (keeps_discard keeps_closeDataPlaneOnly).bind fun _ =>
        (keeps_changeSession stable_covered _).bind fun _ => keeps_clearGeneration)).bind
      fun _ => keeps_machineCall stable_covered _

theorem keeps_closeForRuntimeLoss (firstStop : Bool) (lifecycle : Option LifecycleStopHandle) :
    Keeps Shut (closeForRuntimeLoss firstStop lifecycle) := by
  refine keeps_ownership.bind fun ownership => ?_
  split
  · exact Keeps.pure _
  · exact keeps_closeOwned _ keeps_closeLocally

theorem keeps_closeForLifecycle : Keeps Shut closeForLifecycle := by
  refine keeps_session.bind fun sess => ?_
  split
  · exact Keeps.pure _
  · exact keeps_finishRuntimeStop _ _ _

theorem keeps_claimStop (handle : LifecycleStopHandle)
    (earlyResponse : Option StartCancellationResponse) :
    Keeps Shut (claimStop handle earlyResponse) := by
  refine (keeps_generationAt _).bind fun pend => ?_
  split
  · exact Keeps.pure _
  refine keeps_ownership.bind fun ownership => ?_
  split
  · exact (keeps_finishRuntimeStop _ _ _).bind fun _ => Keeps.pure _
  · exact Keeps.pure _

theorem keeps_runLeaseDeadline (gen : Nat) : Keeps Shut (runLeaseDeadline gen) := by
  refine keeps_session.bind fun pre => ?_
  split
  · exact (keeps_changeSession stable_covered _).bind fun _ =>
      keeps_discard keeps_enforceAndGetDataPlanePermitState
  · exact Keeps.pure _

theorem keeps_monitored (task : Task) : Keeps Shut task.monitored := by
  unfold Task.monitored
  split
  · exact keeps_closeForLifecycle.bind fun _ => Keeps.pure _
  · exact (keeps_closeForRevocation _ _).bind fun _ => Keeps.pure _
  · exact (keeps_closeForRuntimeLoss _ _).bind fun _ => Keeps.pure _
  · exact keeps_claimStop _ _
  · exact (keeps_runLeaseDeadline _).bind fun _ => Keeps.pure _
  · exact Keeps.pure _

/-- A new admission takes the latch back, with which nothing has to be shut any more. -/
theorem keeps_prepareForNewFormalStart : Keeps Shut prepareForNewFormalStart := by
  refine keeps_ownership.bind fun pre => keeps_snapshot.bind fun _ =>
    (keeps_require _ _).bind fun _ => (keeps_changeSession stable_covered _).bind fun _ => ?_
  refine Keeps.bind (Keeps.modify fun world shut => ?_) fun _ => Keeps.pure _
  have same : outstanding (world.ownership.log ++ [.rearmed]) = outstanding world.ownership.log := by
    simp [Event.hands]
  exact ⟨shut.closes, fun obliged held => shut.required obliged.of_append (same ▸ held),
    fun _ _ latched => by simp at latched⟩

theorem moveStep_shut {world : World} (move : Move) (shut : Shut world) :
    Shut (moveStep world move) := by
  cases move with
  | prepareForNewFormalStart => exact keeps_prepareForNewFormalStart world shut
  | startAfterVerifiedHostVideo admission =>
    exact keeps_startAfterVerifiedHostVideo admission world shut
  | capturePendingStartRetryAdmission =>
    exact keeps_capturePendingStartRetryAdmission stable_covered world shut
  | retryPendingStart gen => exact keeps_retryPendingStart gen world shut
  | renewAfterObservedProgress => exact keeps_renewAfterObservedProgress world shut
  | reconcileKnownAndroidPipelineRestart =>
    exact keeps_reconcileKnownAndroidPipelineRestart stable_covered world shut
  | retryPendingRenewal => exact keeps_retryPendingRenewal world shut
  | enforceAndGetDataPlanePermitState =>
    exact keeps_enforceAndGetDataPlanePermitState world shut
  | monitor index =>
    simp only [moveStep]
    cases world.ownership.taskAt index with
    | none => exact shut
    | some task =>
      cases holds : task.holdsMonitor with
      | true => simpa [holds] using settleTask_covered index (keeps_monitored task world shut)
      | false => simpa [holds] using shut
  | beside step => exact besideStep_covered step shut

theorem moves_shut (moves : List Move) {world : World} (shut : Shut world) :
    Shut (moves.foldl moveStep world) := by
  induction moves generalizing world with
  | nil => exact shut
  | cons move moves ih => exact ih (moveStep_shut move shut)

theorem runMoves_shut {out : Outside} (closes : ∀ turn, out.closeDataPlane turn = .ok ())
    (stateMachine : DualMachineFormalUsageStateMachine) (moves : List Move) :
    Shut (runMoves out stateMachine moves) :=
  moves_shut moves ⟨closes, by simp [outstanding], by simp [outstanding]⟩

/-- After a stop the boundary holds no permit that it was handed before, in every run that stages
leases only while the obligation to close stands. -/
theorem no_permit_survives_stop_while_obliged (outside : Outside)
    (stateMachine : DualMachineFormalUsageStateMachine) (moves : List Move)
    (closes : ∀ turn, outside.closeDataPlane turn = .ok ())
    (obliged : StagedObliged (runMoves outside stateMachine moves).ownership.log)
    (stopped : (runMoves outside stateMachine moves).ownership.immediateStopRequested = true) :
    HandedBeforeClose (runMoves outside stateMachine moves).ownership.log :=
  handedBeforeClose_iff.mpr ((runMoves_shut closes stateMachine moves).stopped rfl obliged stopped)

def hexOf (digit : UInt16) (length : Nat) : Units := List.replicate length digit

def dayEntitlement : DualMachineEntitlementRecord where
  entitlementId := hexOf 49 32
  pairId := hexOf 50 32
  protocolVersion := 2
  revocationVersion := 1
  hostKeySha256 := hexOf 51 64
  hostIdentityPublicKeyBase64 := text "host"
  androidKeySha256 := hexOf 52 64
  androidIdentityAlias := text "android"
  authorizationKind := text "day"
  productKey := text "day"
  permanent := false
  revoked := false

def leaseToken (first : UInt16) : Units :=
  let segment := first :: List.replicate 99 65
  segment ++ 46 :: segment ++ 46 :: segment

def leaseAnswer (sequence remaining notBefore : Int) (token : Units) : UsageLeaseResponse where
  sessionId := hexOf 53 32
  sequence := sequence
  chargedSeconds := 5
  remainingSeconds := remaining
  totalConsumedSeconds := 100 - remaining
  usageLease := token
  usageLeaseSha256 := widen (UsageLease.concreteCryptography.sha256Hex (encodeAscii token))
  notBeforeEpoch := notBefore
  expiresAtEpoch := notBefore + 5
  ttlSeconds := 5
  billingStarted := true
  authorizationKind := text "day"
  productKey := text "day"
  permanent := false

def firstLease : UsageLeaseResponse := leaseAnswer 0 95 1000 (leaseToken 65)

/-- It begins a second after the first one has ended. -/
def lateLease : UsageLeaseResponse := leaseAnswer 1 90 1006 (leaseToken 66)

def verifiedAs (response : UsageLeaseResponse) (expected : ExpectedBinding) : VerifiedLease where
  tokenSha256 := response.usageLeaseSha256
  entitlementId := expected.entitlementId
  pairId := expected.pairId
  sessionId := expected.sessionId
  protocolVersion := expected.protocolVersion
  revocationVersion := expected.revocationVersion
  hostKeySha256 := expected.hostKeySha256
  androidKeySha256 := expected.androidKeySha256
  channelTranscriptSha256 := expected.channelTranscriptSha256
  previousLeaseSha256 := expected.previousLeaseSha256
  sequence := response.sequence
  authorizationKind := response.authorizationKind
  permanent := response.permanent
  remainingSeconds := response.remainingSeconds
  issuedAtEpochSeconds := 1000
  notBeforeEpochSeconds := response.notBeforeEpoch
  expiresAtEpochSeconds := response.expiresAtEpoch
  notBeforeMonotonicNanos := (response.notBeforeEpoch - 1000) * 1000000000
  expiresAtMonotonicNanos := (response.expiresAtEpoch - 1000) * 1000000000

def lateRenewal : Outside where
  identities := ⟨.ok (hexOf 51 64), .ok (hexOf 52 64), text "host"⟩
  crypto := UsageLease.concreteCryptography
  prepareWithDataPlaneClosed _ := .ok ⟨hexOf 54 64, by decide +kernel⟩
  verifyFreshHostVideoBeforePotentialDebit _ _ _ := .ok ()
  openDataPlane _ _ := .ok ()
  stageFutureLease _ _ := .ok ()
  enforceLeaseWindow _ := .ok .closed
  closeDataPlane _ := .ok ()
  finalizeFormalGeneration _ _ _ _ := .ok ()
  createStartChallenge _ _ := .ok (some ⟨hexOf 55 32, List.replicate 43 65, 2000⟩)
  startUsage _ _ := .ok (some firstLease)
  heartbeat _ _ := .ok (some lateLease)
  stop _ _ := .error (.io "lost")
  cancelStart _ _ := .error (.io "lost")
  createVerified _ _ := .ok ⟨List.replicate 64 1, List.replicate 64 2⟩
  verifyLease _ token expected _ _ :=
    .ok (verifiedAs (if token = leaseToken 65 then firstLease else lateLease) expected)
  nextHex128 turn := .ok (hexOf 49 (turn % 32) ++ hexOf 50 (32 - turn % 32))
  nowEpochSeconds _ := .ok 1005
  nowNanos turn := .ok (if turn < 80 then 0 else 5500000000)
  scheduleAt _ _ _ := .ok true
  cancelDeadline _ := .ok ()
  hostProgressSource turn := .ok turn
  androidProgressSource turn := .ok turn
  beside _ := []

def activatedMachine : DualMachineFormalUsageStateMachine where
  state := .activatedIdle
  entitlement := some dayEntitlement
  remainingSeconds := 100
  balanceKnown := true

/-- The renewal is staged during the first lease, and `requestImmediateLocalStop` comes then. -/
def renewThenStop : List Move :=
  [.prepareForNewFormalStart, .startAfterVerifiedHostVideo 0, .renewAfterObservedProgress,
    .beside (.enter .requestLatch), .beside (.proceed 0)]

/-- The first lease ends, the renewal is staged, and the stop comes before the next one begins. -/
def expireThenStop : List Move :=
  [.prepareForNewFormalStart, .startAfterVerifiedHostVideo 0, .enforceAndGetDataPlanePermitState,
    .renewAfterObservedProgress, .beside (.enter .requestLatch), .beside (.proceed 0)]

theorem renewThenStop_permit_closed :
    HandedBeforeClose (runMoves lateRenewal activatedMachine renewThenStop).ownership.log := by
  have facts : StagedObliged (runMoves lateRenewal activatedMachine renewThenStop).ownership.log ∧
      (runMoves lateRenewal activatedMachine renewThenStop).ownership.immediateStopRequested =
        true := by decide +kernel
  exact no_permit_survives_stop_while_obliged lateRenewal activatedMachine renewThenStop
    (fun _ => rfl) facts.1 facts.2

theorem staged_permit_survives_stop :
    (∀ turn, lateRenewal.closeDataPlane turn = .ok ()) ∧
    (runMoves lateRenewal activatedMachine expireThenStop).ownership.immediateStopRequested = true ∧
    (∀ task ∈ (runMoves lateRenewal activatedMachine expireThenStop).ownership.tasks, task = none) ∧
    ¬ HandedBeforeClose (runMoves lateRenewal activatedMachine expireThenStop).ownership.log := by
  rw [handedBeforeClose_iff]
  exact ⟨fun _ => rfl, by decide +kernel⟩

end VisionForge.FormalCoordinator
