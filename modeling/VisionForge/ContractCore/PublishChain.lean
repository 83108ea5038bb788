import VisionForge.ContractCore.HostPipeline
import VisionForge.Lib.Histories

/-! # What a runnable frame goes back to

A frame that is published while nothing asks for an IDR goes back to an IDR that arrived whole,
through frames that all arrived whole. An identity that is spent on a frame which the fragmenter
refuses breaks the chain, and nothing asks for an IDR then.
-/

namespace VisionForge.ContractCore

open Lib.Ascii Lib.Methods Lib.Histories

/-- The phone cannot go on from here without an IDR. -/
def HostEvent.disturbs : HostEvent → Bool
  | .requestIdr | .repeated | .captureLoss | .invalidFrame => true
  | .generated _ | .published .. => false

def PublishedWhole (events : List HostEvent) (identity : FrameIdentity) : Prop :=
  ∃ isIdr total, 0 < total ∧ .published identity isIdr total total ∈ events

/-- What happened since an IDR leaves the phone able to decode. -/
structure Intact (events : List HostEvent) : Prop where
  undisturbed : ∀ event ∈ events, event.disturbs = false
  whole : ∀ identity, .generated identity ∈ events → PublishedWhole events identity

/-- An IDR of the epoch arrived whole, and everything since then did. -/
def Unbroken (log : List HostEvent) (epoch : UInt64) (frame : Option FrameIdentity) : Prop :=
  ∃ earlier idr total later, log = earlier ++ .published idr true total total :: later ∧ 0 < total ∧
    idr.streamEpoch = epoch ∧ Intact later ∧ ∀ identity, frame = some identity →
      identity = idr ∨ .generated identity ∈ later

/-- Whenever a capture is published as runnable, its frame goes back to a whole IDR. -/
def PublishChainSound (start : HostRuntimeCompositionRoot) (calls : List HostCall) : Prop :=
  ∀ before captureStatus unit isIdr sink now,
    before ++ [.onCapture captureStatus unit isIdr sink now] <+: calls →
    ∀ result next, (HostRuntimeCompositionRoot.onCapture captureStatus unit isIdr sink now).run
        (start.runCalls before) = .ok result next →
      result.code = .framePublished → result.status.blocker = .runnable →
      result.identity ≠ none ∧ Unbroken next.log next.identities.epoch result.identity

/-- A ledger that has recorded the first fragments of a frame, all of them as sent. -/
structure Recording (identity : FrameIdentity) (total index : Nat) (ledger : VideoDeliveryLedger) :
    Prop where
  active : ledger.active = true
  open_ : ledger.terminal = false
  same : ledger.identity = identity
  clean : ledger.socketError = false
  length : ledger.sent.length = total
  count : ledger.sentCount = index
  rest : ∀ later, index ≤ later → ledger.sent[later]? ≠ some true

variable {identity : FrameIdentity} {total index : Nat} {ledger : VideoDeliveryLedger}
  {sink : DatagramSink}

theorem Recording.sent (recording : Recording identity total index ledger) (hin : index < total) :
    Recording identity total (index + 1) (ledger.recordFragment identity index true).2 := by
  obtain ⟨active, open_, same, clean, length, count, rest⟩ := recording
  have here := rest index (Nat.le_refl _)
  have short : ¬ ledger.sent.length ≤ index := by omega
  simp only [VideoDeliveryLedger.recordFragment, active, open_, same, clean, short, here, ne_eq,
    not_true_eq_false, Bool.not_true, Bool.or_self, Bool.false_eq_true, if_false]
  refine ⟨rfl, rfl, rfl, rfl, by simpa using length, by simp [count], fun later le => ?_⟩
  rw [List.getElem?_set_ne (by omega)]
  exact rest later (by omega)

theorem sendDatagrams_taken (datagrams : List Bytes) (recording : Recording identity total index ledger)
    (all : index + datagrams.length = total)
    (whole : (sendDatagrams sink identity datagrams index ledger).1.socketError = false) :
    (sendDatagrams sink identity datagrams index ledger).2 = datagrams.length := by
  induction datagrams generalizing index ledger with
  | nil => rfl
  | cons dgram datagrams ih =>
    simp only [List.length_cons] at all
    have ⟨active, open_, same, clean, length, _, _⟩ := recording
    unfold sendDatagrams at whole ⊢
    cases sent : (sink index dgram).getD false with
    | true =>
      simp only [sent, Bool.not_true, Bool.false_eq_true, if_false] at whole ⊢
      have next := recording.sent (by omega)
      rw [ih next (by omega) whole, List.length_cons]
    | false =>
      have short : ¬ ledger.sent.length ≤ index := by omega
      simp [sent, VideoDeliveryLedger.recordFragment, active, open_, same, clean, short]
        at whole

variable {isIdr : Bool}

theorem begin_recording (begun : VideoDeliveryLedger.begin {} identity isIdr total = .ok ledger) :
    0 < total ∧ Recording identity total 0 ledger := by
  unfold VideoDeliveryLedger.begin at begun
  split at begun
  · cases begun
  split at begun
  · cases begun
  next good =>
  simp only [Bool.or_eq_true, beq_iff_eq, decide_eq_true_eq, not_or] at good
  injection begun with begun
  subst begun
  refine ⟨by omega, rfl, rfl, rfl, rfl, by simp, rfl, fun later _ found => ?_⟩
  have mem := List.mem_of_getElem? found
  simp at mem

theorem finalize_published (published : (ledger.finalize identity).1.fullyPublished = true) :
    ledger.socketError = false := by
  unfold VideoDeliveryLedger.finalize at published
  split at published
  · simp [DeliverySnapshot.fullyPublished] at published
  split at published
  · simp [DeliverySnapshot.fullyPublished] at published
  · simp only [DeliverySnapshot.fullyPublished, VideoDeliveryLedger.snapshot, Bool.and_eq_true,
      Bool.not_eq_true'] at published
    exact published.1.1.2

namespace HostRuntimeFacade

variable {unit : Bytes}

theorem publishAccessUnit_complete {facade next : HostRuntimeFacade} {summary : PublishSummary}
    {taken : Nat}
    (published : facade.publishAccessUnit identity isIdr unit sink =
      .ok (summary, (total, taken), next)) :
    next = { facade with idrTracker := facade.idrTracker.onAccessUnit identity isIdr summary } ∧
      (summary.complete = true → 0 < total ∧ taken = total) := by
  unfold publishAccessUnit at published
  cases cut : DatagramFragmenter.fragment facade.fragmenter.config identity unit with
  | error exception => simp [cut, bind, Except.bind] at published
  | ok datagrams =>
    cases begun : VideoDeliveryLedger.begin {} identity isIdr datagrams.length with
    | error exception => simp [cut, begun, bind, Except.bind] at published
    | ok ledger =>
      simp only [cut, begun, bind, Except.bind, pure, Except.pure, Except.ok.injEq,
        Prod.mk.injEq] at published
      obtain ⟨summaryIs, ⟨totalIs, takenIs⟩, nextIs⟩ := published
      refine ⟨by rw [← nextIs, summaryIs], fun whole => ?_⟩
      obtain ⟨positive, recording⟩ := begin_recording begun
      simp only [← summaryIs, PublishSummary.complete, Bool.and_eq_true, Bool.not_eq_true',
        Bool.or_eq_false_iff] at whole
      have clean := finalize_published (by simpa using whole.1.1.2)
      have all := sendDatagrams_taken datagrams recording (Nat.zero_add _) clean
      omega

theorem publishAccessUnit_ok {facade : HostRuntimeFacade} (valid : identity.valid = true)
    (nonempty : unit ≠ [])
    (fits : unit.length ≤ facade.fragmenter.config.maxAccessUnitBytes) (isIdr : Bool)
    (sink : DatagramSink) :
    ∃ published, facade.publishAccessUnit identity isIdr unit sink = .ok published := by
  obtain ⟨few, limit⟩ := DatagramFragmenter.few_of_fits facade.fragmenter fits
  have cut := DatagramFragmenter.fragment_eq valid nonempty fits few limit
  have count : DatagramFragmenter.datagramCount facade.fragmenter.config unit ≠ 0 :=
    Nat.succ_ne_zero _
  have begun : ∃ ledger, VideoDeliveryLedger.begin {} identity isIdr
      (DatagramFragmenter.datagramCount facade.fragmenter.config unit) = .ok ledger := by
    simp [VideoDeliveryLedger.begin, valid, count, Nat.not_lt.mpr (Nat.le_trans few limit)]
  obtain ⟨ledger, begun⟩ := begun
  unfold publishAccessUnit
  rw [cut]
  simp only [bind, Except.bind, List.length_map, List.length_range, begun]
  exact ⟨_, rfl⟩

theorem onAccessUnit_idr {tracker : IdrDeliveryTracker} {summary : PublishSummary}
    (quiet : (tracker.onAccessUnit identity isIdr summary).idrRequested = false) :
    tracker.idrRequested = false ∨ isIdr = true := by
  cases isIdr with
  | true => exact .inr rfl
  | false => exact .inl (by simpa [IdrDeliveryTracker.onAccessUnit] using quiet)

end HostRuntimeFacade

theorem Intact.of_published {later : List HostEvent} (intact : Intact later) (pos : 0 < total) :
    Intact (later ++ [.generated identity] ++ [.published identity isIdr total total]) where
  undisturbed := by
    intro event mem
    simp only [List.append_assoc, List.mem_append, List.mem_singleton] at mem
    rcases mem with old | rfl | rfl
    · exact intact.undisturbed event old
    · rfl
    · rfl
  whole := by
    intro other mem
    simp only [List.append_assoc, List.mem_append, List.mem_singleton, HostEvent.generated.injEq,
      reduceCtorEq, or_false] at mem
    rcases mem with old | rfl
    · obtain ⟨wasIdr, count, some, published⟩ := intact.whole other old
      exact ⟨wasIdr, count, some, by simp [published]⟩
    · exact ⟨isIdr, total, pos, by simp⟩

theorem Unbroken.published {log : List HostEvent} {epoch : UInt64} {frame : Option FrameIdentity}
    (unbroken : Unbroken log epoch frame) (pos : 0 < total) :
    Unbroken (log ++ [.generated identity] ++ [.published identity isIdr total total]) epoch
      (some identity) := by
  obtain ⟨old, idr, count, later, rfl, some, same, intact, -⟩ := unbroken
  refine ⟨old, idr, count,
    later ++ [.generated identity] ++ [.published identity isIdr total total], by simp, some, same,
    intact.of_published pos, ?_⟩
  rintro _ ⟨⟩
  exact .inr (by simp)

theorem Unbroken.of_idr {log : List HostEvent} {epoch : UInt64} (pos : 0 < total)
    (same : identity.streamEpoch = epoch) :
    Unbroken (log ++ [.published identity true total total]) epoch (some identity) := by
  refine ⟨log, identity, total, [], rfl, pos, same, ⟨by simp, by simp⟩, ?_⟩
  rintro _ ⟨⟩
  exact .inl rfl

theorem Unbroken.weaken {log : List HostEvent} {epoch : UInt64} {frame : Option FrameIdentity}
    (unbroken : Unbroken log epoch frame) : Unbroken log epoch none := by
  obtain ⟨old, idr, count, later, split, some, same, intact, -⟩ := unbroken
  exact ⟨old, idr, count, later, split, some, same, intact, by simp⟩

namespace HostRuntimeCompositionRoot

/-- While no IDR is asked for, the chain is unbroken. -/
structure Chained (root : HostRuntimeCompositionRoot) : Prop where
  published_valid : ∀ identity, root.lastPublished = some identity → identity.valid = true
  chain : root.facade.idrRequested = false → Unbroken root.log root.identities.epoch none

variable {root start : HostRuntimeCompositionRoot}

theorem Chained.request {next : HostRuntimeCompositionRoot} (chained : Chained root)
    (published : next.lastPublished = root.lastPublished)
    (requested : next.facade.idrRequested = true) : Chained next :=
  ⟨by simpa [published] using chained.published_valid, fun quiet => by simp [requested] at quiet⟩

theorem Chained.setBlocker (chained : Chained root) (blocker : PipelineBlocker) (now : Int) :
    Chained (root.setBlocker blocker now) := ⟨chained.published_valid, chained.chain⟩

theorem next_ok {identities : StreamIdentityGenerator}
    (generated : root.identities.next = .ok (identity, identities)) :
    identity.valid = true ∧ identity.streamEpoch = root.identities.epoch ∧
      identities.epoch = root.identities.epoch := by
  unfold StreamIdentityGenerator.next at generated
  split at generated
  · cases generated
  obtain ⟨rfl, rfl⟩ := generated
  refine ⟨by simpa [FrameIdentity.valid] using root.identities.epoch_valid, rfl, ?_⟩
  split <;> rfl

/-- A call leaves the chain as it has to be, and a runnable frame goes back to an IDR. -/
def Lawful (outcome : EStateM.Result StdException HostRuntimeCompositionRoot HostRuntimeResult) :
    Prop :=
  Chained (after outcome) ∧ ∀ result next, outcome = .ok result next →
    result.code = .framePublished → result.status.blocker = .runnable →
    result.identity ≠ none ∧ Unbroken next.log next.identities.epoch result.identity

theorem Lawful.of_code {res : HostRuntimeResult} (chained : Chained root)
    (code : res.code ≠ .framePublished) : Lawful (.ok res root) :=
  ⟨chained, by rintro _ _ ⟨⟩ published; exact absurd published code⟩

theorem publishFrame_lawful {identities : StreamIdentityGenerator} (chained : Chained root)
    (generated : root.identities.next = .ok (identity, identities)) (nonempty : unit ≠ [])
    (fits : root.facade.idrRequested = true ∨
      unit.length ≤ root.facade.fragmenter.config.maxAccessUnitBytes) (isIdr : Bool)
    (now : Int) :
    Lawful (publishFrame identity isIdr unit sink now
      ({ root with identities := identities }.record (.generated identity))) := by
  obtain ⟨valid, ofEpoch, epoch⟩ := next_ok generated
  unfold publishFrame
  cases outcome : root.facade.publishAccessUnit identity isIdr unit sink with
  | error exception =>
    rcases fits with requested | fits
    · simp only [record, outcome]
      exact ⟨chained.request rfl requested, by simp⟩
    · obtain ⟨published, ans⟩ :=
        HostRuntimeFacade.publishAccessUnit_ok valid nonempty fits isIdr sink
      simp [outcome] at ans
  | ok published =>
    obtain ⟨summary, ⟨total, taken⟩, facade⟩ := published
    obtain ⟨rfl, whole⟩ := HostRuntimeFacade.publishAccessUnit_complete outcome
    simp only [record, outcome]
    cases complete : summary.complete with
    | false =>
      exact .of_code (chained.request rfl rfl) (by simp [result])
    | true =>
      obtain ⟨positive, rfl⟩ := whole complete
      have unbroken : (root.facade.idrTracker.onAccessUnit identity isIdr summary).idrRequested =
          false → Unbroken (root.log ++ [.generated identity] ++
            [.published identity isIdr taken taken]) identities.epoch (some identity) := by
        intro quiet
        rw [epoch]
        rcases HostRuntimeFacade.onAccessUnit_idr quiet with pre | rfl
        · exact (chained.chain pre).published positive
        · exact .of_idr positive ofEpoch
      refine ⟨⟨?_, fun quiet => (unbroken quiet).weaken⟩, ?_⟩
      · rintro _ ⟨⟩
        exact valid
      · rintro _ _ ⟨⟩ - runnable
        refine ⟨by simp [result], unbroken ?_⟩
        by_contra requested
        rw [Bool.not_eq_false] at requested
        simp [result, VideoPipelineStatus.snapshot, HostRuntimeFacade.idrRequested,
          HostRuntimeCompositionRoot.setBlocker, requested] at runnable

/-- The frame is too large for the fragmenter, and nothing asks for an IDR. -/
def spendsIdentity (root : HostRuntimeCompositionRoot) : HostCall → Bool
  | .onCapture .frame unit _ _ _ =>
    !root.facade.idrRequested && !root.identities.rotationRequired &&
      decide (root.facade.fragmenter.config.maxAccessUnitBytes < unit.length)
  | _ => false

theorem encodeAndPublish_lawful (chained : Chained root)
    (kept : root.facade.idrRequested = true ∨ root.identities.rotationRequired = true ∨
      unit.length ≤ root.facade.fragmenter.config.maxAccessUnitBytes) (isIdr : Bool)
    (now : Int) : Lawful (encodeAndPublish unit isIdr sink now root) := by
  unfold encodeAndPublish
  split
  · exact .of_code (chained.request rfl rfl) (by simp [result])
  next nonempty =>
  split
  · exact .of_code (chained.setBlocker _ _) (by simp [result])
  next unrotated =>
  cases generated : root.identities.next with
  | error exception => exact ⟨chained, by simp⟩
  | ok next =>
    exact publishFrame_lawful chained generated (by simpa using nonempty)
      (kept.imp_right fun fits => fits.resolve_left unrotated) isIdr now

theorem publishRepeat_lawful (chained : Chained root) (now : Int) :
    Lawful (publishRepeat root.lastPublished sink now root) := by
  unfold publishRepeat
  cases published : root.lastPublished with
  | none => exact .of_code (chained.setBlocker _ _) (by simp [result])
  | some identity =>
    have valid := chained.published_valid identity published
    have repeated : ∃ sent, HostRuntimeFacade.publishRepeat identity sink = .ok sent := by
      obtain ⟨positive, bounded⟩ := DatagramFragmenter.epoch_of_valid valid
      have header : ({ kind := .repeated
                       streamEpoch := identity.streamEpoch.toNat
                       frameSequence := identity.frameSequence.toNat
                       fragmentIndex := 0
                       fragmentCount := 1 } : WireHeader).valid = true := by
        have few : ¬ kMaxFragments < 1 := by decide
        simp [WireHeader.valid, Nat.ne_of_gt positive, Nat.not_lt.mpr bounded, few]
      simp only [HostRuntimeFacade.publishRepeat, DatagramFragmenter.repeated, valid, Bool.not_true,
        Bool.false_eq_true, if_false, DatagramFragmenter.serializeWireHeader_ok header]
      exact ⟨_, rfl⟩
    obtain ⟨sent, repeated⟩ := repeated
    simp only [repeated]
    exact .of_code (chained.request rfl rfl) (by cases sent <;> simp [result])

theorem onCapture_lawful {captureStatus : CaptureStatus} {now : Int} (chained : Chained root)
    (kept : root.spendsIdentity (.onCapture captureStatus unit isIdr sink now) = false) :
    Lawful ((onCapture captureStatus unit isIdr sink now).run root) := by
  change Lawful (onCapture captureStatus unit isIdr sink now root)
  cases captureStatus with
  | frame =>
    have room : root.facade.idrRequested = true ∨ root.identities.rotationRequired = true ∨
        unit.length ≤ root.facade.fragmenter.config.maxAccessUnitBytes := by
      simpa only [spendsIdentity, Bool.and_eq_false_iff, Bool.not_eq_false',
        decide_eq_false_iff_not, Nat.not_lt, or_assoc] using kept
    exact encodeAndPublish_lawful (chained.setBlocker .publishingFrame now) room isIdr now
  | waitTimeout =>
    cases published : root.lastPublished with
    | none =>
      simp only [onCapture, orchestrate, published]
      exact .of_code (chained.setBlocker _ _) (by simp [result])
    | some identity =>
      have lawful := @publishRepeat_lawful sink _ (chained.setBlocker .captureWaiting now) now
      simpa [onCapture, orchestrate, published, setBlocker] using lawful
  | accessLost | deviceRemoved | failed =>
    exact .of_code (chained.request rfl rfl) (by simp [result])

theorem step_chained (chained : Chained root) {call : HostCall}
    (kept : root.spendsIdentity call = false) : Chained (root.step call) := by
  cases call with
  | onCapture captureStatus unit isIdr sink now => exact (onCapture_lawful chained kept).1
  | requestIdr => exact chained.request rfl rfl
  | rotateToReservedEpoch reservedEpoch now =>
    change Chained (after (rotateToReservedEpoch reservedEpoch now root))
    unfold rotateToReservedEpoch
    cases root.identities.rotateTo reservedEpoch with
    | error exception => exact chained
    | ok identities =>
      refine ⟨?_, ?_⟩
      · rintro _ ⟨⟩
      · rintro ⟨⟩

theorem runCalls_chained {calls : List HostCall} (chained : Chained start)
    (kept : Each (fun pre call => (start.runCalls pre).spendsIdentity call = false) calls) :
    Chained (start.runCalls calls) :=
  @foldl_invariant _ calls _ step start Chained (fun root call => root.spendsIdentity call = false)
    chained (fun _ _ chained kept => step_chained chained kept) kept

theorem fresh_chained
    (reservedEpoch : { epoch : UInt64 // 0 < epoch ∧ epoch.toNat ≤ kMaxStreamEpoch }) (now : Int)
    (fragmenter : DatagramFragmenter) : Chained (fresh reservedEpoch now fragmenter) := by
  refine ⟨?_, ?_⟩
  · rintro _ ⟨⟩
  · rintro ⟨⟩

/-- The chain holds in every run in which no identity is spent on a frame that the fragmenter
refuses while nothing asks for an IDR. -/
theorem publish_chain_sound
    (reservedEpoch : { epoch : UInt64 // 0 < epoch ∧ epoch.toNat ≤ kMaxStreamEpoch }) (start : Int)
    (fragmenter : DatagramFragmenter) (calls : List HostCall)
    (kept : Each (fun before call =>
      ((fresh reservedEpoch start fragmenter).runCalls before).spendsIdentity call = false) calls) :
    PublishChainSound (fresh reservedEpoch start fragmenter) calls := by
  rintro before captureStatus unit isIdr sink now ⟨behind, rfl⟩ result next answered
  obtain ⟨old, last⟩ := each_append.mp kept.of_append
  have reached := runCalls_chained (fresh_chained reservedEpoch start fragmenter) old
  exact (onCapture_lawful reached last).2 result next answered

def smallFragmenter : DatagramFragmenter := ⟨⟨24, 32, 128⟩, by decide⟩

def firstEpoch : { epoch : UInt64 // 0 < epoch ∧ epoch.toNat ≤ kMaxStreamEpoch } :=
  ⟨1, by decide⟩

def takeAll : DatagramSink := fun _ _ => some true

def idrThenFrame : List HostCall :=
  [.onCapture .frame [1] true takeAll 0, .onCapture .frame [2] false takeAll 0]

def idrRefusedFrame : List HostCall :=
  [.onCapture .frame [1] true takeAll 0, .onCapture .frame (List.replicate 129 0) false takeAll 0,
    .onCapture .frame [2] false takeAll 0]

theorem idrThenFrame_sound : PublishChainSound (fresh firstEpoch 0 smallFragmenter) idrThenFrame := by
  have first : Each (fun before call => ((fresh firstEpoch 0 smallFragmenter).runCalls
      before).spendsIdentity call = false) [.onCapture .frame [1] true takeAll 0] :=
    each_append.mpr ⟨each_nil, by decide⟩
  exact publish_chain_sound firstEpoch 0 smallFragmenter idrThenFrame
    (each_append.mpr ⟨first, by decide +kernel⟩)

def seen : EStateM.Result StdException HostRuntimeCompositionRoot HostRuntimeResult →
    Option (HostRuntimeCode × PipelineBlocker × List HostEvent)
  | .ok result next => some (result.code, result.status.blocker, next.log)
  | .error _ _ => none

theorem refused_frame_breaks_chain :
    ¬ PublishChainSound (fresh firstEpoch 0 smallFragmenter) idrRefusedFrame := by
  intro sound
  have last := sound [.onCapture .frame [1] true takeAll 0,
    .onCapture .frame (List.replicate 129 0) false takeAll 0] .frame [2] false takeAll 0
    (List.prefix_refl idrRefusedFrame)
  have shown : seen ((onCapture .frame [2] false takeAll 0).run
      ((fresh firstEpoch 0 smallFragmenter).runCalls [.onCapture .frame [1] true takeAll 0,
        .onCapture .frame (List.replicate 129 0) false takeAll 0])) =
      some (.framePublished, .runnable, [.generated ⟨1, 0⟩, .published ⟨1, 0⟩ true 1 1,
        .generated ⟨1, 1⟩, .generated ⟨1, 2⟩, .published ⟨1, 2⟩ false 1 1]) := by
    decide +kernel
  generalize (onCapture .frame [2] false takeAll 0).run _ = outcome at last shown
  cases outcome with
  | error => simp [seen] at shown
  | ok result next =>
    simp only [seen, Option.some.injEq, Prod.mk.injEq] at shown
    obtain ⟨code, blocker, log⟩ := shown
    obtain ⟨-, old, idr, total, later, split, -, -, intact, -⟩ :=
      last result next rfl code blocker
    rw [log] at split
    -- The only IDR on record is the first event but one, and the spent identity comes after it.
    have laterIs : later = [.generated ⟨1, 1⟩, .generated ⟨1, 2⟩, .published ⟨1, 2⟩ false 1 1] := by
      rcases old with _ | ⟨first, _ | ⟨second, old⟩⟩
      · simp at split
      · simp only [List.cons_append, List.nil_append, List.cons.injEq] at split
        exact split.2.2.symm
      · have member : .published idr true total total ∈ old ++
            .published idr true total total :: later := by simp
        simp only [List.cons_append, List.cons.injEq] at split
        rw [← split.2.2] at member
        simp at member
    have spent := intact.whole ⟨1, 1⟩ (by simp [laterIs])
    simp [PublishedWhole, laterIs] at spent

end HostRuntimeCompositionRoot

end VisionForge.ContractCore
