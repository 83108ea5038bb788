import VisionForge.ContractCore.ReassemblyAccounts

/-! # The phone and the contract core reassemble alike

The phone keeps its frames in the order of their arrival, the contract core in the order of
their keys. Nothing either of them answers depends on that order.
-/

namespace VisionForge.ContractCore

open Lib.Ascii Lib.Table Lib.Loads Lib.Run
open MobileRuntime (VideoFragmentHeader VideoPacketKind VideoPreflightReassemblyWindow
  FrameAssembly Config Code VideoReassemblyResult Throwable)
open MobileRuntime.VideoPreflightReassemblyWindow (frameBytes)

/-- Limits are equal if the timeouts are the same time. -/
structure SameLimits (config : Config) (core : ReassemblyConfig) : Prop where
  frames : core.maxInflightFrames = config.maxInflightFrames
  total : core.maxTotalBytes = config.maxTotalBytes
  unit : core.maxAccessUnitBytes = config.maxAccessUnitBytes
  timeout : core.frameTimeoutMillis * 1000000 = config.frameTimeoutNanos

def packetKind : VideoPacketKind → PacketKind
  | .data => .data
  | .repeated => .repeated

def wireHeader (hdr : VideoFragmentHeader) : WireHeader where
  kind := packetKind hdr.kind
  streamEpoch := hdr.streamEpoch
  frameSequence := hdr.frameSequence
  fragmentIndex := hdr.fragmentIndex
  fragmentCount := hdr.fragmentCount

def ingestCode : Code → IngestCode
  | .accepted => .accepted
  | .complete => .complete
  | .duplicate => .duplicate
  | .conflict => .conflict
  | .invalid => .invalid
  | .staleEpoch => .retiredEpoch
  | .resourceLimit => .resourceLimit
  | .candidateRejected => .candidateRejected
  | .gapDetected => .gapDetected
  | .repeated => .repeated

/-- The answer of the contract core that corresponds to one of the phone. -/
def ingestResult (result : VideoReassemblyResult) : IngestResult where
  code := ingestCode result.code
  streamEpoch := result.streamEpoch
  frameSequence := result.frameSequence
  accessUnit := result.accessUnit
  requiresEpochCommit := result.requiresEpochCommit

def assemblyOf (frame : Frame) : FrameAssembly where
  fragments := frame.fragments
  createdAtNanos := frame.createdAt
  receivedCount := frame.receivedFragments
  bytes := frame.bytes

def entryOf (entry : FrameKey × Frame) : FrameKey × FrameAssembly := (entry.1, assemblyOf entry.2)

theorem valid_wireHeader {hdr : VideoFragmentHeader} (data : hdr.kind = .data) :
    (wireHeader hdr).valid = true := by
  have epoch := hdr.epoch_le
  have pos := hdr.epoch_pos
  have most := hdr.count_le
  have index := hdr.index_lt
  have same : MobileRuntime.MAX_FRAGMENT_COUNT = kMaxFragments := rfl
  have longs : MobileRuntime.LONG_MAX = kMaxStreamEpoch := rfl
  simp only [WireHeader.valid, wireHeader, packetKind, data]
  grind

structure Corresponds (window : VideoPreflightReassemblyWindow)
    (reasm : AccessUnitReassembler) : Prop where
  sound : window.Sound
  limits : SameLimits window.config reasm.config
  current : reasm.currentEpoch = window.currentEpoch
  candidate : reasm.candidateEpoch = window.candidateEpoch
  ready : reasm.candidateReady = window.candidateReady
  gap : reasm.gapDetected = window.gapDetected
  total : window.totalBytes = reasm.totalBytes
  frames : (reasm.frames.map entryOf).Perm window.frames
  counts : ∀ entry ∈ reasm.frames, entry.2.fragmentCount = entry.2.fragments.length

theorem corresponds_new {config : Config} {core : ReassemblyConfig}
    (limits : SameLimits config core) :
    Corresponds (.new config) (.new core) where
  sound := VideoPreflightReassemblyWindow.sound_new config
  limits := limits
  current := rfl
  candidate := rfl
  ready := rfl
  gap := rfl
  total := rfl
  frames := .nil
  counts := by simp [AccessUnitReassembler.new]

namespace Corresponds

variable {win : VideoPreflightReassemblyWindow} {reasm : AccessUnitReassembler}
  {hdr : VideoFragmentHeader} {payload : Bytes} {cand : Bool}

variable (same : Corresponds win reasm)

include same

theorem totalBytes_eq : reasm.totalBytes = load frameBytes win.frames := by
  have total := same.total
  rw [same.sound.total] at total
  omega

theorem total_le : reasm.totalBytes ≤ reasm.config.maxTotalBytes := by
  rw [same.totalBytes_eq, same.limits.total]
  exact same.sound.budget

theorem inflightCount : reasm.inflightCount = win.inflightCount := by
  have length := same.frames.length_eq
  rwa [List.length_map] at length

theorem any_frames (condition : FrameKey × FrameAssembly → Bool) :
    reasm.frames.any (fun entry => condition (entryOf entry)) = win.frames.any condition := by
  rw [← same.frames.any_eq, List.any_map]
  rfl

theorem lookup_eq (key : FrameKey) :
    lookup Prod.fst key win.frames = (lookup Prod.fst key reasm.frames).map entryOf := by
  have dist := (same.frames.map Prod.fst).nodup_iff.mpr same.sound.distinct
  rw [← lookup_perm same.frames dist]
  unfold lookup
  rw [List.find?_map]
  rfl

theorem distinct : (reasm.frames.map Prod.fst).Nodup := by
  have nodup := (same.frames.map Prod.fst).nodup_iff.mpr same.sound.distinct
  rwa [List.map_map] at nodup

theorem perm_filter {condition : FrameKey × FrameAssembly → Bool} {walk : FrameKey × Frame → Bool}
    (conditions : ∀ entry ∈ reasm.frames, walk entry = condition (entryOf entry)) :
    ((reasm.frames.filter walk).map entryOf).Perm (win.frames.filter condition) := by
  have filtered : reasm.frames.filter walk = reasm.frames.filter (condition ∘ entryOf) :=
    List.filter_congr conditions
  rw [filtered, ← List.filter_map]
  exact same.frames.filter condition

theorem eraseWhere {cond : FrameKey × FrameAssembly → Bool} {walk : FrameKey × Frame → Bool}
    (conditions : ∀ entry ∈ reasm.frames, walk entry = cond (entryOf entry)) :
    Corresponds (win.dropFrames cond) (reasm.eraseWhere walk) := by
  have dropped := same.sound.dropFrames cond
  have loads : load (·.2.bytes) (reasm.frames.filter walk) =
      load frameBytes (win.frames.filter cond) := by
    rw [← load_perm (same.perm_filter conditions), load_map]
    rfl
  have small : reasm.totalBytes < 2 ^ 64 :=
    Nat.lt_of_le_of_lt same.total_le reasm.config.total_lt
  have split := load_split frameBytes cond win.frames
  have total : (reasm.eraseWhere walk).totalBytes =
      load frameBytes (win.frames.filter (!cond ·)) := by
    have whole := same.totalBytes_eq
    simp only [AccessUnitReassembler.eraseWhere]
    rw [foldl_sizeMinus (by omega) small, loads]
    omega
  refine ⟨dropped, same.limits, same.current, same.candidate, same.ready, same.gap, ?_, ?_, ?_⟩
  · rw [dropped.total, total]
    rfl
  · exact same.perm_filter (fun entry mem => by simp [conditions entry mem])
  · intro entry mem
    exact same.counts entry (List.mem_filter.mp mem).1

theorem eraseFrame_eq (key : FrameKey) : reasm.eraseFrame key = reasm.eraseWhere (·.1 = key) :=
  AccessUnitReassembler.eraseFrame_eq same.distinct key

theorem removeFrame (key : FrameKey) :
    Corresponds (win.removeFrame key) (reasm.eraseFrame key) := by
  rw [same.eraseFrame_eq]
  exact same.eraseWhere (fun entry _ => rfl)

theorem congr {other : VideoPreflightReassemblyWindow} (config : other.config = win.config)
    (frames : other.frames = win.frames) (total : other.totalBytes = win.totalBytes)
    (cur : other.currentEpoch = win.currentEpoch)
    (cand : other.candidateEpoch = win.candidateEpoch)
    (ready : other.candidateReady = win.candidateReady)
    (gap : other.gapDetected = win.gapDetected) : Corresponds other reasm :=
  ⟨same.sound.congr config frames total, config ▸ same.limits, same.current.trans cur.symm,
    same.candidate.trans cand.symm, same.ready.trans ready.symm, same.gap.trans gap.symm,
    total.trans same.total, frames ▸ same.frames, same.counts⟩

theorem withEpochs (cur cand : Option Nat) (ready gap : Bool) :
    Corresponds
      { win with
        currentEpoch := cur
        candidateEpoch := cand
        candidateReady := ready
        gapDetected := gap }
      { reasm with
        currentEpoch := cur
        candidateEpoch := cand
        candidateReady := ready
        gapDetected := gap } :=
  ⟨same.sound.congr rfl rfl rfl, same.limits, rfl, rfl, rfl, rfl, same.total, same.frames,
    same.counts⟩

theorem withCandidate (cand : Option Nat) (ready : Bool) :
    Corresponds { win with candidateEpoch := cand, candidateReady := ready }
      { reasm with candidateEpoch := cand, candidateReady := ready } :=
  ⟨same.sound.congr rfl rfl rfl, same.limits, same.current, rfl, rfl, same.gap, same.total,
    same.frames, same.counts⟩

theorem withReady (ready : Bool) :
    Corresponds { win with candidateReady := ready }
      { reasm with candidateReady := ready } :=
  ⟨same.sound.congr rfl rfl rfl, same.limits, same.current, same.candidate, rfl, same.gap,
    same.total, same.frames, same.counts⟩

theorem withGap (gap : Bool) :
    Corresponds { win with gapDetected := gap } { reasm with gapDetected := gap } :=
  ⟨same.sound.congr rfl rfl rfl, same.limits, same.current, same.candidate, same.ready, rfl,
    same.total, same.frames, same.counts⟩

theorem eraseEpoch (epoch : Nat) : Corresponds (win.eraseEpoch epoch) (reasm.eraseEpoch epoch) := by
  have erased : Corresponds (win.dropFrames (·.1.1 == epoch))
      (reasm.eraseWhere (·.1.1 == epoch)) := same.eraseWhere (fun entry _ => rfl)
  have candidates := erased.candidate
  simp only [VideoPreflightReassemblyWindow.eraseEpoch, AccessUnitReassembler.eraseEpoch, candidates]
  split
  · exact erased.withCandidate none false
  · exact erased

theorem eraseNoncurrentEpochs :
    Corresponds win.eraseNonCurrentEpochs reasm.eraseNoncurrentEpochs := by
  have erased : Corresponds (win.dropFrames (some ·.1.1 != win.currentEpoch))
      (reasm.eraseWhere (fun frame => reasm.currentEpoch.all (frame.1.1 != ·))) := by
    apply same.eraseWhere
    intro entry _
    rw [same.current]
    cases cur : win.currentEpoch with
    | none => rfl
    | some epoch => simp [entryOf, bne]
  exact erased.withCandidate none false

theorem eraseOlderEpochs (epoch : Nat) :
    Corresponds (win.eraseEpochsOlderThan epoch) (reasm.eraseOlderEpochs epoch) :=
  same.eraseWhere (fun _ _ => rfl)

theorem discardInflight : Corresponds win.clearInflight reasm.discardInflight where
  sound := VideoPreflightReassemblyWindow.sound_clearInflight win
  limits := same.limits
  current := same.current
  candidate := rfl
  ready := rfl
  gap := same.gap
  total := rfl
  frames := .nil
  counts := by simp [AccessUnitReassembler.discardInflight]

theorem rejectCandidateEpoch (epoch : Nat) :
    Corresponds (win.rejectCandidateEpoch epoch) (reasm.rejectCandidateEpoch epoch) := by
  unfold VideoPreflightReassemblyWindow.rejectCandidateEpoch
    AccessUnitReassembler.rejectCandidateEpoch
  rw [same.candidate]
  cases cand : win.candidateEpoch with
  | none => simpa using same
  | some held =>
    by_cases other : held = epoch
    · simpa [other] using same.eraseEpoch epoch
    · simpa [other] using same

theorem commitCandidateEpoch (epoch : Nat) :
    Corresponds (win.commitCandidateEpoch epoch).1 (reasm.commitCandidateEpoch epoch).1 ∧
      (win.commitCandidateEpoch epoch).2 = (reasm.commitCandidateEpoch epoch).2 := by
  unfold VideoPreflightReassemblyWindow.commitCandidateEpoch
    AccessUnitReassembler.commitCandidateEpoch
  rw [same.candidate, same.ready, same.current]
  split
  · exact ⟨same, rfl⟩
  · exact ⟨(((same.withEpochs (some epoch) none false win.gapDetected).eraseOlderEpochs
      epoch).withGap false), rfl⟩

theorem selectCandidateEpoch (epoch : Nat) :
    Corresponds (win.selectCandidateEpoch epoch).1 (reasm.selectCandidateEpoch epoch).1 ∧
      (win.selectCandidateEpoch epoch).2 = (reasm.selectCandidateEpoch epoch).2 := by
  unfold VideoPreflightReassemblyWindow.selectCandidateEpoch
    AccessUnitReassembler.selectCandidateEpoch
  rw [same.candidate, same.ready]
  cases win.candidateEpoch with
  | none => exact ⟨same.withCandidate (some epoch) false, rfl⟩
  | some cand =>
    simp only
    split
    · exact ⟨same, rfl⟩
    · split
      · exact ⟨same, rfl⟩
      · exact ⟨(same.eraseEpoch cand).withCandidate (some epoch) false, rfl⟩

theorem expired_eq (now : Int) (frame : Frame) :
    AccessUnitReassembler.expired reasm.config now frame =
      VideoPreflightReassemblyWindow.expired win.config now (assemblyOf frame) := by
  have timeout : (reasm.config.frameTimeoutMillis : Int) * 1000000 =
      win.config.frameTimeoutNanos := by
    exact_mod_cast same.limits.timeout
  rw [AccessUnitReassembler.expired, timeout]
  rfl

theorem hasFramesForEpoch (epoch : Nat) :
    reasm.hasFramesForEpoch epoch = win.hasFramesForEpoch epoch :=
  same.any_frames (·.1.1 == epoch)

theorem eraseExpired (now : Int) : Corresponds (win.dropExpired now) (reasm.eraseExpired now) := by
  have erased : Corresponds
      (win.dropFrames (fun frame =>
        VideoPreflightReassemblyWindow.expired win.config now frame.2))
      (reasm.eraseWhere (fun frame =>
        AccessUnitReassembler.expired reasm.config now frame.2)) :=
    same.eraseWhere (fun entry _ => same.expired_eq now entry.2)
  have gap : reasm.frames.any (fun frame =>
      AccessUnitReassembler.expired reasm.config now frame.2 &&
        reasm.currentEpoch == some frame.1.1) =
      win.frames.any (fun frame =>
        VideoPreflightReassemblyWindow.expired win.config now frame.2 &&
          some frame.1.1 == win.currentEpoch) := by
    rw [← same.any_frames]
    congr 1
    funext frame
    rw [same.expired_eq, same.current]
    exact congrArg _ (Bool.beq_comm)
  simp only [AccessUnitReassembler.eraseExpired, gap, same.gap]
  exact erased.withGap _

theorem resetIdleCandidate : Corresponds win.dropIdleCandidate reasm.resetIdleCandidate := by
  unfold VideoPreflightReassemblyWindow.dropIdleCandidate AccessUnitReassembler.resetIdleCandidate
  rw [same.candidate]
  cases win.candidateEpoch with
  | none => exact same
  | some cand =>
    simp only [same.ready, same.hasFramesForEpoch]
    split
    · exact (same.withCandidate none win.candidateReady).congr rfl rfl rfl rfl rfl rfl rfl
    · exact same

theorem expire (now : Int) : Corresponds (win.expireFrames now) (reasm.expire now) :=
  (same.eraseExpired now).resetIdleCandidate

end Corresponds

/-- Both answer, with the same, and stay alike. -/
def SameAnswer (outcome : Except Throwable VideoReassemblyResult × VideoPreflightReassemblyWindow)
    (core : AccessUnitReassembler × IngestResult) : Prop :=
  Corresponds outcome.2 core.1 ∧ ∃ result, outcome.1 = .ok result ∧ core.2 = ingestResult result

section

variable {win : VideoPreflightReassemblyWindow} {reasm : AccessUnitReassembler}
  {hdr : VideoFragmentHeader} {payload : Bytes} {cand : Bool}

theorem key_wireHeader : (wireHeader hdr).key = hdr.key := rfl

theorem sameAnswer (same : Corresponds win reasm) (code : Code) :
    SameAnswer (.ok (MobileRuntime.result code hdr), win)
      (reasm, answer (ingestCode code) (wireHeader hdr)) :=
  ⟨same, _, rfl, rfl⟩

theorem candidateFailure_same (same : Corresponds win reasm) :
    SameAnswer (win.candidateFailure hdr)
      (reasm.candidateFailure (wireHeader hdr)) :=
  sameAnswer (same.rejectCandidateEpoch hdr.streamEpoch) .candidateRejected

theorem resourceFailure_same (same : Corresponds win reasm) :
    SameAnswer (win.resourceFailure hdr cand)
      (reasm.resourceFailure (wireHeader hdr) cand) := by
  have counted : Corresponds
      { win with resourceLimitEvents := win.resourceLimitEvents + 1 } reasm :=
    same.congr rfl rfl rfl rfl rfl rfl rfl
  cases cand with
  | true => exact candidateFailure_same counted
  | false => exact sameAnswer counted.discardInflight .resourceLimit

theorem conflictFailure_same (same : Corresponds win reasm) :
    SameAnswer (win.conflictFailure hdr cand)
      (reasm.conflictFailure (wireHeader hdr) cand) := by
  cases cand with
  | true => exact candidateFailure_same same
  | false => exact sameAnswer (same.removeFrame hdr.key) .conflict

abbrev Sized (frame : Frame) : Prop := frame.fragmentCount = frame.fragments.length

theorem finishFrame_same (same : Corresponds win reasm) {frame : Frame}
    (sized : Sized frame) (sound : (assemblyOf frame).Sound win.config.maxAccessUnitBytes) :
    SameAnswer (win.finishFrame hdr (assemblyOf frame) cand)
      (reasm.finishFrame (wireHeader hdr) frame cand) := by
  unfold VideoPreflightReassemblyWindow.finishFrame AccessUnitReassembler.finishFrame
  have counts : (assemblyOf frame).receivedCount = (assemblyOf frame).fragments.length ↔
      frame.receivedFragments = frame.fragmentCount := by
    rw [sized]
    rfl
  by_cases full : frame.receivedFragments = frame.fragmentCount
  · have filled := sound.received.symm.trans (counts.mpr full)
    have unit := VideoPreflightReassemblyWindow.assemble_of_full filled
    rw [if_neg (not_not_intro (counts.mpr full)), if_neg (not_not_intro full), unit]
    have removed := same.removeFrame hdr.key
    have ready := removed.withReady (cand || (win.removeFrame hdr.key).candidateReady)
    rw [← removed.ready] at ready
    exact ⟨ready.congr rfl rfl rfl rfl rfl (by rw [removed.ready]) rfl, _, rfl, rfl⟩
  · rw [if_pos (counts.not.mpr full), if_pos full]
    exact sameAnswer same .accepted

theorem putFrame_same (same : Corresponds win reasm) {key : FrameKey} {frame : Frame}
    (added : Nat) (sized : Sized frame)
    (sound : (win.putFrame key (assemblyOf frame) added).Sound) :
    Corresponds (win.putFrame key (assemblyOf frame) added)
      (reasm.putFrame key frame added) where
  sound := sound
  limits := same.limits
  current := same.current
  candidate := same.candidate
  ready := same.ready
  gap := same.gap
  total := by
    simp only [VideoPreflightReassemblyWindow.putFrame, AccessUnitReassembler.putFrame, same.total]
    rfl
  frames := by
    have changed : (update (·.1 = key) (fun entry => (entry.1, frame)) reasm.frames).map
        entryOf = update (·.1 = key) (fun entry => (entry.1, assemblyOf frame))
          (reasm.frames.map entryOf) := by
      simp only [update, List.map_map]
      apply List.map_congr_left
      intro entry _
      by_cases named : entry.1 = key
      · simp [named, entryOf]
      · simp [named, entryOf]
    simp only [VideoPreflightReassemblyWindow.putFrame, AccessUnitReassembler.putFrame, changed]
    exact same.frames.map _
  counts := by
    intro entry mem
    rcases mem_update mem with ⟨kept, -⟩ | ⟨old, -, -, rfl⟩
    · exact same.counts entry kept
    · exact sized

theorem sizeMinus_lt_iff {budget spent : Nat} (within : spent ≤ budget) (small : budget < 2 ^ 64)
    (size : Nat) : sizeMinus budget spent < size ↔ (budget : Int) - spent < size := by
  rw [sizeMinus_of_le within small]
  omega

variable (same : Corresponds win reasm)

include same

theorem storeFragment_same {frame : Frame} (sized : Sized frame)
    (owned : win.Owned hdr cand)
    (found : lookup Prod.fst hdr.key win.frames = some (hdr.key, assemblyOf frame))
    (empty : frame.fragments[hdr.fragmentIndex]? = some none) :
    SameAnswer (win.storeFragment hdr (assemblyOf frame) payload cand)
      (reasm.storeFragment (wireHeader hdr) frame payload cand) := by
  have budget : ∀ {win : VideoPreflightReassemblyWindow} {reasm : AccessUnitReassembler},
      Corresponds win reasm →
      (sizeMinus reasm.config.maxTotalBytes reasm.totalBytes < payload.length ↔
        (win.config.maxTotalBytes : Int) - win.totalBytes < payload.length) := by
    intro win reasm same
    rw [sizeMinus_lt_iff same.total_le reasm.config.total_lt, same.total, same.limits.total]
  unfold VideoPreflightReassemblyWindow.storeFragment AccessUnitReassembler.storeFragment
  simp only [budget same]
  set room := if !cand && decide ((win.config.maxTotalBytes : Int) - win.totalBytes <
    payload.length) then win.eraseNonCurrentEpochs else win with roomIs
  set space := if !cand && decide ((win.config.maxTotalBytes : Int) - win.totalBytes <
    payload.length) then reasm.eraseNoncurrentEpochs else reasm with spaceIs
  have kept : Corresponds room space ∧
      lookup Prod.fst hdr.key room.frames = some (hdr.key, assemblyOf frame) := by
    rw [roomIs, spaceIs]
    split
    · next erases =>
        have plain : cand = false := by simp at erases; exact erases.1
        exact ⟨same.eraseNoncurrentEpochs, VideoPreflightReassemblyWindow.found_eraseNonCurrentEpochs
          same.sound (owned plain) found⟩
    · exact ⟨same, found⟩
  obtain ⟨roomSame, roomFound⟩ := kept
  have frameSound := roomSame.sound.frames _ (lookup_key roomFound).1
  have unit : sizeMinus space.config.maxAccessUnitBytes frame.bytes < payload.length ↔
      (room.config.maxAccessUnitBytes : Int) - frame.bytes < payload.length := by
    have fits : frame.bytes ≤ space.config.maxAccessUnitBytes := by
      rw [roomSame.limits.unit]
      exact frameSound.fits
    rw [sizeMinus_lt_iff fits (Nat.lt_of_le_of_lt space.config.unit_le space.config.total_lt),
      roomSame.limits.unit]
  simp only [unit, budget roomSame, show (assemblyOf frame).bytes = frame.bytes from rfl]
  by_cases tight : (room.config.maxAccessUnitBytes : Int) - frame.bytes < payload.length ∨
      (room.config.maxTotalBytes : Int) - room.totalBytes < payload.length
  · simp only [tight, if_true]
    exact resourceFailure_same roomSame
  · simp only [tight, if_false]
    rw [not_or, roomSame.sound.total] at tight
    have fits : (assemblyOf frame).bytes + payload.length ≤ room.config.maxAccessUnitBytes := by
      simp only [assemblyOf]
      omega
    have stored : (room.putFrame hdr.key
        ((assemblyOf frame).store hdr.fragmentIndex payload) payload.length).Sound :=
      roomSame.sound.putFrame roomFound empty fits (by omega)
    have changed : Sized (frame.store hdr.fragmentIndex payload) := by
      simpa [Frame.store, Sized] using sized
    exact finishFrame_same (putFrame_same roomSame payload.length changed stored) changed
      (frameSound.store empty fits)

theorem receiveFragment_same {frame : Frame} (sized : Sized frame)
    (owned : win.Owned hdr cand)
    (found : lookup Prod.fst hdr.key win.frames = some (hdr.key, assemblyOf frame))
    (count : frame.fragmentCount = hdr.fragmentCount) :
    SameAnswer (win.receiveFragment hdr (assemblyOf frame) payload cand)
      (reasm.receiveFragment (wireHeader hdr) frame payload cand) := by
  have hin : hdr.fragmentIndex < frame.fragments.length := by
    rw [← sized, count]
    exact hdr.index_lt
  have slot : frame.fragments[hdr.fragmentIndex]? =
      some frame.fragments[hdr.fragmentIndex] := List.getElem?_eq_getElem hin
  unfold VideoPreflightReassemblyWindow.receiveFragment AccessUnitReassembler.receiveFragment
  have javaSlot : (assemblyOf frame).fragments[hdr.fragmentIndex]? =
      some frame.fragments[hdr.fragmentIndex] := slot
  have coreSlot : frame.fragments.getD (wireHeader hdr).fragmentIndex none =
      frame.fragments[hdr.fragmentIndex] := by
    exact congrArg (·.getD none) slot
  rw [javaSlot, coreSlot]
  cases held : frame.fragments[hdr.fragmentIndex] with
  | none =>
    exact storeFragment_same same sized owned found (slot.trans (congrArg some held))
  | some previous =>
    by_cases equal : previous = payload
    · simp only [equal, if_true, and_self]
      exact ⟨same.congr rfl rfl rfl rfl rfl rfl rfl, _, rfl, rfl⟩
    · simp only [equal, if_false, and_false]
      exact conflictFailure_same same

theorem insert_same (missing : lookup Prod.fst hdr.key win.frames = none) (now : Int) :
    Corresponds
      { win with frames := win.frames ++ [(hdr.key, FrameAssembly.new hdr.fragmentCount now)] }
      (reasm.emplace hdr.key (Frame.new hdr.fragmentCount now)) where
  sound := same.sound.insert missing now
  limits := same.limits
  current := same.current
  candidate := same.candidate
  ready := same.ready
  gap := same.gap
  total := same.total
  frames := by
    have inserted := (List.perm_orderedInsert (fun a b : FrameKey × Frame => keyLe a.1 b.1)
      (hdr.key, Frame.new hdr.fragmentCount now) reasm.frames).map entryOf
    exact (inserted.trans (same.frames.cons _)).trans (List.perm_append_singleton _ _).symm
  counts := by
    intro entry mem
    have inserted := (List.perm_orderedInsert (fun a b : FrameKey × Frame => keyLe a.1 b.1)
      (hdr.key, Frame.new hdr.fragmentCount now) reasm.frames).mem_iff.mp mem
    rcases List.mem_cons.mp inserted with new | old
    · simp [new, Frame.new]
    · exact same.counts entry old

theorem placeFragment_same (owned : win.Owned hdr cand) (now : Int) :
    SameAnswer (win.placeFragment hdr payload now cand)
      (reasm.placeFragment (wireHeader hdr) payload now cand) := by
  unfold VideoPreflightReassemblyWindow.placeFragment AccessUnitReassembler.placeFragment
  have both := same.lookup_eq hdr.key
  rw [key_wireHeader]
  cases found : lookup Prod.fst hdr.key reasm.frames with
  | some entry =>
    obtain ⟨key, frame⟩ := entry
    obtain rfl : key = hdr.key := (lookup_key found).2
    have sized := same.counts _ (lookup_key found).1
    rw [found] at both
    have javaFound : lookup Prod.fst hdr.key win.frames = some (hdr.key, assemblyOf frame) := both
    have counts : (assemblyOf frame).fragments.length = hdr.fragmentCount ↔
        frame.fragmentCount = (wireHeader hdr).fragmentCount := by
      rw [show frame.fragmentCount = frame.fragments.length from sized]
      rfl
    rw [javaFound]
    by_cases count : frame.fragmentCount = (wireHeader hdr).fragmentCount
    · simp only [counts.mpr count, count, ne_eq, not_true_eq_false, if_false]
      exact receiveFragment_same same sized owned javaFound count
    · simp only [counts.not.mpr count, count, ne_eq, not_false_eq_true, if_true]
      exact conflictFailure_same same
  | none =>
    rw [found] at both
    have javaMissing : lookup Prod.fst hdr.key win.frames = none := both
    rw [javaMissing]
    simp only [same.inflightCount, same.limits.frames]
    set room := if decide (win.config.maxInflightFrames ≤ win.inflightCount) && !cand
      then win.eraseNonCurrentEpochs else win with roomIs
    set space := if decide (win.config.maxInflightFrames ≤ win.inflightCount) && !cand
      then reasm.eraseNoncurrentEpochs else reasm with spaceIs
    have kept : Corresponds room space ∧ room.Owned hdr cand ∧
        lookup Prod.fst hdr.key room.frames = none := by
      rw [roomIs, spaceIs]
      split
      · refine ⟨same.eraseNoncurrentEpochs, owned, List.find?_eq_none.mpr ?_⟩
        intro row mem
        exact List.find?_eq_none.mp javaMissing row (List.mem_filter.mp mem).1
      · exact ⟨same, owned, javaMissing⟩
    obtain ⟨roomSame, roomOwned, missing⟩ := kept
    simp only [roomSame.inflightCount, roomSame.limits.frames]
    by_cases full : room.config.maxInflightFrames ≤ room.inflightCount
    · simp only [full, if_true]
      exact resourceFailure_same roomSame
    · simp only [full, if_false]
      have placed : lookup Prod.fst hdr.key (room.frames ++
          [(hdr.key, FrameAssembly.new hdr.fragmentCount now)]) =
            some (hdr.key, assemblyOf (Frame.new hdr.fragmentCount now)) :=
        @lookup_append _ _ _ Prod.fst room.frames (hdr.key, _) missing
      exact receiveFragment_same (insert_same roomSame missing now) (by simp [Sized, Frame.new])
        roomOwned
        placed rfl

/-- A data packet with octets is answered alike. -/
theorem ingest_same (data : hdr.kind = .data) (bs : payload ≠ []) {now : Int}
    (clock : 0 ≤ now) :
    SameAnswer (win.ingest hdr payload now)
      (reasm.ingest (wireHeader hdr) payload now) := by
  have expired := same.expire now
  set later := win.expireFrames now
  set then' := reasm.expire now with thenIs
  have java : win.ingest hdr payload now = later.ingestUnexpired hdr payload now := by
    have late : ¬ now < 0 := by omega
    simp [VideoPreflightReassemblyWindow.ingest, VideoPreflightReassemblyWindow.ingestRange, late,
      later]
  have stale : then'.isRetired (wireHeader hdr).streamEpoch = later.isStale hdr.streamEpoch := by
    simp only [AccessUnitReassembler.isRetired, VideoPreflightReassemblyWindow.isStale,
      expired.current]
    cases later.currentEpoch <;> rfl
  have ahead : then'.isCandidate (wireHeader hdr).streamEpoch =
      later.isCandidate hdr.streamEpoch := by
    simp only [AccessUnitReassembler.isCandidate, VideoPreflightReassemblyWindow.isCandidate,
      expired.current]
    cases later.currentEpoch <;> rfl
  have gapped : (then'.gapDetected && then'.currentEpoch == some (wireHeader hdr).streamEpoch) =
      (later.gapDetected && later.currentEpoch == some hdr.streamEpoch) := by
    rw [expired.gap, expired.current]
    rfl
  have size : payload.length ≠ 0 := by simpa using bs
  rw [java]
  simp only [AccessUnitReassembler.ingest, valid_wireHeader data, ← thenIs, stale, ahead, gapped,
    expired.limits.unit, Bool.not_true, Bool.false_eq_true, if_false,
    VideoPreflightReassemblyWindow.ingestUnexpired]
  have plain : (wireHeader hdr).kind ≠ .repeated := by simp [wireHeader, packetKind, data]
  have epoch : (wireHeader hdr).streamEpoch = hdr.streamEpoch := rfl
  have empty : payload.isEmpty = false := by simpa using bs
  simp only [plain, data, epoch, empty, size, if_false, false_or, Bool.false_or,
    show ((VideoPacketKind.data == VideoPacketKind.repeated) = false) from rfl, Bool.false_and,
    Bool.false_eq_true, decide_eq_true_eq]
  by_cases isStale : later.isStale hdr.streamEpoch = true
  · simp only [isStale, if_true]
    exact sameAnswer expired .staleEpoch
  · simp only [isStale, Bool.false_eq_true, if_false]
    by_cases gap : (later.gapDetected && later.currentEpoch == some hdr.streamEpoch) = true
    · simp only [gap, if_true]
      exact sameAnswer (expired.withGap false).discardInflight .gapDetected
    · simp only [gap, Bool.false_eq_true, if_false]
      by_cases large : later.config.maxAccessUnitBytes < payload.length
      · simp only [large, if_true]
        exact sameAnswer expired .invalid
      · simp only [large, if_false]
        by_cases isCandidate : later.isCandidate hdr.streamEpoch = true
        · simp only [isCandidate, if_true]
          obtain ⟨chosen, choice⟩ := expired.selectCandidateEpoch hdr.streamEpoch
          simp only [← choice]
          split
          · exact sameAnswer chosen .candidateRejected
          · exact placeFragment_same chosen (by simp) now
        · simp only [isCandidate, Bool.false_eq_true, if_false]
          exact placeFragment_same expired
            (VideoPreflightReassemblyWindow.owned_of_neither isStale isCandidate) now

end

structure DataPacket where
  header : VideoFragmentHeader
  payload : Bytes
  data : header.kind = .data
  octets : payload ≠ []

inductive ReassemblyCall where
  | ingest (packet : DataPacket) (now : Nat)
  | expire (now : Nat)
  | discardInflight
  | commitCandidateEpoch (epoch : Nat)
  | rejectCandidateEpoch (epoch : Nat)

inductive WindowAnswer where
  | ingested (result : Except Throwable VideoReassemblyResult)
  | expired (result : Except Throwable Unit)
  | committed (accepted : Bool)
  | returned

inductive CoreAnswer where
  | ingested (result : IngestResult)
  | committed (accepted : Bool)
  | returned
  deriving DecidableEq

/-- What the contract core answers in place of the phone, if the phone does not throw. -/
def WindowAnswer.coreAnswer : WindowAnswer → Option CoreAnswer
  | .ingested (.ok result) => some (.ingested (ingestResult result))
  | .ingested (.error _) => none
  | .expired (.ok _) => some .returned
  | .expired (.error _) => none
  | .committed accepted => some (.committed accepted)
  | .returned => some .returned

def windowStep (win : VideoPreflightReassemblyWindow) :
    ReassemblyCall → VideoPreflightReassemblyWindow × WindowAnswer
  | .ingest packet now =>
    let (result, win) := win.ingest packet.header packet.payload now
    (win, .ingested result)
  | .expire now =>
    match win.expire now with
    | .ok win => (win, .expired (.ok ()))
    | .error error => (win, .expired (.error error))
  | .discardInflight => (win.discardInflight, .returned)
  | .commitCandidateEpoch epoch =>
    let (win, accepted) := win.commitCandidateEpoch epoch
    (win, .committed accepted)
  | .rejectCandidateEpoch epoch => (win.rejectCandidateEpoch epoch, .returned)

def coreStep (reasm : AccessUnitReassembler) :
    ReassemblyCall → AccessUnitReassembler × CoreAnswer
  | .ingest packet now =>
    let (reasm, result) :=
      reasm.ingest (wireHeader packet.header) packet.payload now
    (reasm, .ingested result)
  | .expire now => (reasm.expire now, .returned)
  | .discardInflight => (reasm.discardInflight, .returned)
  | .commitCandidateEpoch epoch =>
    let (reasm, accepted) := reasm.commitCandidateEpoch epoch
    (reasm, .committed accepted)
  | .rejectCandidateEpoch epoch => (reasm.rejectCandidateEpoch epoch, .returned)

theorem step_same {win : VideoPreflightReassemblyWindow} {reasm : AccessUnitReassembler}
    (same : Corresponds win reasm) (call : ReassemblyCall) :
    Corresponds (windowStep win call).1 (coreStep reasm call).1 ∧
      (windowStep win call).2.coreAnswer = some (coreStep reasm call).2 := by
  cases call with
  | ingest packet now =>
    obtain ⟨after, res, returned, ans⟩ :=
      ingest_same same packet.data packet.octets (Int.natCast_nonneg now)
    refine ⟨after, ?_⟩
    simp only [windowStep, coreStep, returned, ans, WindowAnswer.coreAnswer]
  | expire now =>
    exact ⟨same.expire now, rfl⟩
  | discardInflight => exact ⟨same.discardInflight, rfl⟩
  | commitCandidateEpoch epoch =>
    obtain ⟨after, ok⟩ := same.commitCandidateEpoch epoch
    exact ⟨after, congrArg (fun ok => some (CoreAnswer.committed ok)) ok⟩
  | rejectCandidateEpoch epoch => exact ⟨same.rejectCandidateEpoch epoch, rfl⟩

theorem run_same {win : VideoPreflightReassemblyWindow} {reasm : AccessUnitReassembler}
    (same : Corresponds win reasm) (calls : List ReassemblyCall) :
    Corresponds (exec windowStep win calls) (exec coreStep reasm calls) ∧
      (trace windowStep win calls).map (fun ans => ans.2.coreAnswer) =
        (trace coreStep reasm calls).map (fun ans => some ans.2) := by
  induction calls generalizing win reasm with
  | nil => exact ⟨same, rfl⟩
  | cons call calls ih =>
    obtain ⟨after, ans⟩ := step_same same call
    obtain ⟨final, answers⟩ := ih after
    exact ⟨final, by simp only [trace_cons, List.map_cons, ans, answers]⟩

/-- With the same limits and the same calls, the phone and the contract core give the same
answers and hold the same. -/
theorem reassemblers_agree {config : Config} {core : ReassemblyConfig}
    (limits : SameLimits config core) (calls : List ReassemblyCall) :
    (trace windowStep (.new config) calls).map (fun answered => answered.2.coreAnswer) =
        (trace coreStep (.new core) calls).map (fun answered => some answered.2) ∧
      (exec coreStep (.new core) calls).currentEpoch =
        (exec windowStep (.new config) calls).currentEpoch ∧
      (exec coreStep (.new core) calls).candidateEpoch =
        (exec windowStep (.new config) calls).candidateEpoch ∧
      (exec coreStep (.new core) calls).inflightCount =
        (exec windowStep (.new config) calls).inflightCount ∧
      ((exec coreStep (.new core) calls).totalBytes : Int) =
        (exec windowStep (.new config) calls).totalBytes := by
  obtain ⟨same, answers⟩ := run_same (corresponds_new limits) calls
  exact ⟨answers, same.current, same.candidate, same.inflightCount, same.total.symm⟩

theorem within_pos {n bound : Nat} (h : 0 < n ∧ n ≤ bound) : 0 < n := h.1

theorem within_le {n bound : Nat} (h : 0 < n ∧ n ≤ bound) : n ≤ bound := h.2

/-- The first fragment of a frame. -/
def leadingFragment (epoch sequence count : Nat)
    (epochs : 0 < epoch ∧ epoch ≤ MobileRuntime.LONG_MAX)
    (sequences : sequence ≤ MobileRuntime.UINT32_MAX)
    (counts : 0 < count ∧ count ≤ MobileRuntime.MAX_FRAGMENT_COUNT) (payload : Bytes)
    (octets : payload ≠ []) : DataPacket where
  header :=
    { kind := .data
      streamEpoch := epoch
      frameSequence := sequence
      fragmentIndex := 0
      fragmentCount := count
      epoch_pos := within_pos epochs
      epoch_le := within_le epochs
      sequence_le := sequences
      count_pos := within_pos counts
      count_le := within_le counts
      index_lt := within_pos counts }
  payload := payload
  data := rfl
  octets := octets

/-- A frame is completed and its epoch committed. The next one expires with a fragment missing,
which leaves a gap before the third, and another epoch begins. -/
def gapCalls : List ReassemblyCall :=
  [.ingest (leadingFragment 7 0 1 (by decide) (by decide) (by decide) [1] (by decide)) 5,
    .commitCandidateEpoch 7,
    .ingest (leadingFragment 7 1 2 (by decide) (by decide) (by decide) [2] (by decide)) 6,
    .expire 600000000,
    .ingest (leadingFragment 7 2 1 (by decide) (by decide) (by decide) [3] (by decide)) 600000001,
    .ingest (leadingFragment 8 0 2 (by decide) (by decide) (by decide) [4] (by decide)) 600000002]

theorem default_reassemblers_agree :
    SameLimits Config.productionDefaults defaultReassemblyConfig ∧
      (trace windowStep (.new Config.productionDefaults) gapCalls).map
          (fun answered => answered.2.coreAnswer) =
        (trace coreStep (.new defaultReassemblyConfig) gapCalls).map
          (fun answered => some answered.2) ∧
      (exec coreStep (.new defaultReassemblyConfig) gapCalls).currentEpoch = some 7 ∧
      (exec coreStep (.new defaultReassemblyConfig) gapCalls).candidateEpoch = some 8 ∧
      (exec coreStep (.new defaultReassemblyConfig) gapCalls).inflightCount = 1 := by
  have limits : SameLimits Config.productionDefaults defaultReassemblyConfig :=
    ⟨rfl, rfl, rfl, rfl⟩
  obtain ⟨answers, current, cand, inflight, -⟩ := reassemblers_agree limits gapCalls
  have held : (exec windowStep (.new Config.productionDefaults) gapCalls).currentEpoch = some 7 ∧
      (exec windowStep (.new Config.productionDefaults) gapCalls).candidateEpoch = some 8 ∧
      (exec windowStep (.new Config.productionDefaults) gapCalls).inflightCount = 1 := by
    decide +kernel
  exact ⟨limits, answers, current.trans held.1, cand.trans held.2.1, inflight.trans held.2.2⟩

end VisionForge.ContractCore
