import VisionForge.Lib.Loads
import VisionForge.MobileRuntime.ReassemblyWindow

/-! # The accounts of the window

Whatever arrives, the window knows how many bytes it holds and how many fragments of each
frame are there, keeps within its limits, and answers.
-/

namespace VisionForge.MobileRuntime

open Lib.Ascii Lib.Table Lib.Loads

def slotBytes (slot : Option Bytes) : Nat := (slot.getD []).length

structure FrameAssembly.Sound (limit : Nat) (frame : FrameAssembly) : Prop where
  received : frame.receivedCount = frame.fragments.countP (·.isSome)
  bytes : frame.bytes = load slotBytes frame.fragments
  fits : frame.bytes ≤ limit

theorem FrameAssembly.sound_new (limit fragmentCount : Nat) (createdAtNanos : Int) :
    (FrameAssembly.new fragmentCount createdAtNanos).Sound limit where
  received := by simp [FrameAssembly.new, List.countP_replicate]
  bytes := by simp [FrameAssembly.new, load, slotBytes]
  fits := by simp [FrameAssembly.new]

theorem FrameAssembly.Sound.store {limit : Nat} {frame : FrameAssembly} (sound : frame.Sound limit)
    {index : Nat} (empty : frame.fragments[index]? = some none) {payload : Bytes}
    (room : frame.bytes + payload.length ≤ limit) : (frame.store index payload).Sound limit := by
  obtain ⟨inside, isEmpty⟩ := List.getElem?_eq_some_iff.mp empty
  have split : frame.fragments = frame.fragments.take index ++
      none :: frame.fragments.drop (index + 1) := by
    rw [← isEmpty, List.getElem_cons_drop, List.take_append_drop]
  have changed : frame.fragments.set index (some payload) = frame.fragments.take index ++
      some payload :: frame.fragments.drop (index + 1) := List.set_eq_take_append_cons_drop ..|>.trans
        (by simp [inside])
  have received := sound.received
  have bytes := sound.bytes
  rw [split] at received bytes
  refine ⟨?_, ?_, room⟩
  · simp only [FrameAssembly.store, changed]
    simp at received ⊢
    omega
  · simp only [FrameAssembly.store, changed]
    simp only [load_append, load_cons, slotBytes, Option.getD_none, Option.getD_some,
      List.length_nil] at bytes ⊢
    omega

namespace VideoPreflightReassemblyWindow

theorem assemble_of_full {fragments : List (Option Bytes)}
    (full : fragments.countP (·.isSome) = fragments.length) :
    assemble fragments = some (fragments.flatMap (·.getD [])) := by
  rw [List.countP_eq_length] at full
  induction fragments with
  | nil => rfl
  | cons frag fragments ih =>
    cases frag with
    | none => simpa using full none (by simp)
    | some bs =>
      have rest := ih (fun frag mem => full frag (by simp [mem]))
      simp [assemble, rest]

def frameBytes (frame : FrameKey × FrameAssembly) : Nat := frame.2.bytes

structure Sound (window : VideoPreflightReassemblyWindow) : Prop where
  distinct : (window.frames.map Prod.fst).Nodup
  total : window.totalBytes = (load frameBytes window.frames : Nat)
  budget : load frameBytes window.frames ≤ window.config.maxTotalBytes
  frames : ∀ frame ∈ window.frames, frame.2.Sound window.config.maxAccessUnitBytes

theorem sound_new (config : Config) : (new config).Sound where
  distinct := by simp [new]
  total := by simp [new]
  budget := by simp [new]
  frames := by simp [new]

theorem sound_clearInflight (win : VideoPreflightReassemblyWindow) : win.clearInflight.Sound where
  distinct := by simp [clearInflight]
  total := by simp [clearInflight]
  budget := by simp [clearInflight]
  frames := by simp [clearInflight]

namespace Sound

variable {win : VideoPreflightReassemblyWindow}

theorem congr {other : VideoPreflightReassemblyWindow} (sound : win.Sound)
    (config : other.config = win.config) (frames : other.frames = win.frames)
    (total : other.totalBytes = win.totalBytes) : other.Sound where
  distinct := by rw [frames]; exact sound.distinct
  total := by rw [frames, total]; exact sound.total
  budget := by rw [frames, config]; exact sound.budget
  frames := by rw [frames, config]; exact sound.frames

theorem sum_dropped (rows : List (FrameKey × FrameAssembly)) :
    (rows.map (fun frame => (frame.2.bytes : Int))).sum = (load frameBytes rows : Nat) := by
  induction rows with
  | nil => rfl
  | cons row rows ih => simp [ih, frameBytes]

theorem dropFrames (sound : win.Sound) (cond : FrameKey × FrameAssembly → Bool) :
    (win.dropFrames cond).Sound where
  distinct := distinct_filter sound.distinct _
  total := by
    have split := load_split frameBytes cond win.frames
    simp only [VideoPreflightReassemblyWindow.dropFrames, sum_dropped, sound.total]
    omega
  budget := (load_filter_le _ _ _).trans sound.budget
  frames := by
    intro frame mem
    exact sound.frames frame (List.mem_filter.mp mem).1

theorem eraseEpoch (sound : win.Sound) (epoch : Nat) : (win.eraseEpoch epoch).Sound := by
  have dropped := sound.dropFrames (·.1.1 == epoch)
  unfold VideoPreflightReassemblyWindow.eraseEpoch
  simp only
  split
  · exact dropped.congr rfl rfl rfl
  · exact dropped

theorem eraseNonCurrentEpochs (sound : win.Sound) : win.eraseNonCurrentEpochs.Sound :=
  (sound.dropFrames _).congr rfl rfl rfl

theorem expireFrames (sound : win.Sound) (now : Int) : (win.expireFrames now).Sound := by
  have dropped : (win.dropExpired now).Sound := (sound.dropFrames _).congr rfl rfl rfl
  unfold VideoPreflightReassemblyWindow.expireFrames
    VideoPreflightReassemblyWindow.dropIdleCandidate
  split
  · exact dropped
  · split
    · exact dropped.congr rfl rfl rfl
    · exact dropped

theorem selectCandidateEpoch (sound : win.Sound) (epoch : Nat) :
    (win.selectCandidateEpoch epoch).1.Sound := by
  unfold VideoPreflightReassemblyWindow.selectCandidateEpoch
  split
  · exact sound.congr rfl rfl rfl
  · next cand _ =>
      split_ifs
      · exact sound
      · exact sound
      · exact (sound.eraseEpoch cand).congr rfl rfl rfl

theorem rejectCandidateEpoch (sound : win.Sound) (epoch : Nat) :
    (win.rejectCandidateEpoch epoch).Sound := by
  unfold VideoPreflightReassemblyWindow.rejectCandidateEpoch
  split
  · exact sound.eraseEpoch epoch
  · exact sound

theorem commitCandidateEpoch (sound : win.Sound) (epoch : Nat) :
    (win.commitCandidateEpoch epoch).1.Sound := by
  unfold VideoPreflightReassemblyWindow.commitCandidateEpoch
  split
  · exact sound
  · have committed : ({ win with
        currentEpoch := some epoch, candidateEpoch := none, candidateReady := false } :
          VideoPreflightReassemblyWindow).Sound := sound.congr rfl rfl rfl
    exact (committed.dropFrames (·.1.1 < epoch)).congr rfl rfl rfl

end Sound

/-- The window has an answer and keeps its accounts. -/
def Answers (outcome : Except Throwable VideoReassemblyResult × VideoPreflightReassemblyWindow) :
    Prop :=
  outcome.2.Sound ∧ ∃ result, outcome.1 = .ok result

section

variable {win : VideoPreflightReassemblyWindow} {hdr : VideoFragmentHeader}
  {frame : FrameAssembly} {payload : Bytes} {cand : Bool}

theorem candidateFailure_answers (sound : win.Sound) : Answers (win.candidateFailure hdr) :=
  ⟨sound.rejectCandidateEpoch _, _, rfl⟩

theorem resourceFailure_answers (sound : win.Sound) : Answers (win.resourceFailure hdr cand) := by
  cases cand with
  | true => exact candidateFailure_answers (sound.congr rfl rfl rfl)
  | false => exact ⟨sound_clearInflight _, _, rfl⟩

theorem conflictFailure_answers (sound : win.Sound) : Answers (win.conflictFailure hdr cand) := by
  cases cand with
  | true => exact candidateFailure_answers sound
  | false => exact ⟨sound.dropFrames _, _, rfl⟩

theorem finishFrame_answers (sound : win.Sound)
    (frameSound : frame.Sound win.config.maxAccessUnitBytes) :
    Answers (win.finishFrame hdr frame cand) := by
  unfold finishFrame
  by_cases full : frame.receivedCount = frame.fragments.length
  · rw [if_neg (not_not_intro full), assemble_of_full (frameSound.received.symm.trans full)]
    exact ⟨(sound.dropFrames _).congr rfl rfl rfl, _, rfl⟩
  · rw [if_pos full]
    exact ⟨sound, _, rfl⟩

/-- A fragment that is not a candidate's is of the current epoch. -/
abbrev Owned (win : VideoPreflightReassemblyWindow) (hdr : VideoFragmentHeader)
    (cand : Bool) : Prop :=
  cand = false → win.currentEpoch = some hdr.streamEpoch

theorem owned_of_neither (notStale : ¬ win.isStale hdr.streamEpoch = true)
    (notCandidate : ¬ win.isCandidate hdr.streamEpoch = true) :
    win.Owned hdr false := by
  intro _
  cases cur : win.currentEpoch with
  | none => simp [isCandidate, cur] at notCandidate
  | some epoch =>
    simp only [isStale, isCandidate, cur, Option.any_some, Option.all_some,
      decide_eq_true_eq] at notStale notCandidate
    congr 1
    omega

theorem found_eraseNonCurrentEpochs (sound : win.Sound)
    (cur : win.currentEpoch = some hdr.streamEpoch)
    (found : lookup Prod.fst hdr.key win.frames = some (hdr.key, frame)) :
    lookup Prod.fst hdr.key win.eraseNonCurrentEpochs.frames = some (hdr.key, frame) := by
  apply lookup_filter sound.distinct found
  simp [cur, VideoFragmentHeader.key]

theorem Sound.putFrame (sound : win.Sound)
    (found : lookup Prod.fst hdr.key win.frames = some (hdr.key, frame))
    (empty : frame.fragments[hdr.fragmentIndex]? = some none)
    (unitRoom : frame.bytes + payload.length ≤ win.config.maxAccessUnitBytes)
    (room : load frameBytes win.frames + payload.length ≤ win.config.maxTotalBytes) :
    (win.putFrame hdr.key (frame.store hdr.fragmentIndex payload)
      payload.length).Sound := by
  have stored := (sound.frames _ (lookup_key found).1).store empty unitRoom
  have exchanged : load frameBytes (update (·.1 = hdr.key)
      (fun entry => (entry.1, frame.store hdr.fragmentIndex payload)) win.frames) +
        frameBytes (hdr.key, frame) = load frameBytes win.frames +
          frameBytes (hdr.key, frame.store hdr.fragmentIndex payload) :=
    load_update frameBytes sound.distinct found
  have held : frameBytes (hdr.key, frame) + payload.length =
      frameBytes (hdr.key, frame.store hdr.fragmentIndex payload) := rfl
  have total : load frameBytes (win.putFrame hdr.key
      (frame.store hdr.fragmentIndex payload) payload.length).frames =
        load frameBytes win.frames + payload.length := by
    simp only [VideoPreflightReassemblyWindow.putFrame]
    omega
  constructor
  · simp only [VideoPreflightReassemblyWindow.putFrame]
    rw [map_update (by intro row _ _; rfl)]
    exact sound.distinct
  · rw [total]
    simp [VideoPreflightReassemblyWindow.putFrame, sound.total]
  · rw [total]
    exact room
  · intro entry mem
    rcases mem_update mem with ⟨kept, -⟩ | ⟨old, -, -, rfl⟩
    · exact sound.frames entry kept
    · exact stored

theorem storeFragment_answers (sound : win.Sound) (owned : win.Owned hdr cand)
    (found : lookup Prod.fst hdr.key win.frames = some (hdr.key, frame))
    (empty : frame.fragments[hdr.fragmentIndex]? = some none) :
    Answers (win.storeFragment hdr frame payload cand) := by
  unfold storeFragment
  set room := if !cand && decide ((win.config.maxTotalBytes : Int) - win.totalBytes <
    payload.length) then win.eraseNonCurrentEpochs else win with roomIs
  have kept : room.Sound ∧ room.config = win.config ∧
      lookup Prod.fst hdr.key room.frames = some (hdr.key, frame) := by
    rw [roomIs]
    split
    · next erases =>
        have plain : cand = false := by simp at erases; exact erases.1
        exact ⟨sound.eraseNonCurrentEpochs, rfl,
          found_eraseNonCurrentEpochs sound (owned plain) found⟩
    · exact ⟨sound, rfl, found⟩
  obtain ⟨roomSound, -, roomFound⟩ := kept
  by_cases tight : (room.config.maxAccessUnitBytes : Int) - frame.bytes < payload.length ∨
      (room.config.maxTotalBytes : Int) - room.totalBytes < payload.length
  · simp only [tight, if_true]
    exact resourceFailure_answers roomSound
  · simp only [tight, if_false]
    rw [not_or, roomSound.total] at tight
    have stored : (room.putFrame hdr.key (frame.store hdr.fragmentIndex payload)
        payload.length).Sound := roomSound.putFrame roomFound empty (by omega) (by omega)
    have frameSound := roomSound.frames _ (lookup_key roomFound).1
    exact finishFrame_answers stored (frameSound.store empty (by simp only; omega))

theorem receiveFragment_answers (sound : win.Sound) (owned : win.Owned hdr cand)
    (found : lookup Prod.fst hdr.key win.frames = some (hdr.key, frame))
    (size : frame.fragments.length = hdr.fragmentCount) :
    Answers (win.receiveFragment hdr frame payload cand) := by
  have hin : hdr.fragmentIndex < frame.fragments.length := by
    rw [size]
    exact hdr.index_lt
  unfold receiveFragment
  cases slot : frame.fragments[hdr.fragmentIndex]? with
  | none =>
    simp at slot
    omega
  | some previous =>
    cases previous with
    | none => exact storeFragment_answers sound owned found slot
    | some previous =>
      by_cases same : previous = payload
      · simp only [same, if_true]
        exact ⟨sound.congr rfl rfl rfl, _, rfl⟩
      · simp only [same, if_false]
        exact conflictFailure_answers sound

theorem Sound.insert (sound : win.Sound)
    (missing : lookup Prod.fst hdr.key win.frames = none) (now : Int) :
    ({ win with frames := win.frames ++ [(hdr.key, FrameAssembly.new hdr.fragmentCount now)] } :
      VideoPreflightReassemblyWindow).Sound where
  distinct := by
    rw [List.map_append, List.nodup_append]
    refine ⟨sound.distinct, by simp, ?_⟩
    intro key mem other isNew
    obtain ⟨row, inFrames, rfl⟩ := List.mem_map.mp mem
    obtain rfl : other = hdr.key := by simpa using isNew
    simpa using List.find?_eq_none.mp missing row inFrames
  total := by simp [sound.total, frameBytes, FrameAssembly.new]
  budget := by simpa [frameBytes, FrameAssembly.new] using sound.budget
  frames := by
    intro entry mem
    rcases List.mem_append.mp mem with old | new
    · exact sound.frames entry old
    · obtain rfl := List.mem_singleton.mp new
      exact FrameAssembly.sound_new _ _ _

theorem placeFragment_answers (sound : win.Sound) (owned : win.Owned hdr cand)
    (now : Int) : Answers (win.placeFragment hdr payload now cand) := by
  unfold placeFragment
  cases found : lookup Prod.fst hdr.key win.frames with
  | some entry =>
    obtain ⟨key, frame⟩ := entry
    obtain rfl : key = hdr.key := (lookup_key found).2
    by_cases size : frame.fragments.length = hdr.fragmentCount
    · simp only [size, ne_eq, not_true_eq_false, if_false]
      exact receiveFragment_answers sound owned found size
    · simp only [size, ne_eq, not_false_eq_true, if_true]
      exact conflictFailure_answers sound
  | none =>
    set room := if decide (win.config.maxInflightFrames ≤ win.inflightCount) && !cand
      then win.eraseNonCurrentEpochs else win with roomIs
    have kept : room.Sound ∧ room.Owned hdr cand ∧
        lookup Prod.fst hdr.key room.frames = none := by
      rw [roomIs]
      split
      · refine ⟨sound.eraseNonCurrentEpochs, owned, List.find?_eq_none.mpr ?_⟩
        intro row mem
        exact List.find?_eq_none.mp found row (List.mem_filter.mp mem).1
      · exact ⟨sound, owned, found⟩
    obtain ⟨roomSound, roomOwned, missing⟩ := kept
    by_cases full : room.config.maxInflightFrames ≤ room.inflightCount
    · simp only [full, if_true]
      exact resourceFailure_answers roomSound
    · simp only [full, if_false]
      have placed : lookup Prod.fst hdr.key (room.frames ++
          [(hdr.key, FrameAssembly.new hdr.fragmentCount now)]) =
            some (hdr.key, FrameAssembly.new hdr.fragmentCount now) :=
        @lookup_append _ _ _ Prod.fst room.frames (hdr.key, _) missing
      exact receiveFragment_answers (roomSound.insert missing now) roomOwned placed
        (by simp [FrameAssembly.new])

theorem ingestUnexpired_answers (sound : win.Sound) (now : Int) :
    Answers (win.ingestUnexpired hdr payload now) := by
  unfold ingestUnexpired
  split_ifs with stale gap repeated size cand
  · exact ⟨sound, _, rfl⟩
  · exact ⟨sound_clearInflight _, _, rfl⟩
  · exact ⟨sound, _, rfl⟩
  · exact ⟨sound, _, rfl⟩
  · simp only
    split
    · exact ⟨sound.selectCandidateEpoch _, _, rfl⟩
    · exact placeFragment_answers (sound.selectCandidateEpoch _) (by simp) now
  · exact placeFragment_answers sound (owned_of_neither stale cand) now

/-- No fragment makes the window throw, and its accounts stay right. -/
theorem ingestRange_answers (sound : win.Sound) (payloadOffset payloadLength now : Int) :
    Answers (win.ingestRange hdr payload payloadOffset payloadLength now) := by
  unfold ingestRange
  split_ifs
  · exact ⟨sound, _, rfl⟩
  · exact ⟨sound, _, rfl⟩
  · exact ingestUnexpired_answers (sound.expireFrames now) now

end

end VideoPreflightReassemblyWindow

end VisionForge.MobileRuntime
