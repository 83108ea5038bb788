import VisionForge.MobileRuntime.WindowAccounts

/-! # What the window says of a fragment

A result is about the frame of its fragment. Only a candidate needs a commit, and then it
can be committed; no fragment moves the current epoch.
-/

namespace VisionForge.MobileRuntime.VideoPreflightReassemblyWindow

open Lib.Ascii Lib.Table

/-- Fragments are placed for the candidate in the slot or for the current epoch. -/
structure Assigned (window : VideoPreflightReassemblyWindow) (header : VideoFragmentHeader)
    (candidate : Bool) : Prop where
  ahead : candidate = true →
    window.candidateEpoch = some header.streamEpoch ∧ window.isCandidate header.streamEpoch = true
  own : candidate = false → window.currentEpoch = some header.streamEpoch

/-- A frame that is complete is handed out once, with its commit if it needs one. -/
structure Delivered (window : VideoPreflightReassemblyWindow) (header : VideoFragmentHeader)
    (result : VideoReassemblyResult) : Prop where
  filled : result.accessUnit ≠ []
  ahead : result.requiresEpochCommit = true →
    window.candidateEpoch = some header.streamEpoch ∧ window.candidateReady = true ∧
      window.isCandidate header.streamEpoch = true
  own : result.requiresEpochCommit = false → window.currentEpoch = some header.streamEpoch

structure Describes (window : VideoPreflightReassemblyWindow) (header : VideoFragmentHeader)
    (outcome : Except Throwable VideoReassemblyResult × VideoPreflightReassemblyWindow) :
    Prop where
  current : outcome.2.currentEpoch = window.currentEpoch
  frame : ∀ result, outcome.1 = .ok result →
    result.streamEpoch = header.streamEpoch ∧ result.frameSequence = header.frameSequence
  complete : ∀ result, outcome.1 = .ok result → result.code = .complete →
    outcome.2.Delivered header result

section

variable {win other : VideoPreflightReassemblyWindow} {hdr : VideoFragmentHeader}
  {outcome : Except Throwable VideoReassemblyResult × VideoPreflightReassemblyWindow}
  {frame : FrameAssembly} {payload : Bytes} {cand : Bool}

theorem Describes.of_current (described : other.Describes hdr outcome)
    (same : other.currentEpoch = win.currentEpoch) : win.Describes hdr outcome where
  current := described.current.trans same
  frame := described.frame
  complete := described.complete

theorem describes_result {code : Code} (same : other.currentEpoch = win.currentEpoch)
    (pend : code ≠ .complete) : win.Describes hdr (.ok (result code hdr), other) where
  current := same
  frame := by
    intro ans isResult
    obtain rfl := Except.ok.inj isResult
    exact ⟨rfl, rfl⟩
  complete := by
    intro ans isResult complete
    obtain rfl := Except.ok.inj isResult
    exact absurd complete pend

@[simp] theorem currentEpoch_eraseEpoch (epoch : Nat) :
    (win.eraseEpoch epoch).currentEpoch = win.currentEpoch := by
  unfold eraseEpoch
  simp only
  split <;> rfl

@[simp] theorem currentEpoch_rejectCandidateEpoch (epoch : Nat) :
    (win.rejectCandidateEpoch epoch).currentEpoch = win.currentEpoch := by
  unfold rejectCandidateEpoch
  split
  · exact currentEpoch_eraseEpoch epoch
  · rfl

@[simp] theorem currentEpoch_expireFrames (now : Int) :
    (win.expireFrames now).currentEpoch = win.currentEpoch := by
  unfold expireFrames dropIdleCandidate
  split
  · rfl
  · split <;> rfl

@[simp] theorem currentEpoch_selectCandidateEpoch (epoch : Nat) :
    (win.selectCandidateEpoch epoch).1.currentEpoch = win.currentEpoch := by
  unfold selectCandidateEpoch
  split
  · rfl
  · split_ifs <;> simp

theorem candidateFailure_describes : win.Describes hdr (win.candidateFailure hdr) :=
  describes_result (currentEpoch_rejectCandidateEpoch _) (by decide)

theorem resourceFailure_describes : win.Describes hdr (win.resourceFailure hdr cand) := by
  cases cand with
  | true => exact candidateFailure_describes.of_current rfl
  | false => exact describes_result rfl (by decide)

theorem conflictFailure_describes : win.Describes hdr (win.conflictFailure hdr cand) := by
  cases cand with
  | true => exact candidateFailure_describes
  | false => exact describes_result rfl (by decide)

theorem assemble_filled {fragments : List (Option Bytes)} {unit frag : Bytes}
    (whole : assemble fragments = some unit) (mem : some frag ∈ fragments)
    (filled : frag ≠ []) : unit ≠ [] := by
  induction fragments generalizing unit with
  | nil => cases mem
  | cons first rest ih =>
    cases first with
    | none => simp [assemble] at whole
    | some bs =>
      obtain ⟨behind, isBehind, rfl⟩ := Option.map_eq_some_iff.mp whole
      rcases List.mem_cons.mp mem with same | later
      · obtain rfl := Option.some.inj same
        simp [filled]
      · simp [ih isBehind later]

variable (assigned : win.Assigned hdr cand)

include assigned

theorem finishFrame_describes (filled : ∃ frag, some frag ∈ frame.fragments ∧ frag ≠ []) :
    win.Describes hdr (win.finishFrame hdr frame cand) := by
  unfold finishFrame
  split
  · exact describes_result rfl (by decide)
  · cases whole : assemble frame.fragments with
    | none => exact ⟨rfl, by simp, by simp⟩
    | some accessUnit =>
      obtain ⟨frag, mem, notEmpty⟩ := filled
      refine ⟨rfl, ?_, ?_⟩
      · intro ans isResult
        obtain rfl := Except.ok.inj isResult
        exact ⟨rfl, rfl⟩
      · intro ans isResult _
        obtain rfl := Except.ok.inj isResult
        refine ⟨assemble_filled whole mem notEmpty, ?_, assigned.own⟩
        intro ahead
        obtain rfl : cand = true := ahead
        exact ⟨(assigned.ahead rfl).1, rfl, (assigned.ahead rfl).2⟩

theorem Assigned.room (cond : Bool) (own : cond = true → cand = false) :
    (if cond then win.eraseNonCurrentEpochs else win).Assigned hdr cand := by
  cases cond with
  | true =>
    obtain rfl := own rfl
    exact ⟨by simp, assigned.own⟩
  | false => exact assigned

theorem storeFragment_describes (hin : hdr.fragmentIndex < frame.fragments.length)
    (filled : payload ≠ []) :
    win.Describes hdr (win.storeFragment hdr frame payload cand) := by
  unfold storeFragment
  have roomAssigned := assigned.room (!cand && decide ((win.config.maxTotalBytes : Int) -
    win.totalBytes < payload.length)) (by simp; tauto)
  have same : (if !cand && decide ((win.config.maxTotalBytes : Int) - win.totalBytes <
      payload.length) then win.eraseNonCurrentEpochs else win).currentEpoch = win.currentEpoch := by
    split <;> rfl
  generalize (if !cand && decide ((win.config.maxTotalBytes : Int) - win.totalBytes <
    payload.length) then win.eraseNonCurrentEpochs else win) = room at roomAssigned same ⊢
  simp only
  split
  · exact resourceFailure_describes.of_current same
  · have stored : (room.putFrame hdr.key (frame.store hdr.fragmentIndex payload)
        payload.length).Assigned hdr cand := ⟨roomAssigned.ahead, roomAssigned.own⟩
    refine (finishFrame_describes stored ⟨payload, ?_, filled⟩).of_current same
    exact List.mem_set hin (some payload)

theorem receiveFragment_describes (filled : payload ≠ []) :
    win.Describes hdr (win.receiveFragment hdr frame payload cand) := by
  unfold receiveFragment
  cases slot : frame.fragments[hdr.fragmentIndex]? with
  | none => exact ⟨rfl, by simp, by simp⟩
  | some previous =>
    cases previous with
    | none =>
      exact storeFragment_describes assigned (List.getElem?_eq_some_iff.mp slot).1 filled
    | some previous =>
      simp only
      split
      · exact describes_result rfl (by decide)
      · exact conflictFailure_describes

theorem placeFragment_describes (filled : payload ≠ []) (now : Int) :
    win.Describes hdr (win.placeFragment hdr payload now cand) := by
  unfold placeFragment
  cases found : lookup Prod.fst hdr.key win.frames with
  | some entry =>
    simp only
    split
    · exact conflictFailure_describes
    · exact receiveFragment_describes assigned filled
  | none =>
    simp only
    have roomAssigned := assigned.room (decide (win.config.maxInflightFrames ≤
      win.inflightCount) && !cand) (by simp)
    have same : (if decide (win.config.maxInflightFrames ≤ win.inflightCount) && !cand
        then win.eraseNonCurrentEpochs else win).currentEpoch = win.currentEpoch := by
      split <;> rfl
    generalize (if decide (win.config.maxInflightFrames ≤ win.inflightCount) && !cand
      then win.eraseNonCurrentEpochs else win) = room at roomAssigned same ⊢
    split
    · exact resourceFailure_describes.of_current same
    · have placed : ({ room with frames := room.frames ++
          [(hdr.key, FrameAssembly.new hdr.fragmentCount now)] } :
            VideoPreflightReassemblyWindow).Assigned hdr cand :=
        ⟨roomAssigned.ahead, roomAssigned.own⟩
      exact (receiveFragment_describes placed filled).of_current same

omit assigned

theorem selectCandidateEpoch_assigned (ahead : win.isCandidate hdr.streamEpoch = true)
    (sel : (win.selectCandidateEpoch hdr.streamEpoch).2 = true) :
    (win.selectCandidateEpoch hdr.streamEpoch).1.Assigned hdr true := by
  refine ⟨fun _ => ⟨?_, ?_⟩, by simp⟩
  · unfold selectCandidateEpoch at sel ⊢
    cases slot : win.candidateEpoch with
    | none => rfl
    | some epoch =>
      simp only [slot] at sel ⊢
      split_ifs at sel ⊢ with same late
      · rw [slot, same]
      · rfl
  · simpa [isCandidate] using ahead

theorem ingestUnexpired_describes (now : Int) :
    win.Describes hdr (win.ingestUnexpired hdr payload now) := by
  unfold ingestUnexpired
  split_ifs with stale gap repeated size ahead
  · exact describes_result rfl (by decide)
  · exact describes_result rfl (by decide)
  · exact describes_result rfl (by decide)
  · exact describes_result rfl (by decide)
  · have filled : payload ≠ [] := by
      intro empty
      simp [empty] at size
    simp only
    split
    · exact describes_result (currentEpoch_selectCandidateEpoch _) (by decide)
    · next chosen =>
        have assigned := selectCandidateEpoch_assigned ahead (by simpa using chosen)
        exact (placeFragment_describes assigned filled now).of_current
          (currentEpoch_selectCandidateEpoch _)
  · have filled : payload ≠ [] := by
      intro empty
      simp [empty] at size
    have owned := owned_of_neither stale ahead
    exact placeFragment_describes ⟨by simp, owned⟩ filled now

/-- Whatever arrives, the window's answer is about the frame of the fragment. -/
theorem ingestRange_describes (payloadOffset payloadLength now : Int) :
    win.Describes hdr
      (win.ingestRange hdr payload payloadOffset payloadLength now) := by
  unfold ingestRange
  split_ifs
  · exact describes_result rfl (by decide)
  · exact describes_result rfl (by decide)
  · exact (ingestUnexpired_describes now).of_current (currentEpoch_expireFrames now)

end

theorem Delivered.commits {win : VideoPreflightReassemblyWindow} {hdr : VideoFragmentHeader}
    {res : VideoReassemblyResult} (delivered : win.Delivered hdr res)
    (ahead : res.requiresEpochCommit = true) :
    (win.commitCandidateEpoch hdr.streamEpoch).2 = true ∧
      (win.commitCandidateEpoch hdr.streamEpoch).1.currentEpoch = some hdr.streamEpoch := by
  obtain ⟨slot, ready, later⟩ := delivered.ahead ahead
  have notBehind : ¬ win.currentEpoch.any (hdr.streamEpoch ≤ ·) = true := by
    cases cur : win.currentEpoch with
    | none => simp
    | some epoch =>
      simp only [isCandidate, cur, Option.all_some, decide_eq_true_eq] at later
      simpa using later
  unfold commitCandidateEpoch
  rw [if_neg (by simp [slot, ready, notBehind])]
  exact ⟨rfl, rfl⟩

end VisionForge.MobileRuntime.VideoPreflightReassemblyWindow
