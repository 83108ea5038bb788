import VisionForge.ContractCore.Reassembly
import VisionForge.Lib.Run
import VisionForge.MobileRuntime.WindowAccounts

/-! # The accounts of the reassembler

Whatever is called in whatever order, the reassembler knows how many bytes it holds, keeps
within its limits, and holds frames of the current epoch and of a later one only. So no
difference of sizes ever wraps around.
-/

namespace VisionForge.ContractCore

open Lib.Ascii Lib.Table Lib.Loads Lib.Run
open MobileRuntime (slotBytes)

/-- The limits the contract core is constructed with by default. -/
def defaultReassemblyConfig : ReassemblyConfig where
  maxInflightFrames := 16
  maxTotalBytes := 8 * 1024 * 1024
  maxAccessUnitBytes := 2 * 1024 * 1024
  frameTimeoutMillis := 500
  frames_pos := MobileRuntime.Config.productionDefaults.frames_pos
  unit_pos := MobileRuntime.Config.productionDefaults.unit_pos
  timeout_pos := by decide
  capacity_pos := by decide
  unit_le := MobileRuntime.Config.productionDefaults.unit_le
  total_lt := by decide

theorem sizeMinus_of_le {a b : Nat} (le : b ≤ a) (small : a < 2 ^ 64) : sizeMinus a b = a - b := by
  unfold sizeMinus
  omega

theorem foldl_sizeMinus {rows : List (FrameKey × Frame)} {total : Nat}
    (le : load (·.2.bytes) rows ≤ total) (small : total < 2 ^ 64) :
    rows.foldl (fun total frame => sizeMinus total frame.2.bytes) total =
      total - load (·.2.bytes) rows := by
  induction rows generalizing total with
  | nil => simp
  | cons row rows ih =>
    rw [load_cons] at le
    have first : sizeMinus total row.2.bytes = total - row.2.bytes :=
      sizeMinus_of_le (by omega) small
    rw [List.foldl_cons, first, ih (by omega) (by omega), load_cons]
    omega

/-- The bytes of a frame are those of its fragments. -/
structure Frame.Sound (limit : Nat) (frame : Frame) : Prop where
  slots : frame.fragments.length = frame.fragmentCount
  received : frame.receivedFragments = frame.fragments.countP (·.isSome)
  bytes : frame.bytes = load slotBytes frame.fragments
  fits : frame.bytes ≤ limit

theorem Frame.sound_new (limit fragmentCount : Nat) (createdAt : Int) :
    (Frame.new fragmentCount createdAt).Sound limit where
  slots := by simp [Frame.new]
  received := by simp [Frame.new, List.countP_replicate]
  bytes := by simp [Frame.new, load, slotBytes]
  fits := by simp [Frame.new]

theorem Frame.Sound.store {limit : Nat} {frame : Frame} (sound : frame.Sound limit) {index : Nat}
    (empty : frame.fragments[index]? = some none) {payload : Bytes}
    (room : frame.bytes + payload.length ≤ limit) : (frame.store index payload).Sound limit := by
  have assembly : MobileRuntime.FrameAssembly.Sound limit
      ⟨frame.fragments, frame.createdAt, frame.receivedFragments, frame.bytes⟩ :=
    ⟨sound.received, sound.bytes, sound.fits⟩
  obtain ⟨received, bytes, fits⟩ := assembly.store empty room
  exact ⟨by simp [Frame.store, sound.slots], received, bytes, fits⟩

namespace AccessUnitReassembler

structure Sound (reasm : AccessUnitReassembler) : Prop where
  distinct : (reasm.frames.map Prod.fst).Nodup
  total : reasm.totalBytes = load (·.2.bytes) reasm.frames
  budget : reasm.totalBytes ≤ reasm.config.maxTotalBytes
  room : reasm.frames.length ≤ reasm.config.maxInflightFrames
  frames : ∀ entry ∈ reasm.frames, entry.2.Sound reasm.config.maxAccessUnitBytes
  epochs : ∀ entry ∈ reasm.frames, reasm.currentEpoch = some entry.1.1 ∨
    reasm.candidateEpoch = some entry.1.1
  ahead : ∀ candidate current, reasm.candidateEpoch = some candidate →
    reasm.currentEpoch = some current → current < candidate

theorem sound_new (config : ReassemblyConfig) : (new config).Sound where
  distinct := by simp [new]
  total := by simp [new]
  budget := by simp [new]
  room := by simp [new]
  frames := by simp [new]
  epochs := by simp [new]
  ahead := by simp [new]

theorem sound_discardInflight (reasm : AccessUnitReassembler) : reasm.discardInflight.Sound where
  distinct := by simp [discardInflight]
  total := by simp [discardInflight]
  budget := by simp [discardInflight]
  room := by simp [discardInflight]
  frames := by simp [discardInflight]
  epochs := by simp [discardInflight]
  ahead := by simp [discardInflight]

section

variable {reasm : AccessUnitReassembler}

variable (sound : reasm.Sound)

include sound

theorem Sound.total_lt : reasm.totalBytes < 2 ^ 64 :=
  Nat.lt_of_le_of_lt sound.budget reasm.config.total_lt

theorem Sound.totalBytes_eraseWhere (cond : FrameKey × Frame → Bool) :
    (reasm.eraseWhere cond).totalBytes = load (·.2.bytes) (reasm.eraseWhere cond).frames := by
  have split := load_split (·.2.bytes) cond reasm.frames
  have total := sound.total
  simp only [AccessUnitReassembler.eraseWhere]
  rw [foldl_sizeMinus (by omega) sound.total_lt]
  omega

theorem Sound.eraseWhere (cond : FrameKey × Frame → Bool) : (reasm.eraseWhere cond).Sound where
  distinct := distinct_filter sound.distinct _
  total := sound.totalBytes_eraseWhere cond
  budget := by
    rw [sound.totalBytes_eraseWhere cond]
    have less := load_filter_le (·.2.bytes) (!cond ·) reasm.frames
    rw [← sound.total] at less
    exact less.trans sound.budget
  room := (List.length_filter_le _ _).trans sound.room
  frames := by
    intro entry mem
    exact sound.frames entry (List.mem_filter.mp mem).1
  epochs := by
    intro entry mem
    exact sound.epochs entry (List.mem_filter.mp mem).1
  ahead := sound.ahead

theorem Sound.clearCandidate (ready : Bool)
    (none : ∀ entry ∈ reasm.frames, reasm.candidateEpoch ≠ some entry.1.1) :
    ({ reasm with candidateEpoch := .none, candidateReady := ready } :
      AccessUnitReassembler).Sound where
  distinct := sound.distinct
  total := sound.total
  budget := sound.budget
  room := sound.room
  frames := sound.frames
  epochs := by
    intro entry mem
    exact .inl ((sound.epochs entry mem).resolve_right (none entry mem))
  ahead := by
    intro cand cur held
    cases held

theorem Sound.withCandidate (empty : reasm.candidateEpoch = none) {epoch : Nat}
    (cand : reasm.isCandidate epoch = true) :
    ({ reasm with candidateEpoch := some epoch, candidateReady := false } :
      AccessUnitReassembler).Sound where
  distinct := sound.distinct
  total := sound.total
  budget := sound.budget
  room := sound.room
  frames := sound.frames
  epochs := by
    intro entry mem
    have held := sound.epochs entry mem
    simp only [empty, reduceCtorEq, or_false] at held
    exact .inl held
  ahead := by
    rintro _ cur ⟨⟩ isCurrent
    simp only at isCurrent
    simpa [isCandidate, isCurrent] using cand

theorem Sound.withReady (ready : Bool) :
    ({ reasm with candidateReady := ready } : AccessUnitReassembler).Sound :=
  ⟨sound.distinct, sound.total, sound.budget, sound.room, sound.frames, sound.epochs, sound.ahead⟩

theorem Sound.withGap (gap : Bool) :
    ({ reasm with gapDetected := gap } : AccessUnitReassembler).Sound :=
  ⟨sound.distinct, sound.total, sound.budget, sound.room, sound.frames, sound.epochs, sound.ahead⟩

omit sound

theorem eraseFrame_eq (dist : (reasm.frames.map Prod.fst).Nodup) (key : FrameKey) :
    reasm.eraseFrame key = reasm.eraseWhere (·.1 = key) := by
  cases found : lookup Prod.fst key reasm.frames with
  | none =>
    have none := filter_key_none found
    have all : reasm.frames.filter (fun entry => !decide (entry.1 = key)) = reasm.frames := by
      rw [List.filter_eq_self]
      intro entry mem
      simpa using List.find?_eq_none.mp found entry mem
    simp only [eraseFrame, eraseWhere, found, none, all, List.foldl_nil]
  | some entry =>
    have one := filter_key dist found
    simp only [eraseFrame, eraseWhere, found, one]
    rw [List.foldl_cons, List.foldl_nil]
    congr 1
    apply List.filter_congr
    intro other _
    exact decide_not

theorem Sound.eraseFrame (sound : reasm.Sound) (key : FrameKey) : (reasm.eraseFrame key).Sound := by
  rw [eraseFrame_eq sound.distinct]
  exact sound.eraseWhere _

theorem Sound.eraseEpoch (sound : reasm.Sound) (epoch : Nat) : (reasm.eraseEpoch epoch).Sound := by
  have erased := sound.eraseWhere (·.1.1 == epoch)
  unfold AccessUnitReassembler.eraseEpoch
  by_cases held : reasm.candidateEpoch = some epoch
  · simp only [AccessUnitReassembler.eraseWhere, held, if_true]
    apply erased.clearCandidate
    intro entry mem isHeld
    have other := (List.mem_filter.mp mem).2
    simp only [AccessUnitReassembler.eraseWhere, held, Option.some.injEq] at isHeld
    simp [isHeld] at other
  · simp only [AccessUnitReassembler.eraseWhere, held, if_false]
    exact erased

theorem Sound.eraseNoncurrentEpochs (sound : reasm.Sound) : reasm.eraseNoncurrentEpochs.Sound := by
  apply (sound.eraseWhere _).clearCandidate
  intro entry mem isHeld
  obtain ⟨-, kept⟩ := List.mem_filter.mp mem
  cases cur : reasm.currentEpoch with
  | none => simp [cur] at kept
  | some epoch =>
    have ahead := sound.ahead entry.1.1 epoch isHeld cur
    simp only [cur, Option.all_some, Bool.not_eq_true', bne_eq_false_iff_eq] at kept
    omega

theorem Sound.resetIdleCandidate (sound : reasm.Sound) : reasm.resetIdleCandidate.Sound := by
  unfold AccessUnitReassembler.resetIdleCandidate
  cases held : reasm.candidateEpoch with
  | none => exact sound
  | some cand =>
    simp only
    split
    · next idle =>
        apply sound.clearCandidate
        intro entry mem isHeld
        rw [held, Option.some.injEq] at isHeld
        simp only [hasFramesForEpoch, Bool.and_eq_true, Bool.not_eq_true', List.any_eq_false,
          beq_iff_eq] at idle
        exact idle.2 entry mem isHeld.symm
    · exact sound

theorem Sound.expire (sound : reasm.Sound) (now : Int) : (reasm.expire now).Sound :=
  ((sound.eraseWhere _).withGap _).resetIdleCandidate

theorem Sound.rejectCandidateEpoch (sound : reasm.Sound) (epoch : Nat) :
    (reasm.rejectCandidateEpoch epoch).Sound := by
  unfold AccessUnitReassembler.rejectCandidateEpoch
  split
  · exact sound
  · split
    · exact sound
    · exact sound.eraseEpoch epoch

theorem candidateEpoch_eraseEpoch {epoch : Nat} (held : reasm.candidateEpoch = some epoch) :
    (reasm.eraseEpoch epoch).candidateEpoch = none := by
  simp [eraseEpoch, eraseWhere, held]

@[simp] theorem currentEpoch_eraseEpoch (epoch : Nat) :
    (reasm.eraseEpoch epoch).currentEpoch = reasm.currentEpoch := by
  unfold eraseEpoch
  simp only
  split <;> rfl

@[simp] theorem config_eraseEpoch (epoch : Nat) :
    (reasm.eraseEpoch epoch).config = reasm.config := by
  unfold eraseEpoch
  simp only
  split <;> rfl

theorem Sound.selectCandidateEpoch (sound : reasm.Sound) {epoch : Nat}
    (cand : reasm.isCandidate epoch = true) :
    (reasm.selectCandidateEpoch epoch).1.Sound := by
  unfold AccessUnitReassembler.selectCandidateEpoch
  cases held : reasm.candidateEpoch with
  | none => exact sound.withCandidate held cand
  | some superseded =>
    simp only
    split_ifs
    · exact sound
    · exact sound
    · apply (sound.eraseEpoch superseded).withCandidate (candidateEpoch_eraseEpoch held)
      simpa [isCandidate] using cand

theorem Sound.commitCandidateEpoch (sound : reasm.Sound) (epoch : Nat) :
    (reasm.commitCandidateEpoch epoch).1.Sound := by
  unfold AccessUnitReassembler.commitCandidateEpoch
  split
  · exact sound
  · next accepted =>
      simp only [not_or, ne_eq, not_not] at accepted
      obtain ⟨held, -, -⟩ := accepted
      have erased := sound.eraseWhere (·.1.1 < epoch)
      refine ⟨erased.distinct, erased.total, erased.budget, erased.room, erased.frames, ?_, ?_⟩
      · intro entry mem
        obtain ⟨inside, kept⟩ := List.mem_filter.mp mem
        have notOlder : epoch ≤ entry.1.1 := by simpa using kept
        rcases sound.epochs entry inside with ofCurrent | ofCandidate
        · have ahead := sound.ahead epoch _ held ofCurrent
          omega
        · exact .inl (held.symm.trans ofCandidate)
      · intro cand cur isHeld
        cases isHeld

end

/-- A call that keeps the accounts and leaves the current epoch in place. -/
structure Keeps (before after : AccessUnitReassembler) : Prop where
  sound : after.Sound
  config : after.config = before.config
  current : after.currentEpoch = before.currentEpoch

theorem Keeps.trans {first snd third : AccessUnitReassembler} (pre : first.Keeps snd)
    (after : snd.Keeps third) : first.Keeps third :=
  ⟨after.sound, after.config.trans pre.config, after.current.trans pre.current⟩

section

variable {reasm : AccessUnitReassembler} {hdr : WireHeader} {frame : Frame}
  {payload : Bytes} {cand : Bool}

theorem Sound.keeps (sound : reasm.Sound) : reasm.Keeps reasm := ⟨sound, rfl, rfl⟩

variable (sound : reasm.Sound)

include sound

theorem keeps_expire (now : Int) : reasm.Keeps (reasm.expire now) := by
  refine ⟨sound.expire now, ?_, ?_⟩ <;> unfold expire resetIdleCandidate <;> split <;> try rfl
  all_goals split <;> rfl

theorem keeps_rejectCandidateEpoch (epoch : Nat) :
    reasm.Keeps (reasm.rejectCandidateEpoch epoch) := by
  refine ⟨sound.rejectCandidateEpoch epoch, ?_, ?_⟩ <;> unfold rejectCandidateEpoch <;> split <;>
    try rfl
  all_goals split <;> simp

theorem keeps_selectCandidateEpoch {epoch : Nat}
    (isCandidate : reasm.isCandidate epoch = true) :
    reasm.Keeps (reasm.selectCandidateEpoch epoch).1 := by
  refine ⟨sound.selectCandidateEpoch isCandidate, ?_, ?_⟩ <;> unfold selectCandidateEpoch <;>
    split <;> try rfl
  all_goals split_ifs <;> simp

theorem keeps_eraseFrame (key : FrameKey) : reasm.Keeps (reasm.eraseFrame key) := by
  refine ⟨sound.eraseFrame key, ?_, ?_⟩ <;> rw [eraseFrame_eq sound.distinct] <;> rfl

theorem keeps_eraseNoncurrentEpochs : reasm.Keeps reasm.eraseNoncurrentEpochs :=
  ⟨sound.eraseNoncurrentEpochs, rfl, rfl⟩

theorem keeps_resourceFailure : reasm.Keeps (reasm.resourceFailure hdr cand).1 := by
  cases cand with
  | true => exact keeps_rejectCandidateEpoch sound _
  | false => exact ⟨sound_discardInflight _, rfl, rfl⟩

theorem keeps_conflictFailure : reasm.Keeps (reasm.conflictFailure hdr cand).1 := by
  cases cand with
  | true => exact keeps_rejectCandidateEpoch sound _
  | false => exact keeps_eraseFrame sound _

omit sound

theorem keeps_finishFrame (sound : reasm.Sound) :
    reasm.Keeps (reasm.finishFrame hdr frame cand).1 := by
  unfold finishFrame
  split
  · exact sound.keeps
  · have erased := keeps_eraseFrame sound hdr.key
    exact erased.trans ⟨erased.sound.withReady _, rfl, rfl⟩

/-- The epoch of a fragment that is taken is the current one or the one in the slot. -/
def Admits (reasm : AccessUnitReassembler) (epoch : Nat) (cand : Bool) : Prop :=
  if cand = true then reasm.candidateEpoch = some epoch
  else reasm.currentEpoch = some epoch

theorem Admits.either {epoch : Nat} (admits : reasm.Admits epoch cand) :
    reasm.currentEpoch = some epoch ∨ reasm.candidateEpoch = some epoch := by
  cases cand with
  | true => exact .inr admits
  | false => exact .inl admits

theorem Sound.putFrame (sound : reasm.Sound)
    (found : lookup Prod.fst hdr.key reasm.frames = some (hdr.key, frame))
    (empty : frame.fragments[hdr.fragmentIndex]? = some none)
    (unitRoom : frame.bytes + payload.length ≤ reasm.config.maxAccessUnitBytes)
    (room : reasm.totalBytes + payload.length ≤ reasm.config.maxTotalBytes) :
    (reasm.putFrame hdr.key (frame.store hdr.fragmentIndex payload)
      payload.length).Sound := by
  have stored := (sound.frames _ (lookup_key found).1).store empty unitRoom
  have exchanged : load (·.2.bytes) (update (·.1 = hdr.key)
      (fun entry => (entry.1, frame.store hdr.fragmentIndex payload)) reasm.frames) +
        frame.bytes = load (·.2.bytes) reasm.frames +
          (frame.store hdr.fragmentIndex payload).bytes :=
    load_update (·.2.bytes) sound.distinct found
  have added : (frame.store hdr.fragmentIndex payload).bytes = frame.bytes + payload.length := rfl
  have total := sound.total
  refine ⟨?_, ?_, room, ?_, ?_, ?_, sound.ahead⟩
  · simp only [AccessUnitReassembler.putFrame]
    rw [map_update (by intro row _ _; rfl)]
    exact sound.distinct
  · simp only [AccessUnitReassembler.putFrame]
    omega
  · simpa [AccessUnitReassembler.putFrame, update] using sound.room
  · intro entry mem
    rcases mem_update mem with ⟨kept, -⟩ | ⟨old, -, -, rfl⟩
    · exact sound.frames entry kept
    · exact stored
  · intro entry mem
    rcases mem_update mem with ⟨kept, -⟩ | ⟨old, hin, -, rfl⟩
    · exact sound.epochs entry kept
    · exact sound.epochs old hin

theorem lookup_eraseNoncurrentEpochs (sound : reasm.Sound)
    (cur : reasm.currentEpoch = some hdr.streamEpoch)
    (found : lookup Prod.fst hdr.key reasm.frames = some (hdr.key, frame)) :
    lookup Prod.fst hdr.key reasm.eraseNoncurrentEpochs.frames = some (hdr.key, frame) := by
  apply lookup_filter sound.distinct found
  simp [cur, WireHeader.key]

/-- The frames in which there has to be room for the bytes of a fragment. -/
def roomForBytes (reasm : AccessUnitReassembler) (payload : Bytes) (cand : Bool) :
    AccessUnitReassembler :=
  if !cand && decide (sizeMinus reasm.config.maxTotalBytes reasm.totalBytes <
      payload.length) then reasm.eraseNoncurrentEpochs
  else reasm

/-- The frames among which there has to be room for one more. -/
def roomForFrame (reasm : AccessUnitReassembler) (cand : Bool) : AccessUnitReassembler :=
  if decide (reasm.config.maxInflightFrames ≤ reasm.inflightCount) && !cand then
    reasm.eraseNoncurrentEpochs
  else reasm

theorem roomForBytes_cases (payload : Bytes) (cand : Bool) :
    reasm.roomForBytes payload cand = reasm ∨
      cand = false ∧
        reasm.roomForBytes payload cand = reasm.eraseNoncurrentEpochs := by
  unfold roomForBytes
  split
  · next erases =>
      simp only [Bool.and_eq_true, Bool.not_eq_true'] at erases
      exact .inr ⟨erases.1, rfl⟩
  · exact .inl rfl

theorem roomForFrame_cases (cand : Bool) :
    reasm.roomForFrame cand = reasm ∨
      cand = false ∧ reasm.roomForFrame cand = reasm.eraseNoncurrentEpochs := by
  unfold roomForFrame
  split
  · next erases =>
      simp only [Bool.and_eq_true, Bool.not_eq_true'] at erases
      exact .inr ⟨erases.2, rfl⟩
  · exact .inl rfl

theorem storeFragment_eq (sound : (reasm.roomForBytes payload cand).Sound)
    (fits : frame.bytes ≤ (reasm.roomForBytes payload cand).config.maxAccessUnitBytes) :
    let room := reasm.roomForBytes payload cand
    reasm.storeFragment hdr frame payload cand =
      if room.config.maxAccessUnitBytes < frame.bytes + payload.length ∨
          room.config.maxTotalBytes < room.totalBytes + payload.length then
        room.resourceFailure hdr cand
      else
        (room.putFrame hdr.key (frame.store hdr.fragmentIndex payload)
          payload.length).finishFrame hdr (frame.store hdr.fragmentIndex payload) cand := by
  intro room
  have budget : room.totalBytes ≤ room.config.maxTotalBytes := sound.budget
  have unitSmall : room.config.maxAccessUnitBytes < 2 ^ 64 :=
    room.config.unit_le.trans_lt room.config.total_lt
  have unit : sizeMinus room.config.maxAccessUnitBytes frame.bytes =
      room.config.maxAccessUnitBytes - frame.bytes := sizeMinus_of_le fits unitSmall
  have total := sizeMinus_of_le budget room.config.total_lt
  have measured : (sizeMinus room.config.maxAccessUnitBytes frame.bytes < payload.length ∨
      sizeMinus room.config.maxTotalBytes room.totalBytes < payload.length) ↔
      (room.config.maxAccessUnitBytes < frame.bytes + payload.length ∨
        room.config.maxTotalBytes < room.totalBytes + payload.length) := by
    have fits' : frame.bytes ≤ room.config.maxAccessUnitBytes := fits
    omega
  exact if_congr measured rfl rfl

theorem keeps_roomForBytes (sound : reasm.Sound)
    (admits : reasm.Admits hdr.streamEpoch cand)
    (found : lookup Prod.fst hdr.key reasm.frames = some (hdr.key, frame))
    (payload : Bytes) : reasm.Keeps (reasm.roomForBytes payload cand) ∧
      lookup Prod.fst hdr.key (reasm.roomForBytes payload cand).frames = some (hdr.key, frame) := by
  rcases @roomForBytes_cases reasm payload cand with same | ⟨rfl, erased⟩
  · rw [same]
    exact ⟨sound.keeps, found⟩
  · rw [erased]
    exact ⟨keeps_eraseNoncurrentEpochs sound, lookup_eraseNoncurrentEpochs sound admits found⟩

theorem keeps_storeFragment (sound : reasm.Sound)
    (admits : reasm.Admits hdr.streamEpoch cand)
    (found : lookup Prod.fst hdr.key reasm.frames = some (hdr.key, frame))
    (empty : frame.fragments[hdr.fragmentIndex]? = some none) :
    reasm.Keeps (reasm.storeFragment hdr frame payload cand).1 := by
  obtain ⟨keeps, roomFound⟩ := keeps_roomForBytes sound admits found payload
  have fits : frame.bytes ≤ _ := (keeps.sound.frames _ (lookup_key roomFound).1).fits
  rw [storeFragment_eq keeps.sound fits]
  split
  · exact keeps.trans (keeps_resourceFailure keeps.sound)
  · next room =>
      rw [not_or, not_lt, not_lt] at room
      have stored := keeps.sound.putFrame roomFound empty room.1 room.2
      have put : (reasm.roomForBytes payload cand).Keeps _ := ⟨stored, rfl, rfl⟩
      exact keeps.trans (put.trans (keeps_finishFrame stored))

theorem getElem?_of_getD {fragments : List (Option Bytes)} {index : Nat}
    (hin : index < fragments.length) (slot : fragments.getD index none = none) :
    fragments[index]? = some none := by
  rw [List.getD_eq_getElem?_getD, List.getElem?_eq_getElem hin, Option.getD_some] at slot
  rw [List.getElem?_eq_getElem hin, slot]

theorem keeps_receiveFragment (sound : reasm.Sound)
    (admits : reasm.Admits hdr.streamEpoch cand)
    (found : lookup Prod.fst hdr.key reasm.frames = some (hdr.key, frame))
    (hin : hdr.fragmentIndex < frame.fragments.length) :
    reasm.Keeps (reasm.receiveFragment hdr frame payload cand).1 := by
  unfold receiveFragment
  cases slot : frame.fragments.getD hdr.fragmentIndex none with
  | none => exact keeps_storeFragment sound admits found (getElem?_of_getD hin slot)
  | some held =>
    simp only
    split
    · exact sound.keeps
    · exact keeps_conflictFailure sound

theorem frames_emplace (key : FrameKey) (frame : Frame) :
    (reasm.emplace key frame).frames.Perm ((key, frame) :: reasm.frames) :=
  List.perm_orderedInsert ..

theorem Sound.emplace (sound : reasm.Sound)
    (admits : reasm.Admits hdr.streamEpoch cand)
    (missing : lookup Prod.fst hdr.key reasm.frames = none)
    (room : reasm.frames.length < reasm.config.maxInflightFrames) (now : Int) :
    (reasm.emplace hdr.key (Frame.new hdr.fragmentCount now)).Sound := by
  have same := @frames_emplace reasm hdr.key (Frame.new hdr.fragmentCount now)
  have fresh : hdr.key ∉ reasm.frames.map Prod.fst := by
    rintro hin
    obtain ⟨entry, mem, isKey⟩ := List.mem_map.mp hin
    simpa [isKey] using List.find?_eq_none.mp missing entry mem
  refine ⟨?_, ?_, sound.budget, ?_, ?_, ?_, sound.ahead⟩
  · rw [(same.map Prod.fst).nodup_iff]
    exact List.nodup_cons.mpr ⟨fresh, sound.distinct⟩
  · rw [load_perm same]
    simp only [Frame.new, load_cons, zero_add]
    exact sound.total
  · rw [same.length_eq]
    exact room
  · intro entry mem
    cases List.mem_cons.mp (same.mem_iff.mp mem) with
    | inl isNew =>
      subst isNew
      exact Frame.sound_new _ _ _
    | inr old => exact sound.frames entry old
  · intro entry mem
    cases List.mem_cons.mp (same.mem_iff.mp mem) with
    | inl isNew =>
      subst isNew
      exact admits.either
    | inr old => exact sound.epochs entry old

theorem lookup_emplace (sound : (reasm.emplace hdr.key frame).Sound) :
    lookup Prod.fst hdr.key (reasm.emplace hdr.key frame).frames = some (hdr.key, frame) :=
  @lookup_of_mem _ _ _ Prod.fst _ (hdr.key, frame) sound.distinct
    (frames_emplace hdr.key frame |>.mem_iff.mpr List.mem_cons_self)

theorem index_lt (valid : hdr.valid = true) : hdr.fragmentIndex < hdr.fragmentCount := by
  simp only [WireHeader.valid] at valid
  grind

theorem placeFragment_of_missing (missing : lookup Prod.fst hdr.key reasm.frames = none)
    (now : Int) :
    let room := reasm.roomForFrame cand
    reasm.placeFragment hdr payload now cand =
      if room.config.maxInflightFrames ≤ room.inflightCount then
        room.resourceFailure hdr cand
      else
        (room.emplace hdr.key (Frame.new hdr.fragmentCount now)).receiveFragment hdr
          (Frame.new hdr.fragmentCount now) payload cand := by
  unfold placeFragment
  rw [missing]
  rfl

theorem keeps_roomForFrame (sound : reasm.Sound)
    (admits : reasm.Admits hdr.streamEpoch cand)
    (missing : lookup Prod.fst hdr.key reasm.frames = none) :
    reasm.Keeps (reasm.roomForFrame cand) ∧
      (reasm.roomForFrame cand).Admits hdr.streamEpoch cand ∧
      lookup Prod.fst hdr.key (reasm.roomForFrame cand).frames = none := by
  rcases @roomForFrame_cases reasm cand with same | ⟨rfl, erased⟩
  · rw [same]
    exact ⟨sound.keeps, admits, missing⟩
  · rw [erased]
    refine ⟨keeps_eraseNoncurrentEpochs sound, admits, List.find?_eq_none.mpr ?_⟩
    intro row mem
    exact List.find?_eq_none.mp missing row (List.mem_filter.mp mem).1

theorem keeps_placeFragment (sound : reasm.Sound) (valid : hdr.valid = true)
    (admits : reasm.Admits hdr.streamEpoch cand) (now : Int) :
    reasm.Keeps (reasm.placeFragment hdr payload now cand).1 := by
  have index := index_lt valid
  cases found : lookup Prod.fst hdr.key reasm.frames with
  | some entry =>
    obtain ⟨key, frame⟩ := entry
    obtain rfl : key = hdr.key := (lookup_key found).2
    have slots : frame.fragments.length = frame.fragmentCount :=
      (sound.frames _ (lookup_key found).1).slots
    simp only [placeFragment, found]
    split
    · exact keeps_conflictFailure sound
    · exact keeps_receiveFragment sound admits found (by omega)
  | none =>
    obtain ⟨keeps, roomAdmits, missing⟩ := keeps_roomForFrame sound admits found
    rw [placeFragment_of_missing found]
    split
    · exact keeps.trans (keeps_resourceFailure keeps.sound)
    · next room =>
        have placed := keeps.sound.emplace roomAdmits missing (Nat.lt_of_not_le room) now
        have received := @keeps_receiveFragment _ hdr _ payload cand placed roomAdmits
          (lookup_emplace placed) (by simpa [Frame.new] using index)
        have emplaced : (reasm.roomForFrame cand).Keeps _ := ⟨placed, rfl, rfl⟩
        exact keeps.trans (emplaced.trans received)

theorem admits_current (notRetired : reasm.isRetired hdr.streamEpoch = false)
    (notCandidate : reasm.isCandidate hdr.streamEpoch = false) :
    reasm.Admits hdr.streamEpoch false := by
  cases cur : reasm.currentEpoch with
  | none => simp [isCandidate, cur] at notCandidate
  | some epoch =>
    simp only [isRetired, isCandidate, cur, decide_eq_false_iff_not] at notRetired notCandidate
    simp only [Admits, cur, Bool.false_eq_true, if_false, Option.some.injEq]
    omega

theorem candidateEpoch_select {epoch : Nat}
    (sel : (reasm.selectCandidateEpoch epoch).2 = true) :
    (reasm.selectCandidateEpoch epoch).1.Admits epoch true := by
  unfold selectCandidateEpoch at sel ⊢
  cases held : reasm.candidateEpoch with
  | none => simp [Admits]
  | some other =>
    simp only [held] at sel ⊢
    split_ifs at sel ⊢ with isEpoch
    · simpa [Admits, isEpoch] using held
    · simp [Admits]

/-- What happens to a fragment after the frames that are too old are gone. -/
def ingestUnexpired (reasm : AccessUnitReassembler) (hdr : WireHeader) (payload : Bytes)
    (now : Int) : AccessUnitReassembler × IngestResult :=
  if reasm.isRetired hdr.streamEpoch then (reasm, answer .retiredEpoch hdr)
  else if reasm.gapDetected && reasm.currentEpoch == some hdr.streamEpoch then
    ({ reasm with gapDetected := false }.discardInflight, answer .gapDetected hdr)
  else if hdr.kind = .repeated then
    if !payload.isEmpty || reasm.currentEpoch != some hdr.streamEpoch then
      (reasm, answer .invalid hdr)
    else (reasm, answer .repeated hdr)
  else if payload.isEmpty || decide (reasm.config.maxAccessUnitBytes < payload.length) then
    (reasm, answer .invalid hdr)
  else if reasm.isCandidate hdr.streamEpoch then
    if (reasm.selectCandidateEpoch hdr.streamEpoch).2 then
      (reasm.selectCandidateEpoch hdr.streamEpoch).1.placeFragment hdr payload now true
    else
      ((reasm.selectCandidateEpoch hdr.streamEpoch).1, answer .candidateRejected hdr)
  else reasm.placeFragment hdr payload now false

theorem ingest_of_valid (valid : hdr.valid = true) (now : Int) :
    reasm.ingest hdr payload now = (reasm.expire now).ingestUnexpired hdr payload now := by
  unfold ingest ingestUnexpired
  simp only [valid, Bool.not_true, Bool.false_eq_true, if_false]
  congr 5
  cases (selectCandidateEpoch (reasm.expire now) hdr.streamEpoch).2 <;> rfl

theorem ingest_of_invalid (invalid : hdr.valid = false) (now : Int) :
    reasm.ingest hdr payload now = (reasm, { code := .invalid }) := by
  simp [ingest, invalid]

theorem keeps_ingestUnexpired (sound : reasm.Sound) (valid : hdr.valid = true) (now : Int) :
    reasm.Keeps (reasm.ingestUnexpired hdr payload now).1 := by
  unfold ingestUnexpired
  split_ifs with retired gap repeats odd unfit cand sel
  · exact sound.keeps
  · exact ⟨sound_discardInflight _, rfl, rfl⟩
  · exact sound.keeps
  · exact sound.keeps
  · exact sound.keeps
  · have keeps := keeps_selectCandidateEpoch sound cand
    exact keeps.trans (keeps_placeFragment keeps.sound valid (candidateEpoch_select sel) now)
  · exact keeps_selectCandidateEpoch sound cand
  · exact keeps_placeFragment sound valid
      (admits_current (by simpa using retired) (by simpa using cand)) now

theorem keeps_ingest (sound : reasm.Sound) (now : Int) :
    reasm.Keeps (reasm.ingest hdr payload now).1 := by
  cases valid : hdr.valid with
  | false =>
    rw [ingest_of_invalid valid]
    exact sound.keeps
  | true =>
    have expired := keeps_expire sound now
    rw [ingest_of_valid valid]
    exact expired.trans (keeps_ingestUnexpired expired.sound valid now)

end

end AccessUnitReassembler

/-! ## Runs of the reassembler

Anybody may call anything at any time.
-/

open Lib.Ascii Lib.Table Lib.Loads Lib.Run

inductive CoreCall where
  | ingest (header : WireHeader) (payload : Bytes) (now : Int)
  | expire (now : Int)
  | discardInflight
  | commitCandidateEpoch (epoch : Nat)
  | rejectCandidateEpoch (epoch : Nat)
  deriving DecidableEq

inductive CoreReply where
  | ingested (result : IngestResult)
  | committed (accepted : Bool)
  | done
  deriving DecidableEq

namespace AccessUnitReassembler

def call (reasm : AccessUnitReassembler) :
    CoreCall → AccessUnitReassembler × CoreReply
  | .ingest hdr payload now =>
    ((reasm.ingest hdr payload now).1, .ingested (reasm.ingest hdr payload now).2)
  | .expire now => (reasm.expire now, .done)
  | .discardInflight => (reasm.discardInflight, .done)
  | .commitCandidateEpoch epoch =>
    ((reasm.commitCandidateEpoch epoch).1, .committed (reasm.commitCandidateEpoch epoch).2)
  | .rejectCandidateEpoch epoch => (reasm.rejectCandidateEpoch epoch, .done)

def after (config : ReassemblyConfig) (calls : List CoreCall) : AccessUnitReassembler :=
  exec call (new config) calls

variable {reasm : AccessUnitReassembler}

theorem sound_call (sound : reasm.Sound) (made : CoreCall) : (reasm.call made).1.Sound := by
  cases made with
  | ingest hdr payload now => exact (keeps_ingest sound now).sound
  | expire now => exact sound.expire now
  | discardInflight => exact sound_discardInflight _
  | commitCandidateEpoch epoch => exact sound.commitCandidateEpoch epoch
  | rejectCandidateEpoch epoch => exact sound.rejectCandidateEpoch epoch

theorem sound_after (config : ReassemblyConfig) (calls : List CoreCall) :
    (after config calls).Sound :=
  exec_invariant call (sound_new config) (fun _ made sound => sound_call sound made) calls

theorem currentEpoch_call (sound : reasm.Sound) {made : CoreCall}
    (plain : ∀ epoch, made ≠ .commitCandidateEpoch epoch) :
    (reasm.call made).1.currentEpoch = reasm.currentEpoch := by
  cases made with
  | ingest hdr payload now => exact (keeps_ingest sound now).current
  | expire now => exact (keeps_expire sound now).current
  | discardInflight => rfl
  | commitCandidateEpoch epoch => exact absurd rfl (plain epoch)
  | rejectCandidateEpoch epoch => exact (keeps_rejectCandidateEpoch sound epoch).current

theorem currentEpoch_le_call (sound : reasm.Sound) (made : CoreCall) {epoch : Nat}
    (cur : reasm.currentEpoch = some epoch) :
    ∃ later, (reasm.call made).1.currentEpoch = some later ∧ epoch ≤ later := by
  by_cases commits : ∃ cand, made = .commitCandidateEpoch cand
  · obtain ⟨cand, rfl⟩ := commits
    simp only [call, commitCandidateEpoch]
    split
    · exact ⟨epoch, cur, le_rfl⟩
    · next accepted =>
        simp only [cur, Option.any_some, decide_eq_true_eq, not_or] at accepted
        exact ⟨cand, rfl, by omega⟩
  · rw [not_exists] at commits
    exact ⟨epoch, (currentEpoch_call sound commits).trans cur, le_rfl⟩

theorem currentEpoch_le (sound : reasm.Sound) (calls : List CoreCall) {epoch : Nat}
    (cur : reasm.currentEpoch = some epoch) :
    ∃ later, (exec call reasm calls).currentEpoch = some later ∧ epoch ≤ later := by
  induction calls generalizing reasm epoch with
  | nil => exact ⟨epoch, cur, le_rfl⟩
  | cons made calls ih =>
    obtain ⟨next, isNext, first⟩ := currentEpoch_le_call sound made cur
    obtain ⟨later, isLater, rest⟩ := ih (sound_call sound made) isNext
    exact ⟨later, isLater, first.trans rest⟩

/-- The minuend and the subtrahend of each difference when frames are erased one by one. -/
def walkDifferences (total : Nat) : List (FrameKey × Frame) → List (Nat × Nat)
  | [] => []
  | row :: rows => (total, row.2.bytes) :: walkDifferences (sizeMinus total row.2.bytes) rows

/-- No subtrahend is larger than its minuend. -/
def Exact (differences : List (Nat × Nat)) : Prop :=
  ∀ difference ∈ differences, difference.2 ≤ difference.1

theorem exact_walk {rows : List (FrameKey × Frame)} {total : Nat}
    (le : load (·.2.bytes) rows ≤ total) (small : total < 2 ^ 64) :
    Exact (walkDifferences total rows) := by
  induction rows generalizing total with
  | nil => simp [walkDifferences, Exact]
  | cons row rows ih =>
    rw [load_cons] at le
    have first : sizeMinus total row.2.bytes = total - row.2.bytes :=
      sizeMinus_of_le (by omega) small
    rw [walkDifferences, Exact, List.forall_mem_cons, first]
    exact ⟨by simp only; omega, ih (by omega) (by omega)⟩

/-- Whichever frames are erased, and whatever budget is measured. -/
theorem Sound.exact (sound : reasm.Sound) (cond : FrameKey × Frame → Bool) :
    Exact ((reasm.config.maxTotalBytes, reasm.totalBytes) ::
      reasm.frames.map (fun entry => (reasm.config.maxAccessUnitBytes, entry.2.bytes)) ++
      walkDifferences reasm.totalBytes (reasm.frames.filter cond)) := by
  intro difference mem
  rcases List.mem_append.mp mem with measured | walked
  · rcases List.mem_cons.mp measured with rfl | unit
    · exact sound.budget
    · obtain ⟨entry, hin, rfl⟩ := List.mem_map.mp unit
      exact (sound.frames entry hin).fits
  · refine exact_walk ?_ sound.total_lt difference walked
    rw [sound.total]
    exact load_filter_le _ _ _

/-- The accounts are right after every run, no difference of sizes wraps around, and the current
epoch never decreases. -/
theorem accounts_of_runs (config : ReassemblyConfig) (calls more : List CoreCall) :
    let reached := after config calls
    reached.Sound ∧
      (∀ condition, Exact ((reached.config.maxTotalBytes, reached.totalBytes) ::
        reached.frames.map (fun entry => (reached.config.maxAccessUnitBytes, entry.2.bytes)) ++
        walkDifferences reached.totalBytes (reached.frames.filter condition))) ∧
      ∀ epoch, reached.currentEpoch = some epoch →
        ∃ later, (after config (calls ++ more)).currentEpoch = some later ∧ epoch ≤ later := by
  have sound := sound_after config calls
  refine ⟨sound, sound.exact, ?_⟩
  intro epoch current
  unfold after
  rw [exec_append]
  exact currentEpoch_le sound more current

end AccessUnitReassembler

end VisionForge.ContractCore
