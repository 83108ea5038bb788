import VisionForge.ContractCore.ReassemblyAccounts

/-! # Candidates leave the committed session alone

Frames of the current epoch and of a candidate share the table, the budget, the walk that
expires and the flag of a gap. What is answered to fragments of the current epoch depends on
the frames of that epoch that are not too old, and on the flag.
-/

namespace VisionForge.ContractCore

open Lib.Ascii Lib.Table Lib.Loads Lib.Run

namespace AccessUnitReassembler

def framesOf (reasm : AccessUnitReassembler) (epoch : Nat) : List (FrameKey × Frame) :=
  reasm.frames.filter (·.1.1 == epoch)

/-- Two reassemblers that cannot be told apart by fragments of the current epoch. -/
structure Agree (epoch : Nat) (one other : AccessUnitReassembler) : Prop where
  sound : one.Sound
  sound' : other.Sound
  config : other.config = one.config
  current : one.currentEpoch = some epoch
  current' : other.currentEpoch = some epoch
  frames : (one.framesOf epoch).Perm (other.framesOf epoch)
  gap : other.gapDetected = one.gapDetected

section

variable {epoch : Nat} {one other third reasm : AccessUnitReassembler} {hdr : WireHeader}
  {frame : Frame} {data : Bytes}

theorem Agree.refl (sound : one.Sound) (cur : one.currentEpoch = some epoch) :
    Agree epoch one one :=
  ⟨sound, sound, rfl, cur, cur, .refl _, rfl⟩

theorem Agree.symm (agree : Agree epoch one other) : Agree epoch other one :=
  ⟨agree.sound', agree.sound, agree.config.symm, agree.current', agree.current, agree.frames.symm,
    agree.gap.symm⟩

theorem Agree.trans (agree : Agree epoch one other) (agree' : Agree epoch other third) :
    Agree epoch one third :=
  ⟨agree.sound, agree'.sound', agree'.config.trans agree.config, agree.current, agree'.current',
    agree.frames.trans agree'.frames, agree'.gap.trans agree.gap⟩

theorem framesOf_eraseWhere (cond : FrameKey × Frame → Bool) :
    (reasm.eraseWhere cond).framesOf epoch = (reasm.framesOf epoch).filter (!cond ·) := by
  simp only [framesOf, eraseWhere, List.filter_filter]
  apply List.filter_congr
  intro entry _
  exact Bool.and_comm ..

theorem Agree.eraseWhere (agree : Agree epoch one other) (cond : FrameKey × Frame → Bool) :
    Agree epoch (one.eraseWhere cond) (other.eraseWhere cond) where
  sound := agree.sound.eraseWhere cond
  sound' := agree.sound'.eraseWhere cond
  config := agree.config
  current := agree.current
  current' := agree.current'
  frames := by
    rw [framesOf_eraseWhere, framesOf_eraseWhere]
    exact agree.frames.filter _
  gap := agree.gap

theorem Agree.eraseFrame (agree : Agree epoch one other) (key : FrameKey) :
    Agree epoch (one.eraseFrame key) (other.eraseFrame key) := by
  rw [eraseFrame_eq agree.sound.distinct, eraseFrame_eq agree.sound'.distinct]
  exact agree.eraseWhere _

theorem expired_later {config : ReassemblyConfig} {now later : Int} (le : now ≤ later)
    (isExpired : expired config now frame = true) : expired config later frame = true := by
  simp only [expired, Bool.and_eq_true, decide_eq_true_eq] at isExpired ⊢
  omega

theorem frames_expire (now : Int) :
    (reasm.expire now).frames =
      reasm.frames.filter (fun frame => !expired reasm.config now frame.2) := by
  unfold expire resetIdleCandidate
  split
  · rfl
  · split <;> rfl

theorem gapDetected_expire (now : Int) :
    (reasm.expire now).gapDetected =
      (reasm.gapDetected || reasm.frames.any (fun frame =>
        expired reasm.config now frame.2 && reasm.currentEpoch == some frame.1.1)) := by
  unfold expire resetIdleCandidate
  split
  · rfl
  · split <;> rfl

theorem framesOf_expire (now : Int) :
    (reasm.expire now).framesOf epoch =
      (reasm.framesOf epoch).filter (fun frame => !expired reasm.config now frame.2) := by
  simp only [framesOf, frames_expire, List.filter_filter]
  apply List.filter_congr
  intro entry _
  exact Bool.and_comm ..

theorem gapDetected_expire_of_current (cur : reasm.currentEpoch = some epoch)
    (now : Int) : (reasm.expire now).gapDetected =
      (reasm.gapDetected ||
        (reasm.framesOf epoch).any (fun frame => expired reasm.config now frame.2)) := by
  rw [gapDetected_expire]
  congr 1
  simp only [framesOf, List.any_filter]
  congr 1
  funext frame
  rw [cur, Bool.and_comm]
  congr 1
  simp [eq_comm]

theorem Agree.expire (agree : Agree epoch one other) (now : Int) :
    Agree epoch (one.expire now) (other.expire now) := by
  have keeps := keeps_expire agree.sound now
  have keeps' := keeps_expire agree.sound' now
  refine ⟨keeps.sound, keeps'.sound, ?_, keeps.current.trans agree.current,
    keeps'.current.trans agree.current', ?_, ?_⟩
  · rw [keeps.config, keeps'.config, agree.config]
  · rw [framesOf_expire, framesOf_expire, agree.config]
    exact agree.frames.filter _
  · rw [gapDetected_expire_of_current agree.current, gapDetected_expire_of_current agree.current',
      agree.gap, agree.config, agree.frames.any_eq]

theorem agree_expire_twice (sound : reasm.Sound)
    (cur : reasm.currentEpoch = some epoch) {now later : Int} (le : now ≤ later) :
    Agree epoch (reasm.expire later) ((reasm.expire now).expire later) := by
  have keeps := keeps_expire sound now
  have once := keeps_expire sound later
  have twice := keeps_expire keeps.sound later
  refine ⟨once.sound, twice.sound, ?_, once.current.trans cur,
    (twice.current.trans keeps.current).trans cur, ?_, ?_⟩
  · rw [twice.config, keeps.config, once.config]
  · rw [framesOf_expire, framesOf_expire, framesOf_expire, keeps.config, List.filter_filter]
    apply List.Perm.of_eq
    apply List.filter_congr
    intro entry _
    cases isExpired : expired reasm.config now entry.2 with
    | false => simp
    | true => simp [expired_later le isExpired]
  · rw [gapDetected_expire_of_current (keeps.current.trans cur),
      gapDetected_expire_of_current cur, gapDetected_expire_of_current cur, keeps.config,
      framesOf_expire, List.any_filter, Bool.or_assoc]
    congr 1
    rw [Bool.eq_iff_iff]
    simp only [Bool.or_eq_true, List.any_eq_true, Bool.and_eq_true, Bool.not_eq_true']
    constructor
    · rintro (⟨entry, mem, early⟩ | ⟨entry, mem, -, late⟩)
      · exact ⟨entry, mem, expired_later le early⟩
      · exact ⟨entry, mem, late⟩
    · rintro ⟨entry, mem, late⟩
      cases early : expired reasm.config now entry.2 with
      | false => exact .inr ⟨entry, mem, early, late⟩
      | true => exact .inl ⟨entry, mem, early⟩

theorem lookup_framesOf {key : FrameKey} (own : key.1 = epoch) :
    lookup Prod.fst key (reasm.framesOf epoch) = lookup Prod.fst key reasm.frames := by
  unfold lookup framesOf
  rw [List.find?_filter]
  congr 1
  funext entry
  grind

theorem Agree.lookup (agree : Agree epoch one other) {key : FrameKey} (own : key.1 = epoch) :
    lookup Prod.fst key other.frames = lookup Prod.fst key one.frames := by
  rw [← lookup_framesOf own, ← @lookup_framesOf _ one _ own]
  exact (lookup_perm agree.frames (distinct_filter agree.sound.distinct _)).symm

theorem framesOf_eraseNoncurrentEpochs (cur : reasm.currentEpoch = some epoch) :
    reasm.eraseNoncurrentEpochs.framesOf epoch = reasm.framesOf epoch ∧
      reasm.eraseNoncurrentEpochs.frames = reasm.framesOf epoch := by
  have kept : reasm.eraseNoncurrentEpochs.frames = reasm.framesOf epoch := by
    simp only [eraseNoncurrentEpochs, eraseWhere, cur, framesOf, Option.all_some]
    apply List.filter_congr
    intro entry _
    simp [bne]
  refine ⟨?_, kept⟩
  unfold framesOf at kept ⊢
  rw [kept, List.filter_filter]
  simp only [Bool.and_self]

theorem agree_eraseNoncurrentEpochs (sound : reasm.Sound)
    (cur : reasm.currentEpoch = some epoch) :
    Agree epoch reasm reasm.eraseNoncurrentEpochs :=
  ⟨sound, sound.eraseNoncurrentEpochs, rfl, cur, cur,
    .of_eq (framesOf_eraseNoncurrentEpochs cur).1.symm, rfl⟩

theorem agree_roomForBytes (sound : reasm.Sound)
    (cur : reasm.currentEpoch = some epoch) (data : Bytes) (cand : Bool) :
    Agree epoch reasm (reasm.roomForBytes data cand) := by
  rcases @roomForBytes_cases reasm data cand with same | ⟨-, erased⟩
  · rw [same]
    exact .refl sound cur
  · rw [erased]
    exact agree_eraseNoncurrentEpochs sound cur

theorem agree_roomForFrame (sound : reasm.Sound)
    (cur : reasm.currentEpoch = some epoch) (cand : Bool) :
    Agree epoch reasm (reasm.roomForFrame cand) := by
  rcases @roomForFrame_cases reasm cand with same | ⟨-, erased⟩
  · rw [same]
    exact .refl sound cur
  · rw [erased]
    exact agree_eraseNoncurrentEpochs sound cur

theorem roomForBytes_tight (sound : reasm.Sound)
    (cur : reasm.currentEpoch = some epoch) :
    (reasm.roomForBytes data false).config.maxTotalBytes <
        (reasm.roomForBytes data false).totalBytes + data.length ↔
      reasm.config.maxTotalBytes < load (·.2.bytes) (reasm.framesOf epoch) + data.length := by
  have erased := sound.eraseNoncurrentEpochs.total
  rw [(framesOf_eraseNoncurrentEpochs cur).2] at erased
  have total := sound.total
  have less : load (·.2.bytes) (reasm.framesOf epoch) ≤
      load (·.2.bytes) reasm.frames := load_filter_le _ _ _
  have measured := sizeMinus_of_le sound.budget reasm.config.total_lt
  have budget := sound.budget
  unfold roomForBytes
  split
  · rw [erased]
    rfl
  · next fits =>
      simp only [Bool.not_false, Bool.true_and, decide_eq_true_eq, not_lt] at fits
      omega

theorem roomForFrame_full (cur : reasm.currentEpoch = some epoch) :
    (reasm.roomForFrame false).config.maxInflightFrames ≤ (reasm.roomForFrame false).inflightCount ↔
      reasm.config.maxInflightFrames ≤ (reasm.framesOf epoch).length := by
  have less : (reasm.framesOf epoch).length ≤ reasm.frames.length :=
    List.length_filter_le _ _
  unfold roomForFrame
  split
  · simp only [inflightCount, (framesOf_eraseNoncurrentEpochs cur).2]
    rfl
  · next fits =>
      simp only [Bool.not_false, Bool.and_true, decide_eq_true_eq] at fits
      simp only [inflightCount] at fits ⊢
      omega

theorem Agree.withReady (agree : Agree epoch one other) (ready ready' : Bool) :
    Agree epoch { one with candidateReady := ready } { other with candidateReady := ready' } :=
  ⟨agree.sound.withReady ready, agree.sound'.withReady ready', agree.config, agree.current,
    agree.current', agree.frames, agree.gap⟩

theorem framesOf_putFrame (key : FrameKey) (frame : Frame) (added : Nat) :
    (reasm.putFrame key frame added).framesOf epoch =
      update (·.1 = key) (fun entry => (entry.1, frame)) (reasm.framesOf epoch) := by
  simp only [framesOf, putFrame, update, List.filter_map]
  congr 1
  apply List.filter_congr
  intro entry _
  simp only [Function.comp_apply]
  split <;> rfl

theorem Agree.putFrame (agree : Agree epoch one other) {key : FrameKey} {added : Nat}
    (sound : (one.putFrame key frame added).Sound)
    (sound' : (other.putFrame key frame added).Sound) :
    Agree epoch (one.putFrame key frame added) (other.putFrame key frame added) := by
  refine ⟨sound, sound', agree.config, agree.current, agree.current', ?_, agree.gap⟩
  rw [framesOf_putFrame, framesOf_putFrame]
  exact agree.frames.map _

theorem framesOf_emplace (key : FrameKey) (frame : Frame) :
    ((reasm.emplace key frame).framesOf epoch).Perm
      (((key, frame) :: reasm.frames).filter (·.1.1 == epoch)) :=
  (frames_emplace key frame).filter _

theorem Agree.emplace (agree : Agree epoch one other) {key : FrameKey}
    (sound : (one.emplace key frame).Sound) (sound' : (other.emplace key frame).Sound) :
    Agree epoch (one.emplace key frame) (other.emplace key frame) := by
  refine ⟨sound, sound', agree.config, agree.current, agree.current', ?_, agree.gap⟩
  refine (framesOf_emplace key frame).trans (.trans ?_ (framesOf_emplace key frame).symm)
  simp only [List.filter_cons]
  split
  · exact agree.frames.cons _
  · exact agree.frames

/-- The same answer, and states that cannot be told apart. -/
def Alike (epoch : Nat) (one other : AccessUnitReassembler × IngestResult) : Prop :=
  Agree epoch one.1 other.1 ∧ other.2 = one.2

theorem resourceFailure_alike (agree : Agree epoch one other) :
    Alike epoch (one.resourceFailure hdr false) (other.resourceFailure hdr false) :=
  ⟨⟨sound_discardInflight _, sound_discardInflight _, agree.config, agree.current, agree.current',
    .nil, agree.gap⟩, rfl⟩

theorem conflictFailure_alike (agree : Agree epoch one other) :
    Alike epoch (one.conflictFailure hdr false) (other.conflictFailure hdr false) :=
  ⟨agree.eraseFrame _, rfl⟩

theorem finishFrame_alike (agree : Agree epoch one other) :
    Alike epoch (one.finishFrame hdr frame false) (other.finishFrame hdr frame false) := by
  unfold finishFrame
  split
  · exact ⟨agree, rfl⟩
  · exact ⟨(agree.eraseFrame _).withReady _ _, rfl⟩

theorem storeFragment_alike (agree : Agree epoch one other) (own : hdr.streamEpoch = epoch)
    (found : lookup Prod.fst hdr.key one.frames = some (hdr.key, frame))
    (found' : lookup Prod.fst hdr.key other.frames = some (hdr.key, frame))
    (empty : frame.fragments[hdr.fragmentIndex]? = some none) :
    Alike epoch (one.storeFragment hdr frame data false)
      (other.storeFragment hdr frame data false) := by
  subst own
  obtain ⟨keeps, roomFound⟩ := @keeps_roomForBytes _ hdr _ false agree.sound agree.current found data
  obtain ⟨keeps', roomFound'⟩ :=
    @keeps_roomForBytes _ hdr _ false agree.sound' agree.current' found' data
  have fits : frame.bytes ≤ _ := (keeps.sound.frames _ (lookup_key roomFound).1).fits
  have fits' : frame.bytes ≤ _ := (keeps'.sound.frames _ (lookup_key roomFound').1).fits
  have rooms : Agree hdr.streamEpoch (one.roomForBytes data false)
      (other.roomForBytes data false) :=
    (agree_roomForBytes agree.sound agree.current data false).symm.trans
      (agree.trans (agree_roomForBytes agree.sound' agree.current' data false))
  have tight := @roomForBytes_tight _ _ data agree.sound agree.current
  have tight' := @roomForBytes_tight _ _ data agree.sound' agree.current'
  rw [agree.config, ← load_perm agree.frames, ← tight, rooms.config] at tight'
  rw [storeFragment_eq keeps.sound fits, storeFragment_eq keeps'.sound fits']
  simp only [rooms.config, tight']
  split
  · exact resourceFailure_alike rooms
  · next room =>
      rw [not_or, not_lt, not_lt] at room
      have stored := keeps.sound.putFrame roomFound empty room.1 room.2
      have stored' := keeps'.sound.putFrame roomFound' empty (by rw [rooms.config]; exact room.1)
        (by rw [rooms.config, ← not_lt, tight', not_lt]; exact room.2)
      exact finishFrame_alike (rooms.putFrame stored stored')

theorem receiveFragment_alike (agree : Agree epoch one other) (own : hdr.streamEpoch = epoch)
    (found : lookup Prod.fst hdr.key one.frames = some (hdr.key, frame))
    (found' : lookup Prod.fst hdr.key other.frames = some (hdr.key, frame))
    (hin : hdr.fragmentIndex < frame.fragments.length) :
    Alike epoch (one.receiveFragment hdr frame data false)
      (other.receiveFragment hdr frame data false) := by
  unfold receiveFragment
  cases slot : frame.fragments.getD hdr.fragmentIndex none with
  | none => exact storeFragment_alike agree own found found' (getElem?_of_getD hin slot)
  | some held =>
    simp only
    split
    · exact ⟨agree, rfl⟩
    · exact conflictFailure_alike agree

theorem placeFragment_alike (agree : Agree epoch one other) (own : hdr.streamEpoch = epoch)
    (valid : hdr.valid = true) (now : Int) :
    Alike epoch (one.placeFragment hdr data now false)
      (other.placeFragment hdr data now false) := by
  subst own
  have index := index_lt valid
  have same := @Agree.lookup _ _ _ agree hdr.key rfl
  cases found : lookup Prod.fst hdr.key one.frames with
  | some entry =>
    obtain ⟨key, frame⟩ := entry
    obtain rfl : key = hdr.key := (lookup_key found).2
    have found' := same.trans found
    have slots : frame.fragments.length = frame.fragmentCount :=
      (agree.sound.frames _ (lookup_key found).1).slots
    simp only [placeFragment, found, found']
    split
    · exact conflictFailure_alike agree
    · exact receiveFragment_alike agree rfl found found' (by omega)
  | none =>
    have found' := same.trans found
    obtain ⟨keeps, admits, missing⟩ := @keeps_roomForFrame _ hdr false agree.sound agree.current found
    obtain ⟨keeps', admits', missing'⟩ :=
      @keeps_roomForFrame _ hdr false agree.sound' agree.current' found'
    have rooms : Agree hdr.streamEpoch (one.roomForFrame false) (other.roomForFrame false) :=
      (agree_roomForFrame agree.sound agree.current false).symm.trans
        (agree.trans (agree_roomForFrame agree.sound' agree.current' false))
    have full := roomForFrame_full agree.current
    have full' := roomForFrame_full agree.current'
    rw [agree.config, ← agree.frames.length_eq, ← full] at full'
    rw [placeFragment_of_missing found, placeFragment_of_missing found']
    simp only [full']
    split
    · exact resourceFailure_alike rooms
    · next room =>
        have placed := keeps.sound.emplace admits missing (Nat.lt_of_not_le room) now
        have placed' := keeps'.sound.emplace admits' missing'
          (Nat.lt_of_not_le (fun isFull => room (full'.mp isFull))) now
        exact receiveFragment_alike (rooms.emplace placed placed') rfl (lookup_emplace placed)
          (lookup_emplace placed') (by simpa [Frame.new] using index)

theorem ingestUnexpired_alike (agree : Agree epoch one other) (own : hdr.streamEpoch = epoch)
    (valid : hdr.valid = true) (now : Int) :
    Alike epoch (one.ingestUnexpired hdr data now)
      (other.ingestUnexpired hdr data now) := by
  subst own
  have place := @placeFragment_alike _ _ _ _ data agree rfl valid now
  unfold ingestUnexpired
  simp only [isRetired, isCandidate, agree.current, agree.current', agree.config, agree.gap,
    lt_irrefl, decide_false, Bool.false_eq_true, if_false, beq_self_eq_true, Bool.and_true]
  split_ifs
  · exact ⟨⟨sound_discardInflight _, sound_discardInflight _, rfl, rfl, rfl, .nil, rfl⟩, rfl⟩
  · exact ⟨agree, rfl⟩
  · exact ⟨agree, rfl⟩
  · exact ⟨agree, rfl⟩
  · exact place

theorem framesOf_eraseWhere_other {cond : FrameKey × Frame → Bool}
    (others : ∀ entry ∈ reasm.frames, cond entry = true → entry.1.1 ≠ epoch) :
    (reasm.eraseWhere cond).framesOf epoch = reasm.framesOf epoch := by
  rw [framesOf_eraseWhere, List.filter_eq_self]
  intro entry mem
  obtain ⟨inside, own⟩ := List.mem_filter.mp mem
  cases erased : cond entry with
  | false => rfl
  | true => exact absurd (by simpa using own) (others entry inside erased)

structure Spares (epoch : Nat) (before after : AccessUnitReassembler) : Prop where
  keeps : before.Keeps after
  frames : (before.framesOf epoch).Perm (after.framesOf epoch)
  gap : after.gapDetected = before.gapDetected

theorem Spares.trans (first : Spares epoch one other) (snd : Spares epoch other third) :
    Spares epoch one third :=
  ⟨first.keeps.trans snd.keeps, first.frames.trans snd.frames, snd.gap.trans first.gap⟩

theorem Spares.refl (sound : one.Sound) : Spares epoch one one := ⟨sound.keeps, .refl _, rfl⟩

theorem Spares.agree (spares : Spares epoch one other) (sound : one.Sound)
    (cur : one.currentEpoch = some epoch) : Agree epoch one other :=
  ⟨sound, spares.keeps.sound, spares.keeps.config, cur, spares.keeps.current.trans cur,
    spares.frames, spares.gap⟩

theorem framesOf_eraseEpoch {cand : Nat} (apart : cand ≠ epoch) :
    (reasm.eraseEpoch cand).framesOf epoch = reasm.framesOf epoch ∧
      (reasm.eraseEpoch cand).gapDetected = reasm.gapDetected := by
  have spared : (reasm.eraseWhere (·.1.1 == cand)).framesOf epoch = reasm.framesOf epoch := by
    apply framesOf_eraseWhere_other
    intro entry _ erased isOwn
    exact apart ((by simpa using erased : entry.1.1 = cand).symm.trans isOwn)
  unfold eraseEpoch
  simp only
  split
  · exact ⟨spared, rfl⟩
  · exact ⟨spared, rfl⟩

theorem spares_rejectCandidateEpoch (sound : reasm.Sound)
    (cur : reasm.currentEpoch = some epoch) (cand : Nat) :
    Spares epoch reasm (reasm.rejectCandidateEpoch cand) := by
  have keeps := keeps_rejectCandidateEpoch sound cand
  cases held : reasm.candidateEpoch with
  | none =>
    have same : reasm.rejectCandidateEpoch cand = reasm := by
      simp [rejectCandidateEpoch, held]
    rw [same]
    exact .refl sound
  | some other =>
    have ahead := sound.ahead other epoch held cur
    by_cases isOther : other = cand
    · have same : reasm.rejectCandidateEpoch cand = reasm.eraseEpoch cand := by
        simp [rejectCandidateEpoch, held, isOther]
      obtain ⟨frames, gap⟩ := @framesOf_eraseEpoch epoch reasm cand (by omega)
      rw [same] at keeps ⊢
      exact ⟨keeps, .of_eq frames.symm, gap⟩
    · have same : reasm.rejectCandidateEpoch cand = reasm := by
        simp [rejectCandidateEpoch, held, isOther]
      rw [same]
      exact .refl sound

theorem spares_selectCandidateEpoch (sound : reasm.Sound)
    (cur : reasm.currentEpoch = some epoch) {cand : Nat}
    (later : reasm.isCandidate cand = true) :
    Spares epoch reasm (reasm.selectCandidateEpoch cand).1 := by
  have keeps := keeps_selectCandidateEpoch sound later
  unfold selectCandidateEpoch at keeps ⊢
  cases held : reasm.candidateEpoch with
  | none =>
    simp only [held] at keeps ⊢
    exact ⟨keeps, .refl _, rfl⟩
  | some other =>
    have ahead := sound.ahead other epoch held cur
    obtain ⟨frames, gap⟩ := @framesOf_eraseEpoch epoch reasm other (by omega)
    simp only [held] at keeps ⊢
    split_ifs at keeps ⊢
    · exact .refl sound
    · exact .refl sound
    · exact ⟨keeps, .of_eq frames.symm, gap⟩

theorem spares_finishFrame (sound : reasm.Sound) (foreign : hdr.streamEpoch ≠ epoch) :
    Spares epoch reasm (reasm.finishFrame hdr frame true).1 := by
  have keeps := @keeps_finishFrame _ hdr frame true sound
  refine ⟨keeps, ?_, ?_⟩ <;> unfold finishFrame <;> split
  · exact .refl _
  · have erased : (reasm.eraseFrame hdr.key).framesOf epoch = reasm.framesOf epoch := by
      rw [eraseFrame_eq sound.distinct]
      apply framesOf_eraseWhere_other
      intro entry _ isKey
      have key : entry.1 = hdr.key := by simpa using isKey
      rw [key]
      exact foreign
    exact .of_eq erased.symm
  · rfl
  · rw [eraseFrame_eq sound.distinct]
    rfl

theorem spares_storeFragment (sound : reasm.Sound)
    (cur : reasm.currentEpoch = some epoch) (foreign : hdr.streamEpoch ≠ epoch)
    (found : lookup Prod.fst hdr.key reasm.frames = some (hdr.key, frame))
    (empty : frame.fragments[hdr.fragmentIndex]? = some none) :
    Spares epoch reasm (reasm.storeFragment hdr frame data true).1 := by
  have fits : frame.bytes ≤ _ := (sound.frames _ (lookup_key found).1).fits
  rw [@storeFragment_eq reasm hdr frame data true sound fits]
  split
  · exact spares_rejectCandidateEpoch sound cur _
  · next room =>
      rw [not_or, not_lt, not_lt] at room
      have stored := sound.putFrame found empty room.1 room.2
      have put : Spares epoch reasm (reasm.putFrame hdr.key
          (frame.store hdr.fragmentIndex data) data.length) := by
        refine ⟨⟨stored, rfl, rfl⟩, .of_eq ?_, rfl⟩
        rw [framesOf_putFrame]
        symm
        apply update_of_none
        intro entry mem
        have own : entry.1.1 = epoch := by simpa using (List.mem_filter.mp mem).2
        have other : entry.1 ≠ hdr.key := by
          rintro isKey
          rw [isKey] at own
          exact foreign own
        simpa using other
      exact put.trans (spares_finishFrame stored foreign)

theorem spares_receiveFragment (sound : reasm.Sound)
    (cur : reasm.currentEpoch = some epoch) (foreign : hdr.streamEpoch ≠ epoch)
    (found : lookup Prod.fst hdr.key reasm.frames = some (hdr.key, frame))
    (hin : hdr.fragmentIndex < frame.fragments.length) :
    Spares epoch reasm (reasm.receiveFragment hdr frame data true).1 := by
  unfold receiveFragment
  cases slot : frame.fragments.getD hdr.fragmentIndex none with
  | none =>
    exact spares_storeFragment sound cur foreign found (getElem?_of_getD hin slot)
  | some held =>
    simp only
    split
    · exact .refl sound
    · exact spares_rejectCandidateEpoch sound cur _

theorem spares_placeFragment (sound : reasm.Sound)
    (cur : reasm.currentEpoch = some epoch) (foreign : hdr.streamEpoch ≠ epoch)
    (valid : hdr.valid = true) (admits : reasm.Admits hdr.streamEpoch true) (now : Int) :
    Spares epoch reasm (reasm.placeFragment hdr data now true).1 := by
  have index := index_lt valid
  cases found : lookup Prod.fst hdr.key reasm.frames with
  | some entry =>
    obtain ⟨key, frame⟩ := entry
    obtain rfl : key = hdr.key := (lookup_key found).2
    have slots : frame.fragments.length = frame.fragmentCount :=
      (sound.frames _ (lookup_key found).1).slots
    simp only [placeFragment, found]
    split
    · exact spares_rejectCandidateEpoch sound cur _
    · exact spares_receiveFragment sound cur foreign found (by omega)
  | none =>
    have same : reasm.roomForFrame true = reasm := by simp [roomForFrame]
    rw [placeFragment_of_missing found, same]
    split
    · exact spares_rejectCandidateEpoch sound cur _
    · next room =>
        have placed := sound.emplace admits found (Nat.lt_of_not_le room) now
        have emplaced : Spares epoch reasm
            (reasm.emplace hdr.key (Frame.new hdr.fragmentCount now)) := by
          refine ⟨⟨placed, rfl, rfl⟩, ?_, rfl⟩
          refine .trans ?_ (framesOf_emplace hdr.key _).symm
          rw [List.filter_cons_of_neg (by simpa [WireHeader.key] using foreign)]
          exact .refl _
        exact emplaced.trans (spares_receiveFragment placed cur foreign
          (lookup_emplace placed) (by simpa [Frame.new] using index))

theorem spares_ingestUnexpired (sound : reasm.Sound)
    (cur : reasm.currentEpoch = some epoch) (foreign : hdr.streamEpoch ≠ epoch)
    (valid : hdr.valid = true) (now : Int) :
    Spares epoch reasm (reasm.ingestUnexpired hdr data now).1 := by
  unfold ingestUnexpired
  split_ifs with retired gap repeats odd unfit cand sel
  · exact .refl sound
  · simp only [cur, Bool.and_eq_true, beq_iff_eq, Option.some.injEq] at gap
    exact absurd gap.2.symm foreign
  · exact .refl sound
  · exact .refl sound
  · exact .refl sound
  · have spares := spares_selectCandidateEpoch sound cur cand
    have admits := candidateEpoch_select sel
    exact spares.trans (spares_placeFragment spares.keeps.sound (spares.keeps.current.trans cur)
      foreign valid admits now)
  · exact spares_selectCandidateEpoch sound cur cand
  · have own := admits_current (by simpa using retired) (by simpa using cand)
    simp only [Admits, cur, Bool.false_eq_true, if_false, Option.some.injEq] at own
    exact absurd own.symm foreign

end

end AccessUnitReassembler

namespace CoreCall

def carries (epoch : Nat) : CoreCall → Bool
  | .ingest hdr _ _ => hdr.streamEpoch == epoch
  | _ => false

def time : CoreCall → Option Int
  | .ingest _ _ now => some now
  | .expire now => some now
  | _ => none

/-- Neither a commit nor a discard. -/
def Modest : CoreCall → Prop
  | .commitCandidateEpoch _ => False
  | .discardInflight => False
  | _ => True

end CoreCall

namespace AccessUnitReassembler

def Clocked (calls : List CoreCall) : Prop := (calls.filterMap CoreCall.time).Pairwise (· ≤ ·)

def answersTo (epoch : Nat) (history : List (CoreCall × CoreReply)) : List (CoreCall × CoreReply) :=
  history.filter (fun answered => answered.1.carries epoch)

section

variable {epoch : Nat} {one other : AccessUnitReassembler} {now : Int}

theorem agree_later (sound : one.Sound) (sound' : other.Sound)
    (cur : one.currentEpoch = some epoch) (current' : other.currentEpoch = some epoch)
    (agree : Agree epoch (one.expire now) (other.expire now)) {later : Int} (le : now ≤ later) :
    Agree epoch (one.expire later) (other.expire later) :=
  (agree_expire_twice sound cur le).trans
    ((agree.expire later).trans (agree_expire_twice sound' current' le).symm)

/-- A call of the first reassembler that the second does not see. -/
theorem unseen_call (sound : one.Sound) (cur : one.currentEpoch = some epoch) {made : CoreCall}
    (modest : made.Modest) (foreign : made.carries epoch = false) :
    Agree epoch (one.expire (made.time.getD now))
      ((one.call made).1.expire (made.time.getD now)) := by
  cases made with
  | ingest hdr data time =>
    have expired := keeps_expire sound time
    have cur := expired.current.trans cur
    simp only [call, CoreCall.time, Option.getD_some]
    cases valid : hdr.valid with
    | false =>
      rw [ingest_of_invalid valid]
      exact .refl expired.sound cur
    | true =>
      have spares := @spares_ingestUnexpired epoch (one.expire time) hdr data
        expired.sound cur (by simpa [CoreCall.carries] using foreign) valid time
      rw [ingest_of_valid valid]
      exact (agree_expire_twice sound (by assumption) le_rfl).trans
        ((spares.agree expired.sound cur).expire time)
  | expire time => exact agree_expire_twice sound cur le_rfl
  | discardInflight => exact absurd modest id
  | commitCandidateEpoch cand => exact absurd modest id
  | rejectCandidateEpoch cand =>
    exact ((spares_rejectCandidateEpoch sound cur cand).agree sound cur).expire _

theorem seen_call {made : CoreCall} (own : made.carries epoch = true)
    (agree : Agree epoch (one.expire (made.time.getD now)) (other.expire (made.time.getD now))) :
    Agree epoch ((one.call made).1.expire (made.time.getD now))
        ((other.call made).1.expire (made.time.getD now)) ∧
      (other.call made).2 = (one.call made).2 := by
  cases made with
  | ingest hdr data time =>
    simp only [call, CoreCall.time, Option.getD_some] at agree ⊢
    cases valid : hdr.valid with
    | false =>
      rw [ingest_of_invalid valid, ingest_of_invalid valid]
      exact ⟨agree, rfl⟩
    | true =>
      obtain ⟨states, answers⟩ := @ingestUnexpired_alike epoch _ _ hdr data agree
        (by simpa [CoreCall.carries] using own) valid time
      rw [ingest_of_valid valid, ingest_of_valid valid]
      exact ⟨states.expire time, by rw [answers]⟩
  | expire time => cases own
  | discardInflight => cases own
  | commitCandidateEpoch cand => cases own
  | rejectCandidateEpoch cand => cases own

theorem modest_current (sound : one.Sound) (cur : one.currentEpoch = some epoch)
    {made : CoreCall} (modest : made.Modest) : (one.call made).1.currentEpoch = some epoch := by
  rw [currentEpoch_call sound ?_, cur]
  rintro cand rfl
  exact modest

theorem Clocked.cons {made : CoreCall} {calls : List CoreCall} (clocked : Clocked (made :: calls))
    (pre : ∀ later ∈ (made :: calls).filterMap CoreCall.time, now ≤ later) :
    Clocked calls ∧ now ≤ made.time.getD now ∧
      ∀ later ∈ calls.filterMap CoreCall.time, made.time.getD now ≤ later := by
  unfold Clocked at clocked ⊢
  cases time : made.time with
  | none =>
    rw [List.filterMap_cons_none time] at clocked pre
    exact ⟨clocked, le_rfl, pre⟩
  | some now' =>
    rw [List.filterMap_cons_some time] at clocked pre
    rw [List.pairwise_cons] at clocked
    exact ⟨clocked.2, pre now' List.mem_cons_self, clocked.1⟩

/-- The calls that do not carry the epoch might as well not be made. -/
theorem answersTo_eq {calls : List CoreCall} (modest : ∀ made ∈ calls, made.Modest)
    (clocked : Clocked calls) (sound : one.Sound) (sound' : other.Sound)
    (cur : one.currentEpoch = some epoch) (current' : other.currentEpoch = some epoch)
    (agree : Agree epoch (one.expire now) (other.expire now))
    (pre : ∀ later ∈ calls.filterMap CoreCall.time, now ≤ later) :
    answersTo epoch (trace call one calls) =
      trace call other (calls.filter (CoreCall.carries epoch)) := by
  induction calls generalizing one other now with
  | nil => rfl
  | cons made calls ih =>
    obtain ⟨clocked, le, pre⟩ := clocked.cons pre
    have isModest := modest made List.mem_cons_self
    have modest := fun later mem => modest later (List.mem_cons_of_mem made mem)
    have after := sound_call sound made
    have stays := modest_current sound cur isModest
    have agree := agree_later sound sound' cur current' agree le
    unfold answersTo at ih ⊢
    cases own : made.carries epoch with
    | false =>
      have unseen := @unseen_call epoch one now sound cur made isModest own
      rw [trace_cons, List.filter_cons_of_neg (by simp [own]),
        List.filter_cons_of_neg (by simp [own])]
      exact ih modest clocked after sound' stays current' (unseen.symm.trans agree) pre
    | true =>
      obtain ⟨states, answers⟩ := seen_call own agree
      rw [trace_cons, List.filter_cons_of_pos (by simpa using own),
        List.filter_cons_of_pos (by simpa using own), trace_cons, answers]
      congr 1
      exact ih modest clocked after (sound_call sound' made) stays
        (modest_current sound' current' isModest) states pre

end

theorem exists_start (times : List Int) (clocked : times.Pairwise (· ≤ ·)) :
    ∃ now, ∀ later ∈ times, now ≤ later := by
  cases times with
  | nil => exact ⟨0, by simp⟩
  | cons now times =>
    refine ⟨now, ?_⟩
    intro later mem
    cases List.mem_cons.mp mem with
    | inl same => exact same.ge
    | inr rest => exact List.rel_of_pairwise_cons clocked rest

/-- Two runs from one state that give the same fragments of the current epoch to the reassembler
get the same answers to them, whatever else is called in either, commits and discards apart. -/
theorem candidates_are_invisible (config : ReassemblyConfig) (hist : List CoreCall)
    {epoch : Nat} (current : (after config hist).currentEpoch = some epoch)
    {calls disturbed : List CoreCall} (modest : ∀ made ∈ calls ++ disturbed, made.Modest)
    (clocked : Clocked calls) (clocked' : Clocked disturbed)
    (same : calls.filter (CoreCall.carries epoch) = disturbed.filter (CoreCall.carries epoch)) :
    answersTo epoch (trace call (after config hist) calls) =
      answersTo epoch (trace call (after config hist) disturbed) := by
  have sound := sound_after config hist
  have alone {made : List CoreCall} (modest : ∀ one ∈ made, one.Modest) (clocked : Clocked made) :
      answersTo epoch (trace call (after config hist) made) =
        trace call (after config hist) (made.filter (CoreCall.carries epoch)) := by
    obtain ⟨now, before⟩ := exists_start _ clocked
    have expired := keeps_expire sound now
    exact answersTo_eq modest clocked sound sound current current
      (.refl expired.sound (expired.current.trans current)) before
  rw [alone (fun made member => modest made (List.mem_append_left _ member)) clocked,
    alone (fun made member => modest made (List.mem_append_right _ member)) clocked', same]

def fragmentCall (epoch sequence index count : Nat) (now : Int) : CoreCall :=
  .ingest ⟨.data, epoch, sequence, index, count⟩ [7] now

/-- A half frame of the second epoch is there while the first goes on. -/
theorem candidate_is_invisible :
    let committed := after defaultReassemblyConfig [fragmentCall 1 1 0 1 0, .commitCandidateEpoch 1]
    answersTo 1 (trace call committed [fragmentCall 1 2 0 1 2]) =
      answersTo 1 (trace call committed [fragmentCall 2 1 0 2 1, fragmentCall 1 2 0 1 2]) :=
  candidates_are_invisible defaultReassemblyConfig _ (by decide) (by simp [fragmentCall, CoreCall.Modest])
    (by simp [Clocked, fragmentCall, CoreCall.time]) (by simp [Clocked, fragmentCall, CoreCall.time])
    (by decide)

end AccessUnitReassembler

end VisionForge.ContractCore
