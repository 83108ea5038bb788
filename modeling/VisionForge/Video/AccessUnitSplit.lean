import VisionForge.Video.IdrDetection

/-! # Splitting a byte stream into access units

A slice that starts a picture starts an access unit. Other NAL units wait for the slice after
them, but only a slice that starts an access unit takes them along.
-/

namespace VisionForge.Video

open Lib.Ascii

structure Nal where
  startCode : Bytes
  payload : Bytes

def nalsFrom : Nat → Bytes → List Nal
  | 0, _ => []
  | turns + 1, bytes =>
    match startCodeSize bytes with
    | none => []
    | some size =>
      let (payload, next) := untilStartCode (bytes.drop size)
      ⟨bytes.take size, payload⟩ :: nalsFrom turns next

def findNals (bytes : Bytes) : List Nal := nalsFrom bytes.length (untilStartCode bytes).2

def unescape : Nat → Bytes → Bytes
  | _, [] => []
  | zeroCount, value :: rest =>
    if 2 ≤ zeroCount ∧ value = 3 then unescape 0 rest
    else value :: unescape (if value = 0 then zeroCount + 1 else 0) rest

def rbspAfterNalHeader (nalPayload : Bytes) : Bytes := unescape 0 (nalPayload.drop 1)

def firstMbIsZero (nalPayload : Bytes) : Bool :=
  let bits := (rbspAfterNalHeader nalPayload).flatMap fun octet =>
    (List.range 8).map fun bit => octet.toNat.testBit (7 - bit)
  let leadingZeroes := (bits.takeWhile (! ·)).length
  match bits.drop leadingZeroes with
  | [] => false
  | _ :: rest =>
    if 31 < leadingZeroes ∨ rest.length < leadingZeroes then false
    else
      let suffix := (rest.take leadingZeroes).foldl (fun suffix bit => 2 * suffix + bit.toNat) 0
      2 ^ leadingZeroes - 1 + suffix == 0

namespace Nal

def octets (nal : Nal) : Bytes := nal.startCode ++ nal.payload

def isVcl (nal : Nal) : Bool :=
  let type := nalType (nal.payload.headD 0)
  decide (1 ≤ type ∧ type ≤ 5)

def startsPicture (nal : Nal) : Bool := nal.isVcl && firstMbIsZero nal.payload

end Nal

structure Splitting where
  accessUnits : List Bytes := []
  pendingPrefix : Bytes := []
  current : Bytes := []
  currentHasVcl : Bool := false

def splitNal (state : Splitting) (nal : Nal) : Splitting :=
  let state :=
    if nal.isVcl && state.currentHasVcl && nal.startsPicture then
      { state with
        accessUnits := state.accessUnits ++ [state.current]
        current := []
        currentHasVcl := false }
    else state
  if nal.isVcl then
    let state :=
      if !state.currentHasVcl && !state.pendingPrefix.isEmpty then
        { state with current := state.current ++ state.pendingPrefix, pendingPrefix := [] }
      else state
    { state with current := state.current ++ nal.octets, currentHasVcl := true }
  -- The source tells two cases apart here, and appends in both.
  else { state with pendingPrefix := state.pendingPrefix ++ nal.octets }

def nonEmptyNals (elementaryStream : Bytes) : List Nal :=
  (findNals elementaryStream).filter fun nal => !nal.payload.isEmpty

/-- The access units, without the units that are still pending. -/
def Splitting.finish (state : Splitting) : List Bytes :=
  if state.currentHasVcl then state.accessUnits ++ [state.current] else state.accessUnits

def splitH264AnnexBAccessUnits (elementaryStream : Bytes) : List Bytes :=
  ((nonEmptyNals elementaryStream).foldl splitNal {}).finish

def octetsOf (nals : List Nal) : Bytes := nals.flatMap Nal.octets

def upToLastVcl : List Nal → List Nal
  | [] => []
  | nal :: rest => if (nal :: rest).any Nal.isVcl then nal :: upToLastVcl rest else []

def ContainsVcl (nals : List Nal) (unit : Bytes) : Prop :=
  ∃ nal ∈ nals, nal.isVcl = true ∧ nal.octets <:+: unit

/-- Once a slice has been, a slice behind other units starts a picture. -/
def slicesTogether : (begun waiting : Bool) → List Nal → Bool
  | _, _, [] => true
  | begun, waiting, nal :: rest =>
    if nal.isVcl then
      (!(begun && waiting) || nal.startsPicture) && slicesTogether true false rest
    else slicesTogether begun true rest

section

variable {state : Splitting} {nal : Nal} {nals front waiting : List Nal}

theorem upToLastVcl_slice (isVcl : nal.isVcl = true) :
    upToLastVcl (front ++ nal :: nals) = front ++ nal :: upToLastVcl nals := by
  induction front with
  | nil => simp [upToLastVcl, isVcl]
  | cons first front ih => simp [upToLastVcl, ih, isVcl]

theorem upToLastVcl_others (others : ∀ nal ∈ waiting, nal.isVcl = false) :
    upToLastVcl waiting = [] := by
  cases waiting with
  | nil => rfl
  | cons first waiting => simp_all [upToLastVcl]

namespace Splitting

/-- The octets that went into access units. -/
def placed (state : Splitting) : Bytes := state.accessUnits.flatten ++ state.current

theorem splitNal_other (other : nal.isVcl = false) :
    splitNal state nal = { state with pendingPrefix := state.pendingPrefix ++ nal.octets } := by
  simp [splitNal, other]

theorem splitNal_continued (isVcl : nal.isVcl = true) (begun : state.currentHasVcl = true)
    (continued : nal.startsPicture = false) :
    splitNal state nal = { state with current := state.current ++ nal.octets } := by
  simp [splitNal, isVcl, begun, continued]

theorem splitNal_starting (isVcl : nal.isVcl = true)
    (starting : state.currentHasVcl = false ∨ nal.startsPicture = true) :
    (splitNal state nal).placed = state.placed ++ state.pendingPrefix ++ nal.octets ∧
      (splitNal state nal).pendingPrefix = [] ∧ (splitNal state nal).currentHasVcl = true := by
  cases begun : state.currentHasVcl with
  | false =>
    cases empty : state.pendingPrefix with
    | nil => simp [splitNal, placed, isVcl, begun, empty]
    | cons octet rest => simp [splitNal, placed, isVcl, begun, empty]
  | true =>
    have starts := starting.resolve_left (by simp [begun])
    cases empty : state.pendingPrefix with
    | nil => simp [splitNal, placed, isVcl, begun, starts, empty]
    | cons octet rest => simp [splitNal, placed, isVcl, begun, starts, empty]

theorem placed_foldl (state : Splitting) (nals : List Nal) :
    state.placed <+: (nals.foldl splitNal state).placed := by
  induction nals generalizing state with
  | nil => exact List.prefix_rfl
  | cons nal nals ih =>
    refine List.IsPrefix.trans ?_ (ih _)
    cases isVcl : nal.isVcl with
    | false => exact splitNal_other isVcl ▸ List.prefix_rfl
    | true =>
      by_cases starting : state.currentHasVcl = false ∨ nal.startsPicture = true
      · rw [(splitNal_starting isVcl starting).1, List.append_assoc]
        exact List.prefix_append _ _
      · rw [not_or, Bool.not_eq_false, Bool.not_eq_true] at starting
        rw [splitNal_continued isVcl starting.1 starting.2]
        exact ⟨nal.octets, List.append_assoc _ _ _⟩

structure Filled (all : List Nal) (state : Splitting) : Prop where
  units : ∀ unit ∈ state.accessUnits, ContainsVcl all unit
  current : state.currentHasVcl = true → ContainsVcl all state.current
  fresh : state.currentHasVcl = false → state.current = []

theorem Filled.splitNal {all : List Nal} (filled : Filled all state) (isIn : nal ∈ all) :
    Filled all (splitNal state nal) := by
  cases isVcl : nal.isVcl with
  | false =>
    rw [splitNal_other isVcl]
    exact ⟨filled.units, filled.current, filled.fresh⟩
  | true =>
    have ends (start : Bytes) : ContainsVcl all (start ++ nal.octets) :=
      ⟨nal, isIn, isVcl, (List.suffix_append _ _).isInfix⟩
    refine ⟨?_, fun _ => ?_, ?_⟩
    · intro unit isUnit
      simp only [Video.splitNal, isVcl, Bool.true_and] at isUnit
      grind [Filled]
    · simp only [Video.splitNal, isVcl, Bool.true_and]
      exact ends _
    · simp [Video.splitNal, isVcl]

theorem Filled.finish {all : List Nal} (filled : Filled all state) :
    state.finish.flatten = state.placed ∧ ∀ unit ∈ state.finish, ContainsVcl all unit := by
  unfold Splitting.finish placed
  cases begun : state.currentHasVcl with
  | false => exact ⟨by simp [filled.fresh begun], filled.units⟩
  | true =>
    refine ⟨by simp, fun unit isUnit => ?_⟩
    cases List.mem_append.mp isUnit with
    | inl old => exact filled.units unit old
    | inr last => exact List.mem_singleton.mp last ▸ filled.current begun

end Splitting

open Splitting

/-- A start code, and a header behind it. -/
def Formed (nal : Nal) : Prop :=
  (nal.startCode = [0, 0, 1] ∨ nal.startCode = [0, 0, 0, 1]) ∧ nal.payload ≠ []

theorem octets_apart {slice other : Nal} (isVcl : slice.isVcl = true) (isOther : other.isVcl = false)
    (slice_formed : Formed slice) (other_formed : Formed other) (first second : Bytes) :
    slice.octets ++ first ≠ other.octets ++ second := by
  obtain ⟨start, hdr⟩ := slice_formed
  obtain ⟨otherStart, otherHeader⟩ := other_formed
  obtain ⟨sliceCode, _ | ⟨sliceFirst, body⟩⟩ := slice
  · exact absurd rfl hdr
  obtain ⟨otherCode, _ | ⟨otherFirst, otherBody⟩⟩ := other
  · exact absurd rfl otherHeader
  have differ : sliceFirst ≠ otherFirst := by
    rintro rfl
    exact Bool.false_ne_true (isOther.symm.trans isVcl)
  simp only [Nal.octets] at start otherStart ⊢
  obtain rfl | rfl := start
  · obtain rfl | rfl := otherStart <;> simp [differ]
  · obtain rfl | rfl := otherStart <;> simp [differ]

/-- From any state, the units up to the last slice are placed exactly where the slices of a
    picture stand together. -/
theorem placed_iff (nals : List Nal) (formed : ∀ nal ∈ waiting ++ nals, Formed nal)
    (others : ∀ nal ∈ waiting, nal.isVcl = false) (pend : state.pendingPrefix = octetsOf waiting) :
    (nals.foldl splitNal state).placed = state.placed ++ octetsOf (upToLastVcl (waiting ++ nals)) ↔
      slicesTogether state.currentHasVcl (!waiting.isEmpty) nals = true := by
  induction nals generalizing state waiting with
  | nil => simp [slicesTogether, upToLastVcl_others others, octetsOf]
  | cons nal nals ih =>
    rw [List.foldl_cons, slicesTogether]
    cases isVcl : nal.isVcl with
    | false =>
      have next := @ih (splitNal state nal) (waiting ++ [nal]) (by simpa using formed)
        (by simpa [or_imp, forall_and] using ⟨others, isVcl⟩)
        (by rw [splitNal_other isVcl]; simp [octetsOf, pend])
      have waits : (waiting ++ [nal]).isEmpty = false := by simp
      rw [splitNal_other isVcl, waits] at next
      rw [splitNal_other isVcl]
      simpa [placed] using next
    | true =>
      have later : ∀ nal ∈ [] ++ nals, Formed nal := fun nal mem =>
        formed nal (List.mem_append_right _ (.tail _ mem))
      rw [upToLastVcl_slice isVcl]
      by_cases starting : state.currentHasVcl = false ∨ nal.startsPicture = true
      · obtain ⟨isPlaced, empty, begun⟩ := splitNal_starting isVcl starting
        have next := @ih (splitNal state nal) [] later nofun empty
        have clean : (!(state.currentHasVcl && !waiting.isEmpty) || nal.startsPicture) = true := by
          cases starting with
          | inl fresh => simp [fresh]
          | inr starts => simp [starts]
        rw [isPlaced, begun, pend] at next
        rw [if_pos rfl, clean, Bool.true_and]
        simpa [octetsOf] using next
      · rw [not_or, Bool.not_eq_false, Bool.not_eq_true] at starting
        obtain ⟨begun, continued⟩ := starting
        have split := splitNal_continued isVcl begun continued
        cases waiting with
        | nil =>
          have next := @ih (splitNal state nal) [] later nofun (by rw [split]; exact pend)
          rw [split] at next ⊢
          simpa [placed, octetsOf, begun] using next
        | cons other rest =>
          -- the slice passes the unit that waits
          obtain ⟨more, placed_eq⟩ := placed_foldl (splitNal state nal) nals
          refine iff_of_false (fun same => ?_) (by simp [begun, continued])
          rw [← placed_eq, split] at same
          refine octets_apart isVcl (others other (.head _)) (formed nal (by simp))
            (formed other (.head _)) more (octetsOf (rest ++ nal :: upToLastVcl nals)) ?_
          simpa [placed, octetsOf] using same

theorem formed_nalsFrom (turns : Nat) (bytes : Bytes) : ∀ nal ∈ nalsFrom turns bytes,
    nal.startCode = [0, 0, 1] ∨ nal.startCode = [0, 0, 0, 1] := by
  induction turns generalizing bytes with
  | zero => simp [nalsFrom]
  | succ turns ih =>
    unfold nalsFrom
    split
    · simp
    · rename_i size isSize
      rintro nal (_ | ⟨_, isNal⟩)
      · obtain ⟨rest, ⟨rfl, rfl⟩ | ⟨rfl, rfl⟩⟩ := startCodeSize_cases isSize
        · exact .inl rfl
        · exact .inr rfl
      · exact ih _ nal isNal

/-- Everything up to the last slice is returned in order exactly where the slices of a picture
    stand together, and every access unit contains a slice. -/
theorem split_loses_nothing_iff (elementaryStream : Bytes) :
    ((splitH264AnnexBAccessUnits elementaryStream).flatten =
          octetsOf (upToLastVcl (nonEmptyNals elementaryStream)) ∧
        ∀ unit ∈ splitH264AnnexBAccessUnits elementaryStream,
          ContainsVcl (nonEmptyNals elementaryStream) unit) ↔
      slicesTogether false false (nonEmptyNals elementaryStream) = true := by
  have formed : ∀ nal ∈ [] ++ nonEmptyNals elementaryStream, Formed nal := by
    intro nal isNal
    obtain ⟨found, nonEmpty⟩ := List.mem_filter.mp isNal
    exact ⟨formed_nalsFrom _ _ nal found, by simpa using nonEmpty⟩
  have filled : Filled (nonEmptyNals elementaryStream)
      ((nonEmptyNals elementaryStream).foldl splitNal {}) :=
    List.foldlRecOn _ _ ⟨nofun, nofun, fun _ => rfl⟩ fun _ filled _ isIn => filled.splitNal isIn
  obtain ⟨flat, units⟩ := filled.finish
  rw [splitH264AnnexBAccessUnits, flat, and_iff_left units]
  exact @placed_iff {} [] _ formed nofun rfl

/-- Supplemental information between the two slices of a picture. -/
def interruptedPicture : Bytes := [0, 0, 1, 0x65, 0x80, 0, 0, 1, 0x06, 0x05, 0, 0, 1, 0x65, 0x40]

theorem interrupted_picture_loses_unit :
    splitH264AnnexBAccessUnits interruptedPicture = [[0, 0, 1, 0x65, 0x80, 0, 0, 1, 0x65, 0x40]] ∧
      (splitH264AnnexBAccessUnits interruptedPicture).flatten ≠
        octetsOf (upToLastVcl (nonEmptyNals interruptedPicture)) := by
  decide

end

/-! ## Two searches for NAL units

The classifier looks at the octet behind every start code. The splitter goes from unit to unit.
-/

/-- A unit that is not empty starts with a header of a type. -/
def Nal.HasType (type : Nat) (nal : Nal) : Prop :=
  ∃ hdr body, nal.payload = hdr :: body ∧ nalType hdr = type

section

variable {type turns : Nat} {hdr : UInt8} {bytes body startCode : Bytes}

theorem containsNal_header (isStart : startCode = [0, 0, 1] ∨ startCode = [0, 0, 0, 1]) :
    ContainsNal type (startCode ++ hdr :: body) ↔
      nalType hdr = type ∨ ContainsNal type (hdr :: body) := by
  have short : ContainsNal type ([0, 0, 1] ++ hdr :: body) ↔
      nalType hdr = type ∨ ContainsNal type (hdr :: body) := by
    simp only [List.cons_append, List.nil_append]
    rw [containsNal_cons, containsNal_cons, containsNal_cons]
    simp
  cases isStart with
  | inl same => rw [same, short]
  | inr same =>
    rw [same, ← short]
    simp only [List.cons_append, List.nil_append]
    rw [containsNal_cons]
    simp

/-- Only a header of type zero can begin the next start code. -/
theorem containsNal_startCode (isStart : startCode = [0, 0, 1] ∨ startCode = [0, 0, 0, 1])
    (h : 1 ≤ type) :
    ContainsNal type (startCode ++ bytes) ↔
      Nal.HasType type ⟨startCode, (untilStartCode bytes).1⟩ ∨
        ContainsNal type (untilStartCode bytes).2 := by
  cases bytes with
  | nil =>
    have empty : ¬ContainsNal type startCode := by
      rcases isStart with rfl | rfl <;> simp [containsNal_cons, not_containsNal_nil]
    simp [untilStartCode, Nal.HasType, not_containsNal_nil, empty]
  | cons hdr body =>
    rw [containsNal_header isStart, ← containsNal_untilStartCode]
    apply or_congr_left
    unfold Nal.HasType untilStartCode
    split
    · rename_i found
      obtain ⟨size, found⟩ := Option.isSome_iff_exists.mp found
      have zero : hdr = 0 := by
        obtain ⟨rest, ⟨-, same⟩ | ⟨-, same⟩⟩ := startCodeSize_cases found
        all_goals exact (List.cons.inj same).1
      have other : nalType hdr ≠ type := by
        rw [zero]
        exact Nat.ne_of_lt h
      simp [other]
    · simp

/-- The units from a start code on are all that the octets contain. -/
theorem containsNal_nalsFrom (h : 1 ≤ type) (enough : bytes.length ≤ turns)
    (atCode : bytes = [] ∨ (startCodeSize bytes).isSome = true) :
    ContainsNal type bytes ↔ ∃ nal ∈ nalsFrom turns bytes, nal.HasType type := by
  induction turns generalizing bytes with
  | zero =>
    rw [List.eq_nil_of_length_eq_zero (Nat.le_zero.mp enough)]
    simp [nalsFrom, not_containsNal_nil]
  | succ turns ih =>
    cases found : startCodeSize bytes with
    | none =>
      rw [atCode.resolve_right (by simp [found])]
      simp [nalsFrom, startCodeSize, not_containsNal_nil]
    | some size =>
      have split : bytes = bytes.take size ++ bytes.drop size := (List.take_append_drop ..).symm
      have isStart : (bytes.take size = [0, 0, 1] ∨ bytes.take size = [0, 0, 0, 1]) ∧ 0 < size := by
        obtain ⟨rest, ⟨rfl, rfl⟩ | ⟨rfl, rfl⟩⟩ := startCodeSize_cases found <;> simp
      have shorter : (untilStartCode (bytes.drop size)).2.length ≤ turns := by
        have whole := congrArg List.length (untilStartCode_append (bytes.drop size))
        rw [List.length_append, List.length_drop] at whole
        omega
      rw [split, containsNal_startCode isStart.1 h, ← split, ih shorter (untilStartCode_next _)]
      simp [nalsFrom, found, Nal.HasType]

/-- The two searches find units of the same types, type zero apart. -/
theorem nal_scanners_agree (bytes : Bytes) (type : Nat) (h : 1 ≤ type) :
    (h264AnnexBNalTypeMask bytes).getLsbD type = true ↔
      ∃ nal ∈ findNals bytes, nal.payload ≠ [] ∧ nalType (nal.payload.headD 0) = type := by
  have short : (untilStartCode bytes).2.length ≤ bytes.length := by
    conv_rhs => rw [← untilStartCode_append bytes]
    simp
  have typed : ∀ nal : Nal, nal.HasType type ↔
      nal.payload ≠ [] ∧ nalType (nal.payload.headD 0) = type := by
    intro nal
    unfold Nal.HasType
    cases nal.payload <;> simp
  rw [getLsbD_mask, containsNal_untilStartCode,
    containsNal_nalsFrom h short (untilStartCode_next bytes)]
  simp only [typed]
  rfl

theorem idr_found_by_both : (h264AnnexBNalTypeMask parametersAndIdr).getLsbD 5 = true ↔
    ∃ nal ∈ findNals parametersAndIdr, nal.payload ≠ [] ∧ nalType (nal.payload.headD 0) = 5 :=
  nal_scanners_agree parametersAndIdr 5 (by decide)

end

end VisionForge.Video
