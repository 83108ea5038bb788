import Mathlib.Tactic.Linarith

/-! # Coordinates of the virtual desktop

All three maps of an axis scale an offset by a quotient and round. Products are 64-bit words.
-/

namespace VisionForge.ContractCore

def toInt64 (value : Int) : Int := (value + 2 ^ 63) % 2 ^ 64 - 2 ^ 63
def toInt32 (value : Int) : Int := (value + 2 ^ 31) % 2 ^ 32 - 2 ^ 31
def toUint16 (value : Int) : Int := value % 2 ^ 16

def kNormalizedMax : Int := 65535

structure Rectangle where
  left : Int
  top : Int
  width : Int
  height : Int
  deriving DecidableEq

abbrev DesktopBounds := Rectangle
abbrev CaptureRegion := Rectangle
abbrev RenderedViewport := Rectangle

structure DesktopPoint where
  x : Int
  y : Int
  deriving DecidableEq

structure NormalizedPoint where
  x : Int
  y : Int
  deriving DecidableEq

def pointInRect (point : DesktopPoint) (rect : Rectangle) : Bool :=
  if rect.width ≤ 0 ∨ rect.height ≤ 0 then false
  else
    decide (rect.left ≤ point.x ∧ rect.top ≤ point.y ∧
      point.x < rect.left + rect.width ∧ point.y < rect.top + rect.height)

def CaptureRegion.validWithin (region : CaptureRegion) (desktop : DesktopBounds) : Bool :=
  if region.width ≤ 0 ∨ region.height ≤ 0 ∨ desktop.width ≤ 0 ∨ desktop.height ≤ 0 then false
  else
    let right := region.left + region.width
    let bottom := region.top + region.height
    decide (desktop.left ≤ region.left ∧ desktop.top ≤ region.top ∧
      right ≤ desktop.left + desktop.width ∧ bottom ≤ desktop.top + desktop.height ∧
      region.left < right ∧ region.top < bottom)

/-- An offset among the pixels up to a divisor, as an offset among those up to a scale. -/
def scaled (offset scale divisor : Int) : Int :=
  (toInt64 (offset * scale + divisor.tdiv 2)).tdiv divisor

def normalizeAxis (value origin length : Int) : Int :=
  if length ≤ 1 then 0 else toUint16 (scaled (value - origin) kNormalizedMax (length - 1))

def denormalizeAxis (value origin length : Int) : Int :=
  if length ≤ 1 then origin else toInt32 (origin + scaled value (length - 1) kNormalizedMax)

def mapAxis (value viewOrigin viewLength captureOrigin captureLength : Int) : Int :=
  if viewLength ≤ 1 ∨ captureLength ≤ 1 then captureOrigin
  else
    toInt32 (captureOrigin + scaled (value - viewOrigin) (captureLength - 1) (viewLength - 1))

/-- A mapper is constructed for a desktop that has pixels. -/
structure VirtualDesktopMapper where
  desktop : DesktopBounds
  width_pos : 0 < desktop.width
  height_pos : 0 < desktop.height

namespace VirtualDesktopMapper

variable (mapper : VirtualDesktopMapper)

def normalize (point : DesktopPoint) : Option NormalizedPoint :=
  if pointInRect point mapper.desktop then
    some ⟨normalizeAxis point.x mapper.desktop.left mapper.desktop.width,
      normalizeAxis point.y mapper.desktop.top mapper.desktop.height⟩
  else none

def denormalize (point : NormalizedPoint) : DesktopPoint where
  x := denormalizeAxis point.x mapper.desktop.left mapper.desktop.width
  y := denormalizeAxis point.y mapper.desktop.top mapper.desktop.height

/-- The point of the captured region that a point of the rendered video shows. -/
def shownPoint (point : DesktopPoint) (renderedVideo : RenderedViewport)
    (captureRegion : CaptureRegion) : DesktopPoint where
  x := mapAxis point.x renderedVideo.left renderedVideo.width captureRegion.left captureRegion.width
  y := mapAxis point.y renderedVideo.top renderedVideo.height captureRegion.top captureRegion.height

def viewportToDesktop (point : DesktopPoint) (renderedVideo : RenderedViewport)
    (captureRegion : CaptureRegion) : Option DesktopPoint :=
  if !captureRegion.validWithin mapper.desktop || !pointInRect point renderedVideo then none
  else
    let mapped := shownPoint point renderedVideo captureRegion
    if pointInRect mapped captureRegion then some mapped else none

end VirtualDesktopMapper

section

variable {offset other scale divisor : Int}

/-- An offset and its scale are 32-bit numbers, so that their product fits. -/
structure Scales (offset scale divisor : Int) : Prop where
  offset_nonneg : 0 ≤ offset
  offset_le : offset ≤ divisor
  divisor_pos : 0 < divisor
  divisor_lt : divisor < 2 ^ 31
  scale_nonneg : 0 ≤ scale
  scale_lt : scale < 2 ^ 31

theorem scaled_eq (scales : Scales offset scale divisor) :
    scaled offset scale divisor = (offset * scale + divisor / 2) / divisor := by
  obtain ⟨nonneg, le, pos, lt, scaleNonneg, scaleLt⟩ := scales
  have product : 0 ≤ offset * scale := Int.mul_nonneg nonneg scaleNonneg
  have small : offset * scale ≤ 2 ^ 31 * 2 ^ 31 :=
    Int.mul_le_mul (by omega) (by omega) scaleNonneg (by omega)
  have half : divisor.tdiv 2 = divisor / 2 := Int.tdiv_eq_ediv_of_nonneg pos.le
  have fits : toInt64 (offset * scale + divisor / 2) = offset * scale + divisor / 2 := by
    unfold toInt64
    omega
  rw [scaled, half, fits, Int.tdiv_eq_ediv_of_nonneg (by omega)]

theorem scaled_bounds (scales : Scales offset scale divisor) :
    divisor * scaled offset scale divisor ≤ offset * scale + divisor / 2 ∧
      offset * scale + divisor / 2 < divisor * scaled offset scale divisor + divisor := by
  rw [scaled_eq scales]
  exact ⟨Int.mul_ediv_self_le scales.divisor_pos.ne', Int.lt_mul_ediv_self_add scales.divisor_pos⟩

theorem scaled_mono (scales : Scales offset scale divisor) (scales' : Scales other scale divisor)
    (le : offset ≤ other) : scaled offset scale divisor ≤ scaled other scale divisor := by
  rw [scaled_eq scales, scaled_eq scales']
  apply Int.ediv_le_ediv scales.divisor_pos
  have product := Int.mul_le_mul_of_nonneg_right le scales.scale_nonneg
  omega

theorem scaled_zero (scales : Scales 0 scale divisor) : scaled 0 scale divisor = 0 := by
  have pos := scales.divisor_pos
  rw [scaled_eq scales, Int.zero_mul, Int.zero_add, Int.ediv_eq_zero_of_lt (by omega) (by omega)]

theorem scaled_whole (scales : Scales divisor scale divisor) :
    scaled divisor scale divisor = scale := by
  have pos := scales.divisor_pos
  rw [scaled_eq scales, Int.mul_comm, Int.mul_add_ediv_right _ _ pos.ne',
    Int.ediv_eq_zero_of_lt (by omega) (by omega), Int.add_zero]

theorem scaled_range (scales : Scales offset scale divisor) :
    0 ≤ scaled offset scale divisor ∧ scaled offset scale divisor ≤ scale := by
  have first : Scales 0 scale divisor := { scales with
    offset_nonneg := le_rfl, offset_le := scales.divisor_pos.le }
  have last : Scales divisor scale divisor := { scales with
    offset_nonneg := scales.divisor_pos.le, offset_le := le_rfl }
  have low := scaled_mono first scales scales.offset_nonneg
  have high := scaled_mono scales last scales.offset_le
  rw [scaled_zero first] at low
  rw [scaled_whole last] at high
  exact ⟨low, high⟩

theorem scaled_back (scales : Scales offset kNormalizedMax divisor)
    (few : divisor ≤ kNormalizedMax) :
    scaled (scaled offset kNormalizedMax divisor) divisor kNormalizedMax = offset := by
  obtain ⟨low, high⟩ := scaled_range scales
  have pos := scales.divisor_pos
  have again : Scales (scaled offset kNormalizedMax divisor) divisor kNormalizedMax :=
    ⟨low, high, by decide, by decide, pos.le, scales.divisor_lt⟩
  obtain ⟨below, above⟩ := scaled_bounds scales
  rw [Int.mul_comm divisor] at below above
  rw [scaled_eq again, Int.ediv_eq_iff_of_pos (by decide)]
  unfold kNormalizedMax at *
  omega

structure Axis (origin length : Int) : Prop where
  origin_ge : -2 ^ 31 ≤ origin
  length_pos : 0 < length
  length_lt : length < 2 ^ 31
  edge_lt : origin + length < 2 ^ 31

abbrev Among (value origin length : Int) : Prop := origin ≤ value ∧ value < origin + length

variable {value value' origin length captureOrigin captureLength : Int}

theorem scales_of_among (among : Among value origin length) (long : ¬ length ≤ 1)
    (lengthLt : length < 2 ^ 31) (scaleNonneg : 0 ≤ scale) (scaleLt : scale < 2 ^ 31) :
    Scales (value - origin) scale (length - 1) :=
  ⟨by omega, by omega, by omega, by omega, scaleNonneg, scaleLt⟩

theorem toUint16_scaled (scales : Scales offset kNormalizedMax divisor) :
    toUint16 (scaled offset kNormalizedMax divisor) = scaled offset kNormalizedMax divisor := by
  have range := scaled_range scales
  unfold toUint16 kNormalizedMax at *
  omega

theorem normalizeAxis_eq (axis : Axis origin length) (among : Among value origin length) :
    Among (normalizeAxis value origin length) 0 65536 ∧
      (1 < length → normalizeAxis value origin length =
        scaled (value - origin) kNormalizedMax (length - 1) ∧
        Scales (value - origin) kNormalizedMax (length - 1)) := by
  unfold normalizeAxis
  split
  · exact ⟨by omega, by omega⟩
  · next long =>
      have scales := scales_of_among among long axis.length_lt (by decide : 0 ≤ kNormalizedMax)
        (by decide)
      have range := scaled_range scales
      rw [toUint16_scaled scales]
      unfold kNormalizedMax at *
      exact ⟨by omega, fun _ => ⟨rfl, scales⟩⟩

theorem normalizeAxis_mono (axis : Axis origin length) (among : Among value origin length)
    (among' : Among value' origin length) (le : value ≤ value') :
    normalizeAxis value origin length ≤ normalizeAxis value' origin length := by
  by_cases long : 1 < length
  · obtain ⟨same, scales⟩ := (normalizeAxis_eq axis among).2 long
    obtain ⟨same', scales'⟩ := (normalizeAxis_eq axis among').2 long
    rw [same, same']
    exact scaled_mono scales scales' (by omega)
  · simp [normalizeAxis, Int.not_lt.mp long]

theorem normalizeAxis_ends (axis : Axis origin length) (long : 1 < length) :
    normalizeAxis origin origin length = 0 ∧
      normalizeAxis (origin + length - 1) origin length = 65535 := by
  obtain ⟨first, scales⟩ := (normalizeAxis_eq axis (⟨le_rfl, by omega⟩ : Among origin _ _)).2 long
  obtain ⟨last, scales'⟩ := (normalizeAxis_eq axis
    (⟨by omega, by omega⟩ : Among (origin + length - 1) origin length)).2 long
  rw [Int.sub_self] at first scales
  have offset : origin + length - 1 - origin = length - 1 := by omega
  rw [offset] at last scales'
  rw [first, last, scaled_zero scales, scaled_whole scales']
  exact ⟨rfl, rfl⟩

theorem denormalizeAxis_eq (axis : Axis origin length) (among : Among value 0 65536) :
    Among (denormalizeAxis value origin length) origin length ∧
      (1 < length → denormalizeAxis value origin length =
        origin + scaled value (length - 1) kNormalizedMax) := by
  obtain ⟨originGe, lengthPos, lengthLt, edgeLt⟩ := axis
  unfold denormalizeAxis
  split
  · exact ⟨by omega, by omega⟩
  · next long =>
      have scales : Scales value (length - 1) kNormalizedMax := by
        unfold kNormalizedMax
        exact ⟨by omega, by omega, by omega, by omega, by omega, by omega⟩
      have range := scaled_range scales
      unfold toInt32
      exact ⟨by omega, by omega⟩

theorem denormalizeAxis_normalizeAxis (axis : Axis origin length)
    (among : Among value origin length) (few : length ≤ 65536) :
    denormalizeAxis (normalizeAxis value origin length) origin length = value := by
  obtain ⟨range, eq⟩ := normalizeAxis_eq axis among
  obtain ⟨inside, back⟩ := denormalizeAxis_eq axis range
  by_cases long : 1 < length
  · obtain ⟨same, scales⟩ := eq long
    rw [back long, same, scaled_back scales (by unfold kNormalizedMax; omega)]
    omega
  · omega

/-- The map of an axis stays within the captured pixels, in order, and keeps the ends. -/
theorem mapAxis_eq (axis : Axis captureOrigin captureLength) (lengthLt : length < 2 ^ 31)
    (among : Among value origin length) :
    Among (mapAxis value origin length captureOrigin captureLength) captureOrigin captureLength ∧
      (1 < length → 1 < captureLength →
        mapAxis value origin length captureOrigin captureLength =
          captureOrigin + scaled (value - origin) (captureLength - 1) (length - 1) ∧
        Scales (value - origin) (captureLength - 1) (length - 1)) := by
  obtain ⟨originGe, lengthPos, lengthLt, edgeLt⟩ := axis
  unfold mapAxis
  split
  · exact ⟨by omega, by omega⟩
  · next long =>
      have scales : Scales (value - origin) (captureLength - 1) (length - 1) :=
        ⟨by omega, by omega, by omega, by omega, by omega, by omega⟩
      have range := scaled_range scales
      unfold toInt32
      exact ⟨by omega, fun _ _ => ⟨by omega, scales⟩⟩

theorem mapAxis_mono (axis : Axis captureOrigin captureLength) (lengthLt : length < 2 ^ 31)
    (among : Among value origin length) (among' : Among value' origin length)
    (le : value ≤ value') :
    mapAxis value origin length captureOrigin captureLength ≤
      mapAxis value' origin length captureOrigin captureLength := by
  by_cases long : 1 < length ∧ 1 < captureLength
  · obtain ⟨same, scales⟩ := (mapAxis_eq axis lengthLt among).2 long.1 long.2
    obtain ⟨same', scales'⟩ := (mapAxis_eq axis lengthLt among').2 long.1 long.2
    have mono := scaled_mono scales scales' (by omega)
    omega
  · have short : length ≤ 1 ∨ captureLength ≤ 1 := by omega
    simp [mapAxis, short]

theorem mapAxis_ends (axis : Axis captureOrigin captureLength) (lengthLt : length < 2 ^ 31)
    (long : 1 < length) (captureLong : 1 < captureLength) :
    mapAxis origin origin length captureOrigin captureLength = captureOrigin ∧
      mapAxis (origin + length - 1) origin length captureOrigin captureLength =
        captureOrigin + captureLength - 1 := by
  obtain ⟨first, scales⟩ := (mapAxis_eq axis lengthLt (⟨le_rfl, by omega⟩ : Among origin _ _)).2
    long captureLong
  obtain ⟨last, scales'⟩ := (mapAxis_eq axis lengthLt
    (⟨by omega, by omega⟩ : Among (origin + length - 1) origin length)).2 long captureLong
  rw [Int.sub_self] at first scales
  have offset : origin + length - 1 - origin = length - 1 := by omega
  rw [offset] at last scales'
  rw [first, last, scaled_zero scales, scaled_whole scales']
  omega

end

structure Rectangle.Placed (rect : Rectangle) : Prop where
  horizontal : Axis rect.left rect.width
  vertical : Axis rect.top rect.height

theorem pointInRect_iff {point : DesktopPoint} {rect : Rectangle} :
    pointInRect point rect = true ↔
      Among point.x rect.left rect.width ∧ Among point.y rect.top rect.height := by
  unfold pointInRect
  split
  · simp only [Bool.false_eq_true, false_iff]
    omega
  · simp only [decide_eq_true_eq]
    omega

theorem Rectangle.Placed.within {desktop : Rectangle} {region : CaptureRegion} (placed : desktop.Placed)
    (valid : region.validWithin desktop = true) : region.Placed := by
  obtain ⟨⟨_, _, _, _⟩, ⟨_, _, _, _⟩⟩ := placed
  unfold CaptureRegion.validWithin at valid
  split at valid
  · cases valid
  · simp only [decide_eq_true_eq] at valid
    constructor
    · constructor <;> omega
    · constructor <;> omega

namespace VirtualDesktopMapper

/-- The pixels of the desktop and their normalized points. -/
structure Normalizes (mapper : VirtualDesktopMapper) : Prop where
  defined : ∀ point, pointInRect point mapper.desktop = true →
    ∃ normalized, mapper.normalize point = some normalized
  monotone : ∀ point normalized point' normalized', mapper.normalize point = some normalized →
    mapper.normalize point' = some normalized' →
    (point.x ≤ point'.x → normalized.x ≤ normalized'.x) ∧
      (point.y ≤ point'.y → normalized.y ≤ normalized'.y)
  ends : ∀ point normalized, mapper.normalize point = some normalized →
    (1 < mapper.desktop.width → (point.x = mapper.desktop.left → normalized.x = 0) ∧
      (point.x = mapper.desktop.left + mapper.desktop.width - 1 → normalized.x = 65535)) ∧
    (1 < mapper.desktop.height → (point.y = mapper.desktop.top → normalized.y = 0) ∧
      (point.y = mapper.desktop.top + mapper.desktop.height - 1 → normalized.y = 65535))
  back : mapper.desktop.width ≤ 65536 → mapper.desktop.height ≤ 65536 →
    ∀ point, pointInRect point mapper.desktop = true →
      (mapper.normalize point).map mapper.denormalize = some point
  inside : ∀ normalized : NormalizedPoint, Among normalized.x 0 65536 →
    Among normalized.y 0 65536 → pointInRect (mapper.denormalize normalized) mapper.desktop = true

/-- The points of the rendered video and those of the captured region. -/
structure Shows (mapper : VirtualDesktopMapper) (video : RenderedViewport)
    (region : CaptureRegion) : Prop where
  inside : ∀ point, pointInRect point video = true →
    ∃ shown, mapper.viewportToDesktop point video region = some shown ∧
      pointInRect shown region = true
  monotone : ∀ point shown point' shown', mapper.viewportToDesktop point video region = some shown →
    mapper.viewportToDesktop point' video region = some shown' →
    (point.x ≤ point'.x → shown.x ≤ shown'.x) ∧ (point.y ≤ point'.y → shown.y ≤ shown'.y)
  corners : ∀ point shown, mapper.viewportToDesktop point video region = some shown →
    (1 < video.width → 1 < region.width → (point.x = video.left → shown.x = region.left) ∧
      (point.x = video.left + video.width - 1 → shown.x = region.left + region.width - 1)) ∧
    (1 < video.height → 1 < region.height → (point.y = video.top → shown.y = region.top) ∧
      (point.y = video.top + video.height - 1 → shown.y = region.top + region.height - 1))

variable {mapper : VirtualDesktopMapper} {point : DesktopPoint} {normalized : NormalizedPoint}
  {video : RenderedViewport} {region : CaptureRegion} {shown : DesktopPoint}

theorem normalize_eq_some : mapper.normalize point = some normalized ↔
    (Among point.x mapper.desktop.left mapper.desktop.width ∧
      Among point.y mapper.desktop.top mapper.desktop.height) ∧
    normalized = ⟨normalizeAxis point.x mapper.desktop.left mapper.desktop.width,
      normalizeAxis point.y mapper.desktop.top mapper.desktop.height⟩ := by
  rw [normalize, Option.ite_none_right_eq_some, pointInRect_iff, Option.some.injEq, eq_comm]

theorem normalizes (placed : mapper.desktop.Placed) : mapper.Normalizes where
  defined := by
    intro point inside
    exact ⟨_, if_pos inside⟩
  monotone := by
    intro point normalized point' normalized' isNormalized isNormalized'
    obtain ⟨⟨x, y⟩, rfl⟩ := normalize_eq_some.mp isNormalized
    obtain ⟨⟨x', y'⟩, rfl⟩ := normalize_eq_some.mp isNormalized'
    exact ⟨normalizeAxis_mono placed.horizontal x x', normalizeAxis_mono placed.vertical y y'⟩
  ends := by
    intro point normalized isNormalized
    obtain ⟨-, rfl⟩ := normalize_eq_some.mp isNormalized
    constructor
    · intro long
      obtain ⟨first, last⟩ := normalizeAxis_ends placed.horizontal long
      exact ⟨fun isFirst => by simp only [isFirst, first], fun isLast => by simp only [isLast, last]⟩
    · intro long
      obtain ⟨first, last⟩ := normalizeAxis_ends placed.vertical long
      exact ⟨fun isFirst => by simp only [isFirst, first], fun isLast => by simp only [isLast, last]⟩
  back := by
    intro narrow low point inside
    obtain ⟨x, y⟩ := pointInRect_iff.mp inside
    rw [normalize, if_pos inside, Option.map_some, denormalize,
      denormalizeAxis_normalizeAxis placed.horizontal x narrow,
      denormalizeAxis_normalizeAxis placed.vertical y low]
  inside := by
    intro normalized x y
    exact pointInRect_iff.mpr ⟨(denormalizeAxis_eq placed.horizontal x).1,
      (denormalizeAxis_eq placed.vertical y).1⟩

theorem viewportToDesktop_eq_some (mapped : mapper.viewportToDesktop point video region = some shown) :
    (Among point.x video.left video.width ∧ Among point.y video.top video.height) ∧
      shown = shownPoint point video region := by
  unfold viewportToDesktop at mapped
  split at mapped
  · cases mapped
  · next allowed =>
      simp only [Bool.or_eq_true, Bool.not_eq_true', not_or, Bool.not_eq_false] at allowed
      rw [Option.ite_none_right_eq_some] at mapped
      exact ⟨pointInRect_iff.mp allowed.2, (Option.some.inj mapped.2).symm⟩

theorem shows (placed : mapper.desktop.Placed) (valid : region.validWithin mapper.desktop = true)
    (width : video.width < 2 ^ 31) (height : video.height < 2 ^ 31) : mapper.Shows video region where
  inside := by
    obtain ⟨horizontal, vertical⟩ := placed.within valid
    intro point inside
    obtain ⟨x, y⟩ := pointInRect_iff.mp inside
    have shown : pointInRect (shownPoint point video region) region = true :=
      pointInRect_iff.mpr ⟨(mapAxis_eq horizontal width x).1, (mapAxis_eq vertical height y).1⟩
    exact ⟨_, by simp [viewportToDesktop, valid, inside, shown], shown⟩
  monotone := by
    obtain ⟨horizontal, vertical⟩ := placed.within valid
    intro point shown point' shown' mapped mapped'
    obtain ⟨⟨x, y⟩, rfl⟩ := viewportToDesktop_eq_some mapped
    obtain ⟨⟨x', y'⟩, rfl⟩ := viewportToDesktop_eq_some mapped'
    exact ⟨mapAxis_mono horizontal width x x', mapAxis_mono vertical height y y'⟩
  corners := by
    obtain ⟨horizontal, vertical⟩ := placed.within valid
    intro point shown mapped
    obtain ⟨-, rfl⟩ := viewportToDesktop_eq_some mapped
    constructor
    · intro long captureLong
      obtain ⟨first, last⟩ := @mapAxis_ends video.left _ _ _ horizontal width long captureLong
      exact ⟨fun isFirst => by simp only [shownPoint, isFirst, first],
        fun isLast => by simp only [shownPoint, isLast, last]⟩
    · intro long captureLong
      obtain ⟨first, last⟩ := @mapAxis_ends video.top _ _ _ vertical height long captureLong
      exact ⟨fun isFirst => by simp only [shownPoint, isFirst, first],
        fun isLast => by simp only [shownPoint, isLast, last]⟩

/-- The pixels of a desktop are normalized in order and come back up to 65536 to an axis, and what
is shown of a region is a point of the region. -/
theorem mapping_is_exact (mapper : VirtualDesktopMapper) (placed : mapper.desktop.Placed) :
    mapper.Normalizes ∧
      ∀ (video : RenderedViewport) (region : CaptureRegion), video.width < 2 ^ 31 →
        video.height < 2 ^ 31 → region.validWithin mapper.desktop = true →
        mapper.Shows video region :=
  ⟨normalizes placed, fun _ _ width height valid => shows placed valid width height⟩

/-- A desktop of two screens, the left one at negative coordinates. -/
def twoScreens : VirtualDesktopMapper where
  desktop := ⟨-1920, -1080, 5760, 2160⟩
  width_pos := by decide
  height_pos := by decide

theorem twoScreens_mapped :
    (twoScreens.normalize ⟨0, 0⟩).map twoScreens.denormalize = some ⟨0, 0⟩ ∧
      twoScreens.Shows ⟨0, 0, 1280, 720⟩ ⟨0, 0, 1920, 1080⟩ := by
  obtain ⟨normalizes, shows⟩ := mapping_is_exact twoScreens
    ⟨⟨by decide, by decide, by decide, by decide⟩, ⟨by decide, by decide, by decide, by decide⟩⟩
  exact ⟨normalizes.back (by decide) (by decide) ⟨0, 0⟩ (by decide),
    shows _ _ (by decide) (by decide) (by decide)⟩

end VirtualDesktopMapper

end VisionForge.ContractCore
