import Mathlib
import Alembic.Image.Background
/-! # Fitting a picture and clearing its background -/

namespace Alembic.Image

/-! ## Straight colour stored and read back -/

/-- The four bytes a straight colour is stored as. -/
def Color.channels (color : Color) : List UInt8 := [color.r, color.g, color.b, color.a]

/-- The bytes of a raster built from colours are the colours' channels, one after another. -/
theorem ofColors_bytes (pixels : List Color) (start : ByteArray) :
    (pixels.foldl (fun acc c => ((acc.push c.r).push c.g |>.push c.b).push c.a) start).data.toList =
      start.data.toList ++ pixels.flatMap Color.channels := by
  induction pixels generalizing start with
  | nil => simp
  | cons color rest ih =>
    rw [List.foldl_cons, ih]
    simp [Color.channels]

/-- In a list of blocks of one length, laid end to end, a position inside a block is found in
that block. -/
theorem getElem?_flatMap_blocks {α β : Type} (items : List α) (block : α → List β) {size : Nat}
    (sized : ∀ item, (block item).length = size) {index : Nat} (inside : index < items.length)
    {offset : Nat} (within : offset < size) :
    (items.flatMap block)[size * index + offset]? = (block items[index])[offset]? := by
  induction items generalizing index with
  | nil => simp at inside
  | cons item rest ih =>
    rw [List.flatMap_cons]
    cases index with
    | zero => simp [List.getElem?_append_left ((sized item).symm ▸ within)]
    | succ index =>
      have skipped : size * (index + 1) + offset = (block item).length + (size * index + offset) := by
        rw [sized, Nat.mul_succ]
        omega
      rw [skipped, List.getElem?_append_right (Nat.le_add_right _ _), Nat.add_sub_cancel_left]
      exact ih (by simpa using inside)

/-- A byte of an array, read as `byteAt` does, from the array's list. -/
theorem byteAt_eq (bytes : ByteArray) (offset : Nat) :
    byteAt bytes offset = (bytes.data.toList[offset]?.map UInt8.toNat).getD 0 := by
  unfold byteAt
  split
  · next inside =>
    have inList : offset < bytes.data.toList.length := by simpa using inside
    rw [List.getElem?_eq_getElem inList]
    rfl
  · next outside =>
    have pastList : bytes.data.toList.length ≤ offset := by simpa using outside
    rw [List.getElem?_eq_none pastList]
    rfl

theorem toUInt8_byteAt_channel {bytes : ByteArray} {offset : Nat} {byte : UInt8}
    (stored : bytes.data.toList[offset]? = some byte) : (byteAt bytes offset).toUInt8 = byte := by
  rw [byteAt_eq, stored]
  exact UInt8.ofNat_toNat

/-- A colour is read back from the four bytes it was stored as. -/
theorem colorAt_channels {bytes : ByteArray} {offset : Nat} (color : Color)
    (stored : ∀ channel < 4, bytes.data.toList[offset + channel]? = color.channels[channel]?) :
    Raster.colorAt bytes offset = color := by
  obtain ⟨r, g, b, a⟩ := color
  have first := stored 0 (by decide)
  rw [Nat.add_zero] at first
  unfold Raster.colorAt
  rw [toUInt8_byteAt_channel first, toUInt8_byteAt_channel (stored 1 (by decide)),
    toUInt8_byteAt_channel (stored 2 (by decide)), toUInt8_byteAt_channel (stored 3 (by decide))]

namespace Raster

/-- A raster built from colours, row by row, holds each colour at its place. -/
theorem straightAt_ofColors {minX minY : Int} {width height : Nat} {pixels : List Color}
    (counted : pixels.length = width * height) {x y : Nat} (column : x < width) (row : y < height) :
    pixels[y * width + x]? = some ((ofColors minX minY width height pixels).straightAt x y) := by
  have inside : y * width + x < pixels.length := by rw [counted]; nlinarith
  rw [List.getElem?_eq_getElem inside, Option.some_inj]
  symm
  apply colorAt_channels
  intro channel below
  rw [ofColors_bytes, show ByteArray.empty.data.toList = [] from rfl, List.nil_append,
    show y * (4 * width) + 4 * x + channel = 4 * (y * width + x) + channel by ring,
    getElem?_flatMap_blocks pixels Color.channels (fun _ => rfl) inside below]

theorem length_colors (raster : Raster) : raster.colors.length = raster.width * raster.height := by
  simp [colors, List.length_flatMap, Nat.mul_comm]

/-- The colours of a raster, row by row, hold each pixel's straight colour at its place. -/
theorem getElem?_colors (raster : Raster) {x y : Nat} (column : x < raster.width) (row : y < raster.height) :
    raster.colors[y * raster.width + x]? = some (raster.straightAt x y) := by
  have found := getElem?_flatMap_blocks (List.range raster.height)
    (fun y => (List.range raster.width).map fun x => raster.straightAt x y) (fun _ => by simp)
    (by simpa using row) column
  rw [Nat.mul_comm] at found
  simpa [colors, column] using found

/-- The straight colour of the pixel at a point of the plane, counted from the raster's origin. -/
def pixel (raster : Raster) (x y : Int) : Color :=
  raster.straightAt (x - raster.minX).toNat (y - raster.minY).toNat

/-- Whether a point of the plane lies in a raster. -/
def Contains (raster : Raster) (x y : Int) : Prop :=
  raster.minX ≤ x ∧ x < raster.minX + raster.width ∧ raster.minY ≤ y ∧ y < raster.minY + raster.height

instance (raster : Raster) (x y : Int) : Decidable (raster.Contains x y) :=
  inferInstanceAs (Decidable (_ ∧ _ ∧ _ ∧ _))

end Raster

/-! ## Fitting -/

/-- The size a raster is scaled to stays within the limit, and within the source when no side
is empty. -/
structure FittedWithin (width height limit scaledWidth scaledHeight : Nat) : Prop where
  width_between : 1 ≤ scaledWidth ∧ scaledWidth ≤ limit
  height_between : 1 ≤ scaledHeight ∧ scaledHeight ≤ limit
  longer_at_limit : max scaledWidth scaledHeight = limit
  no_side_grown : 0 < width → 0 < height → scaledWidth ≤ width ∧ scaledHeight ≤ height
  proportion_kept : 0 < width → 0 < height →
    |(scaledWidth * height : Int) - scaledHeight * width| < max width height

/-- The share of the limit a shorter side gets, rounded down and at least one pixel. -/
theorem share_bounds {side longer limit : Nat} (shorter : side ≤ longer) (below : limit < longer)
    (positive : 0 < limit) :
    1 ≤ max 1 (side * limit / longer) ∧ max 1 (side * limit / longer) ≤ limit ∧
      (0 < side → max 1 (side * limit / longer) ≤ side ∧
        |(limit * side : Int) - max 1 (side * limit / longer) * longer| < longer) := by
  set share := side * limit / longer with shareEq
  have atMostLimit : share ≤ limit := Nat.div_le_of_le_mul (Nat.mul_le_mul_right limit shorter)
  have atMostSide : share ≤ side := Nat.div_le_of_le_mul (by rw [Nat.mul_comm longer side]; exact Nat.mul_le_mul_left side below.le)
  have split : longer * share + side * limit % longer = side * limit := Nat.div_add_mod _ _
  have remainder : side * limit % longer < longer := Nat.mod_lt _ (by omega)
  refine ⟨le_max_left _ _, max_le positive atMostLimit, fun filled => ⟨max_le filled atMostSide, ?_⟩⟩
  generalize side * limit % longer = left at split remainder
  have splitInt : (longer * share + left : Int) = side * limit := by exact_mod_cast split
  rcases Nat.eq_zero_or_pos share with nothing | some
  · -- the share rounds down to nothing and becomes one pixel
    have scaled : max 1 share = 1 := by omega
    have area : (1 : Int) ≤ side * limit := by exact_mod_cast Nat.one_le_iff_ne_zero.mpr (by positivity)
    rw [scaled, abs_lt]
    rw [nothing, Nat.cast_zero, mul_zero, zero_add] at splitInt
    constructor <;> push_cast <;> linarith
  · -- the share is the exact one less the remainder
    have scaled : max 1 share = share := by omega
    rw [scaled, abs_lt]
    constructor <;> linarith

/-- A raster is kept as it is exactly when there is no limit or both sides are within it. -/
theorem fittedSize_eq_none_iff (width height : Nat) (maxSize : Int) :
    fittedSize width height maxSize = none ↔ maxSize ≤ 0 ∨ (width ≤ maxSize ∧ height ≤ maxSize) := by
  unfold fittedSize
  split_ifs with kept wide <;> simp [kept]

/-- Past the limit, the longer side is scaled to the limit and the other to its share. -/
theorem fittedSize_of_not_fits {width height : Nat} {maxSize : Int}
    (exceeds : ¬(maxSize ≤ 0 ∨ (width ≤ maxSize ∧ height ≤ maxSize))) (area : width * height < 2 ^ 63) :
    0 < maxSize ∧
    if height ≤ width then
      maxSize.toNat < width ∧ height * maxSize.toNat < 2 ^ 63 ∧
        fittedSize width height maxSize = some (maxSize.toNat, max 1 (height * maxSize.toNat / width))
    else
      maxSize.toNat < height ∧ width * maxSize.toNat < 2 ^ 63 ∧
        fittedSize width height maxSize = some (max 1 (width * maxSize.toNat / height), maxSize.toNat) := by
  have positive : 0 < maxSize := by omega
  refine ⟨positive, ?_⟩
  unfold fittedSize
  rw [if_neg exceeds]
  split_ifs with wide
  · have longer : maxSize.toNat < width := by omega
    exact ⟨longer, lt_of_le_of_lt (by rw [Nat.mul_comm]; exact Nat.mul_le_mul_right height longer.le) area, rfl⟩
  · have longer : maxSize.toNat < height := by omega
    exact ⟨longer, lt_of_le_of_lt (Nat.mul_le_mul_left width longer.le) area, rfl⟩

/-- A scaled raster has its origin at the origin of the plane and the size asked for. -/
theorem scale_bounds (raster : Raster) (width height : Nat) :
    (raster.scale width height).minX = 0 ∧ (raster.scale width height).minY = 0 ∧
      (raster.scale width height).width = width ∧ (raster.scale width height).height = height := by
  unfold Raster.scale
  split <;> exact ⟨rfl, rfl, rfl, rfl⟩

/-- A fitting read with its sides exchanged is a fitting of the exchanged source. -/
theorem FittedWithin.swap {width height limit scaledWidth scaledHeight : Nat}
    (fitted : FittedWithin width height limit scaledWidth scaledHeight) :
    FittedWithin height width limit scaledHeight scaledWidth where
  width_between := fitted.height_between
  height_between := fitted.width_between
  longer_at_limit := by rw [max_comm]; exact fitted.longer_at_limit
  no_side_grown := fun tall wide => (fitted.no_side_grown wide tall).symm
  proportion_kept := fun tall wide => by
    rw [abs_sub_comm, max_comm]
    exact fitted.proportion_kept wide tall

/-- Scaling the longer side down to the limit and the other to its share of it is a fitting. -/
theorem fittedWithin_share {width height limit : Nat} (shorter : height ≤ width) (longer : limit < width)
    (positive : 0 < limit) : FittedWithin width height limit limit (max 1 (height * limit / width)) := by
  obtain ⟨low, high, bounded⟩ := share_bounds shorter longer positive
  refine ⟨⟨positive, le_rfl⟩, ⟨low, high⟩, max_eq_left high, fun _ filled => ⟨longer.le, (bounded filled).1⟩,
    fun _ filled => ?_⟩
  exact lt_of_lt_of_le (bounded filled).2 (by exact_mod_cast le_max_left width height)

/-- The size a raster is scaled to stays within the limit and, from a source with no empty side,
within the source. -/
theorem fittedSize_within {width height scaledWidth scaledHeight : Nat} {maxSize : Int}
    (area : width * height < 2 ^ 63)
    (scaled : fittedSize width height maxSize = some (scaledWidth, scaledHeight)) :
    FittedWithin width height maxSize.toNat scaledWidth scaledHeight := by
  have exceeds : ¬(maxSize ≤ 0 ∨ (width ≤ maxSize ∧ height ≤ maxSize)) := by
    rw [← fittedSize_eq_none_iff, scaled]
    simp
  obtain ⟨positive, sized⟩ := fittedSize_of_not_fits exceeds area
  have limit : 0 < maxSize.toNat := by omega
  split_ifs at sized with wide
  · obtain ⟨longer, -, computed⟩ := sized
    rw [computed] at scaled
    obtain ⟨rfl, rfl⟩ := Prod.mk.inj (Option.some.inj scaled)
    exact fittedWithin_share wide longer limit
  · -- a tall source is a wide one with its sides exchanged
    obtain ⟨longer, -, computed⟩ := sized
    rw [computed] at scaled
    obtain ⟨rfl, rfl⟩ := Prod.mk.inj (Option.some.inj scaled)
    exact (fittedWithin_share (by omega) longer limit).swap

/-- Fitting keeps a raster within the limit and otherwise scales it to the limit on its longer
side, without overflow or division by zero. -/
theorem fit_scales_within (raster : Raster) (maxSize : Int)
    (area : raster.width * raster.height < 2 ^ 63) :
    (maxSize ≤ 0 ∨ (raster.width ≤ maxSize ∧ raster.height ≤ maxSize) → fit raster maxSize = (raster, false)) ∧
    (¬(maxSize ≤ 0 ∨ (raster.width ≤ maxSize ∧ raster.height ≤ maxSize)) →
      ∃ width height, fit raster maxSize = (raster.scale width height, true) ∧
        (raster.scale width height).minX = 0 ∧ (raster.scale width height).minY = 0 ∧
        (raster.scale width height).width = width ∧ (raster.scale width height).height = height ∧
        (if raster.height ≤ raster.width then
          0 < raster.width ∧ raster.height * maxSize.toNat < 2 ^ 63 ∧
            width = maxSize.toNat ∧ height = max 1 (raster.height * maxSize.toNat / raster.width)
        else
          0 < raster.height ∧ raster.width * maxSize.toNat < 2 ^ 63 ∧
            width = max 1 (raster.width * maxSize.toNat / raster.height) ∧ height = maxSize.toNat) ∧
        FittedWithin raster.width raster.height maxSize.toNat width height) := by
  refine ⟨fun kept => ?_, fun exceeds => ?_⟩
  · rw [fit, (fittedSize_eq_none_iff _ _ _).mpr kept]
  · obtain ⟨positive, sized⟩ := fittedSize_of_not_fits exceeds area
    have scaled : ∃ width height, fittedSize raster.width raster.height maxSize = some (width, height) := by
      split_ifs at sized
      · exact ⟨_, _, sized.2.2⟩
      · exact ⟨_, _, sized.2.2⟩
    obtain ⟨width, height, computed⟩ := scaled
    obtain ⟨atX, atY, sizedX, sizedY⟩ := scale_bounds raster width height
    refine ⟨width, height, by rw [fit, computed], atX, atY, sizedX, sizedY, ?_, fittedSize_within area computed⟩
    split_ifs at sized ⊢ with wide
    · obtain ⟨longer, product, found⟩ := sized
      rw [computed] at found
      obtain ⟨rfl, rfl⟩ := Prod.mk.inj (Option.some.inj found)
      exact ⟨by omega, product, rfl, rfl⟩
    · obtain ⟨longer, product, found⟩ := sized
      rw [computed] at found
      obtain ⟨rfl, rfl⟩ := Prod.mk.inj (Option.some.inj found)
      exact ⟨by omega, product, rfl, rfl⟩


/-- A banner twice as wide as it is tall, fitted to two pixels, is scaled within its limit. -/
theorem fit_scales_within_banner :
    let banner : Raster := Raster.ofColors 0 0 8 4 []
    banner.width * banner.height < 2 ^ 63 ∧
      ∃ width height, fit banner 2 = (banner.scale width height, true) ∧ FittedWithin 8 4 2 width height := by
  intro banner
  have area : banner.width * banner.height < 2 ^ 63 := by decide
  obtain ⟨width, height, fitted, -, -, -, -, -, within⟩ := (fit_scales_within banner 2 area).2 (by decide)
  exact ⟨area, width, height, fitted, within⟩

/-- A fitted column with no width: the empty side becomes one pixel, so the fitted raster is
wider than its source. -/
theorem fit_empty_side_grows :
    let column : Raster := Raster.ofColors 0 0 0 5 []
    (fit column 2).2 = true ∧ (fit column 2).1.width = 1 ∧ (fit column 2).1.height = 2 ∧
      column.width < (fit column 2).1.width := by
  refine ⟨rfl, rfl, rfl, by decide⟩

/-! ## Clearing the background -/

/-- Clearing the background keeps the bounds and each colour, but for those past the threshold. -/
theorem removeBackground_pixels (raster : Raster) (threshold : Nat) :
    (removeBackground raster threshold).minX = raster.minX ∧
      (removeBackground raster threshold).minY = raster.minY ∧
      (removeBackground raster threshold).width = raster.width ∧
      (removeBackground raster threshold).height = raster.height ∧
      ∀ x y, raster.Contains x y →
        (removeBackground raster threshold).pixel x y =
          if threshold < (raster.pixel x y).r.toNat ∧ threshold < (raster.pixel x y).g.toNat ∧
              threshold < (raster.pixel x y).b.toNat then Color.transparent
          else raster.pixel x y := by
  refine ⟨rfl, rfl, rfl, rfl, fun x y inside => ?_⟩
  obtain ⟨left, right, top, bottom⟩ := inside
  have column : (x - raster.minX).toNat < raster.width := by omega
  have row : (y - raster.minY).toNat < raster.height := by omega
  have counted : (raster.colors.map fun color =>
      if isBackground threshold color then Color.transparent else color).length =
      raster.width * raster.height := by
    rw [List.length_map, Raster.length_colors]
  have stored := @Raster.straightAt_ofColors raster.minX raster.minY _ _ _ counted _ _ column row
  rw [List.getElem?_map, Raster.getElem?_colors raster column row, Option.map_some, Option.some_inj] at stored
  simp only [Raster.pixel, removeBackground, Raster.ofColors] at stored ⊢
  rw [← stored]
  -- the two tests differ only in how they are written
  congr 1
  simp [isBackground, and_assoc]

/-- A two-pixel strip away from the origin: its white pixel is cleared. -/
theorem removeBackground_clears_offsetStrip :
    let strip : Raster := Raster.ofColors (-3) 5 2 1 [⟨250, 250, 250, 255⟩, ⟨200, 10, 10, 255⟩]
    strip.Contains (-3) 5 ∧ (removeBackground strip 240).pixel (-3) 5 = Color.transparent := by
  intro strip
  have inside : strip.Contains (-3) 5 := by decide
  refine ⟨inside, ?_⟩
  rw [((removeBackground_pixels strip 240).2.2.2.2 (-3) 5 inside), if_pos]
  decide

end Alembic.Image
