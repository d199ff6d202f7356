import LetterIRL.Lib.Windows
import Mathlib.Data.Fintype.Order
import Mathlib.Order.CompletePartialOrder

namespace LetterIRL.Signature
open Lib

/-! `rankFilter` and `closing`: the paper's light behind a signature, by a grey-level closing. -/

/-- A pixel of a `Uint8Array`. -/
abbrev Level := Fin 256

structure GreyImage (width height : Nat) where
  pixels : List Level
  sized : pixels.length = width * height

inductive Along
  | rows
  | columns
  deriving DecidableEq

inductive Rank
  | max
  | min
  deriving DecidableEq

/-- What counts past the edges. -/
def Rank.neutral : Rank → Level
  | .max => 0
  | .min => 255

def Rank.pick : Rank → Level → Level → Level
  | .max => fun first second => Max.max first second
  | .min => fun first second => Min.min first second

/-- A line with `half` neutral values before it and after it. -/
def paddedLine {α : Type} (neutral : α) (half length : Nat) (source : Nat → α) (place : Nat) : α :=
  if half ≤ place ∧ place < half + length then source (place - half) else neutral

/-- One line of the filter. -/
def rankLine (take : Rank) (size length : Nat) (source : Nat → Level) (i : Nat) : Level :=
  let half := size / 2
  Windows.windowed take.pick size (length + 2 * half) (paddedLine take.neutral half length source) i

namespace GreyImage
variable {width height : Nat}

def at_ (image : GreyImage width height) (index : Nat) : Level := image.pixels.getD index 0

/-- The image of what each index holds. -/
def tabulate (level : Nat → Level) : GreyImage width height where
  pixels := (List.range (width * height)).map level
  sized := by rw [List.length_map, List.length_range]

def rankFilter (source : GreyImage width height) (size : Nat) (along : Along) (take : Rank) : GreyImage width height :=
  tabulate fun index =>
    match along with
    | .rows => rankLine take size width (fun i => source.at_ (index / width * width + i)) (index % width)
    | .columns => rankLine take size height (fun i => source.at_ (index % width + i * width)) (index / width)

/-- The maximum over a square window, then the minimum. -/
def closing (source : GreyImage width height) (size : Nat) : GreyImage width height :=
  let lightest := (source.rankFilter size .rows .max).rankFilter size .columns .max
  (lightest.rankFilter size .rows .min).rankFilter size .columns .min

end GreyImage

/-! What the filter says: the largest or the smallest level in each pixel's window. -/

/-- A pixel, by its column and its row. -/
abbrev Pixel (width height : Nat) := Fin width × Fin height

/-- A place is in the window of another on its line. -/
def inWindow (size i j : Nat) : Prop := i ≤ j + size / 2 ∧ j + size / 2 < i + size

instance (size i j : Nat) : Decidable (inWindow size i j) := inferInstanceAs (Decidable (_ ∧ _))

section
variable {width height size length i : Nat}

/-- A pixel's window, within the image. -/
def inReach (along : Along) (size : Nat) (pixel other : Pixel width height) : Prop :=
  match along with
  | .rows => pixel.2 = other.2 ∧ inWindow size pixel.1 other.1
  | .columns => pixel.1 = other.1 ∧ inWindow size pixel.2 other.2

instance (along : Along) (size : Nat) : DecidableRel (inReach along size : Pixel width height → Pixel width height → Prop) :=
  fun pixel other => match along with
    | .rows => inferInstanceAs (Decidable (pixel.2 = other.2 ∧ inWindow size pixel.1 other.1))
    | .columns => inferInstanceAs (Decidable (pixel.1 = other.1 ∧ inWindow size pixel.2 other.2))

def GreyImage.level (image : GreyImage width height) (pixel : Pixel width height) : Level :=
  image.at_ (pixel.2 * width + pixel.1)

/-- The naive filter. -/
def naiveRank (along : Along) (size : Nat) (take : Rank) (level : Pixel width height → Level) :
    Pixel width height → Level :=
  match take with
  | .max => Windows.dilate (inReach along size) level
  | .min => Windows.erode (inReach along size) level

/-- The filter's line is the most there is in the window, neutral values apart. -/
theorem windowed_line {α : Type} [SemilatticeSup α] [OrderBot α] (source : Nat → α) (some_ : 0 < size) (inLine : i < length) :
    Windows.windowed (· ⊔ ·) size (length + 2 * (size / 2)) (paddedLine ⊥ (size / 2) length source) i =
      ((Finset.range length).filter (inWindow size i)).sup source := by
  rw [Windows.windowed_sup some_ (by omega)]
  refine le_antisymm (Finset.sup_le fun place member => ?_) (Finset.sup_le fun j member => ?_)
  · have bounds := Finset.mem_Icc.mp member
    unfold paddedLine
    split
    · rename_i inside
      refine Finset.le_sup (f := source) (Finset.mem_filter.mpr ⟨Finset.mem_range.mpr (by omega), ?_⟩)
      unfold inWindow
      omega
    · exact bot_le
  · obtain ⟨inRange, within⟩ := Finset.mem_filter.mp member
    have inRange := Finset.mem_range.mp inRange
    unfold inWindow at within
    have here : paddedLine ⊥ (size / 2) length source (j + size / 2) = source j := by
      unfold paddedLine
      rw [if_pos (by omega), Nat.add_sub_cancel]
    rw [← here]
    exact Finset.le_sup (f := paddedLine ⊥ (size / 2) length source) (Finset.mem_Icc.mpr (by omega))

/-- A pixel's window along its row, or its column. -/
theorem inReach_rows {α : Type} [SemilatticeSup α] [OrderBot α] (pixel : Pixel width height) (level : Pixel width height → α)
    (source : Nat → α) (same : ∀ x : Fin width, level (x, pixel.2) = source x) :
    (Finset.univ.filter (inReach .rows size pixel)).sup level =
      ((Finset.range width).filter (inWindow size pixel.1)).sup source := by
  refine le_antisymm (Finset.sup_le fun other member => ?_) (Finset.sup_le fun j member => ?_)
  · obtain ⟨row, within⟩ := (Finset.mem_filter.mp member).2
    have here : level other = source other.1 := by
      rw [← same other.1, row]
    rw [here]
    exact Finset.le_sup (f := source) (Finset.mem_filter.mpr ⟨Finset.mem_range.mpr other.1.isLt, within⟩)
  · obtain ⟨inRange, within⟩ := Finset.mem_filter.mp member
    have here := same ⟨j, Finset.mem_range.mp inRange⟩
    simp only at here
    rw [← here]
    exact Finset.le_sup (f := level) (Finset.mem_filter.mpr ⟨Finset.mem_univ _, rfl, within⟩)

theorem inReach_columns {α : Type} [SemilatticeSup α] [OrderBot α] (pixel : Pixel width height)
    (level : Pixel width height → α) (source : Nat → α) (same : ∀ y : Fin height, level (pixel.1, y) = source y) :
    (Finset.univ.filter (inReach .columns size pixel)).sup level =
      ((Finset.range height).filter (inWindow size pixel.2)).sup source := by
  refine le_antisymm (Finset.sup_le fun other member => ?_) (Finset.sup_le fun j member => ?_)
  · obtain ⟨column, within⟩ := (Finset.mem_filter.mp member).2
    have here : level other = source other.2 := by
      rw [← same other.2, column]
    rw [here]
    exact Finset.le_sup (f := source) (Finset.mem_filter.mpr ⟨Finset.mem_range.mpr other.2.isLt, within⟩)
  · obtain ⟨inRange, within⟩ := Finset.mem_filter.mp member
    have here := same ⟨j, Finset.mem_range.mp inRange⟩
    simp only at here
    rw [← here]
    exact Finset.le_sup (f := level) (Finset.mem_filter.mpr ⟨Finset.mem_univ _, rfl, within⟩)

theorem rankLine_max (source : Nat → Level) (some_ : 0 < size) (inLine : i < length) :
    rankLine .max size length source i = ((Finset.range length).filter (inWindow size i)).sup source :=
  windowed_line source some_ inLine

theorem rankLine_min (source : Nat → Level) (some_ : 0 < size) (inLine : i < length) :
    rankLine .min size length source i = ((Finset.range length).filter (inWindow size i)).inf source :=
  windowed_line (α := Levelᵒᵈ) source some_ inLine

theorem tabulate_level (level : Nat → Level) (pixel : Pixel width height) :
    (GreyImage.tabulate level : GreyImage width height).level pixel = level (pixel.2 * width + pixel.1) := by
  have inImage : pixel.2 * width + pixel.1 < width * height := by
    have x := pixel.1.isLt
    have y : (pixel.2 + 1 : Nat) * width ≤ height * width := Nat.mul_le_mul_right _ pixel.2.isLt
    rw [Nat.add_mul, Nat.mul_comm height] at y
    omega
  unfold GreyImage.level GreyImage.at_ GreyImage.tabulate
  rw [List.getD_eq_getElem?_getD, List.getElem?_map, List.getElem?_range inImage]
  rfl

theorem index_row (pixel : Pixel width height) : (pixel.2 * width + pixel.1 : Nat) / width = pixel.2 := by
  have some_ : 0 < width := (Nat.zero_le _).trans_lt pixel.1.isLt
  rw [Nat.mul_comm, Nat.mul_add_div some_, Nat.div_eq_of_lt pixel.1.isLt, Nat.add_zero]

theorem index_column (pixel : Pixel width height) : (pixel.2 * width + pixel.1 : Nat) % width = pixel.1 := by
  rw [Nat.mul_comm, Nat.mul_add_mod, Nat.mod_eq_of_lt pixel.1.isLt]

/-- The filter is the naive one, for every window. -/
theorem rankFilter_level (image : GreyImage width height) (along : Along) (take : Rank) (some_ : 0 < size) :
    (image.rankFilter size along take).level = naiveRank along size take image.level := by
  funext pixel
  unfold GreyImage.rankFilter
  rw [tabulate_level, index_row, index_column]
  cases along with
  | rows =>
    have inLine : (pixel.1 : Nat) < width := pixel.1.isLt
    have line : ∀ x : Fin width, image.level (x, pixel.2) = image.at_ (pixel.2 * width + x) := fun _ => rfl
    cases take with
    | max => exact (rankLine_max _ some_ inLine).trans (inReach_rows pixel image.level _ line).symm
    | min =>
      exact (rankLine_min _ some_ inLine).trans (inReach_rows (α := Levelᵒᵈ) pixel image.level _ line).symm
  | columns =>
    have inLine : (pixel.2 : Nat) < height := pixel.2.isLt
    have line : ∀ y : Fin height, image.level (pixel.1, y) = image.at_ (pixel.1 + y * width) := fun y => by
      unfold GreyImage.level
      rw [Nat.add_comm]
    cases take with
    | max => exact (rankLine_max _ some_ inLine).trans (inReach_columns pixel image.level _ line).symm
    | min =>
      exact (rankLine_min _ some_ inLine).trans (inReach_columns (α := Levelᵒᵈ) pixel image.level _ line).symm

/-! The closing. -/

theorem closing_level (image : GreyImage width height) (some_ : 0 < size) :
    (image.closing size).level = Windows.closing (inReach .rows size) (inReach .columns size) image.level := by
  unfold GreyImage.closing
  simp only [rankFilter_level _ _ _ some_]
  rfl

/-- An odd window is symmetric. -/
theorem inReach_symm {along : Along} (odd : size % 2 = 1) (pixel other : Pixel width height)
    (near : inReach along size pixel other) : inReach along size other pixel := by
  cases along with
  | rows =>
    obtain ⟨row, within⟩ := near
    refine ⟨row.symm, ?_⟩
    unfold inWindow at within ⊢
    omega
  | columns =>
    obtain ⟨column, within⟩ := near
    refine ⟨column.symm, ?_⟩
    unfold inWindow at within ⊢
    omega

/-- Rows and columns may be taken in either order. -/
theorem inReach_commutes : Windows.Commutes (inReach .rows size : Pixel width height → _ → Prop) (inReach .columns size) := by
  intro pixel other
  constructor
  · rintro ⟨corner, ⟨row, across⟩, column, down⟩
    exact ⟨(pixel.1, other.2), ⟨rfl, row ▸ down⟩, rfl, column ▸ across⟩
  · rintro ⟨corner, ⟨column, down⟩, row, across⟩
    exact ⟨(other.1, pixel.2), ⟨rfl, column ▸ across⟩, rfl, row ▸ down⟩

/-- What the filter and its closing are, for every image and every window of at least one pixel. -/
structure Closes (width height size : Nat) : Prop where
  naive : ∀ (image : GreyImage width height) along take,
    (image.rankFilter size along take).level = naiveRank along size take image.level
  monotone : ∀ first second : GreyImage width height, first.level ≤ second.level →
    (first.closing size).level ≤ (second.closing size).level
  extensive : size % 2 = 1 → ∀ image : GreyImage width height, image.level ≤ (image.closing size).level
  idempotent : size % 2 = 1 → ∀ image : GreyImage width height,
    ((image.closing size).closing size).level = (image.closing size).level

theorem rankFilter_closes (width height : Nat) (some_ : 0 < size) : Closes width height size where
  naive image along take := rankFilter_level image along take some_
  monotone first second le := by
    rw [closing_level first some_, closing_level second some_]
    exact Windows.closing_mono le
  extensive odd image := by
    rw [closing_level image some_]
    exact Windows.le_closing (inReach_symm odd) (inReach_symm odd) inReach_commutes _
  idempotent odd image := by
    rw [closing_level _ some_, closing_level image some_]
    exact Windows.closing_closing (inReach_symm odd) (inReach_symm odd) inReach_commutes _

theorem threeWide_closes : Closes 2 1 3 := rankFilter_closes 2 1 (by decide)

/-- A dark pixel and a light one. -/
def twoPixels : GreyImage 2 1 where
  pixels := [0, 255]
  sized := rfl

/-- An even window reaches further before a pixel than after it, and its closing darkens. -/
theorem even_closing_darkens : ¬twoPixels.level ≤ (twoPixels.closing 2).level := by
  intro le
  exact absurd (le (1, 0)) (by decide)

end

end LetterIRL.Signature
