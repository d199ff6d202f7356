import LetterIRL.Lib.Flood
import LetterIRL.Signature.RankFilter
import Mathlib.Algebra.Order.Floor.Ring
import Mathlib.Data.Rat.Floor
import Mathlib.Order.FixedPoints

namespace LetterIRL.Signature
open Lib

/-! `analyseSignature`: the ink's pieces, those of the signature, and the crop that holds them. -/

-- Named, so that every level below is written with this one instance.
local instance levels_neZero : NeZero 256 := ⟨by decide⟩

namespace SIGNATURE_CLEANING

def windowShare : ℚ := 1 / 20

def minWindow : Nat := 15

def blackAt : ℚ := 2 / 5

def whiteAt : ℚ := 3 / 4

def inkBelow : Level := 160

def paperFloor : Level := 64

def noiseArea : Nat := 8

def reachShare : ℚ := 2 / 25

def minInk : Nat := 300

def maxInkShare : ℚ := 7 / 20

def minInkWidth : Int := 60

end SIGNATURE_CLEANING

/-- `Math.round` -/
def round (value : ℚ) : Int := ⌊value + 1 / 2⌋

structure Box where
  minX : Int
  minY : Int
  maxX : Int
  maxY : Int
  deriving DecidableEq

structure Piece extends Box where
  id : Nat
  area : Nat
  deriving DecidableEq

section
variable (width height : Nat)

def column (at_ : Nat) : Nat := at_ % width

def row (at_ : Nat) : Nat := (at_ - column width at_) / width

/-- The pixel and those beside it, row by row, within the image. -/
def neighbours (at_ : Nat) : List Nat :=
  let x := column width at_
  let y := row width at_
  (List.range' (y - 1) (min (height - 1) (y + 1) + 1 - (y - 1))).flatMap fun ny =>
    (List.range' (x - 1) (min (width - 1) (x + 1) + 1 - (x - 1))).map fun nx => ny * width + nx

def Box.reach (box : Box) (at_ : Nat) : Box where
  minX := if (column width at_ : Int) < box.minX then column width at_ else box.minX
  minY := if (row width at_ : Int) < box.minY then row width at_ else box.minY
  maxX := if (column width at_ : Int) > box.maxX then column width at_ else box.maxX
  maxY := if (row width at_ : Int) > box.maxY then row width at_ else box.maxY

def boxOf (pixels : List Nat) : Box := pixels.foldl (Box.reach width) ⟨width, height, -1, -1⟩

/-- A piece that is large enough is found; a smaller one is whitened. -/
def keepPiece (noiseArea : Nat) (state : List Piece × List Level) (pixels : List Nat) : List Piece × List Level :=
  if pixels.length ≥ noiseArea then (state.1 ++ [⟨boxOf width height pixels, state.1.length + 1, pixels.length⟩], state.2)
  else (state.1, pixels.foldl (fun cleaned at_ => cleaned.set at_ 255) state.2)

def pieces (ink : Finset Nat) (cleaned : List Level) (noiseArea : Nat) : List Piece × List Level :=
  (Flood.sweep (neighbours width height) (List.range (width * height)) ink).foldl (keepPiece width height noiseArea) ([], cleaned)

end

/-- What is kept: the pieces' ids, the box around them, and their ink. -/
structure Kept where
  ids : List Nat
  box : Box
  area : Nat

def largest (first : Piece) (rest : List Piece) : Piece :=
  rest.foldl (fun best piece => if piece.area > best.area then piece else best) first

def Box.gapX (box : Box) (piece : Box) : Int := max 0 (max (piece.minX - box.maxX) (box.minX - piece.maxX))

def Box.gapY (box : Box) (piece : Box) : Int := max 0 (max (piece.minY - box.maxY) (box.minY - piece.maxY))

def Box.join (box piece : Box) : Box where
  minX := min box.minX piece.minX
  minY := min box.minY piece.minY
  maxX := max box.maxX piece.maxX
  maxY := max box.maxY piece.maxY

/-- One piece of a pass, and whether the pass grew. -/
def consider (reach : Int) (state : Kept × Bool) (piece : Piece) : Kept × Bool :=
  if state.1.ids.contains piece.id then state
  else if state.1.box.gapX piece.toBox > reach ∨ state.1.box.gapY piece.toBox > reach then state
  else (⟨piece.id :: state.1.ids, state.1.box.join piece.toBox, state.1.area + piece.area⟩, true)

def grow (reach : Int) (found : List Piece) : Nat → Kept → Kept
  | 0, kept => kept
  | fuel + 1, kept =>
    let pass := found.foldl (consider reach) (kept, false)
    if pass.2 then grow reach found fuel pass.1 else pass.1

def signaturePieces (first : Piece) (rest : List Piece) (reach : Int) : Kept :=
  let best := largest first rest
  grow reach (first :: rest) (rest.length + 1) ⟨[best.id], best.toBox, best.area⟩

inductive Refusal
  | NO_SIGNATURE_FOUND
  | NOT_A_SIGNATURE
  | SIGNATURE_TOO_SMALL
  deriving DecidableEq

structure Crop where
  cleaned : List Level
  left : Int
  top : Int
  width : Int
  height : Int

section
variable {width height : Nat}
open SIGNATURE_CLEANING

/-- One more on each side, so crushed blacks divide as near-blacks do. -/
def cleanedLevel (grey paper : Level) : Level :=
  let ratio : ℚ := if paper < paperFloor then 1 else (grey.val + 1) / (paper.val + 1)
  Fin.ofNat 256 (round (min 1 (max 0 ((ratio - blackAt) / (whiteAt - blackAt))) * 255)).toNat

def cleanedLevels (grey paper : GreyImage width height) : List Level :=
  (List.range (width * height)).map fun i => cleanedLevel (grey.at_ i) (paper.at_ i)

def inkOf (cleaned : List Level) : Finset Nat := (Finset.range cleaned.length).filter fun i => cleaned.getD i 255 < inkBelow

/-- The crop around a box, with its margin, within the image. -/
def cropAround (width height : Nat) (cleaned : List Level) (box : Box) : Crop :=
  let margin := round (min width height * (1 / 50)) + 2
  let left := max 0 (box.minX - margin)
  let top := max 0 (box.minY - margin)
  ⟨cleaned, left, top, min (width : Int) (box.maxX + margin + 1) - left, min (height : Int) (box.maxY + margin + 1) - top⟩

def signatureWindow (width height : Nat) : Nat :=
  let longest := max width height
  max minWindow (round (longest * windowShare)).toNat ||| 1

def signatureReach (width height : Nat) : Int :=
  let longest := max width height
  round (longest * reachShare)

/-- The pixels divided by their paper's light. -/
def cleanedBy (grey : GreyImage width height) : List Level := cleanedLevels grey (grey.closing (signatureWindow width height))

def analyseSignature (grey : GreyImage width height) : Except Refusal Crop :=
  match pieces width height (inkOf (cleanedBy grey)) (cleanedBy grey) noiseArea with
  | ([], _) => .error .NO_SIGNATURE_FOUND
  | (first :: rest, cleaned) =>
    let kept := signaturePieces first rest (signatureReach width height)
    if kept.area < minInk then .error .NO_SIGNATURE_FOUND
    else
      let crop := cropAround width height cleaned kept.box
      if (kept.area : ℚ) / (crop.width * crop.height) > maxInkShare then .error .NOT_A_SIGNATURE
      else if kept.box.maxX - kept.box.minX + 1 < minInkWidth then .error .SIGNATURE_TOO_SMALL
      else .ok crop

end

/-! The pieces are the ink's components. -/

section
variable {width height v w at_ next noiseArea : Nat} {ink : Finset Nat} {pixels : List Nat} {box : Box} {cleaned : List Level}

theorem row_eq (width at_ : Nat) : row width at_ = at_ / width := (Nat.div_eq_sub_mod_div).symm

theorem pixel_eq (width at_ : Nat) : row width at_ * width + column width at_ = at_ := by
  rw [row_eq, column]
  exact Nat.div_add_mod' at_ width

theorem column_lt (inImage : at_ < width * height) : column width at_ < width := by
  refine Nat.mod_lt _ (Nat.pos_of_ne_zero ?_)
  rintro rfl
  omega

theorem row_lt (inImage : at_ < width * height) : row width at_ < height := by
  rw [row_eq]
  exact Nat.div_lt_of_lt_mul inImage

theorem pixel_of {nx : Nat} (ny : Nat) (inLine : nx < width) : column width (ny * width + nx) = nx ∧ row width (ny * width + nx) = ny := by
  constructor
  · rw [column, Nat.mul_comm, Nat.mul_add_mod, Nat.mod_eq_of_lt inLine]
  · rw [row_eq, Nat.mul_comm, Nat.mul_add_div (by omega), Nat.div_eq_of_lt inLine, Nat.add_zero]

/-- Two pixels that touch, at a side or at a corner, or are one. -/
def Touch (width v w : Nat) : Prop :=
  column width v ≤ column width w + 1 ∧ column width w ≤ column width v + 1 ∧ row width v ≤ row width w + 1 ∧
    row width w ≤ row width v + 1

theorem Touch.symm (touch : Touch width v w) : Touch width w v := ⟨touch.2.1, touch.1, touch.2.2.2, touch.2.2.1⟩

theorem mem_neighbours (inImage : at_ < width * height) :
    next ∈ neighbours width height at_ ↔ next < width * height ∧ Touch width at_ next := by
  have x := column_lt inImage
  have y := row_lt inImage
  simp only [neighbours, List.mem_flatMap, List.mem_map, List.mem_range'_1]
  constructor
  · rintro ⟨ny, rows, nx, columns, rfl⟩
    obtain ⟨column_, row_⟩ := pixel_of ny (show nx < width by omega)
    have inside : ny * width + nx < width * height := by
      have lines : (ny + 1) * width ≤ height * width := Nat.mul_le_mul_right _ (by omega)
      rw [Nat.add_mul, Nat.mul_comm height] at lines
      omega
    refine ⟨inside, ?_⟩
    unfold Touch
    rw [column_, row_]
    omega
  · rintro ⟨inside, touch⟩
    have nx := column_lt inside
    have ny := row_lt inside
    unfold Touch at touch
    exact ⟨row width next, by omega, column width next, by omega, pixel_eq width next⟩

/-- Ink joined through ink that touches. -/
def Connected (width : Nat) (ink : Finset Nat) : Nat → Nat → Prop :=
  Relation.ReflTransGen fun v w => Touch width v w ∧ w ∈ ink

/-- An 8-connected component of the ink. -/
def IsComponent (width : Nat) (ink component : Finset Nat) : Prop :=
  ∃ start ∈ ink, ∀ w, w ∈ component ↔ Connected width ink start w

theorem Connected.mem (inked : v ∈ ink) (connected : Connected width ink v w) : w ∈ ink := by
  cases connected with
  | refl => exact inked
  | tail _ step => exact step.2

theorem Connected.symm (inked : v ∈ ink) (connected : Connected width ink v w) : Connected width ink w v := by
  induction connected with
  | refl => exact .refl
  | tail before step ih => exact .head ⟨step.1.symm, Connected.mem inked before⟩ ih

theorem joined_iff (inImage : ∀ v ∈ ink, v < width * height) (inked : v ∈ ink) :
    Flood.Joined (neighbours width height) ink v w ↔ Connected width ink v w := by
  constructor
  · intro joined
    have both : Connected width ink v w ∧ w ∈ ink := by
      induction joined with
      | refl => exact ⟨.refl, inked⟩
      | tail _ step ih =>
        have touch := ((mem_neighbours (inImage _ ih.2)).mp step.1).2
        exact ⟨ih.1.tail ⟨touch, step.2⟩, step.2⟩
    exact both.1
  · intro connected
    have both : Flood.Joined (neighbours width height) ink v w ∧ w ∈ ink := by
      induction connected with
      | refl => exact ⟨.refl, inked⟩
      | tail _ step ih =>
        have near := (mem_neighbours (inImage _ ih.2)).mpr ⟨inImage _ step.2, step.1⟩
        exact ⟨ih.1.tail ⟨near, step.2⟩, step.2⟩
    exact both.1

/-- The components of the ink, as the search finds them. -/
def components (width height : Nat) (ink : Finset Nat) : List (List Nat) :=
  Flood.sweep (neighbours width height) (List.range (width * height)) ink

theorem components_spec (inImage : ∀ v ∈ ink, v < width * height) :
    (∀ pixels ∈ components width height ink, pixels.Nodup ∧ pixels ≠ [] ∧ IsComponent width ink pixels.toFinset) ∧
      (∀ v ∈ ink, ∃ pixels ∈ components width height ink, v ∈ pixels) ∧
      (components width height ink).Pairwise List.Disjoint := by
  obtain ⟨found, cover, disjoint⟩ := Flood.sweep_components (List.range (width * height))
    (fun v inked w inked' near => (mem_neighbours (inImage w inked')).mpr
      ⟨inImage v inked, ((mem_neighbours (inImage v inked)).mp near).2.symm⟩)
    (⟨Finset.Subset.refl _, fun _ _ _ _ inked => inked⟩ : Flood.Whole (neighbours width height) ink ink)
  refine ⟨fun pixels member => ?_, fun v inked => cover v inked (List.mem_range.mpr (inImage v inked)), disjoint⟩
  obtain ⟨⟨nodup, start, inked, joined⟩, -⟩ := found pixels member
  refine ⟨nodup, List.ne_nil_of_mem ((joined start).mpr .refl), start, inked, fun w => ?_⟩
  rw [List.mem_toFinset, joined, joined_iff inImage inked]

/-- Two components with a pixel in common are one. -/
theorem IsComponent.eq {component other : Finset Nat} (first : IsComponent width ink component) (second : IsComponent width ink other)
    (here : v ∈ component) (there : v ∈ other) : component = other := by
  obtain ⟨start, inked, members⟩ := first
  obtain ⟨start', inked', members'⟩ := second
  have one := (members v).mp here
  have two := (members' v).mp there
  ext w
  rw [members, members']
  exact ⟨fun joined => two.trans ((one.symm inked).trans joined), fun joined => one.trans ((two.symm inked').trans joined)⟩

/-- A box that lies in another. -/
def Box.Inside (box around : Box) : Prop :=
  around.minX ≤ box.minX ∧ around.minY ≤ box.minY ∧ box.maxX ≤ around.maxX ∧ box.maxY ≤ around.maxY

def pixelBox (width at_ : Nat) : Box := ⟨column width at_, row width at_, column width at_, row width at_⟩

theorem Box.Inside.trans {first second third : Box} (one : first.Inside second) (two : second.Inside third) : first.Inside third := by
  unfold Box.Inside at *
  omega

theorem reach_inside (width : Nat) (box : Box) (at_ : Nat) : box.Inside (box.reach width at_) ∧ (pixelBox width at_).Inside (box.reach width at_) := by
  unfold Box.Inside Box.reach pixelBox
  dsimp only
  split_ifs <;> omega

theorem reach_least {around : Box} (inside : box.Inside around) (pixel : (pixelBox width at_).Inside around) :
    (box.reach width at_).Inside around := by
  unfold Box.Inside Box.reach pixelBox at *
  dsimp only at *
  split_ifs <;> omega

theorem foldl_reach (width : Nat) (box : Box) (pixels : List Nat) :
    box.Inside (pixels.foldl (Box.reach width) box) ∧
      (∀ at_ ∈ pixels, (pixelBox width at_).Inside (pixels.foldl (Box.reach width) box)) ∧
      ∀ around : Box, box.Inside around → (∀ at_ ∈ pixels, (pixelBox width at_).Inside around) →
        (pixels.foldl (Box.reach width) box).Inside around := by
  induction pixels generalizing box with
  | nil => exact ⟨⟨le_rfl, le_rfl, le_rfl, le_rfl⟩, by simp, fun _ inside _ => inside⟩
  | cons first rest ih =>
    obtain ⟨grown, members, least⟩ := ih (box.reach width first)
    obtain ⟨inside, pixel⟩ := reach_inside width box first
    refine ⟨inside.trans grown, fun at_ member => ?_, fun around inside' members' => ?_⟩
    · rcases List.mem_cons.mp member with rfl | later
      · exact pixel.trans grown
      · exact members at_ later
    · exact least around (reach_least inside' (members' first List.mem_cons_self))
        fun at_ later => members' at_ (List.mem_cons_of_mem _ later)

/-- The least box around some pixels. -/
structure Bounds (width : Nat) (pixels : Finset Nat) (box : Box) : Prop where
  holds : ∀ at_ ∈ pixels, (pixelBox width at_).Inside box
  least : ∀ around : Box, (∀ at_ ∈ pixels, (pixelBox width at_).Inside around) → box.Inside around

theorem boxOf_bounds (inImage : ∀ at_ ∈ pixels, at_ < width * height) (some_ : pixels ≠ []) :
    Bounds width pixels.toFinset (boxOf width height pixels) := by
  obtain ⟨-, members, least⟩ := foldl_reach width ⟨width, height, -1, -1⟩ pixels
  refine ⟨fun at_ member => members at_ (List.mem_toFinset.mp member), fun around inside => ?_⟩
  have inside : ∀ at_ ∈ pixels, (pixelBox width at_).Inside around := fun at_ member => inside at_ (List.mem_toFinset.mpr member)
  refine least around ?_ inside
  obtain ⟨at_, member⟩ := List.exists_mem_of_ne_nil _ some_
  have x := column_lt (inImage at_ member)
  have y := row_lt (inImage at_ member)
  have here := inside at_ member
  unfold Box.Inside pixelBox at *
  dsimp only at *
  omega

theorem foldl_white (pixels : List Nat) (cleaned : List Level) (i : Nat) :
    (pixels.foldl (fun cleaned at_ => cleaned.set at_ 255) cleaned)[i]? =
      if i ∈ pixels then cleaned[i]?.map fun _ => 255 else cleaned[i]? := by
  induction pixels generalizing cleaned with
  | nil => simp
  | cons first rest ih =>
    rw [List.foldl_cons, ih, List.getElem?_set]
    by_cases here : first = i
    · subst here
      by_cases inside : first < cleaned.length
      · simp [inside]
      · simp [inside]
    · have other : i ≠ first := Ne.symm here
      simp [here, other]

/-- The components large enough, in the order found, and the image with the others whitened. -/
theorem foldl_keepPiece (width height noiseArea : Nat) (all : List (List Nat)) (found : List Piece) (cleaned : List Level) :
    ((all.foldl (keepPiece width height noiseArea) (found, cleaned)).1 =
        found ++ (all.filter fun pixels => decide (pixels.length ≥ noiseArea)).mapIdx fun i pixels =>
          ⟨boxOf width height pixels, found.length + 1 + i, pixels.length⟩) ∧
      ∀ i, (all.foldl (keepPiece width height noiseArea) (found, cleaned)).2[i]? =
        if ∃ pixels ∈ all, pixels.length < noiseArea ∧ i ∈ pixels then cleaned[i]?.map fun _ => 255 else cleaned[i]? := by
  induction all generalizing found cleaned with
  | nil => simp
  | cons first rest ih =>
    rw [List.foldl_cons, keepPiece]
    by_cases large : first.length ≥ noiseArea
    · rw [if_pos large]
      obtain ⟨kept, whitened⟩ := ih (found ++ [⟨boxOf width height first, found.length + 1, first.length⟩]) cleaned
      refine ⟨?_, fun i => (whitened i).trans ?_⟩
      · have later : ∀ i, (found ++ [(⟨boxOf width height first, found.length + 1, first.length⟩ : Piece)]).length + 1 + i =
            found.length + 1 + (i + 1) := fun i => by
          rw [List.length_append, List.length_singleton]
          omega
        rw [kept, List.filter_cons_of_pos (by simpa using large), List.mapIdx_cons, List.append_assoc]
        simp only [later]
        rfl
      · have same : (∃ pixels ∈ rest, pixels.length < noiseArea ∧ i ∈ pixels) ↔
            ∃ pixels ∈ first :: rest, pixels.length < noiseArea ∧ i ∈ pixels := by
          simp [Nat.not_lt.mpr large]
        simp only [same]
    · rw [if_neg large]
      obtain ⟨kept, whitened⟩ := ih found (first.foldl (fun cleaned at_ => cleaned.set at_ 255) cleaned)
      refine ⟨?_, fun i => (whitened i).trans ?_⟩
      · rw [kept, List.filter_cons_of_neg (by simpa using large)]
      · rw [foldl_white]
        have same : (∃ pixels ∈ first :: rest, pixels.length < noiseArea ∧ i ∈ pixels) ↔
            i ∈ first ∨ ∃ pixels ∈ rest, pixels.length < noiseArea ∧ i ∈ pixels := by
          simp [Nat.not_le.mp large]
        simp only [same]
        by_cases here : i ∈ first
        · simp only [here, if_true, true_or, Option.map_map, Function.comp_def, ite_self]
        · simp [here]

/-- The pieces found are the 8-connected components of the ink that are large enough, each once, with its pixels counted and boxed; the
pixels of the others print as paper, and no other pixel changes. -/
structure PiecesFound (width : Nat) (ink : Finset Nat) (cleaned : List Level) (noiseArea : Nat) (shapes : List (Finset Nat))
    (found : List Piece) (after : List Level) : Prop where
  components : ∀ shape, shape ∈ shapes ↔ IsComponent width ink shape ∧ noiseArea ≤ shape.card
  distinct : shapes.Nodup
  measured : List.Forall₂ (fun piece shape => piece.area = shape.card ∧ Bounds width shape piece.toBox) found shapes
  numbered : found.map (·.id) = List.range' 1 found.length
  whitened : ∀ shape, IsComponent width ink shape → shape.card < noiseArea → ∀ i ∈ shape, after[i]? = cleaned[i]?.map fun _ => 255
  kept : ∀ i, (∀ shape, IsComponent width ink shape → i ∈ shape → noiseArea ≤ shape.card) → after[i]? = cleaned[i]?

theorem component_mem (inImage : ∀ v ∈ ink, v < width * height) {shape : Finset Nat} (component : IsComponent width ink shape) :
    ∃ pixels ∈ components width height ink, pixels.toFinset = shape := by
  obtain ⟨found, cover, -⟩ := components_spec inImage
  obtain ⟨start, inked, members⟩ := component
  obtain ⟨pixels, member, here⟩ := cover start inked
  exact ⟨pixels, member, (found pixels member).2.2.eq ⟨start, inked, members⟩ (List.mem_toFinset.mpr here) ((members start).mpr .refl)⟩

theorem pieces_found (inImage : ∀ v ∈ ink, v < width * height) (cleaned : List Level) (noiseArea : Nat) :
    ∃ shapes, PiecesFound width ink cleaned noiseArea shapes (pieces width height ink cleaned noiseArea).1
      (pieces width height ink cleaned noiseArea).2 := by
  obtain ⟨each, cover, disjoint⟩ := components_spec inImage
  obtain ⟨found, whitened⟩ := foldl_keepPiece width height noiseArea (components width height ink) [] cleaned
  have found : (pieces width height ink cleaned noiseArea).1 =
      ((components width height ink).filter fun pixels => decide (pixels.length ≥ noiseArea)).mapIdx fun i pixels =>
        ⟨boxOf width height pixels, 1 + i, pixels.length⟩ := found.trans (by simp)
  refine ⟨((components width height ink).filter fun pixels => decide (pixels.length ≥ noiseArea)).map List.toFinset, ⟨fun shape => ?_, ?_, ?_, ?_, ?_, ?_⟩⟩
  · rw [List.mem_map]
    constructor
    · rintro ⟨pixels, member, rfl⟩
      obtain ⟨member, large⟩ := List.mem_filter.mp member
      obtain ⟨nodup, -, component⟩ := each pixels member
      exact ⟨component, by rw [List.toFinset_card_of_nodup nodup]; exact of_decide_eq_true large⟩
    · rintro ⟨component, large⟩
      obtain ⟨pixels, member, rfl⟩ := component_mem inImage component
      rw [List.toFinset_card_of_nodup (each pixels member).1] at large
      exact ⟨pixels, List.mem_filter.mpr ⟨member, decide_eq_true large⟩, rfl⟩
  · refine List.pairwise_map.mpr ((disjoint.sublist List.filter_sublist).imp_of_mem fun {pixels other} member _ apart same => ?_)
    obtain ⟨at_, here⟩ := List.exists_mem_of_ne_nil _ (each pixels (List.mem_filter.mp member).1).2.1
    exact apart here (List.mem_toFinset.mp (same ▸ List.mem_toFinset.mpr here))
  · have numbered : ∀ (all : List (List Nat)) k, (∀ pixels ∈ all, pixels ∈ components width height ink) →
        List.Forall₂ (fun (piece : Piece) shape => piece.area = shape.card ∧ Bounds width shape piece.toBox)
          (all.mapIdx fun i pixels => ⟨boxOf width height pixels, k + i, pixels.length⟩) (all.map List.toFinset) := by
      intro all
      induction all with
      | nil => exact fun _ _ => .nil
      | cons pixels rest ih =>
        intro k members
        obtain ⟨nodup, some_, component⟩ := each pixels (members pixels List.mem_cons_self)
        have inside : ∀ at_ ∈ pixels, at_ < width * height := fun at_ member => by
          obtain ⟨start, inked, joined⟩ := component
          exact inImage at_ (Connected.mem inked ((joined at_).mp (List.mem_toFinset.mpr member)))
        have later := ih (k + 1) fun other member => members other (List.mem_cons_of_mem _ member)
        simp only [Nat.add_assoc, Nat.add_comm 1] at later
        rw [List.mapIdx_cons, List.map_cons]
        exact .cons ⟨(List.toFinset_card_of_nodup nodup).symm, boxOf_bounds inside some_⟩ later
    have measured := numbered ((components width height ink).filter fun pixels => decide (pixels.length ≥ noiseArea)) 1
      fun pixels member => (List.mem_filter.mp member).1
    rwa [← found] at measured
  · rw [found]
    refine List.ext_getElem (by simp) fun i _ _ => ?_
    simp
  · intro shape component small i here
    obtain ⟨pixels, member, rfl⟩ := component_mem inImage component
    rw [List.toFinset_card_of_nodup (each pixels member).1] at small
    exact (whitened i).trans (if_pos ⟨pixels, member, small, List.mem_toFinset.mp here⟩)
  · intro i large
    refine (whitened i).trans (if_neg ?_)
    rintro ⟨pixels, member, small, here⟩
    have := large pixels.toFinset (each pixels member).2.2 (List.mem_toFinset.mpr here)
    rw [List.toFinset_card_of_nodup (each pixels member).1] at this
    omega

end

theorem twoPixels_found : ∃ shapes, PiecesFound 2 {0, 1} [0, 0] 2 shapes (pieces 2 1 {0, 1} [0, 0] 2).1 (pieces 2 1 {0, 1} [0, 0] 2).2 :=
  pieces_found (by decide) [0, 0] 2

/-! The pieces kept, as a least fixed point. -/

section
variable {reach : Int} {found members rest : List Piece} {best first piece : Piece} {kept : Kept} {T : Set Piece} {box : Box}

/-- Within reach of the box around some pieces, on either side and in both directions. -/
def NearTo (reach : Int) (T : Set Piece) (piece : Piece) : Prop :=
  (∃ other ∈ T, piece.minX - other.maxX ≤ reach) ∧ (∃ other ∈ T, other.minX - piece.maxX ≤ reach) ∧
    (∃ other ∈ T, piece.minY - other.maxY ≤ reach) ∧ ∃ other ∈ T, other.minY - piece.maxY ≤ reach

/-- The largest piece, and those within reach of what is gathered. -/
def gather (reach : Int) (found : List Piece) (best : Piece) : Set Piece →o Set Piece where
  toFun T := {piece | piece = best ∨ piece ∈ found ∧ NearTo reach T piece}
  monotone' T U le piece := by
    rintro (same | ⟨member, ⟨a, inA, x⟩, ⟨b, inB, x'⟩, ⟨c, inC, y⟩, d, inD, y'⟩)
    · exact .inl same
    · exact .inr ⟨member, ⟨a, le inA, x⟩, ⟨b, le inB, x'⟩, ⟨c, le inC, y⟩, d, le inD, y'⟩

/-- The least box around some pieces. -/
structure BoxOf (T : Set Piece) (box : Box) : Prop where
  holds : ∀ piece ∈ T, piece.toBox.Inside box
  left : ∃ piece ∈ T, piece.minX = box.minX
  top : ∃ piece ∈ T, piece.minY = box.minY
  right : ∃ piece ∈ T, piece.maxX = box.maxX
  bottom : ∃ piece ∈ T, piece.maxY = box.maxY

theorem BoxOf.near (boxOf : BoxOf T box) (positive : 0 ≤ reach) (piece : Piece) :
    ¬ (box.gapX piece.toBox > reach ∨ box.gapY piece.toBox > reach) ↔ NearTo reach T piece := by
  simp only [Box.gapX, Box.gapY, gt_iff_lt, not_or, not_lt, max_le_iff]
  constructor
  · rintro ⟨⟨-, right, left⟩, -, below, above⟩
    obtain ⟨a, inA, x⟩ := boxOf.right
    obtain ⟨b, inB, x'⟩ := boxOf.left
    obtain ⟨c, inC, y⟩ := boxOf.bottom
    obtain ⟨d, inD, y'⟩ := boxOf.top
    exact ⟨⟨a, inA, by omega⟩, ⟨b, inB, by omega⟩, ⟨c, inC, by omega⟩, d, inD, by omega⟩
  · rintro ⟨⟨a, inA, x⟩, ⟨b, inB, x'⟩, ⟨c, inC, y⟩, d, inD, y'⟩
    obtain ⟨-, -, a, -⟩ := boxOf.holds a inA
    obtain ⟨b, -⟩ := boxOf.holds b inB
    obtain ⟨-, -, -, c⟩ := boxOf.holds c inC
    obtain ⟨-, d, -⟩ := boxOf.holds d inD
    exact ⟨⟨positive, by omega, by omega⟩, positive, by omega, by omega⟩

theorem BoxOf.insert (boxOf : BoxOf T box) (piece : Piece) : BoxOf (insert piece T) (box.join piece.toBox) := by
  have one : ∀ value : Piece → Int, ∀ bound, (∃ other ∈ T, value other = bound) →
      (∃ other ∈ Insert.insert piece T, value other = min bound (value piece)) ∧
        ∃ other ∈ Insert.insert piece T, value other = max bound (value piece) := by
    rintro value bound ⟨other, member, rfl⟩
    constructor
    · rcases min_choice (value other) (value piece) with same | same
      · exact ⟨other, .inr member, same.symm⟩
      · exact ⟨piece, .inl rfl, same.symm⟩
    · rcases max_choice (value other) (value piece) with same | same
      · exact ⟨other, .inr member, same.symm⟩
      · exact ⟨piece, .inl rfl, same.symm⟩
  refine ⟨?_, (one (·.minX) _ boxOf.left).1, (one (·.minY) _ boxOf.top).1, (one (·.maxX) _ boxOf.right).2, (one (·.maxY) _ boxOf.bottom).2⟩
  rintro other (rfl | member)
  · exact ⟨min_le_right _ _, min_le_right _ _, le_max_right _ _, le_max_right _ _⟩
  · obtain ⟨left, top, right, bottom⟩ := boxOf.holds other member
    exact ⟨(min_le_left _ _).trans left, (min_le_left _ _).trans top, right.trans (le_max_left _ _), bottom.trans (le_max_left _ _)⟩

theorem BoxOf.unique {other : Box} (boxOf : BoxOf T box) (boxOf' : BoxOf T other) : box = other := by
  have inside : ∀ {box other : Box}, BoxOf T box → BoxOf T other → box.Inside other := by
    rintro box other ⟨-, ⟨a, inA, x⟩, ⟨b, inB, y⟩, ⟨c, inC, x'⟩, d, inD, y'⟩ around
    rw [Box.Inside, ← x, ← y, ← x', ← y']
    exact ⟨(around.holds a inA).1, (around.holds b inB).2.1, (around.holds c inC).2.2.1, (around.holds d inD).2.2.2⟩
  obtain ⟨left, top, right, bottom⟩ := inside boxOf boxOf'
  obtain ⟨left', top', right', bottom'⟩ := inside boxOf' boxOf
  cases box
  cases other
  simp only [Box.mk.injEq]
  exact ⟨le_antisymm left' left, le_antisymm top' top, le_antisymm right right', le_antisymm bottom bottom'⟩

/-- What is kept at any moment: pieces found, the largest among them, each forced by those before. -/
structure Gathered (reach : Int) (found : List Piece) (best : Piece) (kept : Kept) (members : List Piece) : Prop where
  ids : kept.ids = members.map (·.id)
  sub : ∀ piece ∈ members, piece ∈ found
  nodup : members.Nodup
  began : best ∈ members
  box : BoxOf {piece | piece ∈ members} kept.box
  area : kept.area = (members.map (·.area)).sum
  forced : ∀ T, gather reach found best T ⊆ T → ∀ piece ∈ members, piece ∈ T

/-- A piece passed over, or one more. -/
theorem Gathered.consider_cases (gathered : Gathered reach found best kept members) (positive : 0 ≤ reach) (member : piece ∈ found) (grew : Bool) :
    (consider reach (kept, grew) piece = (kept, grew) ∧ (piece.id ∈ kept.ids ∨ ¬ NearTo reach {piece | piece ∈ members} piece)) ∨
      ∃ kept', consider reach (kept, grew) piece = (kept', true) ∧ Gathered reach found best kept' (piece :: members) := by
  unfold consider
  by_cases known : kept.ids.contains piece.id = true
  · rw [if_pos known]
    exact .inl ⟨rfl, .inl (List.contains_iff_mem.mp known)⟩
  · rw [if_neg known]
    by_cases near : kept.box.gapX piece.toBox > reach ∨ kept.box.gapY piece.toBox > reach
    · rw [if_pos near]
      exact .inl ⟨rfl, .inr fun close => (gathered.box.near positive piece).mpr close near⟩
    · rw [if_neg near]
      have close := (gathered.box.near positive piece).mp near
      refine .inr ⟨_, rfl, ⟨?_, ?_, ?_, List.mem_cons_of_mem _ gathered.began, ?_, ?_, fun T closed other there => ?_⟩⟩
      · rw [List.map_cons, gathered.ids]
      · intro other there
        rcases List.mem_cons.mp there with rfl | old
        · exact member
        · exact gathered.sub other old
      · refine List.nodup_cons.mpr ⟨fun there => known (List.contains_iff_mem.mpr ?_), gathered.nodup⟩
        rw [gathered.ids]
        exact List.mem_map.mpr ⟨piece, there, rfl⟩
      · have whole : {other | other ∈ piece :: members} = insert piece {other | other ∈ members} := by
          ext other
          simp
        rw [whole]
        exact gathered.box.insert piece
      · rw [List.map_cons, List.sum_cons, gathered.area, Nat.add_comm]
      · rcases List.mem_cons.mp there with rfl | old
        · exact closed ((gather reach found best).monotone (gathered.forced T closed) (.inr ⟨member, close⟩))
        · exact gathered.forced T closed other old

/-- What a pass leaves: more, or nothing within reach. -/
theorem Gathered.pass (positive : 0 ≤ reach) (sub : ∀ piece ∈ rest, piece ∈ found) (gathered : Gathered reach found best kept members) (grew : Bool) :
    ∃ members', Gathered reach found best (rest.foldl (consider reach) (kept, grew)).1 members' ∧
      ((rest.foldl (consider reach) (kept, grew)).2 = true ∧ (grew = true ∨ members.length < members'.length) ∧
          members.length ≤ members'.length ∨
        grew = false ∧ rest.foldl (consider reach) (kept, grew) = (kept, false) ∧ members' = members ∧
          ∀ piece ∈ rest, piece.id ∈ kept.ids ∨ ¬ NearTo reach {piece | piece ∈ members} piece) := by
  induction rest generalizing kept members grew with
  | nil =>
    refine ⟨members, gathered, ?_⟩
    cases grew with
    | true => exact .inl ⟨rfl, .inl rfl, le_rfl⟩
    | false => exact .inr ⟨rfl, rfl, rfl, by simp⟩
  | cons piece rest ih =>
    have later := fun other member => sub other (List.mem_cons_of_mem piece member)
    rw [List.foldl_cons]
    rcases gathered.consider_cases positive (sub piece List.mem_cons_self) grew with ⟨same, passed⟩ | ⟨kept', added, gathered'⟩
    · rw [same]
      obtain ⟨members', after, cases_⟩ := ih later gathered grew
      refine ⟨members', after, ?_⟩
      refine cases_.imp_right ?_
      rintro ⟨start, none_, same, others⟩
      refine ⟨start, none_, same, fun other member => ?_⟩
      rcases List.mem_cons.mp member with rfl | member
      · exact passed
      · exact others other member
    · rw [added]
      obtain ⟨members', after, cases_⟩ := ih later gathered' true
      refine ⟨members', after, ?_⟩
      rw [List.length_cons] at cases_
      rcases cases_ with ⟨more, -, longer⟩ | ⟨⟨⟩, -⟩
      exact .inl ⟨more, .inr (by omega), by omega⟩

/-- Passes until none is near. -/
theorem Gathered.grow (gathered : Gathered reach found best kept members) (fuel : Nat) (positive : 0 ≤ reach)
    (enough : found.length < members.length + fuel) :
    ∃ members', Gathered reach found best (grow reach found fuel kept) members' ∧
      ∀ piece ∈ found, piece.id ∈ (Signature.grow reach found fuel kept).ids ∨ ¬ NearTo reach {piece | piece ∈ members'} piece := by
  induction fuel generalizing kept members with
  | zero =>
    have fits := (List.subperm_of_subset gathered.nodup gathered.sub).length_le
    omega
  | succ fuel ih =>
    obtain ⟨members', after, cases_⟩ := gathered.pass positive (fun _ member => member) false
    rw [Signature.grow]
    rcases cases_ with ⟨more, longer, -⟩ | ⟨-, none_, rfl, passed⟩
    · rw [if_pos more]
      rcases longer with ⟨⟨⟩⟩ | longer
      exact ih after (by omega)
    · rw [none_, if_neg Bool.false_ne_true]
      exact ⟨members', gathered, passed⟩

theorem largest_spec (first : Piece) (rest : List Piece) :
    largest first rest ∈ first :: rest ∧ ∀ piece ∈ first :: rest, piece.area ≤ (largest first rest).area := by
  unfold largest
  induction rest generalizing first with
  | nil => simp
  | cons next rest ih =>
    rw [List.foldl_cons]
    obtain ⟨member, most⟩ := ih (if next.area > first.area then next else first)
    refine ⟨?_, fun piece there => ?_⟩
    · rcases List.mem_cons.mp member with same | later
      · rw [same]
        split_ifs <;> simp
      · exact List.mem_cons_of_mem _ (List.mem_cons_of_mem _ later)
    · have bound := most _ List.mem_cons_self
      rcases List.mem_cons.mp there with rfl | there
      · split_ifs at bound ⊢ <;> omega
      · rcases List.mem_cons.mp there with rfl | later
        · split_ifs at bound ⊢ <;> omega
        · exact most piece (List.mem_cons_of_mem _ later)

/-- The pieces of the signature, whatever the order they were found in: the least set with the largest piece that holds whatever lies
within reach of the box around it. -/
structure SignatureOf (reach : Int) (found : List Piece) (best : Piece) (kept : Kept) (members : List Piece) : Prop where
  ids : kept.ids = members.map (·.id)
  sub : ∀ piece ∈ members, piece ∈ found
  nodup : members.Nodup
  least : {piece | piece ∈ members} = OrderHom.lfp (gather reach found best)
  box : BoxOf {piece | piece ∈ members} kept.box
  area : kept.area = (members.map (·.area)).sum

theorem signaturePieces_spec (positive : 0 ≤ reach) (distinct : ((first :: rest).map (·.id)).Nodup) :
    ∃ members, SignatureOf reach (first :: rest) (largest first rest) (signaturePieces first rest reach) members := by
  obtain ⟨best, -⟩ := largest_spec first rest
  have start : Gathered reach (first :: rest) (largest first rest)
      ⟨[(largest first rest).id], (largest first rest).toBox, (largest first rest).area⟩ [largest first rest] := by
    have only : {piece | piece ∈ [largest first rest]} = {largest first rest} := by
      ext piece
      simp
    refine ⟨rfl, by simpa using best, List.nodup_singleton _, List.mem_singleton.mpr rfl, ?_, by simp, fun T closed piece member => ?_⟩
    · rw [only]
      exact ⟨by rintro _ rfl; exact ⟨le_rfl, le_rfl, le_rfl, le_rfl⟩, ⟨_, rfl, rfl⟩, ⟨_, rfl, rfl⟩, ⟨_, rfl, rfl⟩, _, rfl, rfl⟩
    · exact closed (.inl (List.mem_singleton.mp member))
  obtain ⟨members, gathered, closed⟩ := start.grow (rest.length + 1) positive (by simp)
  refine ⟨members, gathered.ids, gathered.sub, gathered.nodup, ?_, gathered.box, gathered.area⟩
  have known : ∀ piece ∈ first :: rest, piece.id ∈ (grow reach (first :: rest) (rest.length + 1)
      ⟨[(largest first rest).id], (largest first rest).toBox, (largest first rest).area⟩).ids → piece ∈ members := by
    intro piece member there
    rw [gathered.ids] at there
    obtain ⟨other, member', same⟩ := List.mem_map.mp there
    rwa [List.inj_on_of_nodup_map distinct (gathered.sub other member') member same] at member'
  refine Set.Subset.antisymm (fun piece member => ?_) (OrderHom.lfp_le _ ?_)
  · exact gathered.forced _ (OrderHom.map_lfp _).le piece member
  · rintro piece (rfl | ⟨member, near⟩)
    · exact gathered.began
    · exact known piece member ((closed piece member).resolve_right fun far => far near)

/-- A unique largest piece is found first in any order. -/
theorem largest_perm {first' : Piece} {rest' : List Piece} (perm : (first :: rest).Perm (first' :: rest'))
    (unique : ∀ piece ∈ first :: rest, piece.area = (largest first rest).area → piece = largest first rest) :
    largest first' rest' = largest first rest := by
  obtain ⟨member, most⟩ := largest_spec first rest
  obtain ⟨member', most'⟩ := largest_spec first' rest'
  have there := perm.mem_iff.mpr member'
  exact unique _ there (le_antisymm (most _ there) (most' _ (perm.mem_iff.mp member)))

/-- Whatever the order the pieces were found in, the signature is the same where one of them is the largest. -/
theorem signaturePieces_perm {first' : Piece} {rest' : List Piece} (positive : 0 ≤ reach) (distinct : ((first :: rest).map (·.id)).Nodup)
    (perm : (first :: rest).Perm (first' :: rest'))
    (unique : ∀ piece ∈ first :: rest, piece.area = (largest first rest).area → piece = largest first rest) :
    (signaturePieces first rest reach).ids.Perm (signaturePieces first' rest' reach).ids ∧
      (signaturePieces first rest reach).box = (signaturePieces first' rest' reach).box ∧
      (signaturePieces first rest reach).area = (signaturePieces first' rest' reach).area := by
  obtain ⟨members, spec⟩ := signaturePieces_spec positive distinct
  obtain ⟨members', spec'⟩ := signaturePieces_spec positive ((perm.map (·.id)).nodup_iff.mp distinct)
  have same : gather reach (first' :: rest') (largest first' rest') = gather reach (first :: rest) (largest first rest) := by
    rw [largest_perm perm unique]
    ext T piece
    show piece = _ ∨ piece ∈ first' :: rest' ∧ _ ↔ piece = _ ∨ piece ∈ first :: rest ∧ _
    rw [perm.mem_iff]
  have whole : {piece | piece ∈ members'} = {piece | piece ∈ members} := by
    rw [spec.least, spec'.least, same]
  have equal : members.Perm members' :=
    (List.perm_ext_iff_of_nodup spec.nodup spec'.nodup).mpr fun piece => (Set.ext_iff.mp whole piece).symm
  refine ⟨?_, ?_, ?_⟩
  · rw [spec.ids, spec'.ids]
    exact equal.map _
  · have box := spec'.box
    rw [whole] at box
    exact spec.box.unique box
  · rw [spec.area, spec'.area]
    exact (equal.map _).sum_eq

end

theorem nearPieces_perm : (signaturePieces ⟨⟨0, 0, 1, 1⟩, 1, 4⟩ [⟨⟨4, 0, 5, 0⟩, 2, 2⟩] 3).ids.Perm
      (signaturePieces ⟨⟨4, 0, 5, 0⟩, 2, 2⟩ [⟨⟨0, 0, 1, 1⟩, 1, 4⟩] 3).ids ∧
    (signaturePieces ⟨⟨0, 0, 1, 1⟩, 1, 4⟩ [⟨⟨4, 0, 5, 0⟩, 2, 2⟩] 3).box =
      (signaturePieces ⟨⟨4, 0, 5, 0⟩, 2, 2⟩ [⟨⟨0, 0, 1, 1⟩, 1, 4⟩] 3).box ∧
    (signaturePieces ⟨⟨0, 0, 1, 1⟩, 1, 4⟩ [⟨⟨4, 0, 5, 0⟩, 2, 2⟩] 3).area =
      (signaturePieces ⟨⟨4, 0, 5, 0⟩, 2, 2⟩ [⟨⟨0, 0, 1, 1⟩, 1, 4⟩] 3).area :=
  signaturePieces_perm (by decide) (by decide) (.swap _ _ _) (by decide)

/-! The crop. -/

section
open SIGNATURE_CLEANING
variable {width height at_ : Nat} {grey : GreyImage width height} {crop : Crop} {cleaned after : List Level} {box : Box}
  {found : List Piece} {shapes : List (Finset Nat)} {ink : Finset Nat} {noiseArea : Nat}

/-- A pixel that prints as ink. -/
def Inked (cleaned : List Level) (at_ : Nat) : Prop := cleaned.getD at_ 255 < inkBelow

def Crop.Holds (crop : Crop) (imageWidth at_ : Nat) : Prop :=
  (crop.left ≤ column imageWidth at_ ∧ column imageWidth at_ < crop.left + crop.width) ∧
    crop.top ≤ row imageWidth at_ ∧ row imageWidth at_ < crop.top + crop.height

theorem mem_inkOf : at_ ∈ inkOf cleaned ↔ Inked cleaned at_ := by
  rw [inkOf, Finset.mem_filter, Finset.mem_range]
  refine ⟨fun both => both.2, fun inked => ⟨?_, inked⟩⟩
  by_contra outside
  rw [Inked, List.getD_eq_getElem?_getD, List.getElem?_eq_none (Nat.le_of_not_lt outside)] at inked
  exact absurd inked (by decide)

theorem cleanedLevels_length (grey paper : GreyImage width height) : (cleanedLevels grey paper).length = width * height := by
  rw [cleanedLevels, List.length_map, List.length_range]

theorem IsComponent.sub {shape : Finset Nat} (component : IsComponent width ink shape) (here : at_ ∈ shape) : at_ ∈ ink := by
  obtain ⟨start, inked, members⟩ := component
  exact Connected.mem inked ((members at_).mp here)

/-- Noise apart, the ink is what it was. -/
theorem PiecesFound.inked (spec : PiecesFound width (inkOf cleaned) cleaned noiseArea shapes found after)
    (inImage : ∀ v ∈ inkOf cleaned, v < width * height) :
    Inked after at_ ↔ ∃ shape ∈ shapes, at_ ∈ shape := by
  have large : ∀ {shape}, shape ∈ shapes → at_ ∈ shape → after[at_]? = cleaned[at_]? := by
    intro shape member here
    obtain ⟨component, large⟩ := (spec.components shape).mp member
    refine spec.kept at_ fun other component' there => ?_
    rwa [← component.eq component' here there]
  have same : after[at_]? = cleaned[at_]? → (Inked after at_ ↔ at_ ∈ inkOf cleaned) := by
    intro same
    rw [mem_inkOf, Inked, Inked, List.getD_eq_getElem?_getD, List.getD_eq_getElem?_getD, same]
  constructor
  · intro inked
    by_cases before : at_ ∈ inkOf cleaned
    · obtain ⟨pixels, member, here⟩ := (components_spec inImage).2.1 at_ before
      obtain ⟨-, -, component⟩ := (components_spec inImage).1 pixels member
      have here := List.mem_toFinset.mpr here
      by_cases small : pixels.toFinset.card < noiseArea
      · rw [Inked, List.getD_eq_getElem?_getD, spec.whitened _ component small at_ here] at inked
        cases present : cleaned[at_]? with
        | none =>
          rw [present] at inked
          exact absurd inked (by decide)
        | some level =>
          rw [present] at inked
          exact absurd inked (show ¬ (255 : Level) < inkBelow by decide)
      · exact ⟨_, (spec.components _).mpr ⟨component, Nat.le_of_not_lt small⟩, here⟩
    · refine absurd ((same (spec.kept at_ fun shape component here => ?_)).mp inked) before
      exact absurd (component.sub here) before
  · rintro ⟨shape, member, here⟩
    exact (same (large member here)).mpr (((spec.components shape).mp member).1.sub here)

/-- The margin is no wider than the reach, on any image of that size. -/
theorem margin_le_reach {side longest : Nat} (le : side ≤ longest) (large : 60 ≤ longest) :
    round (side * (1 / 50)) + 2 ≤ round (longest * reachShare) := by
  unfold round reachShare
  rw [← Int.floor_add_intCast]
  refine Int.floor_le_floor ?_
  have le : (side : ℚ) ≤ longest := by exact_mod_cast le
  have large : (60 : ℚ) ≤ longest := by exact_mod_cast large
  push_cast
  linarith

theorem round_nonneg {value : ℚ} (positive : 0 ≤ value) : 0 ≤ round value := Int.floor_nonneg.mpr (by linarith)

/-- What lies near a box that is kept lies in the crop around it, and a crop's margin is no wider than the reach. -/
theorem cropAround_holds {pixel : Nat} (inImage : pixel < width * height) (inside : (pixelBox width pixel).Inside box) :
    (cropAround width height cleaned box).Holds width pixel := by
  have x := column_lt inImage
  have y := row_lt inImage
  have margin : 0 ≤ round (min width height * (1 / 50)) := round_nonneg (by positivity)
  unfold Box.Inside pixelBox at inside
  unfold cropAround Crop.Holds
  dsimp only at *
  omega

theorem cropAround_far {reach : Int} {piece : Box} {pixel : Nat} (narrow : round (min width height * (1 / 50)) + 2 ≤ reach)
    (inside : (pixelBox width pixel).Inside piece) (far : box.gapX piece > reach ∨ box.gapY piece > reach) :
    ¬ (cropAround width height cleaned box).Holds width pixel := by
  have margin : 0 ≤ round (min width height * (1 / 50)) := round_nonneg (by positivity)
  unfold Box.Inside pixelBox at inside
  unfold Box.gapX Box.gapY at far
  unfold cropAround Crop.Holds
  dsimp only at *
  omega

/-- A crop within the image, in which what prints as ink is whole components of the ink, all of each. -/
structure CropOf (imageWidth imageHeight : Nat) (ink : Finset Nat) (crop : Crop) (kept : List (Finset Nat)) : Prop where
  inImage : 0 ≤ crop.left ∧ 0 ≤ crop.top ∧ crop.left + crop.width ≤ imageWidth ∧ crop.top + crop.height ≤ imageHeight
  components : ∀ shape ∈ kept, IsComponent imageWidth ink shape ∧ SIGNATURE_CLEANING.noiseArea ≤ shape.card
  whole : ∀ shape ∈ kept, ∀ pixel ∈ shape, crop.Holds imageWidth pixel
  only : ∀ pixel < imageWidth * imageHeight, crop.Holds imageWidth pixel →
    (Inked crop.cleaned pixel ↔ ∃ shape ∈ kept, pixel ∈ shape)

theorem signatureReach_nonneg (width height : Nat) : 0 ≤ signatureReach width height :=
  round_nonneg (mul_nonneg (Nat.cast_nonneg _) (by norm_num [reachShare]))

theorem cleanedBy_inImage (grey : GreyImage width height) : ∀ v ∈ inkOf (cleanedBy grey), v < width * height := by
  intro v inked
  rw [← cleanedLevels_length grey (grey.closing (signatureWindow width height))]
  exact Finset.mem_range.mp (Finset.mem_filter.mp inked).1

/-- The components that the pieces kept were measured from. -/
def shapesOf (found : List Piece) (shapes : List (Finset Nat)) (members : List Piece) : List (Finset Nat) :=
  ((found.zip shapes).filter fun pair => decide (pair.1 ∈ members)).map (·.2)

/-- A wide enough signature's crop holds it whole, and nothing else that prints. -/
theorem cropAround_crop {kept : Kept} {members : List Piece} {first : Piece} {rest : List Piece}
    (inImage : ∀ v ∈ inkOf cleaned, v < width * height)
    (spec : PiecesFound width (inkOf cleaned) cleaned SIGNATURE_CLEANING.noiseArea shapes (first :: rest) after)
    (signature : SignatureOf (signatureReach width height) (first :: rest) (largest first rest) kept members)
    (wide : ¬ kept.box.maxX - kept.box.minX + 1 < minInkWidth) :
    CropOf width height (inkOf cleaned) (cropAround width height after kept.box) (shapesOf (first :: rest) shapes members) := by
  have positive := signatureReach_nonneg width height
  obtain ⟨paired, measured⟩ := List.forall₂_iff_zip.mp spec.measured
  -- a shape of its piece, and a piece of its shape
  have pieceOf : ∀ shape ∈ shapes, ∃ piece, (piece, shape) ∈ (first :: rest).zip shapes := by
    intro shape member
    rw [← List.map_snd_zip paired.ge] at member
    obtain ⟨pair, there, rfl⟩ := List.mem_map.mp member
    exact ⟨pair.1, there⟩
  have shapeOf : ∀ piece ∈ first :: rest, ∃ shape, (piece, shape) ∈ (first :: rest).zip shapes := by
    intro piece member
    rw [← List.map_fst_zip paired.le] at member
    obtain ⟨pair, there, rfl⟩ := List.mem_map.mp member
    exact ⟨pair.2, there⟩
  have pixels : ∀ {piece shape}, (piece, shape) ∈ (first :: rest).zip shapes → ∀ pixel ∈ shape, pixel < width * height := by
    intro piece shape member pixel here
    exact inImage pixel (((spec.components shape).mp (List.of_mem_zip member).2).1.sub here)
  have around : ∀ piece ∈ first :: rest, piece.toBox.Inside ⟨0, 0, width - 1, height - 1⟩ := by
    intro piece member
    obtain ⟨shape, both⟩ := shapeOf piece member
    refine (measured both).2.least _ fun pixel here => ?_
    have x := column_lt (pixels both pixel here)
    have y := row_lt (pixels both pixel here)
    unfold Box.Inside pixelBox
    dsimp only
    omega
  have large : 60 ≤ max width height := by
    obtain ⟨left, inLeft, same⟩ := signature.box.left
    obtain ⟨right, inRight, same'⟩ := signature.box.right
    have one := around left (signature.sub left inLeft)
    have two := around right (signature.sub right inRight)
    unfold Box.Inside at one two
    unfold minInkWidth at wide
    dsimp only at one two
    omega
  have narrow : round (min width height * (1 / 50)) + 2 ≤ signatureReach width height := margin_le_reach min_le_max large
  have closed : ∀ piece ∈ first :: rest, NearTo (signatureReach width height) {piece | piece ∈ members} piece → piece ∈ members := by
    intro piece member near
    have there : piece ∈ gather (signatureReach width height) (first :: rest) (largest first rest) {piece | piece ∈ members} := .inr ⟨member, near⟩
    rw [signature.least, OrderHom.map_lfp, ← signature.least] at there
    exact there
  refine ⟨?_, ?_, ?_, ?_⟩
  · unfold cropAround
    dsimp only
    omega
  · intro shape member
    obtain ⟨pair, there, rfl⟩ := List.mem_map.mp member
    exact (spec.components _).mp (List.of_mem_zip (List.mem_filter.mp there).1).2
  · intro shape member pixel here
    obtain ⟨pair, there, rfl⟩ := List.mem_map.mp member
    obtain ⟨both, chosen⟩ := List.mem_filter.mp there
    refine cropAround_holds (pixels both pixel here) (((measured both).2.holds pixel here).trans ?_)
    exact signature.box.holds pair.1 (of_decide_eq_true chosen)
  · intro pixel inside held
    rw [show (cropAround width height after kept.box).cleaned = after from rfl, spec.inked inImage]
    constructor
    · rintro ⟨shape, member, here⟩
      obtain ⟨piece, both⟩ := pieceOf shape member
      refine ⟨shape, List.mem_map.mpr ⟨(piece, shape), List.mem_filter.mpr ⟨both, decide_eq_true ?_⟩, rfl⟩, here⟩
      refine closed piece (List.of_mem_zip both).1 ((signature.box.near positive piece).mp fun far => ?_)
      exact cropAround_far narrow ((measured both).2.holds pixel here) far held
    · rintro ⟨shape, member, here⟩
      obtain ⟨pair, there, rfl⟩ := List.mem_map.mp member
      exact ⟨pair.2, (List.of_mem_zip (List.mem_filter.mp there).1).2, here⟩

/-- What is said of the pieces kept. -/
inductive Judged (width height : Nat) (ink : Finset Nat) (after : List Level) (kept : Kept) (signature : List (Finset Nat)) :
    Except Refusal Crop → Prop
  | few : kept.area < minInk → Judged width height ink after kept signature (.error .NO_SIGNATURE_FOUND)
  | dense : minInk ≤ kept.area →
      (kept.area : ℚ) / ((cropAround width height after kept.box).width * (cropAround width height after kept.box).height) > maxInkShare →
        Judged width height ink after kept signature (.error .NOT_A_SIGNATURE)
  | narrow : minInk ≤ kept.area → kept.box.maxX - kept.box.minX + 1 < minInkWidth →
      Judged width height ink after kept signature (.error .SIGNATURE_TOO_SMALL)
  | accepted (crop : Crop) : minInk ≤ kept.area → crop.cleaned = after → CropOf width height ink crop signature →
      Judged width height ink after kept signature (.ok crop)

/-- Of every grey image: its pieces are the ink's components, the signature the least set of them that reaches no further, and a crop
that is accepted prints all of that signature and nothing else. -/
theorem analyseSignature_spec (grey : GreyImage width height) :
    ∃ shapes found after, PiecesFound width (inkOf (cleanedBy grey)) (cleanedBy grey) SIGNATURE_CLEANING.noiseArea shapes found after ∧
      (found = [] ∧ analyseSignature grey = .error .NO_SIGNATURE_FOUND ∨
        ∃ first rest kept members, found = first :: rest ∧
          SignatureOf (signatureReach width height) found (largest first rest) kept members ∧
            Judged width height (inkOf (cleanedBy grey)) after kept (shapesOf found shapes members) (analyseSignature grey)) := by
  obtain ⟨shapes, spec⟩ := pieces_found (cleanedBy_inImage grey) (cleanedBy grey) SIGNATURE_CLEANING.noiseArea
  refine ⟨shapes, _, _, spec, ?_⟩
  unfold analyseSignature
  generalize pieces width height (inkOf (cleanedBy grey)) (cleanedBy grey) SIGNATURE_CLEANING.noiseArea = ran at *
  obtain ⟨found, after⟩ := ran
  cases found with
  | nil => exact .inl ⟨rfl, rfl⟩
  | cons first rest =>
    dsimp only at spec ⊢
    have distinct : ((first :: rest).map (·.id)).Nodup := by
      rw [spec.numbered]
      exact List.nodup_range'
    obtain ⟨members, signature⟩ := signaturePieces_spec (signatureReach_nonneg width height) distinct
    refine .inr ⟨first, rest, _, members, rfl, signature, ?_⟩
    generalize signaturePieces first rest (signatureReach width height) = kept at *
    split_ifs with few dense small
    · exact .few few
    · exact .dense (Nat.le_of_not_lt few) dense
    · exact .narrow (Nat.le_of_not_lt few) small
    · exact .accepted _ (Nat.le_of_not_lt few) rfl (cropAround_crop (cleanedBy_inImage grey) spec signature small)

end

end LetterIRL.Signature
