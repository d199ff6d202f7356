import LetterIRL.Lib.Tagged

namespace LetterIRL.Render

open Lib

/-! The `<svg>` elements of a document, found by their tags. -/

/-- UTF-16 code units. -/
abbrev Text := List Nat

/-- The units of a text of the code's own. -/
def units (text : String) : Text := text.toList.map Char.toNat

/-- `\s` -/
def isSpace (unit : Nat) : Bool :=
  (9 ≤ unit && unit ≤ 13) || unit == 32 || unit == 0xa0 || unit == 0x1680 || (0x2000 ≤ unit && unit ≤ 0x200a) ||
    unit == 0x2028 || unit == 0x2029 || unit == 0x202f || unit == 0x205f || unit == 0x3000 || unit == 0xfeff

inductive Tag
  | opening
  | closing
  deriving DecidableEq

/-- `</svg>` -/
def CLOSING : Text := units "</svg>"

/-- What `/<svg\s|<\/svg>/` matches at the start of a text. -/
def tagAt (text : Text) : Option Tag :=
  if (units "<svg").isPrefixOf text && text[4]?.any isSpace then some .opening
  else if CLOSING.isPrefixOf text then some .closing
  else none

/-- `slice(start, end)` -/
def slice (text : Text) (start stop : Nat) : Text := (text.take stop).drop start

/-- The loop of `rendererDocumentPages` over the matches from `index` on. A tag holds one `<`, so no two overlap. -/
def topLevel (html : Text) (index depth start : Nat) : Text → List Text
  | [] => []
  | unit :: tail =>
    match tagAt (unit :: tail) with
    | none => topLevel html (index + 1) depth start tail
    | some .closing =>
      match depth with
      | 0 => topLevel html (index + 1) 0 start tail
      | 1 => slice html start (index + 6) :: topLevel html (index + 1) 0 start tail
      | depth + 2 => topLevel html (index + 1) (depth + 1) start tail
    | some .opening => topLevel html (index + 1) (depth + 1) (if depth = 0 then index else start) tail

def RENDERER_MARK : Text := units "<body data-renderer=\""

def rendererDocumentPages : Option Text → List Text
  | none => []
  | some html => if RENDERER_MARK <:+: html then topLevel html 0 0 0 html else []

/-- From inside `depth` elements, the text ends with the tag that closes the outermost of them, and not before. -/
def closes (depth : Nat) : Text → Bool
  | [] => false
  | unit :: tail =>
    match tagAt (unit :: tail) with
    | none => closes depth tail
    | some .closing => if depth ≤ 1 then unit :: tail == CLOSING else closes (depth - 1) tail
    | some .opening => closes (depth + 1) tail

/-- One `<svg>` element, from its opening tag to the closing tag that belongs to it. -/
def Balanced (page : Text) : Prop := tagAt page = some .opening ∧ closes 1 page.tail = true

instance (page : Text) : Decidable (Balanced page) := inferInstanceAs (Decidable (_ ∧ _))

/-- No `<svg` and no `</svg` in the text, nor the start of one at its end. -/
def silent (text : Text) : Bool := without 60 (units "svg") text && without 60 (units "/svg") text

variable {text page after : Text} {depth index start : Nat}

theorem units_opening : units "<svg" = [60, 115, 118, 103] := by decide +kernel

theorem units_closing : CLOSING = [60, 47, 115, 118, 103, 62] := by decide +kernel

theorem tagAt_opening : tagAt text = some .opening ↔ ∃ unit rest, isSpace unit = true ∧ text = units "<svg" ++ unit :: rest := by
  unfold tagAt
  constructor
  · intro found
    split at found
    · rename_i begun
      rw [Bool.and_eq_true, List.isPrefixOf_iff_prefix] at begun
      obtain ⟨⟨rest, whole⟩, fifth⟩ := begun
      rw [← whole] at fifth ⊢
      cases rest with
      | nil => exact absurd fifth (by decide)
      | cons unit rest => exact ⟨unit, rest, by simpa [units_opening] using fifth, rfl⟩
    · split at found <;> simp at found
  · rintro ⟨unit, rest, space, rfl⟩
    rw [if_pos]
    rw [Bool.and_eq_true, List.isPrefixOf_iff_prefix]
    exact ⟨List.prefix_append _ _, by simpa [units_opening] using space⟩

theorem tagAt_closing : tagAt text = some .closing ↔ CLOSING <+: text := by
  constructor
  · intro found
    unfold tagAt at found
    split at found
    · simp at found
    · split at found
      · exact List.isPrefixOf_iff_prefix.mp ‹_›
      · simp at found
  · rintro ⟨rest, rfl⟩
    have notOpening : tagAt (CLOSING ++ rest) ≠ some .opening := by
      intro opening
      obtain ⟨unit, more, _, whole⟩ := tagAt_opening.mp opening
      simp [units_closing, units_opening] at whole
    unfold tagAt at notOpening ⊢
    rw [if_neg (fun opening => notOpening (if_pos opening)), if_pos]
    exact List.isPrefixOf_iff_prefix.mpr (List.prefix_append _ _)

/-- A text with a `>` decides the tag at its start. -/
theorem tagAt_append (ended : 62 ∈ text) (after : Text) : tagAt (text ++ after) = tagAt text := by
  have closing : tagAt (text ++ after) = some .closing ↔ tagAt text = some .closing := by
    rw [tagAt_closing, tagAt_closing]
    exact prefix_inside ended (by decide)
  have opening : tagAt (text ++ after) = some .opening ↔ tagAt text = some .opening := by
    rw [tagAt_opening, tagAt_opening]
    constructor
    · rintro ⟨unit, rest, space, whole⟩
      have begun : units "<svg" ++ [unit] <+: text ++ after := ⟨rest, by rw [whole]; simp⟩
      have only : 62 ∉ (units "<svg" ++ [unit]).dropLast := by
        rw [List.dropLast_concat]
        decide
      obtain ⟨more, inside⟩ := (prefix_inside ended only).mp begun
      exact ⟨unit, more, space, by rw [← inside]; simp⟩
    · rintro ⟨unit, rest, space, whole⟩
      exact ⟨unit, rest ++ after, space, by rw [whole]; simp⟩
  match here : tagAt text with
  | some .opening => exact opening.mpr here
  | some .closing => exact closing.mpr here
  | none =>
    match there : tagAt (text ++ after) with
    | some .opening => rw [opening.mp there] at here; simp at here
    | some .closing => rw [closing.mp there] at here; simp at here
    | none => rfl

example : tagAt (units "<svg width=") = some .opening := by decide +kernel

theorem tagAt_silent {unit : Nat} {tail : Text} (quiet : silent (unit :: tail) = true) (after : Text) :
    tagAt (unit :: tail ++ after) = none := by
  obtain ⟨noOpening, noClosing⟩ := Bool.and_eq_true_iff.mp quiet
  match found : tagAt (unit :: tail ++ after) with
  | none => rfl
  | some .opening =>
    obtain ⟨fifth, rest, _, whole⟩ := tagAt_opening.mp found
    obtain ⟨head, tail_⟩ := List.cons.inj whole
    rw [head] at noOpening
    exact absurd ⟨fifth :: rest, tail_.symm⟩ (without_unmatched noOpening after)
  | some .closing =>
    obtain ⟨rest, whole⟩ := tagAt_closing.mp found
    obtain ⟨head, tail_⟩ := List.cons.inj whole
    rw [← head] at noClosing
    exact absurd ⟨62 :: rest, tail_⟩ (without_unmatched noClosing after)

theorem silent_tail {unit : Nat} {tail : Text} (quiet : silent (unit :: tail) = true) : silent tail = true := by
  obtain ⟨noOpening, noClosing⟩ := Bool.and_eq_true_iff.mp quiet
  exact Bool.and_eq_true_iff.mpr ⟨(without_cons.mp noOpening).2, (without_cons.mp noClosing).2⟩

theorem silent_append {before : Text} (first : silent before = true) (second : silent after = true) :
    silent (before ++ after) = true := by
  obtain ⟨first, first'⟩ := Bool.and_eq_true_iff.mp first
  obtain ⟨second, second'⟩ := Bool.and_eq_true_iff.mp second
  exact Bool.and_eq_true_iff.mpr ⟨without_append first second, without_append first' second'⟩

theorem silent_plain (plain : 60 ∉ text) : silent text = true :=
  Bool.and_eq_true_iff.mpr ⟨without_of_not_mem plain, without_of_not_mem plain⟩

/-- Silent text between the elements is passed by. -/
theorem topLevel_silent (html : Text) (quiet : silent text = true) :
    topLevel html index depth start (text ++ after) = topLevel html (index + text.length) depth start after := by
  induction text generalizing index with
  | nil => rfl
  | cons unit tail ih =>
    have none_ := tagAt_silent quiet after
    rw [List.cons_append] at none_ ⊢
    simp only [topLevel, none_]
    rw [ih (silent_tail quiet), List.length_cons]
    exact congrArg (topLevel html · depth start after) (by omega)

theorem closes_silent (quiet : silent text = true) : closes depth (text ++ after) = closes depth after := by
  induction text with
  | nil => rfl
  | cons unit tail ih =>
    have none_ := tagAt_silent quiet after
    rw [List.cons_append] at none_ ⊢
    simp only [closes, none_]
    exact ih (silent_tail quiet)

theorem closes_opening {unit : Nat} (space : isSpace unit = true) :
    closes depth (units "<svg" ++ unit :: after) = closes (depth + 1) after := by
  have opening : tagAt (units "<svg" ++ unit :: after) = some .opening := tagAt_opening.mpr ⟨unit, after, space, rfl⟩
  have plain : 60 ∉ units "svg" ++ [unit] := by
    rw [List.mem_append, List.mem_singleton, not_or]
    refine ⟨by decide, fun same => ?_⟩
    rw [← same] at space
    exact absurd space (by decide)
  have passed : closes (depth + 1) (units "svg" ++ [unit] ++ after) = closes (depth + 1) after :=
    closes_silent (silent_plain plain)
  rw [List.append_assoc] at passed
  rw [← passed]
  show closes depth (60 :: (units "svg" ++ unit :: after)) = _
  simp only [closes, show tagAt (60 :: (units "svg" ++ unit :: after)) = _ from opening]
  rfl

theorem closes_closing : closes (depth + 2) (CLOSING ++ after) = closes (depth + 1) after := by
  have closing : tagAt (CLOSING ++ after) = some .closing := tagAt_closing.mpr (List.prefix_append _ _)
  have passed : closes (depth + 1) (units "/svg>" ++ after) = closes (depth + 1) after :=
    closes_silent (silent_plain (by decide))
  rw [← passed]
  show closes (depth + 2) (60 :: (units "/svg>" ++ after)) = _
  simp only [closes, show tagAt (60 :: (units "/svg>" ++ after)) = _ from closing]
  rw [if_neg (by omega)]
  rfl

theorem closes_suffix (closed : closes depth text = true) : CLOSING <:+ text := by
  induction text generalizing depth with
  | nil => exact absurd closed (by simp [closes])
  | cons unit tail ih =>
    have later {depth : Nat} (closed : closes depth tail = true) : CLOSING <:+ unit :: tail :=
      (ih closed).trans (List.suffix_cons unit tail)
    simp only [closes] at closed
    split at closed
    · exact later closed
    · split at closed
      · rw [eq_of_beq closed]
      · exact later closed
    · exact later closed

theorem closes_ended (closed : closes depth text = true) : 62 ∈ text :=
  (closes_suffix closed).subset (by decide)

/-- The rest of an element is read to its closing tag, whatever follows it. -/
theorem topLevel_closes (html : Text) (inside : 0 < depth) (closed : closes depth text = true) :
    topLevel html index depth start (text ++ after) =
      slice html start (index + text.length) :: topLevel html (index + text.length) 0 start after := by
  induction text generalizing depth index with
  | nil => exact absurd closed (by simp [closes])
  | cons unit tail ih =>
    have same := tagAt_append (closes_ended closed) after
    have onward : index + 1 + tail.length = index + (unit :: tail).length := by rw [List.length_cons]; omega
    rw [List.cons_append] at same ⊢
    simp only [closes] at closed
    simp only [topLevel, same]
    split at closed
    · rw [ih inside closed, onward]
    · split at closed
      · have last : depth = 1 := by omega
        have whole : unit :: tail = CLOSING := eq_of_beq closed
        have rest : tail = units "/svg>" := (List.cons.inj whole).2
        subst last
        rw [rest, topLevel_silent html (silent_plain (by decide))]
        rfl
      · obtain ⟨deeper, rfl⟩ : ∃ deeper, depth = deeper + 2 := ⟨depth - 2, by omega⟩
        have fewer : deeper + 2 - 1 = deeper + 1 := by omega
        rw [fewer] at closed
        show topLevel html (index + 1) (deeper + 1) start (tail ++ after) = _
        rw [ih (Nat.succ_pos deeper) closed, onward]
    · rw [if_neg (by omega : ¬ depth = 0), ih (Nat.succ_pos depth) closed, onward]

theorem Balanced.opens (balanced : Balanced page) : ∃ unit tail, page = unit :: tail ∧
    tagAt (unit :: tail) = some .opening ∧ closes 1 tail = true := by
  obtain ⟨opening, closed⟩ := balanced
  cases page with
  | nil => exact absurd opening (by decide)
  | cons unit tail => exact ⟨unit, tail, rfl, opening, closed⟩

theorem topLevel_balanced (html : Text) (balanced : Balanced page) :
    topLevel html index 0 start (page ++ after) =
      slice html index (index + page.length) :: topLevel html (index + page.length) 0 index after := by
  obtain ⟨unit, tail, rfl, opening, closed⟩ := balanced.opens
  have ended : 62 ∈ unit :: tail := List.mem_cons_of_mem _ (closes_ended closed)
  have same := tagAt_append ended after
  have onward : index + 1 + tail.length = index + (unit :: tail).length := by rw [List.length_cons]; omega
  rw [List.cons_append, opening] at same
  rw [List.cons_append]
  simp only [topLevel, same]
  rw [if_pos True.intro, topLevel_closes html Nat.one_pos closed, onward]

theorem slice_append {before : Text} : slice (before ++ page ++ after) before.length (before.length + page.length) = page := by
  unfold slice
  rw [← List.length_append, List.take_left, List.drop_left]

/-- What stands between the tags met so far and the end of an element, as it is read on. -/
theorem topLevel_each (html : Text) {before opened rest : Text} (whole : html = before ++ opened ++ rest)
    (at_ : start = before.length) (here : index = start + opened.length)
    (begun : 0 < depth → ∀ more, more <+: rest → closes depth more = true → Balanced (opened ++ more)) :
    ∀ found ∈ topLevel html index depth start rest, Balanced found := by
  induction rest generalizing index depth start before opened with
  | nil => exact fun _ member => (nomatch member)
  | cons unit tail ih =>
    have further : html = before ++ (opened ++ [unit]) ++ tail := by rw [whole]; simp
    have next : index + 1 = start + (opened ++ [unit]).length := by
      rw [here, List.length_append, List.length_singleton, Nat.add_assoc]
    -- An element read on from here is read on from the next unit too.
    have onward {deeper : Nat} (same : ∀ more, closes deeper more = true → more <+: tail →
        closes depth (unit :: more) = true) (inside : 0 < depth) (more : Text) (read : more <+: tail)
        (closed : closes deeper more = true) : Balanced (opened ++ [unit] ++ more) := by
      have element := begun inside (unit :: more) (List.cons_prefix_cons.mpr ⟨rfl, read⟩) (same more closed read)
      rwa [List.append_assoc]
    have seen {deeper : Nat} {more : Text} (closed : closes deeper more = true) (read : more <+: tail) :
        tagAt (unit :: tail) = tagAt (unit :: more) := by
      obtain ⟨after, rfl⟩ := read
      have ended : 62 ∈ unit :: more := List.mem_cons_of_mem _ (closes_ended closed)
      exact tagAt_append ended after
    simp only [topLevel]
    split
    · rename_i none_
      refine ih further at_ next (onward fun more closed read => ?_)
      rw [seen closed read] at none_
      simp only [closes, none_, closed]
    · rename_i closing
      split
      · exact ih further at_ next fun inside => absurd inside (lt_irrefl 0)
      · intro found member
        rcases List.mem_cons.mp member with rfl | later
        · obtain ⟨after, read⟩ := tagAt_closing.mp closing
          have element := begun Nat.one_pos CLOSING ⟨after, read⟩ (by decide)
          have stop : index + 6 = start + (opened ++ CLOSING).length := by
            rw [here, List.length_append, Nat.add_assoc]
            rfl
          rw [whole, ← read, at_] at *
          rw [stop, ← List.append_assoc, List.append_assoc before, slice_append]
          exact element
        · exact ih further at_ next (fun inside => absurd inside (lt_irrefl 0)) found later
      · rename_i depth
        refine ih further at_ next fun _ => onward (fun more closed read => ?_) (Nat.succ_pos _)
        rw [seen closed read] at closing
        simp only [closes, closing]
        rw [if_neg (by omega)]
        exact closed
    · rename_i opening
      by_cases outside : depth = 0
      · rw [outside, if_pos rfl]
        have begins : html = before ++ opened ++ [unit] ++ tail := by rw [whole]; simp
        have length : index = (before ++ opened).length := by rw [here, at_, List.length_append]
        refine ih begins length rfl fun _ more read closed => ⟨?_, closed⟩
        exact (seen closed read).symm.trans opening
      · rw [if_neg outside]
        refine ih further at_ next fun _ => onward (fun more closed read => ?_) (Nat.pos_of_ne_zero outside)
        rw [seen closed read] at opening
        simp only [closes, opening, closed]

/-- Every page read out of a document, whatever the document, is one element. -/
theorem balanced_of_read {html : Option Text} (read : page ∈ rendererDocumentPages html) : Balanced page := by
  cases html with
  | none => nomatch read
  | some html =>
    rw [rendererDocumentPages] at read
    by_cases ours : RENDERER_MARK <:+: html
    · rw [if_pos ours] at read
      have whole : html = [] ++ [] ++ html := rfl
      exact topLevel_each html whole rfl rfl (fun inside => absurd inside (lt_irrefl 0)) page read
    · rw [if_neg ours] at read
      nomatch read

end LetterIRL.Render
