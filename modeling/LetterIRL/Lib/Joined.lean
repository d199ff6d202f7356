import Mathlib.Data.List.Infix
import Mathlib.Tactic

namespace LetterIRL.Lib

/-! Parts of a text joined by a separator, and texts split where it is doubled. -/

section
variable {α : Type*} [DecidableEq α] {sep : α}

/-- The text split at every two separators, from the left. -/
def splitPair (sep : α) : List α → List (List α)
  | [] => [[]]
  | [one] => [[one]]
  | one :: two :: rest =>
    if one = sep ∧ two = sep then [] :: splitPair sep rest else (splitPair sep (two :: rest)).modifyHead (one :: ·)

/-- Parts that are not empty, and have no separator in them. -/
def Parts (sep : α) (parts : List (List α)) : Prop := ∀ part ∈ parts, part ≠ [] ∧ sep ∉ part

theorem splitPair_ne_nil (sep : α) (text : List α) : splitPair sep text ≠ [] := by
  induction text using splitPair.induct sep with
  | case1 => exact List.cons_ne_nil _ _
  | case2 one => exact List.cons_ne_nil _ _
  | case3 one two rest pair ih =>
    rw [splitPair, if_pos pair]
    exact List.cons_ne_nil _ _
  | case4 one two rest single ih =>
    obtain ⟨first, others, same⟩ := List.exists_cons_of_ne_nil ih
    rw [splitPair, if_neg single, same]
    exact List.cons_ne_nil _ _

/-- What a text was split into makes it again. -/
theorem intercalate_splitPair (sep : α) (text : List α) : [sep, sep].intercalate (splitPair sep text) = text := by
  induction text using splitPair.induct sep with
  | case1 => rfl
  | case2 one => rfl
  | case3 one two rest pair ih =>
    obtain ⟨rfl, rfl⟩ := pair
    rw [splitPair, if_pos ⟨rfl, rfl⟩, List.intercalate_cons_of_ne_nil (splitPair_ne_nil _ _), ih]
    rfl
  | case4 one two rest single ih =>
    obtain ⟨first, others, same⟩ := List.exists_cons_of_ne_nil (splitPair_ne_nil sep (two :: rest))
    rw [splitPair, if_neg single, same, List.modifyHead_cons]
    rw [same] at ih
    cases others with
    | nil =>
      rw [List.intercalate_singleton] at ih ⊢
      rw [ih]
    | cons second others =>
      rw [List.intercalate_cons_cons] at ih ⊢
      rw [List.cons_append, List.cons_append, ih]

theorem splitPair_cons {one : α} {text : List α} (single : one = sep → text.head? ≠ some sep) :
    splitPair sep (one :: text) = (splitPair sep text).modifyHead (one :: ·) := by
  cases text with
  | nil => rfl
  | cons two rest =>
    rw [splitPair, if_neg]
    rintro ⟨same, rfl⟩
    exact single same rfl

theorem splitPair_append {word text : List α} (plain : sep ∉ word) :
    splitPair sep (word ++ text) = (splitPair sep text).modifyHead (word ++ ·) := by
  induction word with
  | nil =>
    rw [List.nil_append]
    generalize splitPair sep text = parts
    cases parts with
    | nil => rfl
    | cons first others => rfl
  | cons one word ih =>
    rw [List.cons_append, splitPair_cons, ih (fun member => plain (List.mem_cons_of_mem _ member)), List.modifyHead_modifyHead]
    · rfl
    · rintro rfl
      exact absurd (List.mem_cons_self) plain

omit [DecidableEq α] in
/-- Joined parts never begin with the separator. -/
theorem joined_head {part : List α} {parts : List (List α)} (plain : Parts sep (part :: parts)) (text : List α) :
    ([sep].intercalate (part :: parts) ++ text).head? ≠ some sep := by
  obtain ⟨some_, none_⟩ := plain part List.mem_cons_self
  obtain ⟨one, word, rfl⟩ := List.exists_cons_of_ne_nil some_
  have apart : one ≠ sep := by
    rintro rfl
    exact none_ List.mem_cons_self
  cases parts with
  | nil => simpa [List.intercalate_singleton] using apart
  | cons second parts => simpa [List.intercalate_cons_cons] using apart

/-- Parts joined are not split, before a text that is. -/
theorem splitPair_joined {parts : List (List α)} (plain : Parts sep parts) (some_ : parts ≠ []) {text : List α} :
    splitPair sep ([sep].intercalate parts ++ text) = (splitPair sep text).modifyHead ([sep].intercalate parts ++ ·) := by
  induction parts with
  | nil => exact absurd rfl some_
  | cons part parts ih =>
    have none_ := (plain part List.mem_cons_self).2
    cases parts with
    | nil =>
      rw [List.intercalate_singleton]
      exact splitPair_append none_
    | cons second parts =>
      have rest : Parts sep (second :: parts) := fun part member => plain part (List.mem_cons_of_mem _ member)
      rw [List.intercalate_cons_cons, List.append_assoc, List.append_assoc, splitPair_append none_, List.singleton_append,
        splitPair_cons (fun _ => joined_head rest text), ih rest (List.cons_ne_nil _ _), List.modifyHead_modifyHead, List.modifyHead_modifyHead]
      congr 1
      funext first
      simp only [Function.comp_apply, List.append_assoc, List.cons_append, List.nil_append]

theorem splitPair_none {parts : List (List α)} (plain : Parts sep parts) :
    splitPair sep ([sep].intercalate parts) = [[sep].intercalate parts] := by
  by_cases none_ : parts = []
  · subst none_
    rfl
  · have split : splitPair sep ([sep].intercalate parts ++ []) = _ := splitPair_joined plain none_
    rw [List.append_nil] at split
    rw [split]
    simp [splitPair]

/-- Two texts of joined parts with two separators between are split there. -/
theorem splitPair_one {left right : List (List α)} (plain : Parts sep left) (plain' : Parts sep right) :
    splitPair sep ([sep].intercalate left ++ sep :: sep :: [sep].intercalate right) =
      [[sep].intercalate left, [sep].intercalate right] := by
  have split : splitPair sep (sep :: sep :: [sep].intercalate right) = [[], [sep].intercalate right] := by
    rw [splitPair, if_pos ⟨rfl, rfl⟩, splitPair_none plain']
  by_cases none_ : left = []
  · subst none_
    exact split
  · rw [splitPair_joined plain none_, split]
    simp

/-- The part after the last separator is one. -/
theorem last_part_inj {before before' last last' : List α} (plain : sep ∉ last) (plain' : sep ∉ last')
    (same : before ++ sep :: last = before' ++ sep :: last') : before = before' ∧ last = last' := by
  have reversed := congrArg List.reverse same
  simp only [List.reverse_append, List.reverse_cons, List.append_assoc, List.singleton_append] at reversed
  have taken := congrArg (List.takeWhile (· ≠ sep)) reversed
  have dropped := congrArg (List.dropWhile (· ≠ sep)) reversed
  have all : ∀ word : List α, sep ∉ word → ∀ one ∈ word.reverse, (decide (one ≠ sep)) = true := by
    intro word plain one member
    have apart : one ≠ sep := by
      rintro rfl
      exact plain (List.mem_reverse.mp member)
    simpa using apart
  rw [List.takeWhile_append_of_pos (all _ plain), List.takeWhile_append_of_pos (all _ plain')] at taken
  rw [List.dropWhile_append_of_pos (all _ plain), List.dropWhile_append_of_pos (all _ plain')] at dropped
  simp only [List.takeWhile_cons, ne_eq, not_true_eq_false, decide_false, if_false, Bool.false_eq_true, List.append_nil,
    List.reverse_inj] at taken
  simp only [List.dropWhile_cons, ne_eq, not_true_eq_false, decide_false, if_false, Bool.false_eq_true, List.cons.injEq,
    true_and, List.reverse_inj] at dropped
  exact ⟨dropped, taken⟩

omit [DecidableEq α] in
/-- The last part, after the others and a separator each. -/
theorem joined_last (init : List (List α)) (last : List α) :
    [sep].intercalate (init ++ [last]) = init.flatMap (· ++ [sep]) ++ last := by
  induction init with
  | nil => simp [List.intercalate_singleton]
  | cons part init ih =>
    rw [List.cons_append, List.intercalate_cons_of_ne_nil (by simp), ih, List.flatMap_cons]
    simp only [List.append_assoc]

/-- A text up to its last separator, that with it, and what is after. -/
def cutLast (sep : α) : List α → Option (List α × List α)
  | [] => none
  | one :: rest =>
    match cutLast sep rest with
    | some (before, last) => some (one :: before, last)
    | none => if one = sep then some ([one], rest) else none

theorem cutLast_none {text : List α} : cutLast sep text = none ↔ sep ∉ text := by
  induction text with
  | nil => exact iff_of_true rfl List.not_mem_nil
  | cons one rest ih =>
    rw [cutLast, List.mem_cons]
    split
    · rename_i cut
      rw [cut] at ih
      have member : sep ∈ rest := by
        by_contra none_
        cases ih.mpr none_
      exact iff_of_false nofun (fun none_ => none_ (.inr member))
    · rename_i cut
      have none_ := ih.mp cut
      split
      · rename_i same
        exact iff_of_false nofun (fun none_ => none_ (.inl same.symm))
      · rename_i apart
        refine iff_of_true rfl ?_
        rintro (same | member)
        · exact apart same.symm
        · exact none_ member

theorem cutLast_some {text before last : List α} (cut : cutLast sep text = some (before, last)) :
    ∃ init, before = init ++ [sep] ∧ text = before ++ last ∧ sep ∉ last := by
  induction text generalizing before with
  | nil => cases cut
  | cons one rest ih =>
    rw [cutLast] at cut
    split at cut
    · rename_i found
      obtain ⟨rfl, rfl⟩ := Prod.mk.inj (Option.some.inj cut)
      obtain ⟨init, rfl, rfl, plain⟩ := ih found
      exact ⟨one :: init, rfl, rfl, plain⟩
    · rename_i none_
      split at cut
      · rename_i same
        obtain ⟨rfl, rfl⟩ := Prod.mk.inj (Option.some.inj cut)
        subst same
        exact ⟨[], rfl, rfl, cutLast_none.mp none_⟩
      · cases cut

theorem cutLast_append {init last : List α} (plain : sep ∉ last) :
    cutLast sep (init ++ sep :: last) = some (init ++ [sep], last) := by
  cases cut : cutLast sep (init ++ sep :: last) with
  | none => exact absurd (List.mem_append_right _ List.mem_cons_self) (cutLast_none.mp cut)
  | some parts =>
    obtain ⟨before, after⟩ := parts
    obtain ⟨start, rfl, same, plain'⟩ := cutLast_some cut
    rw [List.append_assoc, List.singleton_append] at same
    obtain ⟨rfl, rfl⟩ := last_part_inj plain plain' same
    rfl

end

end LetterIRL.Lib
