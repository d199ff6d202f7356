import Mathlib.Tactic

namespace LetterIRL.Lib

/-! Texts put together from pieces, and the words a mark begins in them. -/

section

variable {α : Type} [DecidableEq α] {mark : α} {word text before after : List α}

/-- No `mark` of the text begins `mark` and the word, whatever the text is followed by. -/
def without (mark : α) (word : List α) : List α → Bool
  | [] => true
  | unit :: tail => (unit != mark || !(word.isPrefixOf tail || tail.isPrefixOf word)) && without mark word tail

theorem without_cons {unit : α} {tail : List α} :
    without mark word (unit :: tail) = true ↔
      (unit = mark → ¬ word <+: tail ∧ ¬ tail <+: word) ∧ without mark word tail = true := by
  simp only [without, Bool.and_eq_true, Bool.or_eq_true, Bool.not_eq_true', bne_iff_ne, ← Bool.not_eq_true,
    List.isPrefixOf_iff_prefix, ne_eq, imp_iff_not_or, not_or]

theorem without_append (first : without mark word before = true) (second : without mark word after = true) :
    without mark word (before ++ after) = true := by
  induction before with
  | nil => exact second
  | cons unit tail ih =>
    rw [without_cons] at first
    rw [List.cons_append, without_cons]
    refine ⟨fun marked => ?_, ih first.2⟩
    obtain ⟨notBegun, notCut⟩ := first.1 marked
    refine ⟨fun begun => ?_, fun cut => notCut ((List.prefix_append tail after).trans cut)⟩
    rcases List.prefix_or_prefix_of_prefix begun (List.prefix_append tail after) with early | late
    · exact notBegun early
    · exact notCut late

theorem without_of_not_mem (plain : mark ∉ text) : without mark word text = true := by
  induction text with
  | nil => rfl
  | cons unit tail ih =>
    rw [List.mem_cons, not_or] at plain
    exact without_cons.mpr ⟨fun marked => absurd marked.symm plain.1, ih plain.2⟩

theorem without_flatten {pieces : List (List α)} (each : ∀ piece ∈ pieces, without mark word piece = true) :
    without mark word pieces.flatten = true := by
  induction pieces with
  | nil => rfl
  | cons piece pieces ih =>
    rw [List.flatten_cons]
    exact without_append (each piece List.mem_cons_self) (ih fun other member => each other (List.mem_cons_of_mem _ member))

theorem without_unmatched {tail : List α} (free : without mark word (mark :: tail) = true) (after : List α) :
    ¬ word <+: tail ++ after := by
  intro begun
  obtain ⟨notBegun, notCut⟩ := (without_cons.mp free).1 rfl
  rcases List.prefix_or_prefix_of_prefix begun (List.prefix_append tail after) with early | late
  · exact notBegun early
  · exact notCut late

omit [DecidableEq α] in
/-- A word that holds `last` only at its end does not run past a text that holds it. -/
theorem prefix_inside {last : α} (held : last ∈ text) (only : last ∉ word.dropLast) :
    word <+: text ++ after ↔ word <+: text := by
  refine ⟨fun begun => ?_, fun begun => begun.trans (List.prefix_append text after)⟩
  rcases List.prefix_or_prefix_of_prefix begun (List.prefix_append text after) with inside | past
  · exact inside
  · obtain ⟨rest, whole⟩ := past
    cases rest with
    | nil =>
      rw [List.append_nil] at whole
      rw [whole]
    | cons unit rest =>
      refine absurd ?_ only
      rw [← whole, List.dropLast_append_of_ne_nil (List.cons_ne_nil unit rest)]
      exact List.mem_append_left _ held

end

end LetterIRL.Lib
