import Mathlib.Data.List.DropRight
import Mathlib.Tactic

namespace LetterIRL.Lib.Lines

/-! The lines of a text, and those of them that show anything, whatever is trimmed from the text. -/

section Lines
variable {α : Type} (space : α → Bool)

def trim (text : List α) : List α := (text.dropWhile space).rdropWhile space

/-- The lines that show something, trimmed. -/
def visible (lines : List (List α)) : List (List α) := (lines.filter fun line => !line.all space).map (trim space)

/-- An index, past the blank lines there. -/
def pastBlank (lines : List (List α)) (index : Nat) : Nat :=
  index + ((lines.drop index).takeWhile fun line => line.all space).length

variable {space} {newline c : α} {text more line : List α} {lines front back : List (List α)}

theorem visible_append (front back : List (List α)) : visible space (front ++ back) = visible space front ++ visible space back := by
  unfold visible
  rw [List.filter_append, List.map_append]

theorem visible_cons_blank (blank : line.all space = true) : visible space (line :: lines) = visible space lines := by
  unfold visible
  rw [List.filter_cons_of_neg (by simp only [blank, Bool.not_true, Bool.false_eq_true, not_false_eq_true])]

theorem visible_nil_iff : visible space lines = [] ↔ ∀ line ∈ lines, line.all space = true := by
  unfold visible
  rw [List.map_eq_nil_iff, List.filter_eq_nil_iff]
  refine forall₂_congr fun line _ => ?_
  rw [Bool.not_eq_true', Bool.not_eq_false]

theorem visible_congr {other : List α} (blank : line.all space = other.all space) (trimmed : trim space line = trim space other) :
    visible space (line :: lines) = visible space (other :: lines) := by
  unfold visible
  rw [List.filter_cons, List.filter_cons, blank]
  split
  · rw [List.map_cons, List.map_cons, trimmed]
  · rfl

theorem all_cons_space (white : space c = true) : (c :: line).all space = line.all space := by
  rw [List.all_cons, white, Bool.true_and]

theorem trim_cons_space (white : space c = true) : trim space (c :: line) = trim space line := by
  unfold trim
  rw [List.dropWhile_cons_of_pos white]

theorem all_concat_space (white : space c = true) : (line ++ [c]).all space = line.all space := by
  rw [List.all_append, List.all_cons, white, List.all_nil, Bool.true_and, Bool.and_true]

theorem dropWhile_nil_iff : line.dropWhile space = [] ↔ line.all space = true := by
  rw [List.dropWhile_eq_nil_iff, List.all_eq_true]

theorem trim_concat_space (white : space c = true) : trim space (line ++ [c]) = trim space line := by
  unfold trim
  rw [List.dropWhile_append]
  split
  · rename_i gone
    rw [List.isEmpty_iff.mp gone, List.dropWhile_cons_of_pos white, List.dropWhile_nil]
  · exact List.rdropWhile_concat_pos _ _ _ white

variable [DecidableEq α]

/-- White space before a text adds no visible line. -/
theorem visible_cons_space (white : space c = true) :
    visible space ((c :: text).splitOn newline) = visible space (text.splitOn newline) := by
  rw [List.splitOn_cons_eq_if_modifyHead]
  split
  · exact visible_cons_blank rfl
  · obtain ⟨line, lines, split⟩ := List.exists_cons_of_ne_nil (List.splitOn_ne_nil newline text)
    rw [split, List.modifyHead_cons]
    exact visible_congr (all_cons_space white) (trim_cons_space white)

/-- One more unit ends a new line, or the last one. -/
theorem splitOn_concat (apart : c ≠ newline) (text : List α) : ∃ front last, text.splitOn newline = front ++ [last] ∧
    (text ++ [c]).splitOn newline = front ++ [last ++ [c]] := by
  induction text with
  | nil =>
    refine ⟨[], [], List.splitOn_nil newline, ?_⟩
    exact List.splitOn_eq_singleton fun member => apart (List.mem_singleton.mp member).symm
  | cons first rest ih =>
    obtain ⟨front, last, before, after⟩ := ih
    rw [List.cons_append, List.splitOn_cons_eq_if_modifyHead, List.splitOn_cons_eq_if_modifyHead, before, after]
    split
    · exact ⟨[] :: front, last, rfl, rfl⟩
    · cases front with
      | nil => exact ⟨[], first :: last, rfl, rfl⟩
      | cons line front => exact ⟨(first :: line) :: front, last, rfl, rfl⟩

theorem visible_concat_space (white : space c = true) :
    visible space ((text ++ [c]).splitOn newline) = visible space (text.splitOn newline) := by
  by_cases ends : c = newline
  · rw [ends, List.splitOn_append_cons_self, List.splitOn_nil, visible_append]
    exact List.append_nil _
  · obtain ⟨front, last, before, after⟩ := splitOn_concat ends text
    rw [before, after, visible_append, visible_append]
    exact congrArg _ (visible_congr (all_concat_space white) (trim_concat_space white))

theorem visible_dropWhile (text : List α) :
    visible space ((text.dropWhile space).splitOn newline) = visible space (text.splitOn newline) := by
  induction text with
  | nil => rfl
  | cons first rest ih =>
    cases white : space first with
    | true => rw [List.dropWhile_cons_of_pos white, visible_cons_space white, ih]
    | false => rw [List.dropWhile_cons_of_neg (by rw [white]; exact Bool.false_ne_true)]

theorem visible_rdropWhile (text : List α) :
    visible space ((text.rdropWhile space).splitOn newline) = visible space (text.splitOn newline) := by
  induction text using List.reverseRecOn with
  | nil => rfl
  | append_singleton rest last ih =>
    rw [List.rdropWhile_concat]
    split
    · rename_i white
      rw [ih, visible_concat_space white]
    · rfl

/-- Trimming a text leaves its visible lines. -/
theorem visible_trim (text : List α) :
    visible space ((trim space text).splitOn newline) = visible space (text.splitOn newline) := by
  unfold trim
  rw [visible_rdropWhile, visible_dropWhile]

omit [DecidableEq α] in
theorem trim_nil_iff : trim space text = [] ↔ text.all space = true := by
  rw [trim, List.rdropWhile_eq_nil_iff, List.all_eq_true]
  constructor
  · intro blank c member
    by_contra shows
    have first : text.dropWhile space ≠ [] := by
      rw [Ne, List.dropWhile_eq_nil_iff]
      exact fun all => shows (all c member)
    have shown := List.head_dropWhile_not space first
    rw [blank _ (List.head_mem first)] at shown
    nomatch shown
  · intro blank c member
    exact blank c ((List.dropWhile_suffix space).subset member)

/-- A text of no visible line is white space, where a newline is. -/
theorem visible_splitOn_nil_iff (ends : space newline = true) :
    visible space (text.splitOn newline) = [] ↔ text.all space = true := by
  constructor
  · intro none_
    induction text with
    | nil => rfl
    | cons first rest ih =>
      rw [List.splitOn_cons_eq_if_modifyHead] at none_
      split at none_
      · rename_i same
        rw [visible_cons_blank rfl] at none_
        rw [List.all_cons, ih none_, eq_of_beq same, ends, Bool.true_and]
      · obtain ⟨line, lines, split⟩ := List.exists_cons_of_ne_nil (List.splitOn_ne_nil newline rest)
        rw [split, List.modifyHead_cons] at none_
        have blank := visible_nil_iff.mp none_
        obtain ⟨white, others⟩ := Bool.and_eq_true_iff.mp (blank _ List.mem_cons_self)
        rw [List.all_cons, white, Bool.true_and]
        refine ih ?_
        rw [split]
        refine visible_nil_iff.mpr fun other member => ?_
        rcases List.mem_cons.mp member with rfl | later
        · exact others
        · exact blank other (List.mem_cons_of_mem _ later)
  · intro blank
    rw [← visible_trim, trim_nil_iff.mpr blank, List.splitOn_nil]
    rfl

omit [DecidableEq α] in
/-- Past the blank lines at the front's end stands the back's first visible line, with what is visible kept on each side. -/
theorem pastBlank_spec (space : α → Bool) (front back : List (List α)) :
    let index := pastBlank space (front ++ back) front.length
    visible space ((front ++ back).take index) = visible space front ∧
      visible space ((front ++ back).drop index) = visible space back ∧
      (front ++ back)[index]?.map (trim space) = (visible space back).head? ∧ index ≤ (front ++ back).length := by
  have parts : back = back.takeWhile (fun line => line.all space) ++ back.dropWhile fun line => line.all space :=
    List.takeWhile_append_dropWhile.symm
  have blanks : visible space (back.takeWhile fun line => line.all space) = [] :=
    visible_nil_iff.mpr fun line member => List.mem_takeWhile_imp (p := fun line : List α => line.all space) member
  have index : pastBlank space (front ++ back) front.length =
      front.length + (back.takeWhile fun line => line.all space).length := by
    unfold pastBlank
    rw [List.drop_left]
  have taken : (front ++ back).take (pastBlank space (front ++ back) front.length) =
      front ++ back.takeWhile fun line => line.all space := by
    rw [index, List.take_length_add_append]
    refine congrArg _ ?_
    nth_rewrite 2 [parts]
    exact List.take_left
  have dropped : (front ++ back).drop (pastBlank space (front ++ back) front.length) =
      back.dropWhile fun line => line.all space := by
    rw [index, List.drop_length_add_append]
    nth_rewrite 2 [parts]
    exact List.drop_left
  have shown : visible space (back.dropWhile fun line => line.all space) = visible space back := by
    nth_rewrite 2 [parts]
    rw [visible_append, blanks, List.nil_append]
  refine ⟨?_, ?_, ?_, ?_⟩
  · rw [taken, visible_append, blanks, List.append_nil]
  · rw [dropped, shown]
  · rw [← List.head?_drop, dropped, ← shown]
    cases rest : back.dropWhile fun line => line.all space with
    | nil => rfl
    | cons line lines =>
      have seen : line.all space = false := by
        have head := List.head?_dropWhile_not (fun line : List α => line.all space) back
        rw [rest] at head
        exact head
      unfold visible
      rw [List.filter_cons_of_pos (by rw [seen]; rfl)]
      rfl
  · rw [index, List.length_append]
    exact Nat.add_le_add_left (List.takeWhile_prefix _).length_le _

end Lines
end LetterIRL.Lib.Lines
