import Mathlib.Tactic
import Mathlib.Algebra.Order.BigOperators.Group.List
import Mathlib.Algebra.Order.Ring.Nat

namespace LetterIRL.Lib
variable {α κ : Type}

/-- `UPDATE … SET change WHERE selected`: the rows keep their places. -/
def updateWhere (selected : α → Bool) (change : α → α) (rows : List α) : List α :=
  rows.map fun row => if selected row then change row else row

/-- `SELECT SUM(weight)`. -/
def total (weight : α → Nat) (rows : List α) : Nat :=
  (rows.map weight).sum

@[simp] theorem total_nil (weight : α → Nat) : total weight [] = 0 := rfl

@[simp] theorem total_cons (weight : α → Nat) (row : α) (rows : List α) :
    total weight (row :: rows) = weight row + total weight rows := rfl

@[simp] theorem total_append (weight : α → Nat) (first second : List α) :
    total weight (first ++ second) = total weight first + total weight second := by
  simp [total]

theorem total_congr {f g : α → Nat} {rows : List α} (same : ∀ row ∈ rows, f row = g row) :
    total f rows = total g rows := by
  simp only [total, List.map_congr_left same]

theorem total_le {f g : α → Nat} {rows : List α} (below : ∀ row ∈ rows, f row ≤ g row) :
    total f rows ≤ total g rows := by
  exact List.sum_le_sum below

theorem total_add (f g : α → Nat) (rows : List α) :
    total (fun row => f row + g row) rows = total f rows + total g rows := by
  induction rows with
  | nil => rfl
  | cons row rows ih => simp only [total_cons, ih]; omega

theorem total_zero (rows : List α) : total (fun _ => 0) rows = 0 := by
  induction rows with
  | nil => rfl
  | cons row rows ih => simpa only [total_cons, Nat.zero_add] using ih

theorem total_eq_zero {f : α → Nat} {rows : List α} (none : ∀ row ∈ rows, f row = 0) :
    total f rows = 0 := by
  rw [total_congr none, total_zero]

theorem le_total {f : α → Nat} {rows : List α} {row : α} (member : row ∈ rows) :
    f row ≤ total f rows :=
  List.single_le_sum (fun _ _ => Nat.zero_le _) _ (List.mem_map_of_mem member)

theorem total_perm {f : α → Nat} {first second : List α} (perm : first.Perm second) :
    total f first = total f second :=
  (perm.map f).sum_eq

theorem total_filter (f : α → Nat) (p : α → Bool) (rows : List α) :
    total f (rows.filter p) = total (fun row => if p row then f row else 0) rows := by
  induction rows with
  | nil => rfl
  | cons row rows ih =>
    by_cases keep : p row
    · simp [keep, ih]
    · simp [keep, ih]

theorem total_filter_le (f : α → Nat) (p : α → Bool) (rows : List α) :
    total f (rows.filter p) ≤ total f rows := by
  rw [total_filter]
  refine total_le fun row _ => ?_
  split
  · exact le_rfl
  · exact Nat.zero_le _

/-- The rows a condition keeps sum to the whole exactly when it keeps every row that counts. -/
theorem total_if_eq_iff {f : α → Nat} {p : α → Bool} {rows : List α} :
    total (fun row => if p row then f row else 0) rows = total f rows ↔
      ∀ row ∈ rows, 0 < f row → p row = true := by
  induction rows with
  | nil => simp
  | cons row rows ih =>
    have part : total (fun row => if p row then f row else 0) rows ≤ total f rows :=
      total_le fun other _ => by split <;> omega
    simp only [total_cons, List.forall_mem_cons, ← ih]
    cases keep : p row with
    | true =>
      simp only [if_true, imp_true_iff, true_and]
      omega
    | false =>
      simp only [Bool.false_eq_true, if_false, imp_false]
      omega

theorem total_filterMap_le {β : Type} {f : β → Nat} {weight : α → Nat} {select : α → Option β}
    {rows : List α} (below : ∀ row ∈ rows, ∀ found, select row = some found → f found ≤ weight row) :
    total f (rows.filterMap select) ≤ total weight rows := by
  induction rows with
  | nil => exact le_rfl
  | cons row rows ih =>
    have rest := ih fun later inRest => below later (List.mem_cons_of_mem _ inRest)
    rw [List.filterMap_cons]
    split
    · simp only [total_cons]
      omega
    · rename_i found selected
      have head := below row List.mem_cons_self found selected
      simp only [total_cons]
      omega

theorem total_filterMap_eq {β : Type} {f : β → Nat} (weight : α → Nat) {select : α → Option β}
    {rows : List α} (all : ∀ row ∈ rows, ∃ found, select row = some found ∧ f found = weight row) :
    total f (rows.filterMap select) = total weight rows := by
  induction rows with
  | nil => rfl
  | cons row rows ih =>
    obtain ⟨found, selected, same⟩ := all row List.mem_cons_self
    rw [List.filterMap_cons, selected, total_cons, total_cons, same,
      ih fun later inRest => all later (List.mem_cons_of_mem _ inRest)]

theorem total_map {β : Type} (f : β → Nat) (g : α → β) (rows : List α) :
    total f (rows.map g) = total (fun row => f (g row)) rows := by
  simp [total, Function.comp_def]

theorem mem_updateWhere {selected : α → Bool} {change : α → α} {rows : List α} {row : α} :
    row ∈ updateWhere selected change rows ↔
      (row ∈ rows ∧ selected row = false) ∨ ∃ old ∈ rows, selected old = true ∧ change old = row := by
  simp only [updateWhere, List.mem_map]
  constructor
  · rintro ⟨old, member, rfl⟩
    by_cases hit : selected old
    · exact .inr ⟨old, member, hit, by simp [hit]⟩
    · exact .inl ⟨by simpa [hit] using member, by simp [hit]⟩
  · rintro (⟨member, miss⟩ | ⟨old, member, hit, rfl⟩)
    · exact ⟨row, member, by simp [miss]⟩
    · exact ⟨old, member, by simp [hit]⟩

theorem total_updateWhere (f : α → Nat) (selected : α → Bool) (change : α → α) (rows : List α) :
    total f (updateWhere selected change rows) =
      total (fun row => if selected row then f (change row) else f row) rows := by
  simp only [total, updateWhere, List.map_map]
  congr 1
  exact List.map_congr_left fun row _ => by
    by_cases hit : selected row <;> simp [hit]

@[simp] theorem length_updateWhere (selected : α → Bool) (change : α → α) (rows : List α) :
    (updateWhere selected change rows).length = rows.length := by
  simp [updateWhere]

/-- An update that leaves the key alone leaves the column of keys alone. -/
theorem map_updateWhere {f : α → κ} {selected : α → Bool} {change : α → α} (rows : List α)
    (kept : ∀ row, f (change row) = f row) :
    (updateWhere selected change rows).map f = rows.map f := by
  simp only [updateWhere, List.map_map]
  exact List.map_congr_left fun row _ => by
    by_cases hit : selected row <;> simp [hit, kept]

/-- In a table with unique keys, changing one row changes a sum by that row. -/
theorem total_updateKey [DecidableEq κ] {key : α → κ} (f : α → Nat) (change : α → α)
    {rows : List α} {row : α} (unique : (rows.map key).Nodup) (member : row ∈ rows) :
    total f (updateWhere (fun r => key r == key row) change rows) + f row =
      total f rows + f (change row) := by
  rw [total_updateWhere]
  induction rows with
  | nil => exact absurd member List.not_mem_nil
  | cons head rest ih =>
    simp only [List.map_cons, List.nodup_cons] at unique
    rcases List.mem_cons.mp member with rfl | later
    · have others : total (fun r => if key r == key row then f (change r) else f r) rest =
          total f rest := by
        apply total_congr
        intro r inRest
        have differ : key r ≠ key row := fun same =>
          unique.1 (same ▸ List.mem_map_of_mem inRest)
        simp [differ]
      simp only [total_cons, beq_self_eq_true, if_true, others]
      omega
    · have differ : key head ≠ key row := fun same =>
        unique.1 (same ▸ List.mem_map_of_mem later)
      have step := ih unique.2 later
      simp only [total_cons, beq_iff_eq, differ, if_false] at step ⊢
      omega

/-- The row of a key is unique, so two rows with one key are the same row. -/
theorem eq_of_key_eq {key : α → κ} {rows : List α} {first second : α}
    (unique : (rows.map key).Nodup) (left : first ∈ rows) (right : second ∈ rows)
    (same : key first = key second) : first = second :=
  List.inj_on_of_nodup_map unique left right same

theorem mem_modify {rows : List α} {at_ : Nat} {row other : α} (member : other ∈ rows.modify at_ fun _ => row) :
    other = row ∨ other ∈ rows := by
  obtain ⟨position, there⟩ := List.getElem?_of_mem member
  rw [List.getElem?_modify] at there
  obtain ⟨old, found, same⟩ := Option.map_eq_some_iff.mp there
  split at same
  · exact .inl same.symm
  · exact .inr (same ▸ List.mem_of_getElem? found)

end LetterIRL.Lib
