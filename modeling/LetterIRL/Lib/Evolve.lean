import LetterIRL.Lib.Fifo
import Mathlib.Data.List.Forall2

namespace LetterIRL.Lib
open List
variable {α κ : Type} {R : α → α → Prop}

/-! Rows that stay in their places while each changes as `R` allows. -/

theorem forall₂_trans (compose : ∀ a b c, R a b → R b c → R a c) {first second third : List α}
    (left : Forall₂ R first second) (right : Forall₂ R second third) : Forall₂ R first third := by
  induction left generalizing third with
  | nil => exact right
  | cons step _ ih =>
    cases right with
    | cons next rest => exact .cons (compose _ _ _ step next) (ih rest)

theorem forall₂_mem_right {before after : List α} (evolved : Forall₂ R before after) {row : α}
    (member : row ∈ after) : ∃ old ∈ before, R old row := by
  induction evolved with
  | nil => cases member
  | @cons old new olds _ step _ ih =>
    rcases List.mem_cons.mp member with rfl | later
    · exact ⟨old, List.mem_cons_self, step⟩
    · obtain ⟨row', inRest, moved⟩ := ih later
      exact ⟨row', List.mem_cons_of_mem _ inRest, moved⟩

theorem forall₂_mem_left {before after : List α} (evolved : Forall₂ R before after) {row : α}
    (member : row ∈ before) : ∃ new ∈ after, R row new := by
  induction evolved with
  | nil => cases member
  | @cons old new _ news step _ ih =>
    rcases List.mem_cons.mp member with rfl | later
    · exact ⟨new, List.mem_cons_self, step⟩
    · obtain ⟨row', inRest, moved⟩ := ih later
      exact ⟨row', List.mem_cons_of_mem _ inRest, moved⟩

theorem total_forall₂_le {before after : List α} {f g : α → Nat} (evolved : Forall₂ R before after)
    (falls : ∀ old new, R old new → g new ≤ f old) : total g after ≤ total f before := by
  induction evolved with
  | nil => exact le_rfl
  | cons step _ ih =>
    simp only [total_cons]
    exact Nat.add_le_add (falls _ _ step) ih

theorem total_forall₂_eq {before after : List α} {f g : α → Nat} (evolved : Forall₂ R before after)
    (same : ∀ old new, R old new → g new = f old) : total g after = total f before := by
  induction evolved with
  | nil => rfl
  | cons step _ ih => simp only [total_cons, same _ _ step, ih]

theorem forall₂_updateWhere {selected : α → Bool} {change : α → α} (same : ∀ row, R row row)
    {rows : List α} (changed : ∀ row ∈ rows, selected row = true → R row (change row)) :
    Forall₂ R rows (updateWhere selected change rows) := by
  unfold updateWhere
  rw [forall₂_map_right_iff]
  refine forall₂_same.mpr fun row member => ?_
  split
  · rename_i hit
    exact changed row member hit
  · exact same row

/-- Takes from distinct rows of a keyed table change no row but those they name. -/
theorem forall₂_applyTakes [DecidableEq κ] {key : α → κ} {change : Nat → α → α} (same : ∀ row, R row row)
    (compose : ∀ a b c, R a b → R b c → R a c) (keyed : ∀ taken row, key (change taken row) = key row)
    {takes : List (α × Nat)} (changed : ∀ take ∈ takes, R take.1 (change take.2 take.1))
    (once : (takes.map fun take => key take.1).Nodup) {rows : List α} (unique : (rows.map key).Nodup)
    (offered : ∀ take ∈ takes, take.1 ∈ rows) : Forall₂ R rows (applyTakes key change takes rows) := by
  unfold applyTakes
  induction takes generalizing rows with
  | nil => exact forall₂_same.mpr fun row _ => same row
  | cons take takes ih =>
    rw [List.foldl_cons]
    obtain ⟨apart, later⟩ := List.nodup_cons.mp once
    have first : Forall₂ R rows (updateWhere (fun row => key row == key take.1) (change take.2) rows) := by
      refine forall₂_updateWhere same fun row member hit => ?_
      have taken : row = take.1 :=
        eq_of_key_eq unique member (offered take List.mem_cons_self) (by simpa using hit)
      rw [taken]
      exact changed take List.mem_cons_self
    have keys : (updateWhere (fun row => key row == key take.1) (change take.2) rows).map key = rows.map key :=
      map_updateWhere _ (keyed take.2)
    refine forall₂_trans compose first (ih ?_ later (by rw [keys]; exact unique) ?_)
    · exact fun other member => changed other (List.mem_cons_of_mem _ member)
    · intro other member
      -- The other takes are from rows the first one left alone.
      have differs : key other.1 ≠ key take.1 := fun clash => apart (List.mem_map.mpr ⟨other, member, clash⟩)
      refine mem_updateWhere.mpr (.inl ⟨offered other (List.mem_cons_of_mem _ member), ?_⟩)
      simpa using differs

end LetterIRL.Lib
