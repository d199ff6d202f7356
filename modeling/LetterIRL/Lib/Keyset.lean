import Mathlib.Tactic
import Mathlib.Data.List.Sort

namespace LetterIRL.Lib

/-! Rows in falling order of a key, and what is strictly below a row's key. -/

section
variable {ρ κ : Type} [LinearOrder κ] (key : ρ → κ)

/-- `ORDER BY key DESC`. -/
def descending (rows : List ρ) : List ρ := rows.insertionSort fun row other => key other ≤ key row

/-- Each row's key is below those before it. -/
def Falling (rows : List ρ) : Prop := rows.Pairwise fun row other => key other < key row

variable {key} {rows front back : List ρ} {last : ρ} {bound : κ}

theorem mem_descending {row : ρ} : row ∈ descending key rows ↔ row ∈ rows := List.mem_insertionSort _

theorem perm_descending (rows : List ρ) : (descending key rows).Perm rows := List.perm_insertionSort _ _

/-- Rows whose keys differ are sorted with none the same as another. -/
theorem falling_descending (unique : (rows.map key).Nodup) : Falling key (descending key rows) := by
  let below : ρ → ρ → Prop := fun row other => key other ≤ key row
  have total : Std.Total below := ⟨fun row other => le_total (key other) (key row)⟩
  have trans : IsTrans ρ below := ⟨fun _ _ _ first second => le_trans second first⟩
  have sorted : (descending key rows).Pairwise below := List.pairwise_insertionSort below rows
  have distinct : ((descending key rows).map key).Nodup := ((perm_descending rows).map key).nodup_iff.mpr unique
  exact (sorted.and (List.pairwise_map.mp distinct)).imp fun ⟨below, differs⟩ => lt_of_le_of_ne below (Ne.symm differs)

/-- The rows below some key, sorted, are the sorted rows below it. -/
theorem descending_filter (unique : (rows.map key).Nodup) (keep : ρ → Bool) :
    descending key (rows.filter keep) = (descending key rows).filter keep := by
  have fewer : ((rows.filter keep).map key).Nodup := unique.sublist (List.filter_sublist.map key)
  have same : (descending key (rows.filter keep)).Perm ((descending key rows).filter keep) :=
    (perm_descending _).trans ((perm_descending rows).symm.filter keep)
  refine same.eq_of_pairwise (fun row other _ _ above below => ?_) (falling_descending fewer)
    ((falling_descending unique).filter keep)
  exact absurd (above.trans below) (lt_irrefl _)

/-- What is below a row's key comes after it. -/
theorem filter_below (falling : Falling key (front ++ last :: back)) :
    (front ++ last :: back).filter (fun row => key row < key last) = back := by
  obtain ⟨-, after, before⟩ := List.pairwise_append.mp falling
  rw [List.filter_append, List.filter_cons_of_neg (by simp)]
  have none_ : front.filter (fun row => key row < key last) = [] := by
    rw [List.filter_eq_nil_iff]
    intro row member
    simpa using (before row member last List.mem_cons_self).le
  rw [none_, List.nil_append, List.filter_eq_self]
  intro row member
  simpa using (List.pairwise_cons.mp after).1 row member

/-- What is below a key no higher than a row's is some of what comes after the row. -/
theorem filter_bound (falling : Falling key (front ++ last :: back)) (low : bound ≤ key last) :
    (front ++ last :: back).filter (fun row => key row < bound) = back.filter fun row => key row < bound := by
  have below := filter_below falling
  conv_rhs => rw [← below, List.filter_filter]
  refine List.filter_congr fun row _ => ?_
  rw [Bool.eq_iff_iff]
  simp only [decide_eq_true_eq, Bool.and_eq_true]
  exact ⟨fun less => ⟨less, less.trans_le low⟩, fun both => both.1⟩

end

end LetterIRL.Lib
