import Mathlib.Tactic
import Mathlib.Logic.Relation

namespace LetterIRL.Lib
open Relation List

/-! Relations that never branch and always rise: what a point reaches is one finite path. -/

variable {α : Type} {link : α → α → Prop}

/-- The points reached from `root`, in order, each linked to the next. -/
structure IsPath (link : α → α → Prop) (root : α) (path : List α) : Prop where
  starts : path.head? = some root
  chained : path.IsChain link
  covers : ∀ point, ReflTransGen link root point ↔ point ∈ path

theorem exists_path (rank : α → Nat) {bound : Nat} (single : ∀ a b c, link a b → link a c → b = c)
    (rises : ∀ a b, link a b → rank a < rank b) (bounded : ∀ a b, link a b → rank b < bound) (root : α) :
    ∃ path, IsPath link root path := by
  -- The induction is on how far the rank of the root is from the bound.
  induction room : bound - rank root using Nat.strong_induction_on generalizing root with
  | _ room ih =>
    by_cases last : ∃ next, link root next
    · obtain ⟨next, linked⟩ := last
      have higher := rises _ _ linked
      have below := bounded _ _ linked
      obtain ⟨path, rest⟩ := ih (bound - rank next) (by omega) next rfl
      refine ⟨root :: path, rfl, ?_, fun point => ?_⟩
      · refine isChain_cons.mpr ⟨fun first atHead => ?_, rest.chained⟩
        rw [rest.starts] at atHead
        cases atHead
        exact linked
      · rw [mem_cons, ← rest.covers]
        constructor
        · intro reached
          rcases reached.cases_head with rfl | ⟨other, step, onward⟩
          · exact .inl rfl
          · exact .inr (single _ _ _ linked step ▸ onward)
        · rintro (rfl | onward)
          · exact .refl
          · exact .head linked onward
    · refine ⟨[root], rfl, .singleton root, fun point => ?_⟩
      rw [mem_singleton]
      constructor
      · intro reached
        rcases reached.cases_head with same | ⟨next, step, -⟩
        · exact same.symm
        · exact absurd ⟨next, step⟩ last
      · rintro rfl
        exact .refl

/-- Along a chain, a budget that falls by one at each link leaving a counted point, and never
rises, bounds the counted points. -/
theorem counted_le_budget {budget : α → Nat} {counted : α → Bool} {path : List α} {root : α}
    (starts : path.head? = some root) (chained : path.IsChain link)
    (falls : ∀ a b, link a b → budget b ≤ budget a ∧ (counted a = true → budget b + 1 ≤ budget a)) :
    (path.filter counted).length ≤ budget root + 1 := by
  induction path generalizing root with
  | nil => cases starts
  | cons first rest ih =>
    cases starts
    cases rest with
    | nil => exact (length_filter_le _ _).trans (by simp)
    | cons next rest =>
      obtain ⟨linked, onward⟩ := isChain_cons_cons.mp chained
      have tail := ih rfl onward
      obtain ⟨kept, spent⟩ := falls _ _ linked
      rw [filter_cons]
      split
      · rename_i hit
        have less := spent hit
        rw [length_cons]
        omega
      · omega

end LetterIRL.Lib
