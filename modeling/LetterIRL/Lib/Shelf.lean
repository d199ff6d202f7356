import Mathlib.Logic.Basic

namespace LetterIRL.Lib

/-! Rows cleared into saved copies and put back from them. -/

/-- How the rows of a table are cleared, saved and put back. -/
structure Shelf (α κ : Type) where
  live : α → Prop
  /-- A row as a later one still has it. -/
  same : α → α → Prop
  clears : α → α → Prop
  saves : α → κ → Prop
  putsBack : κ → α → α → Prop
  empty : α → Prop
  refl : ∀ row, same row row
  trans : ∀ first row row', same first row → same row row' → same first row'
  cleared_empty : ∀ row row', clears row row' → empty row'
  empty_unlive : ∀ row, empty row → ¬live row
  /-- What is put back of a row's copy is the row. -/
  roundTrip : ∀ row row' row'' copy, live row → clears row row' → saves row copy → putsBack copy row' row'' →
    same row row'' ∧ live row''

namespace Shelf
variable {α κ : Type} {shelf : Shelf α κ} {expired : κ → Prop} {first : α} {row row' : Option α} {copy copy' : Option κ}

/-- What may happen to a row and its copy. -/
inductive Move (shelf : Shelf α κ) (expired : κ → Prop) : Option α → Option κ → Option α → Option κ → Prop
  | still {row : Option α} {copy : Option κ} : Move shelf expired row copy row copy
  /-- A copy already there is kept. -/
  | cleared {row row' : α} {copy : Option κ} {saved : κ} (live : shelf.live row) (clears : shelf.clears row row')
      (saves : shelf.saves row saved) : Move shelf expired (some row) copy (some row') (some (copy.getD saved))
  | restored {row row' : α} {copy : κ} (putsBack : shelf.putsBack copy row row') :
      Move shelf expired (some row) (some copy) (some row') none
  | purged {row : Option α} {copy : κ} (late : expired copy) : Move shelf expired row (some copy) row none
  /-- The copy goes first, and what is left of the row is empty. -/
  | erased {row row' : Option α} {copy : Option κ} (gone : ∀ left, row' = some left → shelf.empty left) :
      Move shelf expired row copy row' none

/-- A row that was live once: as it was and not saved, or cleared with a copy that is of it, or gone for good. -/
inductive Kept (shelf : Shelf α κ) (first : α) : Option α → Option κ → Prop
  | live {row : α} (live : shelf.live row) (same : shelf.same first row) : Kept shelf first (some row) none
  | saved {was row : α} {copy : κ} (live : shelf.live was) (same : shelf.same first was) (clears : shelf.clears was row)
      (saves : shelf.saves was copy) : Kept shelf first (some row) (some copy)
  | gone {row : Option α} (empty : ∀ left, row = some left → shelf.empty left) : Kept shelf first row none

theorem Kept.move (kept : shelf.Kept first row copy) (move : shelf.Move expired row copy row' copy') :
    shelf.Kept first row' copy' := by
  cases move with
  | still => exact kept
  | cleared live clears saves =>
    cases kept with
    | live _ same => exact .saved live same clears saves
    | saved _ _ wasCleared _ => exact absurd live (shelf.empty_unlive _ (shelf.cleared_empty _ _ wasCleared))
    | gone empty => exact absurd live (shelf.empty_unlive _ (empty _ rfl))
  | restored putsBack =>
    cases kept with
    | saved live same clears saves =>
      obtain ⟨back, again⟩ := shelf.roundTrip _ _ _ _ live clears saves putsBack
      exact .live again (shelf.trans _ _ _ same back)
  | purged late =>
    cases kept with
    | saved _ _ clears _ =>
      refine .gone fun left here => ?_
      cases here
      exact shelf.cleared_empty _ _ clears
  | erased gone => exact .gone gone

/-- A row that was never live keeps no copy. -/
inductive Bare (shelf : Shelf α κ) : Option α → Option κ → Prop
  | bare {row : Option α} (empty : ∀ left, row = some left → shelf.empty left) : Bare shelf row none

theorem Bare.move (bare : shelf.Bare row copy) (move : shelf.Move expired row copy row' copy') :
    shelf.Bare row' copy' := by
  obtain ⟨empty⟩ := bare
  cases move with
  | still => exact .bare empty
  | cleared live => exact absurd live (shelf.empty_unlive _ (empty _ rfl))
  | erased gone => exact .bare gone

end Shelf
end LetterIRL.Lib
