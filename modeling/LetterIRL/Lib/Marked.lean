import Mathlib.Order.Interval.Finset.Basic
import Mathlib.Data.Int.Interval
import Mathlib.Tactic

namespace LetterIRL.Lib

/-! Marked places on a line, and walks from one to another so many marks away. -/

section
variable (mark : Int → Bool)

/-- How many marks there are after a place, up to another. -/
noncomputable def marks (first last : Int) : Nat := ((Finset.Ioc first last).filter (mark · = true)).card

/-- The marked place so many marks on, or the place itself for none. -/
structure MarksAfter (start : Int) (count : Nat) (place : Int) : Prop where
  ordered : start ≤ place
  count : marks mark start place = count
  marked : place = start ∨ mark place = true

/-- The last marked place no later. -/
structure LastMark (start place : Int) : Prop where
  ordered : place ≤ start
  marked : mark place = true
  none_ : marks mark place start = 0

end

section
variable {mark : Int → Bool} {first middle last start other place early late : Int} {count : Nat}

theorem marks_self : marks mark first first = 0 := by
  unfold marks
  rw [Finset.Ioc_self, Finset.filter_empty, Finset.card_empty]

theorem marks_add (mark : Int → Bool) (one : first ≤ middle) (two : middle ≤ last) :
    marks mark first last = marks mark first middle + marks mark middle last := by
  unfold marks
  rw [← Finset.Ioc_union_Ioc_eq_Ioc one two, Finset.filter_union, Finset.card_union_of_disjoint]
  rw [Finset.disjoint_left]
  intro place inFirst inSecond
  have before := (Finset.mem_Ioc.mp (Finset.mem_filter.mp inFirst).1).2
  have after := (Finset.mem_Ioc.mp (Finset.mem_filter.mp inSecond).1).1
  omega

/-- One more place: a mark, or none. -/
theorem marks_succ (mark : Int → Bool) (ordered : first ≤ last) :
    marks mark first (last + 1) = marks mark first last + if mark (last + 1) = true then 1 else 0 := by
  rw [marks_add mark ordered (by omega : last ≤ last + 1)]
  congr 1
  unfold marks
  have single : Finset.Ioc last (last + 1) = {last + 1} := by
    ext place
    simp only [Finset.mem_Ioc, Finset.mem_singleton]
    omega
  rw [single, Finset.filter_singleton]
  split
  · rfl
  · rfl

theorem marks_pos (before : first < last) (marked : mark last = true) : 0 < marks mark first last := by
  unfold marks
  exact Finset.card_pos.mpr ⟨last, Finset.mem_filter.mpr ⟨Finset.mem_Ioc.mpr ⟨before, le_rfl⟩, marked⟩⟩

theorem marks_zero_iff : marks mark first last = 0 ↔ ∀ place, first < place → place ≤ last → mark place = false := by
  unfold marks
  rw [Finset.card_eq_zero, Finset.filter_eq_empty_iff]
  constructor
  · intro none_ place after before
    simpa using none_ (Finset.mem_Ioc.mpr ⟨after, before⟩)
  · intro none_ place member
    obtain ⟨after, before⟩ := Finset.mem_Ioc.mp member
    simp [none_ place after before]

/-- Marked places with as many marks between them and one place are one. -/
theorem marks_inj (marked : mark first = true) (marked' : mark other = true) (before : first ≤ last)
    (before' : other ≤ last) (same : marks mark first last = marks mark other last) : first = other := by
  rcases lt_trichotomy first other with less | equal | more
  · have split := marks_add mark less.le before'
    have some_ := marks_pos less marked'
    omega
  · exact equal
  · have split := marks_add mark more.le before
    have some_ := marks_pos more marked
    omega

theorem LastMark.unique (last_ : LastMark mark start place) (again : LastMark mark start other) : place = other :=
  marks_inj last_.marked again.marked last_.ordered again.ordered (last_.none_.trans again.none_.symm)

/-- A mark is no later than a place exactly when it is no later than the last mark there. -/
theorem LastMark.le_iff (last_ : LastMark mark start place) (marked : mark other = true) : other ≤ start ↔ other ≤ place := by
  constructor
  · intro before
    by_contra after
    have none_ := marks_zero_iff.mp last_.none_ other (by omega) before
    rw [marked] at none_
    cases none_
  · intro before
    exact before.trans last_.ordered

theorem LastMark.mono (last_ : LastMark mark early place) (later : LastMark mark late other) (ordered : early ≤ late) :
    place ≤ other := (later.le_iff last_.marked).mp (last_.ordered.trans ordered)

/-- So many marks on from one mark is no later than another, exactly when the one is no later than so many marks back. -/
theorem marks_adjoint (marked : mark start = true) (after : MarksAfter mark start count place)
    (back : MarksAfter mark other count last) : place ≤ last ↔ start ≤ other := by
  have markedPlace : mark place = true := by
    rcases after.marked with same | marked'
    · rw [same]
      exact marked
    · exact marked'
  have one := after.ordered
  have two := back.ordered
  have counted := after.count
  have counted' := back.count
  constructor
  · intro before
    by_contra earlier
    have split := marks_add mark one before
    have split' := marks_add mark (show other ≤ start by omega) (one.trans before)
    have some_ := marks_pos (show other < start by omega) marked
    omega
  · intro before
    by_contra later
    have split := marks_add mark before two
    have split' := marks_add mark (before.trans two) (show last ≤ place by omega)
    have some_ := marks_pos (show last < place by omega) markedPlace
    omega

/-- So many marks back from a later mark is no earlier. -/
theorem marks_mono (back : MarksAfter mark place count early) (marked : mark place = true)
    (back' : MarksAfter mark other count late) (ordered : early ≤ late) : place ≤ other := by
  have counted := back.count
  have counted' := back'.count
  have before := back.ordered
  by_contra earlier
  have split := marks_add mark (show other ≤ place by omega) (before.trans ordered)
  have split' := marks_add mark before ordered
  have some_ := marks_pos (show other < place by omega) marked
  omega

end

end LetterIRL.Lib
