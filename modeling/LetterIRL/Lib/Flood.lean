import Mathlib.Data.Finset.Card
import Mathlib.Data.List.Nodup
import Mathlib.Logic.Relation
import Mathlib.Tactic

namespace LetterIRL.Lib.Flood

/-! A search with a stack: what is joined to where it starts, and the components that a scan of starts finds. -/

variable {V : Type} [DecidableEq V] {near : V → List V} {open_ unfound ink : Finset V} {stack starts : List V} {v w start : V}

/-- The stack, and what was not found yet. -/
structure Front (V : Type) where
  stack : List V
  unfound : Finset V

def Front.push (front : Front V) (next : V) : Front V :=
  if next ∈ front.unfound then ⟨next :: front.stack, front.unfound.erase next⟩ else front

/-- What is taken off the stack in its order, and what stays unfound. -/
def spread (near : V → List V) : Nat → Front V → List V × Finset V
  | 0, front => ([], front.unfound)
  | fuel + 1, front =>
    match front.stack with
    | [] => ([], front.unfound)
    | at_ :: stack =>
      let rest := spread near fuel ((near at_).foldl Front.push ⟨stack, front.unfound⟩)
      (at_ :: rest.1, rest.2)

/-- What the search finds from each start that no search before found. -/
def sweep (near : V → List V) : List V → Finset V → List (List V)
  | [], _ => []
  | start :: rest, unfound =>
    if start ∈ unfound then
      let found := spread near unfound.card ⟨[start], unfound.erase start⟩
      found.1 :: sweep near rest found.2
    else sweep near rest unfound

/-- Joined by steps from near to near, all within the set. -/
def Joined (near : V → List V) (within : Finset V) : V → V → Prop :=
  Relation.ReflTransGen fun v w => w ∈ near v ∧ w ∈ within

/-- What is pushed: each near one not found yet, once. -/
theorem foldl_push (nexts : List V) (front : Front V) :
    ∃ new : List V, nexts.foldl Front.push front = ⟨new ++ front.stack, front.unfound \ new.toFinset⟩ ∧ new.Nodup ∧
      ∀ next, next ∈ new ↔ next ∈ nexts ∧ next ∈ front.unfound := by
  induction nexts generalizing front with
  | nil => exact ⟨[], by simp, List.nodup_nil, by simp⟩
  | cons first rest ih =>
    rw [List.foldl_cons, Front.push]
    by_cases fresh : first ∈ front.unfound
    · rw [if_pos fresh]
      obtain ⟨new, pushed, nodup, members⟩ := ih ⟨first :: front.stack, front.unfound.erase first⟩
      have apart : first ∉ new := fun member => by
        have := ((members first).mp member).2
        simp at this
      refine ⟨new ++ [first], ?_, ?_, fun next => ?_⟩
      · rw [pushed]
        simp only [List.append_assoc, List.singleton_append, Front.mk.injEq, true_and]
        ext other
        simp only [Finset.mem_sdiff, Finset.mem_erase, List.mem_toFinset, List.mem_append, List.mem_singleton]
        tauto
      · exact List.nodup_append.mpr ⟨nodup, List.nodup_singleton _, by
          intro other member _ last same
          rw [same, List.mem_singleton.mp last] at member
          exact apart member⟩
      · simp only [List.mem_append, members, Finset.mem_erase, List.mem_cons]
        by_cases same : next = first
        · subst same
          simp [fresh]
        · simp [same]
    · rw [if_neg fresh]
      obtain ⟨new, pushed, nodup, members⟩ := ih front
      refine ⟨new, pushed, nodup, fun next => ?_⟩
      rw [members, List.mem_cons]
      constructor
      · rintro ⟨member, unfound⟩
        exact ⟨.inr member, unfound⟩
      · rintro ⟨rfl | member, unfound⟩
        · exact absurd unfound fresh
        · exact ⟨member, unfound⟩

/-- What a search says when it ends: it found its stack and what is joined to it, each once. -/
structure Spread (near : V → List V) (front : Front V) (found : List V) (rest : Finset V) : Prop where
  began : ∀ v ∈ front.stack, v ∈ found
  nodup : found.Nodup
  apart : ∀ v ∈ found, v ∉ rest
  all : ∀ v, v ∈ found ∨ v ∈ rest ↔ v ∈ front.stack ∨ v ∈ front.unfound
  closed : ∀ v ∈ found, ∀ w ∈ near v, w ∉ rest
  joined : ∀ w ∈ found, ∃ v ∈ front.stack, Joined near front.unfound v w

omit [DecidableEq V] in
theorem Joined.mono {more : Finset V} (joined : Joined near open_ v w) (subset : open_ ⊆ more) : Joined near more v w :=
  Relation.ReflTransGen.mono (fun _ _ step => ⟨step.1, subset step.2⟩) _ _ joined

/-- Fuel for what is open is enough. -/
theorem spread_spec {fuel : Nat} {front : Front V} (enough : front.stack.length + front.unfound.card ≤ fuel)
    (distinct : front.stack.Nodup) (apart : ∀ v ∈ front.stack, v ∉ front.unfound) :
    Spread near front (spread near fuel front).1 (spread near fuel front).2 := by
  induction fuel generalizing front with
  | zero =>
    have empty : front.stack = [] := List.eq_nil_of_length_eq_zero (by omega)
    exact ⟨by simp [empty], List.nodup_nil, by simp [spread], by simp [spread, empty], by simp [spread], by simp [spread]⟩
  | succ fuel ih =>
    obtain ⟨stack, unfound⟩ := front
    cases stack with
    | nil => exact ⟨by simp, List.nodup_nil, by simp [spread], by simp [spread], by simp [spread], by simp [spread]⟩
    | cons at_ stack =>
      obtain ⟨new, pushed, nodup, members⟩ := foldl_push (near at_) ⟨stack, unfound⟩
      obtain ⟨notBelow, distinct⟩ := List.nodup_cons.mp distinct
      have fewer : (unfound \ new.toFinset).card + new.length = unfound.card := by
        rw [← List.toFinset_card_of_nodup nodup]
        refine Finset.card_sdiff_add_card_eq_card fun v member => ?_
        exact ((members v).mp (List.mem_toFinset.mp member)).2
      have later : Spread near ⟨new ++ stack, unfound \ new.toFinset⟩ (spread near fuel ⟨new ++ stack, unfound \ new.toFinset⟩).1
          (spread near fuel ⟨new ++ stack, unfound \ new.toFinset⟩).2 := by
        refine ih (by simp at enough ⊢; omega) (List.nodup_append.mpr ⟨nodup, distinct, ?_⟩) fun v member unfound_ => ?_
        · rintro v member _ below rfl
          exact apart v (List.mem_cons_of_mem _ below) ((members v).mp member).2
        · obtain ⟨unfound_, notNew⟩ := Finset.mem_sdiff.mp unfound_
          rcases List.mem_append.mp member with new_ | below
          · exact notNew (List.mem_toFinset.mpr new_)
          · exact apart v (List.mem_cons_of_mem _ below) unfound_
      have run : spread near (fuel + 1) ⟨at_ :: stack, unfound⟩ =
          (at_ :: (spread near fuel ⟨new ++ stack, unfound \ new.toFinset⟩).1,
            (spread near fuel ⟨new ++ stack, unfound \ new.toFinset⟩).2) := by
        rw [spread]
        dsimp only
        rw [pushed]
      rw [run]
      generalize spread near fuel ⟨new ++ stack, unfound \ new.toFinset⟩ = rest at later
      have whole : ∀ v, v ∈ new ++ stack ∨ v ∈ unfound \ new.toFinset ↔ v ∈ stack ∨ v ∈ unfound := by
        intro v
        have := members v
        simp only [List.mem_append, Finset.mem_sdiff, List.mem_toFinset]
        tauto
      have away : ¬ (at_ ∈ stack ∨ at_ ∈ unfound) := by
        rintro (below | unfound_)
        · exact notBelow below
        · exact apart at_ List.mem_cons_self unfound_
      have elsewhere : at_ ∉ rest.1 ∧ at_ ∉ rest.2 := not_or.mp fun there => away ((whole at_).mp ((later.all at_).mp there))
      refine ⟨fun v member => ?_, List.nodup_cons.mpr ⟨elsewhere.1, later.nodup⟩, fun v member => ?_, fun v => ?_, fun v member w next => ?_,
        fun w member => ?_⟩
      · rcases List.mem_cons.mp member with rfl | below
        · exact List.mem_cons_self
        · exact List.mem_cons_of_mem _ (later.began v (List.mem_append_right _ below))
      · rcases List.mem_cons.mp member with rfl | found
        · exact elsewhere.2
        · exact later.apart v found
      · rw [List.mem_cons, List.mem_cons, or_assoc, or_assoc, later.all, whole]
      · rcases List.mem_cons.mp member with rfl | found
        · intro unfound_
          have there : ∀ {u}, u ∈ new ++ stack → u ∉ rest.2 := fun u => later.apart _ (later.began _ u)
          rcases (later.all w).mp (.inr unfound_) with found | left
          · exact there found unfound_
          · obtain ⟨left, notNew⟩ := Finset.mem_sdiff.mp left
            exact notNew (List.mem_toFinset.mpr ((members w).mpr ⟨next, left⟩))
        · exact later.closed v found w next
      · rcases List.mem_cons.mp member with rfl | found
        · exact ⟨w, List.mem_cons_self, .refl⟩
        · obtain ⟨v, open_, joined⟩ := later.joined w found
          have joined : Joined near unfound v w := joined.mono Finset.sdiff_subset
          rcases List.mem_append.mp open_ with new_ | below
          · obtain ⟨next, left⟩ := (members v).mp new_
            exact ⟨at_, List.mem_cons_self, .head ⟨next, left⟩ joined⟩
          · exact ⟨v, List.mem_cons_of_mem _ below, joined⟩

/-- The search from one start finds what is joined to it among what was not found yet. -/
theorem mem_spread (near : V → List V) (open_ : start ∈ unfound) :
    Spread near ⟨[start], unfound.erase start⟩ (spread near unfound.card ⟨[start], unfound.erase start⟩).1
        (spread near unfound.card ⟨[start], unfound.erase start⟩).2 ∧
      ∀ w, w ∈ (spread near unfound.card ⟨[start], unfound.erase start⟩).1 ↔ Joined near unfound start w := by
  have found : Spread near ⟨[start], unfound.erase start⟩ (spread near unfound.card ⟨[start], unfound.erase start⟩).1
      (spread near unfound.card ⟨[start], unfound.erase start⟩).2 := by
    have one := Finset.card_erase_add_one open_
    refine spread_spec ?_ (List.nodup_singleton _) (by simp)
    simp only [List.length_singleton]
    omega
  refine ⟨found, fun w => ⟨fun member => ?_, fun joined => ?_⟩⟩
  · obtain ⟨v, began, joined⟩ := found.joined w member
    rw [List.mem_singleton.mp began] at joined
    exact joined.mono (Finset.erase_subset _ _)
  · induction joined with
    | refl => exact found.began _ List.mem_cons_self
    | @tail v w _ step ih =>
      obtain ⟨next, unfound_⟩ := step
      have left := found.closed v ih w next
      refine ((found.all w).mpr ?_).resolve_right left
      by_cases same : w = start
      · exact .inl (List.mem_singleton.mpr same)
      · exact .inr (Finset.mem_erase.mpr ⟨same, unfound_⟩)

/-- All that is joined to one of the set's. -/
structure Component (near : V → List V) (ink : Finset V) (piece : List V) : Prop where
  nodup : piece.Nodup
  joined : ∃ start ∈ ink, ∀ w, w ∈ piece ↔ Joined near ink start w

/-- A set that holds whatever of the ink is near to its own. -/
def Whole (near : V → List V) (ink unfound : Finset V) : Prop :=
  unfound ⊆ ink ∧ ∀ v ∈ unfound, ∀ w ∈ near v, w ∈ ink → w ∈ unfound

omit [DecidableEq V] in
theorem Whole.joined (whole : Whole near ink unfound) (open_ : v ∈ unfound) : Joined near unfound v w ↔ Joined near ink v w := by
  refine ⟨fun joined => joined.mono whole.1, fun joined => ?_⟩
  have both : Joined near unfound v w ∧ w ∈ unfound := by
    induction joined with
    | refl => exact ⟨.refl, open_⟩
    | @tail u w _ step ih =>
      have next := whole.2 u ih.2 w step.1 step.2
      exact ⟨ih.1.tail ⟨step.1, next⟩, next⟩
  exact both.1

theorem sweep_components (starts : List V) (symmetric : ∀ v ∈ ink, ∀ w ∈ ink, w ∈ near v → v ∈ near w) (whole : Whole near ink unfound) :
    (∀ piece ∈ sweep near starts unfound, Component near ink piece ∧ ∀ v ∈ piece, v ∈ unfound) ∧
      (∀ v ∈ unfound, v ∈ starts → ∃ piece ∈ sweep near starts unfound, v ∈ piece) ∧
      (sweep near starts unfound).Pairwise List.Disjoint := by
  induction starts generalizing unfound with
  | nil => exact ⟨by simp [sweep], by simp, .nil⟩
  | cons start rest ih =>
    rw [sweep]
    by_cases open_ : start ∈ unfound
    · rw [if_pos open_]
      obtain ⟨found, joined⟩ := mem_spread near open_
      generalize spread near unfound.card ⟨[start], unfound.erase start⟩ = spread at found joined
      have within : ∀ v, v ∈ spread.1 ∨ v ∈ spread.2 → v ∈ unfound := by
        intro v there
        rcases (found.all v).mp there with began | left
        · rw [List.mem_singleton.mp began]
          exact open_
        · exact Finset.mem_of_mem_erase left
      have split : ∀ v ∈ unfound, v ∈ spread.1 ∨ v ∈ spread.2 := by
        intro v member
        refine (found.all v).mpr ?_
        by_cases same : v = start
        · exact .inl (List.mem_singleton.mpr same)
        · exact .inr (Finset.mem_erase.mpr ⟨same, member⟩)
      have left : Whole near ink spread.2 := by
        refine ⟨fun v member => whole.1 (within v (.inr member)), fun v member w next inked => ?_⟩
        have unfound_ := within v (.inr member)
        refine (split w (whole.2 v unfound_ w next inked)).resolve_left fun there => ?_
        exact found.closed w there v (symmetric v (whole.1 unfound_) w inked next) member
      obtain ⟨components, cover, disjoint⟩ := ih left
      refine ⟨fun piece member => ?_, fun v member starts => ?_, List.pairwise_cons.mpr ⟨fun piece member v here there => ?_, disjoint⟩⟩
      · rcases List.mem_cons.mp member with rfl | later
        · refine ⟨⟨found.nodup, start, whole.1 open_, fun w => (joined w).trans (whole.joined open_)⟩, fun v there => within v (.inl there)⟩
        · exact ⟨(components piece later).1, fun v there => within v (.inr ((components piece later).2 v there))⟩
      · rcases split v member with here | later
        · exact ⟨_, List.mem_cons_self, here⟩
        · rcases List.mem_cons.mp starts with rfl | starts
          · exact absurd later (found.apart v (found.began v List.mem_cons_self))
          · obtain ⟨piece, there, inside⟩ := cover v later starts
            exact ⟨piece, List.mem_cons_of_mem _ there, inside⟩
      · exact found.apart v here ((components piece member).2 v there)
    · rw [if_neg open_]
      obtain ⟨components, cover, disjoint⟩ := ih whole
      refine ⟨components, fun v member starts => cover v member ?_, disjoint⟩
      rcases List.mem_cons.mp starts with rfl | later
      · exact absurd member open_
      · exact later

end LetterIRL.Lib.Flood
