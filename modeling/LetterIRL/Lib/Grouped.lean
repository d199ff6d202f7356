import Mathlib.Data.List.Sort
import Mathlib.Tactic

namespace LetterIRL.Lib

/-! Items taken in order into groups by a key, and the nearest of the groups. -/

/-- A group's first item, and how far its nearest one is. -/
structure Cluster (α : Type*) where
  first : α
  distance : Nat

section
variable {κ α : Type*} [DecidableEq κ]

/-- An item into its key's group, or into one of its own after the others. -/
def enter (groups : List (κ × Cluster α)) (key : κ) (item : α) (distance : Nat) : List (κ × Cluster α) :=
  if key ∈ groups.map (·.1) then
    groups.map fun group =>
      if group.1 = key then (group.1, { group.2 with distance := min group.2.distance distance }) else group
  else groups ++ [(key, ⟨item, distance⟩)]

/-- The nearer of two groups, or of two as near the one that begins first. -/
def nearer [LE α] (group other : Cluster α) : Prop :=
  group.distance < other.distance ∨ group.distance = other.distance ∧ group.first ≤ other.first

instance [LE α] [DecidableLE α] : DecidableRel (nearer (α := α)) := fun group other => by
  unfold nearer
  infer_instance

/-- What a group says of the items seen with its key. -/
structure IsCluster [LE α] (keyOf : α → Option κ) (distanceOf : α → Nat) (seen : α → Prop) (key : κ) (group : Cluster α) : Prop where
  first_seen : seen group.first
  first_key : keyOf group.first = some key
  first : ∀ item, seen item → keyOf item = some key → group.first ≤ item
  reached : ∃ item, seen item ∧ keyOf item = some key ∧ distanceOf item = group.distance
  nearest : ∀ item, seen item → keyOf item = some key → group.distance ≤ distanceOf item

/-- The groups of the items seen: one a key. -/
structure Grouped [LE α] (keyOf : α → Option κ) (distanceOf : α → Nat) (seen : α → Prop) (groups : List (κ × Cluster α)) :
    Prop where
  nodup : (groups.map (·.1)).Nodup
  sound : ∀ key group, (key, group) ∈ groups → IsCluster keyOf distanceOf seen key group
  all : ∀ item key, seen item → keyOf item = some key → key ∈ groups.map (·.1)

section
variable {groups : List (κ × Cluster α)} {key : κ} {item : α} {distance : Nat}

theorem enter_keys : (enter groups key item distance).map (·.1) =
    if key ∈ groups.map (·.1) then groups.map (·.1) else groups.map (·.1) ++ [key] := by
  unfold enter
  split
  · rw [List.map_map]
    apply List.map_congr_left
    intro group _
    simp only [Function.comp_apply]
    split
    · rfl
    · rfl
  · rw [List.map_append]
    rfl

theorem mem_enter {other : κ} {group : Cluster α} (member : (other, group) ∈ enter groups key item distance) :
    other ≠ key ∧ (other, group) ∈ groups ∨
      other = key ∧ (∃ before, (key, before) ∈ groups ∧ group = { before with distance := min before.distance distance }) ∨
      other = key ∧ key ∉ groups.map (·.1) ∧ group = ⟨item, distance⟩ := by
  unfold enter at member
  split at member
  · obtain ⟨⟨key', before⟩, inGroups, same⟩ := List.mem_map.mp member
    simp only at same
    split at same
    · rename_i own
      obtain ⟨rfl, rfl⟩ := Prod.mk.inj same
      subst own
      exact .inr (.inl ⟨rfl, before, inGroups, rfl⟩)
    · rename_i apart
      obtain ⟨rfl, rfl⟩ := Prod.mk.inj same
      exact .inl ⟨apart, inGroups⟩
  · rename_i fresh
    rcases List.mem_append.mp member with inGroups | added
    · refine .inl ⟨?_, inGroups⟩
      rintro rfl
      exact fresh (List.mem_map.mpr ⟨_, inGroups, rfl⟩)
    · obtain ⟨rfl, rfl⟩ := Prod.mk.inj (List.mem_singleton.mp added)
      exact .inr (.inr ⟨rfl, fresh, rfl⟩)

end

section
variable [Preorder α] {keyOf : α → Option κ} {distanceOf : α → Nat} {seen : α → Prop} {groups : List (κ × Cluster α)} {key : κ}
  {item : α}

omit [DecidableEq κ] in
theorem Grouped.none : Grouped keyOf distanceOf (fun _ => False) ([] : List (κ × Cluster α)) where
  nodup := List.nodup_nil
  sound _ _ member := (nomatch member)
  all _ _ seen := seen.elim

/-- One more item, no earlier than those seen, keeps the groups those of the items seen. -/
theorem Grouped.enter (grouped : Grouped keyOf distanceOf seen groups) (keyed : keyOf item = some key)
    (last : ∀ other, seen other → other ≤ item) :
    Grouped keyOf distanceOf (fun other => seen other ∨ other = item) (enter groups key item (distanceOf item)) where
  nodup := by
    rw [enter_keys]
    split
    · exact grouped.nodup
    · rename_i fresh
      exact grouped.nodup.append (List.nodup_singleton _) (by simpa using fresh)
  sound other group member := by
    rcases mem_enter member with ⟨apart, inGroups⟩ | ⟨rfl, before, inGroups, rfl⟩ | ⟨rfl, fresh, rfl⟩
    · have sound := grouped.sound other group inGroups
      have old : ∀ each, seen each ∨ each = item → keyOf each = some other → seen each := by
        rintro each (seenEach | rfl) keyEach
        · exact seenEach
        · exact absurd (Option.some.inj (keyEach.symm.trans keyed)) apart
      obtain ⟨near, seenNear, keyNear, reached⟩ := sound.reached
      exact {
        first_seen := .inl sound.first_seen
        first_key := sound.first_key
        first := fun each seenEach keyEach => sound.first each (old each seenEach keyEach) keyEach
        reached := ⟨near, .inl seenNear, keyNear, reached⟩
        nearest := fun each seenEach keyEach => sound.nearest each (old each seenEach keyEach) keyEach }
    · have sound := grouped.sound other before inGroups
      obtain ⟨near, seenNear, keyNear, reached⟩ := sound.reached
      refine ⟨.inl sound.first_seen, sound.first_key, ?_, ?_, ?_⟩
      · rintro each (seenEach | rfl) keyEach
        · exact sound.first each seenEach keyEach
        · exact last _ sound.first_seen
      · by_cases closer : before.distance ≤ distanceOf item
        · exact ⟨near, .inl seenNear, keyNear, by rw [reached]; exact (min_eq_left closer).symm⟩
        · exact ⟨item, .inr rfl, keyed, (min_eq_right (by omega)).symm⟩
      · rintro each (seenEach | rfl) keyEach
        · exact (min_le_left _ _).trans (sound.nearest each seenEach keyEach)
        · exact min_le_right _ _
    · have none_ : ∀ each, seen each → keyOf each ≠ some other := by
        intro each seenEach keyEach
        exact fresh (grouped.all each other seenEach keyEach)
      refine ⟨.inr rfl, keyed, ?_, ⟨item, .inr rfl, keyed, rfl⟩, ?_⟩
      · rintro each (seenEach | rfl) keyEach
        · exact absurd keyEach (none_ each seenEach)
        · exact le_rfl
      · rintro each (seenEach | rfl) keyEach
        · exact absurd keyEach (none_ each seenEach)
        · exact le_rfl
  all each other seenEach keyEach := by
    rw [enter_keys]
    rcases seenEach with seenEach | rfl
    · have member := grouped.all each other seenEach keyEach
      split
      · exact member
      · exact List.mem_append_left _ member
    · obtain rfl := Option.some.inj (keyed.symm.trans keyEach)
      split
      · rename_i member
        exact member
      · exact List.mem_append_right _ (List.mem_singleton_self _)

end

end

section
variable {α : Type*} [LinearOrder α]

instance : Std.Total (nearer (α := α)) where
  total group other := by
    unfold nearer
    rcases lt_trichotomy group.distance other.distance with less | same | more
    · exact .inl (.inl less)
    · rcases le_total group.first other.first with earlier | later
      · exact .inl (.inr ⟨same, earlier⟩)
      · exact .inr (.inr ⟨same.symm, later⟩)
    · exact .inr (.inl more)

instance : IsTrans (Cluster α) nearer where
  trans group other third one two := by
    unfold nearer at *
    rcases one with less | ⟨same, earlier⟩
    · rcases two with less' | ⟨same', -⟩
      · exact .inl (by omega)
      · exact .inl (by omega)
    · rcases two with less' | ⟨same', earlier'⟩
      · exact .inl (by omega)
      · exact .inr ⟨by omega, earlier.trans earlier'⟩

end

section
variable {α : Type*} {rel : α → α → Prop} [DecidableRel rel] [Std.Total rel] [IsTrans α rel] {items : List α} {count : Nat}

/-- The first so many in order come before every one left out. -/
theorem take_sorted {taken left : α} (inTaken : taken ∈ (items.insertionSort rel).take count) (inItems : left ∈ items)
    (out : left ∉ (items.insertionSort rel).take count) : rel taken left := by
  have sorted := List.pairwise_insertionSort rel items
  rw [← List.take_append_drop count (items.insertionSort rel), List.pairwise_append] at sorted
  have member := (List.mem_insertionSort rel).mpr inItems
  rw [← List.take_append_drop count (items.insertionSort rel)] at member
  rcases List.mem_append.mp member with inside | dropped
  · exact absurd inside out
  · exact sorted.2.2 taken inTaken left dropped

end

end LetterIRL.Lib
