import LetterIRL.Layout.Bidi

namespace LetterIRL.Layout
open Lib

/-! What a line draws of each cluster, and in what order. -/

theorem reverseSegment_perm (order : Array Nat) (low : Nat) {high : Nat} (inside : high < order.size) :
    (reverseSegment order low high).Perm order := by
  unfold reverseSegment
  refine (whileLoop_invariant (I := fun s : Nat × Nat × Array Nat => s.2.1 < order.size ∧ s.2.2.Perm order)
    ⟨inside, .rfl⟩ ?_).2
  rintro ⟨low, high, line⟩ going ⟨inside, perm⟩
  have inside : high < order.size := inside
  have less : low < high := by simpa using going
  have size : line.size = order.size := perm.size_eq
  refine ⟨?_, ?_⟩
  · show high - 1 < order.size
    omega
  · show (line.swapIfInBounds low high).Perm order
    rw [Array.swapIfInBounds_def, dif_pos (by omega), dif_pos (by omega)]
    exact (Array.swap_perm _ _).trans perm

theorem reverseSegments_perm {segments : List (Nat × Nat)} {first : Nat} (line : Array Nat)
    (inside : ∀ segment ∈ segments, segment.2 - first < line.size) :
    (segments.foldl (fun line segment => reverseSegment line (segment.1 - first) (segment.2 - first)) line).Perm
      line := by
  induction segments generalizing line with
  | nil => exact .rfl
  | cons segment rest ih =>
    have once := reverseSegment_perm line (segment.1 - first) (inside segment List.mem_cons_self)
    refine (ih _ ?_).trans once
    intro later member
    rw [once.size_eq]
    exact inside later (List.mem_cons_of_mem _ member)

theorem length_clusterStart (index : Nat) (clusters : List Text) :
    (clusterStart index clusters).length = clusters.length + 1 := by
  induction clusters generalizing index with
  | nil => rfl
  | cons cluster rest ih => simp [clusterStart, ih]

theorem clusterStart_getElem? (index : Nat) {cluster : Nat} {clusters : List Text} (inList : cluster ≤ clusters.length) :
    (clusterStart index clusters)[cluster]? = some (index + (clusters.take cluster).flatten.length) := by
  induction clusters generalizing index cluster with
  | nil =>
    obtain rfl : cluster = 0 := by simpa using inList
    rfl
  | cons first rest ih =>
    cases cluster with
    | zero => rfl
    | succ cluster =>
      have within : cluster ≤ rest.length := by simpa using inList
      have later := ih (index + first.length) within
      simp only [clusterStart, List.getElem?_cons_succ, later, List.take_succ_cons, List.flatten_cons,
        List.length_append]
      congr 1
      omega

theorem clusterOf_getElem? {count unit cluster : Nat} {clusters : List Text}
    (found : (clusterOf count clusters)[unit]? = some cluster) :
    ∃ index < clusters.length, cluster = count + index ∧ (clusters.take index).flatten.length ≤ unit ∧
      unit < (clusters.take (index + 1)).flatten.length := by
  induction clusters generalizing count unit with
  | nil => cases found
  | cons first rest ih =>
    unfold clusterOf at found
    by_cases inFirst : unit < first.length
    · rw [List.getElem?_append_left (by simpa using inFirst)] at found
      have same := (List.getElem?_replicate_of_lt inFirst).symm.trans found
      refine ⟨0, by simp, (Option.some.inj same).symm, by simp, by simpa using inFirst⟩
    · rw [List.getElem?_append_right (by simpa using inFirst)] at found
      obtain ⟨index, inRest, same, least, less⟩ := ih found
      simp only [List.length_replicate] at least less
      refine ⟨index + 1, by simpa using inRest, by omega, ?_, ?_⟩
      · simp only [List.take_succ_cons, List.flatten_cons, List.length_append]
        omega
      · simp only [List.take_succ_cons (i := index + 1), List.flatten_cons, List.length_append]
        omega

theorem length_clusterOf (count : Nat) (clusters : List Text) :
    (clusterOf count clusters).length = clusters.flatten.length := by
  induction clusters generalizing count with
  | nil => rfl
  | cons first rest ih => simp [clusterOf, ih]

/-- Each unit's first appearance, those already seen left out. -/
def firstSeen : List Nat → List Nat → List Nat
  | _, [] => []
  | seen, item :: rest => if item ∈ seen then firstSeen seen rest else item :: firstSeen (item :: seen) rest

theorem mem_firstSeen {seen items : List Nat} {item : Nat} :
    item ∈ firstSeen seen items ↔ item ∈ items ∧ item ∉ seen := by
  induction items generalizing seen with
  | nil => simp [firstSeen]
  | cons first rest ih =>
    unfold firstSeen
    split
    · rename_i before
      rw [ih, List.mem_cons]
      constructor
      · rintro ⟨member, fresh⟩
        exact ⟨.inr member, fresh⟩
      · rintro ⟨rfl | member, fresh⟩
        · exact absurd before fresh
        · exact ⟨member, fresh⟩
    · rename_i fresh
      rw [List.mem_cons, ih, List.mem_cons, List.mem_cons]
      constructor
      · rintro (rfl | ⟨member, other⟩)
        · exact ⟨.inl rfl, fresh⟩
        · exact ⟨.inr member, fun before => other (.inr before)⟩
      · rintro ⟨rfl | member, new⟩
        · exact .inl rfl
        · by_cases same : item = first
          · exact .inl same
          · exact .inr ⟨member, fun before => before.elim same new⟩

theorem firstSeen_nodup (seen items : List Nat) : (firstSeen seen items).Nodup := by
  induction items generalizing seen with
  | nil => exact List.nodup_nil
  | cons first rest ih =>
    unfold firstSeen
    split
    · exact ih seen
    · refine List.nodup_cons.mpr ⟨?_, ih _⟩
      intro again
      exact (mem_firstSeen.mp again).2 List.mem_cons_self

namespace ParagraphBidi
variable {p : ParagraphBidi} {start stop : Nat}

theorem drawClusters_eq (p : ParagraphBidi) (start stop : Nat) (emitted units : List Nat) :
    p.drawClusters start stop emitted units = (firstSeen emitted (units.map p.clusterAt)).map (p.piece start stop) := by
  induction units generalizing emitted with
  | nil => rfl
  | cons unit rest ih =>
    unfold drawClusters
    simp only [List.map_cons, firstSeen]
    split
    · exact ih emitted
    · rw [List.map_cons, ih]

/-- The kept units of a stretch. -/
def keptIn (p : ParagraphBidi) (start stop : Nat) : List Nat := (List.range' start (stop - start)).filter p.isKept

theorem kept_split (ordered : start ≤ stop) (inText : stop ≤ p.paragraph.length) :
    p.kept = (List.range start).filter p.isKept ++ (p.keptIn start stop ++
      (List.range' stop (p.paragraph.length - stop)).filter p.isKept) := by
  unfold kept keptIn
  rw [← List.filter_append, ← List.filter_append]
  congr 1
  rw [List.range_eq_range', List.range_eq_range']
  have later : List.range' start (stop - start) ++ List.range' stop (p.paragraph.length - stop) =
      List.range' start (p.paragraph.length - start) := by
    have joined := List.range'_append_1 (s := start) (m := stop - start) (n := p.paragraph.length - stop)
    rw [show start + (stop - start) = stop by omega,
      show stop - start + (p.paragraph.length - stop) = p.paragraph.length - start by omega] at joined
    exact joined
  rw [later]
  have joined := List.range'_append_1 (s := 0) (m := start) (n := p.paragraph.length - start)
  rw [show start + (p.paragraph.length - start) = p.paragraph.length by omega, Nat.zero_add] at joined
  exact joined.symm

theorem keptBefore_stop (ordered : start ≤ stop) :
    p.keptBefore stop = p.keptBefore start + (p.keptIn start stop).length := by
  unfold keptBefore keptIn
  have joined := List.range'_append_1 (s := 0) (m := start) (n := stop - start)
  rw [Nat.zero_add, show start + (stop - start) = stop by omega] at joined
  rw [List.range_eq_range', List.range_eq_range', ← joined, List.filter_append, List.length_append]

theorem order_perm (inText : stop ≤ p.paragraph.length) (some : p.keptBefore start < p.keptBefore stop)
    (ordered : start ≤ stop) : (p.order start stop).Perm (p.keptIn start stop) := by
  have count := keptBefore_stop (p := p) ordered
  have whole := kept_split (p := p) ordered inText
  have line : (List.range' (p.keptBefore start) (p.keptIn start stop).length).map (fun index => p.kept.getD index 0) =
      p.keptIn start stop := by
    refine List.ext_getElem (by simp) ?_
    intro index inLeft inRight
    rw [List.getElem_map, List.getElem_range', whole]
    have before : ((List.range start).filter p.isKept).length = p.keptBefore start := rfl
    rw [List.getD_eq_getElem?_getD, List.getElem?_append_right (by omega),
      List.getElem?_append_left (by omega), List.getElem?_eq_getElem (by omega), Option.getD_some]
    congr 1
    omega
  unfold order
  simp only []
  rw [show p.keptBefore stop - p.keptBefore start = (p.keptIn start stop).length by omega]
  conv => rhs; rw [← line]
  refine List.Perm.map _ ?_
  refine Array.perm_iff_toList_perm.mp (reverseSegments_perm _ ?_) |>.trans (by simp)
  intro segment member
  obtain ⟨above, atMost, -, last⟩ := p.bidi.inLine _ _ _ segment member
  simp only [List.size_toArray, List.length_range']
  omega

theorem kept_getElem? {count index : Nat} :
    p.kept[count]? = some index ↔ index < p.paragraph.length ∧ p.isKept index = true ∧ p.keptBefore index = count := by
  have at_ : ∀ index < p.paragraph.length, p.isKept index = true → p.kept[p.keptBefore index]? = some index := by
    intro index inText isKept
    have whole := kept_split (p := p) inText.le le_rfl
    have first : p.keptIn index p.paragraph.length =
        index :: (List.range' (index + 1) (p.paragraph.length - index - 1)).filter p.isKept := by
      unfold keptIn
      rw [show p.paragraph.length - index = (p.paragraph.length - index - 1) + 1 by omega, List.range'_succ,
        List.filter_cons_of_pos isKept]
      simp
    have before : ((List.range index).filter p.isKept).length = p.keptBefore index := rfl
    rw [whole, first, List.getElem?_append_right before.le, before,
      Nat.sub_self (p.keptBefore index)]
    rfl
  constructor
  · intro found
    have member := List.mem_of_getElem? found
    obtain ⟨inRange, isKept⟩ := List.mem_filter.mp member
    have inText := List.mem_range.mp inRange
    refine ⟨inText, isKept, ?_⟩
    have nodup : p.kept.Nodup := List.Nodup.filter _ List.nodup_range
    obtain ⟨inKept, -⟩ := List.getElem?_eq_some_iff.mp (at_ index inText isKept)
    exact (List.getElem?_inj inKept nodup).mp ((at_ index inText isKept).trans found.symm)
  · rintro ⟨inText, isKept, rfl⟩
    exact at_ index inText isKept

/-- The mirror image a unit at an odd level has. -/
def mirrorAt (p : ParagraphBidi) (index : Nat) : Option Nat :=
  if p.resolved && p.isKept index && p.level (p.keptBefore index) % 2 == 1 then p.bidi.mirror (p.unitAt index)
  else none

theorem lookup_filterMap {f : Nat → Option (Nat × Nat)} {items : List Nat} {key : Nat} {found : Option Nat}
    (each : ∀ item ∈ items, ∀ entry, f item = some entry → entry.1 = key → some entry.2 = found)
    (present : ∀ image, found = some image → ∃ item ∈ items, f item = some (key, image)) :
    (items.filterMap f).lookup key = found := by
  induction items with
  | nil =>
    cases found with
    | none => rfl
    | some image =>
      obtain ⟨item, member, -⟩ := present image rfl
      cases member
  | cons item rest ih =>
    have later : ∀ item ∈ rest, ∀ entry, f item = some entry → entry.1 = key → some entry.2 = found :=
      fun item member => each item (List.mem_cons_of_mem _ member)
    have elsewhere : (∀ image, f item ≠ some (key, image)) →
        ∀ image, found = some image → ∃ item ∈ rest, f item = some (key, image) := by
      intro other image same
      obtain ⟨at_, member, entry⟩ := present image same
      rcases List.mem_cons.mp member with rfl | inRest
      · exact absurd entry (other image)
      · exact ⟨at_, inRest, entry⟩
    cases made : f item with
    | none =>
      rw [List.filterMap_cons_none made]
      exact ih later (elsewhere fun image => by simp [made])
    | some entry =>
      obtain ⟨at_, image⟩ := entry
      rw [List.filterMap_cons_some made]
      by_cases same : key = at_
      · have matched : (key == at_) = true := by simpa using same
        simp only [List.lookup_cons, matched]
        exact each item List.mem_cons_self _ made same.symm
      · have other : (key == at_) = false := by simpa using same
        simp only [List.lookup_cons, other]
        refine ih later (elsewhere fun image again => same ?_)
        rw [made] at again
        cases again
        rfl

theorem mirrored_lookup {index : Nat} (resolved : p.resolved = true) (inText : index < p.paragraph.length) :
    p.mirrored.lookup index = p.mirrorAt index := by
  have text : ∀ {count index : Nat}, p.kept[count]? = some index → p.bidiText.getD count 0 = p.unitAt index := by
    intro count index found
    unfold bidiText
    rw [List.getD_eq_getElem?_getD, List.getElem?_map, found]
    rfl
  refine lookup_filterMap ?_ ?_
  · intro count member entry made same
    have inKept : count < p.kept.length := by simpa [bidiText] using List.mem_range.mp member
    have found := List.getElem?_eq_getElem inKept
    split at made
    · rename_i odd
      obtain ⟨image, mirror, rfl⟩ := Option.map_eq_some_iff.mp made
      have here : p.kept[count] = index := by
        rw [← same, List.getD_eq_getElem?_getD, found]
        rfl
      rw [here] at found
      obtain ⟨-, isKept, before⟩ := kept_getElem?.mp found
      unfold mirrorAt
      rw [before, resolved, isKept, text found] at *
      simp only [odd, mirror]
      simp
    · cases made
  · intro image same
    unfold mirrorAt at same
    split at same
    · rename_i conditions
      simp only [Bool.and_eq_true, beq_iff_eq] at conditions
      obtain ⟨⟨-, isKept⟩, odd⟩ := conditions
      have found := kept_getElem?.mpr ⟨inText, isKept, rfl⟩
      obtain ⟨inKept, -⟩ := List.getElem?_eq_some_iff.mp found
      refine ⟨p.keptBefore index, List.mem_range.mpr (by simpa [bidiText] using inKept), ?_⟩
      rw [if_pos odd, text found, same, List.getD_eq_getElem?_getD, found]
      rfl
    · cases same

end ParagraphBidi

end LetterIRL.Layout
