import LetterIRL.Layout.Visual

namespace LetterIRL.Layout
open Lib

/-! Every visible cluster of a line is drawn once and whole. -/

namespace ParagraphBidi
variable {p : ParagraphBidi} {start stop cluster index : Nat}

theorem startOf_eq (inList : cluster ≤ p.clusters.length) :
    p.startOf cluster = (p.clusters.take cluster).flatten.length := by
  unfold startOf
  rw [List.getD_eq_getElem?_getD, clusterStart_getElem? 0 inList]
  simp

theorem startOf_succ (cluster : Nat) (inList : cluster < p.clusters.length) :
    p.startOf cluster < p.startOf (cluster + 1) := by
  rw [startOf_eq inList.le, startOf_eq inList, List.take_add_one, List.getElem?_eq_getElem inList]
  have visible := p.graphemes.visible p.paragraph _ (List.getElem_mem inList)
  have some := List.length_pos_iff.mpr visible
  simp only [Option.toList_some, List.flatten_append, List.flatten_singleton, List.length_append]
  omega

theorem startOf_mono (cluster later : Nat) (ordered : cluster ≤ later) (inList : later ≤ p.clusters.length) :
    p.startOf cluster ≤ p.startOf later := by
  induction later with
  | zero =>
    obtain rfl : cluster = 0 := by omega
    exact le_rfl
  | succ later ih =>
    by_cases same : cluster = later + 1
    · rw [same]
    · have earlier := ih (by omega) (by omega)
      have next := startOf_succ (p := p) later (by omega)
      omega

theorem startOf_strict (cluster later : Nat) (ordered : cluster < later) (inList : later ≤ p.clusters.length) :
    p.startOf cluster < p.startOf later := by
  have next := startOf_succ (p := p) cluster (by omega)
  have rest := startOf_mono (p := p) (cluster + 1) _ ordered inList
  omega

theorem startOf_last : p.startOf p.clusters.length = p.paragraph.length := by
  rw [startOf_eq le_rfl, List.take_length]
  exact congrArg List.length (p.graphemes.joins p.paragraph)

theorem clusterAt_spec (index : Nat) (inText : index < p.paragraph.length) :
    p.clusterAt index < p.clusters.length ∧ p.startOf (p.clusterAt index) ≤ index ∧
      index < p.startOf (p.clusterAt index + 1) := by
  have whole : (clusterOf 0 p.clusters).length = p.paragraph.length :=
    (length_clusterOf 0 p.clusters).trans (congrArg List.length (p.graphemes.joins p.paragraph))
  have found := List.getElem?_eq_getElem (l := clusterOf 0 p.clusters) (i := index) (by omega)
  obtain ⟨cluster, inList, same, least, less⟩ := clusterOf_getElem? found
  have here : p.clusterAt index = cluster := by
    unfold clusterAt
    rw [List.getD_eq_getElem?_getD, found, Option.getD_some, same, Nat.zero_add]
  rw [here, startOf_eq inList.le, startOf_eq inList]
  exact ⟨inList, least, less⟩

theorem clusterAt_eq (inList : cluster < p.clusters.length) (least : p.startOf cluster ≤ index)
    (less : index < p.startOf (cluster + 1)) : p.clusterAt index = cluster := by
  have last := startOf_mono (p := p) (cluster + 1) p.clusters.length inList le_rfl
  rw [startOf_last] at last
  obtain ⟨inClusters, from_, before⟩ := clusterAt_spec (p := p) index (by omega)
  by_contra other
  rcases Nat.lt_or_gt_of_ne other with earlier | later
  · have := startOf_mono (p := p) (p.clusterAt index + 1) cluster earlier inList.le
    omega
  · have := startOf_mono (p := p) (cluster + 1) (p.clusterAt index) later inClusters.le
    omega

/-- The units of a cluster. -/
def clusterUnits (p : ParagraphBidi) (cluster : Nat) : List Nat :=
  List.range' (p.startOf cluster) (p.startOf (cluster + 1) - p.startOf cluster)

theorem mem_clusterUnits (inList : cluster < p.clusters.length) :
    index ∈ p.clusterUnits cluster ↔ p.startOf cluster ≤ index ∧ index < p.startOf (cluster + 1) := by
  have next := startOf_succ cluster inList
  unfold clusterUnits
  rw [List.mem_range'_1]
  omega

/-- A cluster that prints something. -/
def isVisible (p : ParagraphBidi) (cluster : Nat) : Bool :=
  (p.clusterUnits cluster).any fun index => !isInvisible (p.unitAt index)

def inLine (p : ParagraphBidi) (start stop cluster : Nat) : Bool :=
  start ≤ p.startOf cluster && p.startOf (cluster + 1) ≤ stop

/-- A line starts and stops at clusters' starts, the paragraph's end among them. -/
structure Aligned (p : ParagraphBidi) (start stop : Nat) : Prop where
  ordered : start ≤ stop
  starts : ∃ cluster ≤ p.clusters.length, p.startOf cluster = start
  stops : ∃ cluster ≤ p.clusters.length, p.startOf cluster = stop

theorem Aligned.inText (aligned : p.Aligned start stop) : stop ≤ p.paragraph.length := by
  obtain ⟨last, inList, rfl⟩ := aligned.stops
  rw [← startOf_last]
  exact startOf_mono _ _ inList le_rfl

/-- A unit of the line lies in a cluster of the line. -/
theorem Aligned.unit (aligned : p.Aligned start stop) (from_ : start ≤ index) (before : index < stop) :
    p.clusterAt index < p.clusters.length ∧ start ≤ p.startOf (p.clusterAt index) ∧
      p.startOf (p.clusterAt index + 1) ≤ stop := by
  have inText := aligned.inText
  obtain ⟨inClusters, least, less⟩ := clusterAt_spec (p := p) index (by omega)
  obtain ⟨first, inFirst, rfl⟩ := aligned.starts
  obtain ⟨last, inLast, rfl⟩ := aligned.stops
  refine ⟨inClusters, ?_, ?_⟩
  · by_cases after : first ≤ p.clusterAt index
    · exact startOf_mono _ _ after inClusters.le
    · have := startOf_mono (p := p) (p.clusterAt index + 1) first (by omega) inFirst
      omega
  · by_cases upTo : p.clusterAt index + 1 ≤ last
    · exact startOf_mono _ _ upTo inLast
    · have := startOf_mono (p := p) last (p.clusterAt index) (by omega) inClusters.le
      omega

/-- The line's visible clusters in the paragraph's order. -/
def visibleClusters (p : ParagraphBidi) (start stop : Nat) : List Nat :=
  (List.range p.clusters.length).filter fun cluster => p.inLine start stop cluster && p.isVisible cluster

/-- The line's clusters in the order they are drawn, those that print nothing among them. -/
def drawnClusters (p : ParagraphBidi) (start stop : Nat) : List Nat :=
  if !p.resolved then (List.range p.clusters.length).filter (p.inLine start stop)
  else if p.keptBefore stop ≤ p.keptBefore start then []
  else firstSeen [] ((p.order start stop).map p.clusterAt)

def visualClusters (p : ParagraphBidi) (start stop : Nat) : List Nat :=
  (p.drawnClusters start stop).filter p.isVisible

/-- A unit as it is to be drawn: mirrored at an odd level. -/
def drawnUnit (p : ParagraphBidi) (index : Nat) : Nat := (p.mirrorAt index).getD (p.unitAt index)

/-- The line draws each of its visible clusters once, whole and in internal order, mirrored where its level is odd. -/
def DrawsEach (p : ParagraphBidi) (start stop : Nat) : Prop :=
  (p.visualClusters start stop).Perm (p.visibleClusters start stop) ∧
    p.lineVisual start stop =
      withoutInvisible (((p.visualClusters start stop).flatMap p.clusterUnits).map p.drawnUnit)

/-- Only the first unit of a cluster has a mirror image at an odd level. -/
def MirrorsLead (p : ParagraphBidi) (start stop : Nat) : Prop :=
  ∀ index, start ≤ index → index < stop → p.mirrorAt index ≠ none → p.startOf (p.clusterAt index) = index

theorem kept_of_visible {unit : Nat} (shown : isInvisible unit = false) : inRanges notForBidi unit = false := by
  unfold isInvisible at shown
  simp only [inRanges, invisibleRanges, notForBidi, List.any_cons, List.any_nil, Bool.or_eq_false_iff,
    Bool.and_eq_false_iff, decide_eq_false_iff_not, Bool.or_false] at shown ⊢
  omega

theorem mem_keptIn : index ∈ p.keptIn start stop ↔ start ≤ index ∧ index < stop ∧ p.isKept index = true := by
  unfold keptIn
  rw [List.mem_filter, List.mem_range'_1]
  constructor
  · rintro ⟨⟨least, less⟩, isKept⟩
    exact ⟨least, by omega, isKept⟩
  · rintro ⟨least, less, isKept⟩
    exact ⟨⟨least, by omega⟩, isKept⟩

theorem drawnClusters_inLine (aligned : p.Aligned start stop) (member : cluster ∈ p.drawnClusters start stop) :
    cluster < p.clusters.length ∧ p.inLine start stop cluster = true := by
  unfold drawnClusters at member
  split at member
  · obtain ⟨inRange, within⟩ := List.mem_filter.mp member
    exact ⟨List.mem_range.mp inRange, within⟩
  · split at member
    · cases member
    · rename_i some
      obtain ⟨seen, -⟩ := mem_firstSeen.mp member
      obtain ⟨unit, inOrder, rfl⟩ := List.mem_map.mp seen
      have perm := order_perm (p := p) aligned.inText (by omega) aligned.ordered
      obtain ⟨least, less, -⟩ := mem_keptIn.mp (perm.mem_iff.mp inOrder)
      obtain ⟨inList, above, below⟩ := aligned.unit least less
      exact ⟨inList, by simp [inLine, above, below]⟩

theorem drawnClusters_visible (aligned : p.Aligned start stop) (inList : cluster < p.clusters.length)
    (within : p.inLine start stop cluster = true) (shown : p.isVisible cluster = true) :
    cluster ∈ p.drawnClusters start stop := by
  obtain ⟨unit, inCluster, seen⟩ := List.any_eq_true.mp shown
  obtain ⟨least, less⟩ := (mem_clusterUnits inList).mp inCluster
  have bounds : start ≤ p.startOf cluster ∧ p.startOf (cluster + 1) ≤ stop := by simpa [inLine] using within
  have isKept : p.isKept unit = true := by
    unfold isKept
    rw [kept_of_visible (by simpa using seen)]
    rfl
  have inKept : unit ∈ p.keptIn start stop := mem_keptIn.mpr ⟨by omega, by omega, isKept⟩
  have count := keptBefore_stop (p := p) aligned.ordered
  have some := List.length_pos_of_mem inKept
  unfold drawnClusters
  split
  · exact List.mem_filter.mpr ⟨List.mem_range.mpr inList, within⟩
  · rw [if_neg (by omega)]
    have perm := order_perm (p := p) aligned.inText (by omega) aligned.ordered
    refine mem_firstSeen.mpr ⟨?_, List.not_mem_nil⟩
    exact List.mem_map.mpr ⟨unit, perm.mem_iff.mpr inKept, clusterAt_eq inList least less⟩

theorem visualClusters_perm (aligned : p.Aligned start stop) :
    (p.visualClusters start stop).Perm (p.visibleClusters start stop) := by
  refine (List.perm_ext_iff_of_nodup ?_ (List.Nodup.filter _ List.nodup_range)).mpr fun cluster => ?_
  · refine List.Nodup.filter _ ?_
    unfold drawnClusters
    split
    · exact List.Nodup.filter _ List.nodup_range
    · split
      · exact List.nodup_nil
      · exact firstSeen_nodup _ _
  · unfold visualClusters
    rw [List.mem_filter, List.mem_filter, List.mem_range, Bool.and_eq_true]
    constructor
    · rintro ⟨member, shown⟩
      obtain ⟨inList, within⟩ := drawnClusters_inLine aligned member
      exact ⟨inList, within, shown⟩
    · rintro ⟨inList, within, shown⟩
      exact ⟨drawnClusters_visible aligned inList within shown, shown⟩

theorem slice_eq_map {first last : Nat} (inText : last ≤ p.paragraph.length) :
    slice p.paragraph first last = (List.range' first (last - first)).map p.unitAt := by
  unfold slice
  refine List.ext_getElem (by simp; omega) ?_
  intro index inLeft inRight
  rw [List.getElem_map, List.getElem_range', List.getElem_take, List.getElem_drop]
  unfold unitAt
  have inList : first + index < p.paragraph.length := by
    simp only [List.length_take, List.length_drop] at inLeft
    omega
  rw [List.getD_eq_getElem?_getD, Nat.one_mul, List.getElem?_eq_getElem inList]
  rfl

/-- A unit as the line draws it: mirrored when it leads its cluster. -/
def leadUnit (p : ParagraphBidi) (index : Nat) : Nat :=
  if p.startOf (p.clusterAt index) = index then p.drawnUnit index else p.unitAt index

theorem piece_eq (resolved : p.resolved = true) (inList : cluster < p.clusters.length)
    (within : p.inLine start stop cluster = true) :
    p.piece start stop cluster = (p.clusterUnits cluster).map p.leadUnit := by
  have bounds : start ≤ p.startOf cluster ∧ p.startOf (cluster + 1) ≤ stop := by simpa [inLine] using within
  have next := startOf_succ cluster inList
  have last := startOf_mono (p := p) (cluster + 1) p.clusters.length inList le_rfl
  rw [startOf_last] at last
  unfold piece
  simp only []
  rw [max_eq_left bounds.1, min_eq_left bounds.2, slice_eq_map last, mirrored_lookup resolved (by omega)]
  obtain ⟨rest, size⟩ : ∃ rest, p.startOf (cluster + 1) - p.startOf cluster = rest + 1 :=
    ⟨p.startOf (cluster + 1) - p.startOf cluster - 1, by omega⟩
  unfold clusterUnits
  rw [size, List.range'_succ, List.map_cons, List.map_cons]
  have first : p.clusterAt (p.startOf cluster) = cluster := clusterAt_eq inList le_rfl next
  have lead : p.leadUnit (p.startOf cluster) = p.drawnUnit (p.startOf cluster) := by
    unfold leadUnit
    rw [first, if_pos rfl]
  have others : (List.range' (p.startOf cluster + 1) rest).map p.leadUnit =
      (List.range' (p.startOf cluster + 1) rest).map p.unitAt := by
    refine List.map_congr_left fun index member => ?_
    obtain ⟨least, less⟩ := List.mem_range'_1.mp member
    unfold leadUnit
    rw [clusterAt_eq inList (by omega) (by omega), if_neg (by omega)]
  rw [lead, others]
  unfold drawnUnit
  cases p.mirrorAt (p.startOf cluster) with
  | none => rfl
  | some image => rfl

theorem flatMap_clusterUnits {first count : Nat} (inList : first + count ≤ p.clusters.length) :
    (List.range' first count).flatMap p.clusterUnits =
      List.range' (p.startOf first) (p.startOf (first + count) - p.startOf first) := by
  induction count with
  | zero => simp
  | succ count ih =>
    have before := startOf_mono (p := p) first (first + count) (by omega) (by omega)
    have next := startOf_succ (p := p) (first + count) (by omega)
    rw [List.range'_1_concat, List.flatMap_append, ih (by omega), List.flatMap_singleton]
    unfold clusterUnits
    have joined := List.range'_append_1 (s := p.startOf first) (m := p.startOf (first + count) - p.startOf first)
      (n := p.startOf (first + count + 1) - p.startOf (first + count))
    rw [show p.startOf first + (p.startOf (first + count) - p.startOf first) = p.startOf (first + count) by omega]
      at joined
    rw [joined, ← Nat.add_assoc]
    congr 1
    omega

theorem filter_inLine (aligned : p.Aligned start stop) :
    ((List.range p.clusters.length).filter (p.inLine start stop)).flatMap p.clusterUnits =
      List.range' start (stop - start) := by
  have ordered := aligned.ordered
  obtain ⟨first, inFirst, rfl⟩ := aligned.starts
  obtain ⟨last, inLast, rfl⟩ := aligned.stops
  have before : first ≤ last := by
    by_contra after
    have := startOf_strict (p := p) last first (by omega) inFirst
    omega
  have split : List.range p.clusters.length =
      List.range' 0 first ++ (List.range' first (last - first) ++ List.range' last (p.clusters.length - last)) := by
    have late := List.range'_append_1 (s := first) (m := last - first) (n := p.clusters.length - last)
    rw [show first + (last - first) = last by omega] at late
    have early := List.range'_append_1 (s := 0) (m := first) (n := last - first + (p.clusters.length - last))
    rw [Nat.zero_add] at early
    rw [late, early, List.range_eq_range']
    congr 1
    omega
  have none : (List.range' 0 first).filter (p.inLine (p.startOf first) (p.startOf last)) = [] := by
    refine List.filter_eq_nil_iff.mpr fun cluster member within => ?_
    obtain ⟨-, less⟩ := List.mem_range'_1.mp member
    have strict := startOf_strict (p := p) cluster first (by omega) inFirst
    have bounds : p.startOf first ≤ p.startOf cluster ∧ p.startOf (cluster + 1) ≤ p.startOf last := by
      simpa [inLine] using within
    omega
  have all : (List.range' first (last - first)).filter (p.inLine (p.startOf first) (p.startOf last)) =
      List.range' first (last - first) := by
    refine List.filter_eq_self.mpr fun cluster member => ?_
    obtain ⟨least, less⟩ := List.mem_range'_1.mp member
    have above := startOf_mono (p := p) first cluster least (by omega)
    have below := startOf_mono (p := p) (cluster + 1) last (by omega) inLast
    simp [inLine, above, below]
  have beyond : (List.range' last (p.clusters.length - last)).filter
      (p.inLine (p.startOf first) (p.startOf last)) = [] := by
    refine List.filter_eq_nil_iff.mpr fun cluster member within => ?_
    obtain ⟨least, less⟩ := List.mem_range'_1.mp member
    have strict := startOf_strict (p := p) last (cluster + 1) (by omega) (by omega)
    have bounds : p.startOf first ≤ p.startOf cluster ∧ p.startOf (cluster + 1) ≤ p.startOf last := by
      simpa [inLine] using within
    omega
  rw [split, List.filter_append, List.filter_append, none, all, beyond, List.nil_append, List.append_nil,
    flatMap_clusterUnits (by omega)]
  congr 1
  rw [show first + (last - first) = last by omega]

/-- Drawing nothing for what prints nothing, a line is its drawn clusters' units, mirrored where they lead. -/
theorem lineVisual_eq (aligned : p.Aligned start stop) :
    p.lineVisual start stop =
      withoutInvisible (((p.drawnClusters start stop).flatMap p.clusterUnits).map p.leadUnit) := by
  have within : ∀ cluster ∈ p.drawnClusters start stop,
      cluster < p.clusters.length ∧ p.inLine start stop cluster = true := fun _ => drawnClusters_inLine aligned
  unfold lineVisual drawnClusters at *
  cases resolved : p.resolved with
  | false =>
    have plain : p.leadUnit = p.unitAt := by
      funext index
      simp [leadUnit, drawnUnit, mirrorAt, resolved]
    simp only [Bool.not_false, if_true]
    rw [filter_inLine aligned, plain, slice_eq_map aligned.inText]
  | true =>
    simp only [resolved, Bool.not_true, Bool.false_eq_true, if_false] at within ⊢
    split
    · rfl
    · rename_i some
      rw [if_neg some] at within
      rw [drawClusters_eq, List.map_flatMap, List.flatMap_def]
      congr 2
      exact List.map_congr_left fun cluster member =>
        piece_eq resolved (within cluster member).1 (within cluster member).2

theorem isInvisible_drawnUnit (index : Nat) : isInvisible (p.drawnUnit index) = isInvisible (p.unitAt index) := by
  unfold drawnUnit mirrorAt
  split
  · cases image : p.bidi.mirror (p.unitAt index) with
    | none => rfl
    | some image =>
      obtain ⟨-, unit, drawn⟩ := p.bidi.drawn _ _ image
      rw [Option.getD_some, unit, drawn]
  · rfl

theorem isInvisible_leadUnit (index : Nat) : isInvisible (p.leadUnit index) = isInvisible (p.unitAt index) := by
  unfold leadUnit
  split
  · exact isInvisible_drawnUnit index
  · rfl

/-- Clusters that print nothing add nothing to a line. -/
theorem withoutInvisible_visible (clusters : List Nat) :
    withoutInvisible ((clusters.flatMap p.clusterUnits).map p.drawnUnit) =
      withoutInvisible (((clusters.filter p.isVisible).flatMap p.clusterUnits).map p.drawnUnit) := by
  induction clusters with
  | nil => rfl
  | cons cluster rest ih =>
    unfold withoutInvisible at ih ⊢
    rw [List.flatMap_cons, List.map_append, List.filter_append, ih]
    by_cases shown : p.isVisible cluster = true
    · rw [List.filter_cons_of_pos shown, List.flatMap_cons, List.map_append, List.filter_append]
    · rw [List.filter_cons_of_neg shown]
      have nothing : ((p.clusterUnits cluster).map p.drawnUnit).filter (fun unit => !isInvisible unit) = [] := by
        refine List.filter_eq_nil_iff.mpr fun unit member seen => shown ?_
        obtain ⟨index, inCluster, rfl⟩ := List.mem_map.mp member
        rw [isInvisible_drawnUnit] at seen
        exact List.any_eq_true.mpr ⟨index, inCluster, seen⟩
      rw [nothing, List.nil_append]

theorem withoutInvisible_inj {f g : Nat → Nat} {units : List Nat}
    (same : ∀ index ∈ units, isInvisible (f index) = isInvisible (g index)) :
    withoutInvisible (units.map f) = withoutInvisible (units.map g) ↔
      ∀ index ∈ units, isInvisible (g index) = false → f index = g index := by
  induction units with
  | nil => simp [withoutInvisible]
  | cons index rest ih =>
    have here := same index List.mem_cons_self
    have later := ih fun other member => same other (List.mem_cons_of_mem _ member)
    unfold withoutInvisible at later ⊢
    rw [List.map_cons, List.map_cons, List.forall_mem_cons]
    cases hidden : isInvisible (g index) with
    | true =>
      rw [List.filter_cons_of_neg (by simp [here, hidden]), List.filter_cons_of_neg (by simp [hidden]), later]
      simp
    | false =>
      rw [List.filter_cons_of_pos (by simp [here, hidden]), List.filter_cons_of_pos (by simp [hidden]),
        List.cons.injEq, later]
      simp

/-- A mirrored unit prints, and its cluster is drawn. -/
theorem mirrored_drawn (aligned : p.Aligned start stop) (least : start ≤ index) (less : index < stop)
    {image : Nat} (mirror : p.mirrorAt index = some image) :
    index ∈ (p.drawnClusters start stop).flatMap p.clusterUnits ∧ image ≠ p.unitAt index ∧
      isInvisible (p.drawnUnit index) = false := by
  have inText := aligned.inText
  obtain ⟨inList, above, below⟩ := aligned.unit least less
  obtain ⟨-, from_, before⟩ := clusterAt_spec (p := p) index (by omega)
  have inCluster := (mem_clusterUnits inList).mpr ⟨from_, before⟩
  have image_ : p.bidi.mirror (p.unitAt index) = some image := by
    unfold mirrorAt at mirror
    split at mirror
    · exact mirror
    · cases mirror
  obtain ⟨other, seen, -⟩ := p.bidi.drawn _ _ image_
  refine ⟨?_, other, ?_⟩
  · refine List.mem_flatMap.mpr ⟨p.clusterAt index, ?_, inCluster⟩
    refine drawnClusters_visible aligned inList (by simp [inLine, above, below]) ?_
    exact List.any_eq_true.mpr ⟨index, inCluster, by simp [seen]⟩
  · rw [isInvisible_drawnUnit, seen]

/-- A line of a paragraph, starting and stopping at clusters' starts, draws each visible cluster once, whole and
mirrored where its level is odd, exactly when every mirrored unit leads its cluster. -/
theorem lineVisual_draws (aligned : p.Aligned start stop) : p.DrawsEach start stop ↔ p.MirrorsLead start stop := by
  have inText := aligned.inText
  have drawn : p.DrawsEach start stop ↔ ∀ index ∈ (p.drawnClusters start stop).flatMap p.clusterUnits,
      isInvisible (p.drawnUnit index) = false → p.leadUnit index = p.drawnUnit index := by
    unfold DrawsEach visualClusters
    rw [lineVisual_eq aligned, ← withoutInvisible_visible, withoutInvisible_inj fun index _ => by
      rw [isInvisible_leadUnit, isInvisible_drawnUnit]]
    exact and_iff_right (visualClusters_perm aligned)
  rw [drawn]
  constructor
  · intro same index least less mirrors
    obtain ⟨image, mirror⟩ := Option.ne_none_iff_exists'.mp mirrors
    obtain ⟨member, other, seen⟩ := mirrored_drawn aligned least less mirror
    by_contra inside
    have unit := same index member seen
    unfold leadUnit drawnUnit at unit
    rw [if_neg inside, mirror] at unit
    exact other unit.symm
  · intro lead index member _
    obtain ⟨cluster, inDrawn, inCluster⟩ := List.mem_flatMap.mp member
    obtain ⟨inList, within⟩ := drawnClusters_inLine aligned inDrawn
    have bounds : start ≤ p.startOf cluster ∧ p.startOf (cluster + 1) ≤ stop := by simpa [inLine] using within
    obtain ⟨from_, before⟩ := (mem_clusterUnits inList).mp inCluster
    unfold leadUnit
    split
    · rfl
    · rename_i inside
      have none : p.mirrorAt index = none := by
        by_contra mirrors
        exact inside (lead index (by omega) (by omega) mirrors)
      unfold drawnUnit
      rw [none]
      rfl

/-- An Arabic number sign keeps the character after it in its cluster. -/
def joinPrepend : Text → List Text
  | 0x0600 :: unit :: rest => [0x0600, unit] :: joinPrepend rest
  | unit :: rest => [unit] :: joinPrepend rest
  | [] => []

def prependClusters : Segmenter where
  segment := joinPrepend
  joins := by
    intro text
    fun_induction joinPrepend text with
    | case1 unit rest ih => simpa using ih
    | case2 unit rest _ ih => simpa using ih
    | case3 => rfl
  visible := by
    intro text
    fun_induction joinPrepend text with
    | case1 unit rest ih => simpa using ih
    | case2 unit rest _ ih => simpa using ih
    | case3 => simp

/-- Hebrew text: the number sign at level 2, the rest of the line at level 1 and reversed. -/
def hebrewBidi : BidiJs where
  levels := fun text => text.map fun unit => if unit = 0x0600 then 2 else 1
  segments := fun _ first last => if first ≤ last then [(first, last)] else []
  inLine := by
    intro text first last segment member
    split at member
    · obtain rfl := List.mem_singleton.mp member
      exact ⟨le_rfl, by assumption, by assumption, le_rfl⟩
    · cases member
  mirror := fun unit => if unit = 0x28 then some 0x29 else if unit = 0x29 then some 0x28 else none
  drawn := by
    intro unit image mirror
    split at mirror
    · obtain rfl := Option.some.inj mirror
      rename_i left
      subst left
      decide
    · split at mirror
      · obtain rfl := Option.some.inj mirror
        rename_i right
        subst right
        decide
      · cases mirror

def hebrewLine (paragraph : Text) : ParagraphBidi := ⟨hebrewBidi, prependClusters, paragraph⟩

theorem bracket_draws : (hebrewLine [0x05d0, 0x28, 0x05d0]).DrawsEach 0 3 := by
  refine (lineVisual_draws ⟨by decide, ⟨0, by decide, rfl⟩, 3, by decide, rfl⟩).mpr ?_
  intro index _ before _
  have less : index < 3 := before
  interval_cases index <;> rfl

/-- A bracket behind an Arabic number sign, in one cluster with it, is drawn as it is typed. -/
theorem prepended_bracket_kept : (hebrewLine [0x05d0, 0x0600, 0x28, 0x05d0]).Aligned 0 4 ∧
    ¬(hebrewLine [0x05d0, 0x0600, 0x28, 0x05d0]).DrawsEach 0 4 := by
  refine ⟨⟨by decide, ⟨0, by decide, rfl⟩, 3, by decide, rfl⟩, fun draws => ?_⟩
  have same := draws.2
  revert same
  decide

end ParagraphBidi

end LetterIRL.Layout
