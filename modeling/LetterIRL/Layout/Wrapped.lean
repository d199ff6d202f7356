import Mathlib.Data.List.TakeWhile
import LetterIRL.Layout.Wrap

namespace LetterIRL.Layout
open Lib

/-! What a wrapped paragraph's lines are: where they start and stop, what they leave out, and that they fit. -/

/-! Trailing spaces. -/

theorem trimmedEnd_le (paragraph : Text) (start stop : Nat) : trimmedEnd paragraph start stop ≤ stop := by
  induction stop with
  | zero => exact le_rfl
  | succ stop ih =>
    unfold trimmedEnd
    split <;> omega

theorem le_trimmedEnd (paragraph : Text) {start stop : Nat} (ordered : start ≤ stop) :
    start ≤ trimmedEnd paragraph start stop := by
  induction stop with
  | zero => exact ordered
  | succ stop ih =>
    unfold trimmedEnd
    split
    · rename_i spaces
      simp only [Bool.and_eq_true, decide_eq_true_eq] at spaces
      exact ih (by omega)
    · exact ordered

/-- Whether the unit at an index is a space. -/
def spaceAt (paragraph : Text) (index : Nat) : Prop := (paragraph[index]?).any isWhitespace = true

theorem spaceAt_of_trimmed (paragraph : Text) (start stop index : Nat)
    (above : trimmedEnd paragraph start stop ≤ index) (below : index < stop) : spaceAt paragraph index := by
  induction stop with
  | zero => omega
  | succ stop ih =>
    unfold trimmedEnd at above
    split at above
    · rename_i spaces
      simp only [Bool.and_eq_true, decide_eq_true_eq] at spaces
      by_cases last : index = stop
      · rw [last]
        exact spaces.2
      · exact ih above (by omega)
    · omega

/-- What is kept of a stretch ends with text. -/
theorem solid_trimmedEnd (paragraph : Text) {start stop : Nat} (kept : start < trimmedEnd paragraph start stop) :
    ¬spaceAt paragraph (trimmedEnd paragraph start stop - 1) := by
  induction stop with
  | zero => simp [trimmedEnd] at kept
  | succ stop ih =>
    unfold trimmedEnd at kept ⊢
    split at kept
    · rename_i spaces
      rw [if_pos spaces]
      exact ih kept
    · rename_i solid
      rw [if_neg solid]
      simp only [Bool.and_eq_true, decide_eq_true_eq, not_and] at solid
      exact solid kept

theorem trimmedEnd_mono (paragraph : Text) {start first second : Nat} (ordered : start ≤ first) (later : first ≤ second) :
    trimmedEnd paragraph start first ≤ trimmedEnd paragraph start second := by
  by_contra above
  have atMost := trimmedEnd_le paragraph start first
  have least := le_trimmedEnd paragraph (ordered.trans later)
  -- The last unit kept of the shorter stretch would be a space of the longer one.
  have space := spaceAt_of_trimmed paragraph start second (trimmedEnd paragraph start first - 1)
    (by omega) (by omega)
  exact solid_trimmedEnd paragraph (by omega) space

/-! Cluster ends. -/

theorem endsFrom_bounds {clusters : List Text} {start stop : Nat} (visible : ∀ cluster ∈ clusters, cluster ≠ [])
    (member : stop ∈ endsFrom start clusters) : start < stop ∧ stop ≤ start + clusters.flatten.length := by
  induction clusters generalizing start with
  | nil => cases member
  | cons cluster rest ih =>
    have long := List.length_pos_iff.mpr (visible cluster (List.mem_cons_self ..))
    rw [List.flatten_cons, List.length_append]
    rcases List.mem_cons.mp member with rfl | later
    · omega
    · obtain ⟨above, below⟩ := ih (fun other member => visible other (List.mem_cons_of_mem _ member)) later
      omega

theorem endsUpTo_head (stop : Nat) (ends : List Nat) : (endsUpTo stop ends).head? = ends.head? := by
  cases ends <;> rfl

theorem endsUpTo_mem {stop e : Nat} {ends : List Nat} (member : e ∈ endsUpTo stop ends) : e ∈ ends := by
  cases ends with
  | nil => exact member
  | cons first rest =>
    rcases List.mem_cons.mp member with rfl | later
    · exact List.mem_cons_self ..
    · exact List.mem_cons_of_mem _ ((List.takeWhile_sublist _).mem later)

theorem slice_length {text : Text} {start stop : Nat} (within : stop ≤ text.length) :
    (slice text start stop).length = stop - start := by
  simp [slice]
  omega

namespace Wrapping
variable {K : Type} [LE K] [DecidableLE K] {w : Wrapping K} {s : WrapState} {start stop : Nat}

/-- The first break past a start. -/
def nextBreak (w : Wrapping K) (start : Nat) : Nat := (w.breaks.find? (start < ·)).getD w.paragraph.length

/-- The clusters of the piece between a start and the next break end here. -/
def clusterEnds (w : Wrapping K) (start : Nat) : List Nat :=
  endsFrom start (w.graphemes.segment (slice w.paragraph start (w.nextBreak start)))

/-- Where a line may start, or stop before its trailing spaces: the paragraph's start, a break, or the end of a
cluster of the piece after such a place. -/
inductive Cut (w : Wrapping K) : Nat → Prop
  | origin : Cut w 0
  | break_ {position : Nat} (member : position ∈ w.breaks) : Cut w position
  | cluster {start stop : Nat} (before : Cut w start) (member : stop ∈ w.clusterEnds start) : Cut w stop

/-- The stretch is no wider than the line. -/
def fitsWidth (w : Wrapping K) (start stop : Nat) : Bool :=
  decide (w.measure start (trimmedEnd w.paragraph start stop) ≤ w.width)

/-- A line that fits the width, or holds no more than one cluster. -/
def Narrow (w : Wrapping K) (line : LineRange) : Prop :=
  w.measure line.start line.stop ≤ w.width ∨ ∀ first, (w.clusterEnds line.start).head? = some first → line.stop ≤ first

omit [LE K] [DecidableLE K] in
theorem break_le (member : stop ∈ w.breaks) : stop ≤ w.paragraph.length ∨ w.paragraph = [] := by
  by_cases empty : w.paragraph = []
  · exact .inr empty
  · have last := w.last empty
    obtain ⟨front, same⟩ := List.getLast?_eq_some_iff.mp last
    have sorted := w.increasing
    rw [same, List.pairwise_append] at sorted
    rw [same] at member
    rcases List.mem_append.mp member with before | here
    · exact .inl (sorted.2.2 stop before _ (List.mem_singleton.mpr rfl)).le
    · exact .inl (List.mem_singleton.mp here).le

omit [LE K] [DecidableLE K] in
theorem breaks_ordered {i j first second : Nat} (before : i < j) (atFirst : w.breaks[i]? = some first)
    (atSecond : w.breaks[j]? = some second) : first < second := by
  obtain ⟨inFirst, rfl⟩ := List.getElem?_eq_some_iff.mp atFirst
  obtain ⟨inSecond, rfl⟩ := List.getElem?_eq_some_iff.mp atSecond
  exact List.pairwise_iff_getElem.mp w.increasing i j inFirst inSecond before

/-- What a turn of the loop starts from. -/
structure Going (w : Wrapping K) (s : WrapState) : Prop where
  start : s.start ≤ w.paragraph.length
  passed : ∀ i < s.index, ∀ stop, w.breaks[i]? = some stop → stop ≤ s.start
  index : s.index ≤ w.breaks.length
  cut : w.Cut s.start

omit [LE K] [DecidableLE K] in
/-- The index after the breaks already passed: the next break is there. -/
theorem Going.skip (going : w.Going s) (left : s.start < w.paragraph.length) :
    s.index ≤ w.skip s.start s.index ∧ w.skip s.start s.index < w.breaks.length ∧
      (∀ i < w.skip s.start s.index, ∀ stop, w.breaks[i]? = some stop → stop ≤ s.start) ∧
      s.start < w.breakAt (w.skip s.start s.index) ∧ w.breakAt (w.skip s.start s.index) ∈ w.breaks ∧
      w.breakAt (w.skip s.start s.index) = w.nextBreak s.start := by
  have split : w.breaks = w.breaks.take s.index ++ w.breaks.drop s.index := (List.take_append_drop _ _).symm
  have passed : ∀ stop ∈ w.breaks.take s.index, stop ≤ s.start := by
    intro stop member
    obtain ⟨i, inTake, rfl⟩ := List.mem_iff_getElem.mp member
    rw [List.getElem_take]
    have inBreaks : i < w.breaks.length := by
      rw [List.length_take] at inTake
      omega
    refine going.passed i ?_ _ (List.getElem?_eq_getElem inBreaks)
    rw [List.length_take] at inTake
    omega
  have nonempty : w.paragraph ≠ [] := by
    rintro empty
    rw [empty] at left
    cases left
  have atEnd := w.last nonempty
  obtain ⟨front, same⟩ := List.getLast?_eq_some_iff.mp atEnd
  have lastLeft : w.paragraph.length ∈ w.breaks := by
    rw [same]
    exact List.mem_append_right _ (List.mem_singleton.mpr rfl)
  -- The breaks after the index, split where they first pass the start.
  have rest := List.takeWhile_append_dropWhile (p := (· ≤ s.start)) (l := w.breaks.drop s.index)
  cases later : (w.breaks.drop s.index).dropWhile (· ≤ s.start) with
  | nil =>
    rw [later, List.append_nil] at rest
    have low : ∀ stop ∈ w.breaks.drop s.index, stop ≤ s.start := by
      intro stop member
      rw [← rest] at member
      simpa using List.mem_takeWhile_imp member
    rw [split] at lastLeft
    rcases List.mem_append.mp lastLeft with early | late
    · exact absurd (passed _ early) (by omega)
    · exact absurd (low _ late) (by omega)
  | cons next others =>
    have high : s.start < next := by
      have head := List.head?_dropWhile_not (p := (· ≤ s.start)) (l := w.breaks.drop s.index)
      rw [later] at head
      simpa using head
    rw [later] at rest
    have whole : w.breaks = (w.breaks.take s.index ++ (w.breaks.drop s.index).takeWhile (· ≤ s.start)) ++ next :: others := by
      rw [List.append_assoc, rest]
      exact split
    have prefix_ : w.skip s.start s.index =
        (w.breaks.take s.index ++ (w.breaks.drop s.index).takeWhile (· ≤ s.start)).length := by
      rw [List.length_append, List.length_take, Nat.min_eq_left going.index]
      rfl
    have low : ∀ stop ∈ w.breaks.take s.index ++ (w.breaks.drop s.index).takeWhile (· ≤ s.start), stop ≤ s.start := by
      intro stop member
      rcases List.mem_append.mp member with early | late
      · exact passed stop early
      · simpa using List.mem_takeWhile_imp late
    generalize w.breaks.take s.index ++ (w.breaks.drop s.index).takeWhile (· ≤ s.start) = early at whole prefix_ low
    have here : w.breaks[w.skip s.start s.index]? = some next := by
      rw [prefix_, whole, List.getElem?_append_right le_rfl, Nat.sub_self]
      rfl
    have atNext : w.breakAt (w.skip s.start s.index) = next := by
      unfold breakAt
      rw [here]
      rfl
    refine ⟨Nat.le_add_right _ _, (List.getElem?_eq_some_iff.mp here).1, ?_, atNext ▸ high, ?_, ?_⟩
    · intro i before stop found
      rw [prefix_] at before
      refine low stop ?_
      rw [whole, List.getElem?_append_left before] at found
      exact List.mem_of_getElem? found
    · rw [atNext]
      exact List.mem_of_getElem? here
    · rw [atNext]
      unfold nextBreak
      rw [whole, List.find?_append, List.find?_eq_none.mpr (by simpa using low)]
      simp [high]

/-- Where a turn's line stops: at a break up to which it fits, or at the end of a cluster. -/
structure Stops (w : Wrapping K) (start stop : Nat) : Prop where
  past : start < stop
  within : stop ≤ w.paragraph.length
  cut : w.Cut stop
  narrow : w.fitsWidth start stop = true ∨ ∀ first, (w.clusterEnds start).head? = some first → stop ≤ first

theorem fitsWidth_of_fits {limit : Nat} (fits : w.fits start stop limit = true) : w.fitsWidth start stop = true := by
  unfold Wrapping.fits at fits
  simp only [Bool.and_eq_true] at fits
  exact fits.2

/-- The next piece alone is cut at a cluster's end. -/
theorem pieceCut_stops (cut : w.Cut start) (limit : Nat)
    (ahead : start < w.nextBreak start) (within : w.nextBreak start ≤ w.paragraph.length) :
    w.Stops start (w.pieceCut start (w.nextBreak start) limit) := by
  have long : (slice w.paragraph start (w.nextBreak start)).length = w.nextBreak start - start := slice_length within
  have visible := w.graphemes.visible (slice w.paragraph start (w.nextBreak start))
  have joined := w.graphemes.joins (slice w.paragraph start (w.nextBreak start))
  have bounds : ∀ stop ∈ w.clusterEnds start, start < stop ∧ stop ≤ w.nextBreak start := by
    intro stop member
    obtain ⟨above, below⟩ := endsFrom_bounds visible member
    rw [joined, long] at below
    exact ⟨above, by omega⟩
  have some_ : ∃ first rest, w.clusterEnds start = first :: rest := by
    unfold clusterEnds
    cases clusters : w.graphemes.segment (slice w.paragraph start (w.nextBreak start)) with
    | nil =>
      rw [clusters, List.flatten_nil] at joined
      rw [← joined] at long
      simp only [List.length_nil] at long
      omega
    | cons first rest => exact ⟨_, _, rfl⟩
  obtain ⟨first, rest, ends⟩ := some_
  have inEnds : ∀ index stop, (w.pieceEnds start (w.nextBreak start) limit)[index]? = some stop →
      stop ∈ w.clusterEnds start := fun index stop found => endsUpTo_mem (List.mem_of_getElem? found)
  have head : (w.pieceEnds start (w.nextBreak start) limit)[0]? = some first := by
    rw [← List.head?_eq_getElem?]
    unfold pieceEnds
    rw [endsUpTo_head]
    show (w.clusterEnds start).head? = _
    rw [ends]
    rfl
  unfold pieceCut
  simp only
  rcases searchLast_spec (fun middle => w.fits start
      (((w.pieceEnds start (w.nextBreak start) limit)[middle]?).getD (w.nextBreak start)) limit)
      (w.pieceEnds start (w.nextBreak start) limit).length 1
      ((w.pieceEnds start (w.nextBreak start) limit).length - 1) 0 with none | ⟨above, below, fits⟩
  · rw [none, head, Option.getD_some]
    have member : first ∈ w.clusterEnds start := by
      rw [ends]
      exact List.mem_cons_self ..
    obtain ⟨past, before⟩ := bounds first member
    refine ⟨past, by omega, .cluster cut member, .inr fun other same => ?_⟩
    rw [ends] at same
    cases same
    exact le_rfl
  · generalize searchLast _ _ _ _ _ = best at above below fits ⊢
    have inRange : best < (w.pieceEnds start (w.nextBreak start) limit).length := by omega
    have found := List.getElem?_eq_getElem inRange
    have member := inEnds best _ found
    rw [found, Option.getD_some] at fits ⊢
    obtain ⟨past, before⟩ := bounds _ member
    exact ⟨past, by omega, .cluster cut member, .inl (fitsWidth_of_fits fits)⟩

theorem firstUnfit_spec (start index : Nat) (within : index ≤ w.breaks.length) :
    index ≤ w.firstUnfit start index ∧ w.firstUnfit start index ≤ w.breaks.length ∧
      (w.firstUnfit start index = index ∨
        w.fits start (w.breakAt (w.firstUnfit start index - 1)) (w.fitLimit start) = true) := by
  obtain ⟨above, below, before, -⟩ := searchFirst_spec
    (fun middle => w.fits start (w.breakAt middle) (w.fitLimit start)) within le_rfl
  exact ⟨above, below, before⟩

omit [LE K] [DecidableLE K] in
theorem breakAt_mem (index : Nat) (inRange : index < w.breaks.length) :
    w.breaks[index]? = some (w.breakAt index) ∧ w.breakAt index ∈ w.breaks := by
  have found := List.getElem?_eq_getElem inRange
  have same : w.breakAt index = w.breaks[index] := by
    unfold breakAt
    rw [found]
    rfl
  rw [same]
  exact ⟨found, List.getElem_mem inRange⟩

/-- A turn, for any first break past those it takes, each of which it takes only where it fits. -/
theorem line_stops (going : w.Going s) (left : s.start < w.paragraph.length) {first : Nat}
    (above : w.skip s.start s.index ≤ first) (below : first ≤ w.breaks.length)
    (fits : first = w.skip s.start s.index ∨ w.fitsWidth s.start (w.breakAt (first - 1)) = true) :
    ∃ stop, w.line s (w.skip s.start s.index) first =
        { start := stop, index := first, lines := w.push s.start stop s.lines } ∧
      w.Stops s.start stop ∧ w.Going { start := stop, index := first, lines := w.push s.start stop s.lines } := by
  obtain ⟨-, here, passed, ahead, nextMember, next⟩ := going.skip left
  have inside : ∀ stop ∈ w.breaks, stop ≤ w.paragraph.length := by
    intro stop member
    rcases break_le member with within | empty
    · exact within
    · rw [empty] at left
      cases left
  refine ⟨_, rfl, ?_⟩
  by_cases taken : w.skip s.start s.index < first
  · rw [if_pos taken]
    obtain ⟨found, member⟩ := breakAt_mem (w := w) (first - 1) (by omega)
    have past : s.start < w.breakAt (first - 1) := by
      by_cases same : first - 1 = w.skip s.start s.index
      · rw [same]
        exact ahead
      · have later := breaks_ordered (w := w) (i := w.skip s.start s.index) (j := first - 1) (by omega)
          (breakAt_mem _ here).1 found
        omega
    have fit := fits.resolve_left (by omega)
    refine ⟨⟨past, inside _ member, .break_ member, .inl fit⟩, ⟨inside _ member, ?_, below, .break_ member⟩⟩
    intro i before stop atI
    have before : i < first := before
    by_cases same : i = first - 1
    · rw [same, found] at atI
      cases atI
      exact le_rfl
    · exact (breaks_ordered (by omega) atI found).le
  · have same : first = w.skip s.start s.index := by omega
    rw [if_neg taken, same, next]
    have ahead' : s.start < w.nextBreak s.start := next ▸ ahead
    have stops := pieceCut_stops going.cut (w.fitLimit s.start) ahead' (inside _ (next ▸ nextMember))
    refine ⟨stops, ⟨stops.within, ?_, here.le, stops.cut⟩⟩
    intro i before stop atI
    exact (passed i before stop atI).trans stops.past.le

/-- The lines made so far, and the text passed. -/
structure Wrapped (w : Wrapping K) (s : WrapState) : Prop where
  going : w.Going s
  ordered : s.lines.Pairwise fun earlier later => earlier.stop ≤ later.start
  within : ∀ line ∈ s.lines, line.start < line.stop ∧ line.stop ≤ s.start
  cuts : ∀ line ∈ s.lines, w.Cut line.start ∧ ∃ cut, w.Cut cut ∧ line.stop = trimmedEnd w.paragraph line.start cut
  narrow : ∀ line ∈ s.lines, w.Narrow line
  covered : ∀ index < s.start, (∃ line ∈ s.lines, line.start ≤ index ∧ index < line.stop) ∨ spaceAt w.paragraph index

omit [LE K] [DecidableLE K] in
theorem mem_push {line : LineRange} {lines : List LineRange} (member : line ∈ w.push start stop lines) :
    line ∈ lines ∨ line = { start, stop := trimmedEnd w.paragraph start stop } ∧
      start < trimmedEnd w.paragraph start stop := by
  simp only [push] at member
  split at member
  · rename_i text
    rcases List.mem_append.mp member with old | new
    · exact .inl old
    · exact .inr ⟨List.mem_singleton.mp new, text⟩
  · exact .inl member

omit [LE K] [DecidableLE K] in
theorem push_keeps {line : LineRange} {lines : List LineRange} (member : line ∈ lines) : line ∈ w.push start stop lines := by
  simp only [push]
  split
  · exact List.mem_append_left _ member
  · exact member

theorem Wrapped.turn (wrapped : w.Wrapped s) {first : Nat} (stops : w.Stops s.start stop)
    (going : w.Going { start := stop, index := first, lines := w.push s.start stop s.lines }) :
    w.Wrapped { start := stop, index := first, lines := w.push s.start stop s.lines } where
  going := going
  ordered := by
    simp only [push]
    split
    · refine List.pairwise_append.mpr ⟨wrapped.ordered, List.pairwise_singleton _ _, ?_⟩
      intro earlier member later new
      rw [List.mem_singleton.mp new]
      exact (wrapped.within earlier member).2
    · exact wrapped.ordered
  within line member := by
    have past := stops.past
    rcases mem_push member with old | ⟨rfl, text⟩
    · have before := wrapped.within line old
      exact ⟨before.1, by show line.stop ≤ stop; omega⟩
    · exact ⟨text, trimmedEnd_le _ _ _⟩
  cuts line member := by
    rcases mem_push member with old | ⟨rfl, text⟩
    · exact wrapped.cuts line old
    · exact ⟨wrapped.going.cut, stop, stops.cut, rfl⟩
  narrow line member := by
    rcases mem_push member with old | ⟨rfl, text⟩
    · exact wrapped.narrow line old
    · rcases stops.narrow with fits | single
      · exact .inl (by simpa [fitsWidth] using fits)
      · exact .inr fun first same => (trimmedEnd_le _ _ _).trans (single first same)
  covered index below := by
    have below : index < stop := below
    by_cases before : index < s.start
    · rcases wrapped.covered index before with ⟨line, member, inLine⟩ | space
      · exact .inl ⟨line, push_keeps member, inLine⟩
      · exact .inr space
    · by_cases inLine : index < trimmedEnd w.paragraph s.start stop
      · refine .inl ⟨{ start := s.start, stop := trimmedEnd w.paragraph s.start stop }, ?_, Nat.le_of_not_lt before, inLine⟩
        simp only [push]
        rw [if_pos (by omega)]
        exact List.mem_append_right _ (List.mem_singleton.mpr rfl)
      · exact .inr (spaceAt_of_trimmed _ s.start _ _ (by omega) below)

omit [LE K] [DecidableLE K] in
theorem going_start : w.Going {} := ⟨Nat.zero_le _, fun _ before => (nomatch before), Nat.zero_le _, .origin⟩

omit [DecidableLE K] in
theorem wrapped_start : w.Wrapped {} where
  going := going_start
  ordered := .nil
  within _ member := nomatch member
  cuts _ member := nomatch member
  narrow _ member := nomatch member
  covered _ below := nomatch below

omit [LE K] [DecidableLE K] in
theorem left_of_going {maxLines : Option Nat} (going : w.done maxLines s = false) : s.start < w.paragraph.length := by
  unfold done at going
  simp only [Bool.not_eq_false', Bool.and_eq_true, decide_eq_true_eq] at going
  exact going.1

theorem wrapLine_stops (going : w.Going s) (left : s.start < w.paragraph.length) :
    ∃ stop first, w.wrapLine s = { start := stop, index := first, lines := w.push s.start stop s.lines } ∧
      w.Stops s.start stop ∧ w.Going (w.wrapLine s) := by
  obtain ⟨-, here, -⟩ := going.skip left
  obtain ⟨above, below, fits⟩ := firstUnfit_spec (w := w) s.start (w.skip s.start s.index) here.le
  obtain ⟨stop, line, stops, next⟩ := line_stops going left above below (fits.imp_right fitsWidth_of_fits)
  have same : w.wrapLine s = _ := line
  exact ⟨stop, _, same, stops, same ▸ next⟩

theorem Wrapped.wrapLine (wrapped : w.Wrapped s) (left : s.start < w.paragraph.length) : w.Wrapped (w.wrapLine s) := by
  obtain ⟨stop, first, line, stops, going⟩ := wrapLine_stops wrapped.going left
  rw [line] at going ⊢
  exact wrapped.turn stops going

theorem wrapLines_wrapped (maxLines : Option Nat) : w.Wrapped (w.wrapLines maxLines) :=
  whileLoop_invariant wrapped_start fun _ going wrapped => wrapped.wrapLine (left_of_going going)

/-- Every turn takes text, so the loop ends. -/
theorem wrapLines_done (maxLines : Option Nat) : w.done maxLines (w.wrapLines maxLines) = true := by
  refine whileLoop_ends (I := w.Going) (fun s => w.paragraph.length - s.start) going_start ?_ ?_ ?_
  · intro s left going
    obtain ⟨-, -, -, -, next⟩ := wrapLine_stops going (left_of_going left)
    exact next
  · intro s left going
    obtain ⟨stop, first, line, stops, -⟩ := wrapLine_stops going (left_of_going left)
    have past := stops.past
    have within := left_of_going left
    rw [line]
    show w.paragraph.length - stop < w.paragraph.length - s.start
    omega
  · show w.paragraph.length - 0 < w.paragraph.length + 1
    omega

end Wrapping

end LetterIRL.Layout
