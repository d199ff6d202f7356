import LetterIRL.Layout.Wrapped

namespace LetterIRL.Layout
open Lib

/-! The line search finds the breaks a scan from each line's start finds. -/

namespace Wrapping
variable {K : Type} [LE K] [DecidableLE K] {w : Wrapping K} {s : WrapState} {maxLines : Option Nat}

/-- The first break that does not fit the width, by a scan: one past the last before it. -/
def scanUnfit (w : Wrapping K) (start index : Nat) : Nat :=
  index + ((w.breaks.drop index).takeWhile fun stop => w.fitsWidth start stop).length

def scanLine (w : Wrapping K) (s : WrapState) : WrapState :=
  let index := w.skip s.start s.index
  w.line s index (w.scanUnfit s.start index)

/-- `wrapParagraph` with each line's last break found by the scan. -/
def scanParagraph (w : Wrapping K) (maxLines : Option Nat) : List LineRange :=
  if isBlank w.paragraph then [{ start := 0, stop := 0 }]
  else orEmpty (whileLoop (w.done maxLines) w.scanLine (w.paragraph.length + 1) {}).lines

/-- Fitting is downward closed along break positions: what fits up to a break fits up to an earlier one. -/
def FitClosed (w : Wrapping K) : Prop :=
  ∀ start, ∀ early ∈ w.breaks, ∀ late ∈ w.breaks, start < early → early < late →
    w.fitsWidth start late = true → w.fitsWidth start early = true

/-- `fitLimit` never cuts a stretch that fits. -/
def LimitSound (w : Wrapping K) : Prop :=
  ∀ start stop, w.fitsWidth start stop = true → trimmedEnd w.paragraph start stop ≤ w.fitLimit start

theorem fits_eq_fitsWidth (sound : w.LimitSound) (start stop : Nat) :
    w.fits start stop (w.fitLimit start) = w.fitsWidth start stop := by
  by_cases fits : w.fitsWidth start stop = true
  · have within := sound start stop fits
    unfold fitsWidth at fits
    unfold Wrapping.fits fitsWidth
    simp [within, fits]
  · have none : w.fitsWidth start stop = false := by simpa using fits
    unfold fitsWidth at none
    unfold Wrapping.fits fitsWidth
    simp [none]

theorem firstUnfit_eq_scan (closed : w.FitClosed) (sound : w.LimitSound) (going : w.Going s)
    (left : s.start < w.paragraph.length) :
    w.firstUnfit s.start (w.skip s.start s.index) = w.scanUnfit s.start (w.skip s.start s.index) := by
  obtain ⟨-, here, -, ahead, -, -⟩ := going.skip left
  generalize w.skip s.start s.index = index at here ahead ⊢
  have same : (fun middle => w.fits s.start (w.breakAt middle) (w.fitLimit s.start)) =
      fun middle => w.fitsWidth s.start (w.breakAt middle) := by
    funext middle
    exact fits_eq_fitsWidth sound _ _
  unfold firstUnfit
  rw [same]
  obtain ⟨above, below, -, after⟩ := searchFirst_spec (fun middle => w.fitsWidth s.start (w.breakAt middle))
    here.le (le_refl (w.breaks.length - index))
  have before : ∀ i, index ≤ i → i < searchFirst (fun middle => w.fitsWidth s.start (w.breakAt middle))
      (w.breaks.length - index) index w.breaks.length → w.fitsWidth s.start (w.breakAt i) = true := by
    intro i least less
    refine searchFirst_found (fun middle => w.fitsWidth s.start (w.breakAt middle)) here.le le_rfl ?_ least less
    intro i j from_ earlier inRange fits
    obtain ⟨atJ, inJ⟩ := breakAt_mem (w := w) j inRange
    obtain ⟨atI, inI⟩ := breakAt_mem (w := w) i (by omega)
    have past : s.start < w.breakAt i := by
      by_cases first : i = index
      · rw [first]
        exact ahead
      · have later := breaks_ordered (w := w) (i := index) (j := i) (by omega) (breakAt_mem _ here).1 atI
        omega
    exact closed s.start _ inI _ inJ past (breaks_ordered earlier atI atJ) fits
  generalize searchFirst _ _ _ _ = first at above below after before ⊢
  have count : ((w.breaks.drop index).takeWhile fun stop => w.fitsWidth s.start stop).length = first - index := by
    have atDrop : ∀ i (inList : i < (w.breaks.drop index).length),
        (w.breaks.drop index)[i] = w.breakAt (index + i) := by
      intro i inList
      rw [List.getElem_drop]
      have inBreaks : index + i < w.breaks.length := by
        rw [List.length_drop] at inList
        omega
      unfold breakAt
      rw [List.getElem?_eq_getElem inBreaks]
      rfl
    refine takeWhile_length_of (by rw [List.length_drop]; omega) ?_ ?_
    · intro i inList less
      rw [atDrop i inList]
      exact before _ (by omega) (by omega)
    · intro inList
      rw [atDrop _ inList, show index + (first - index) = first by omega]
      rcases after with same | unfit
      · rw [List.length_drop] at inList
        omega
      · exact unfit
  unfold scanUnfit
  rw [count]
  omega

theorem scanLine_eq (closed : w.FitClosed) (sound : w.LimitSound) (going : w.Going s)
    (left : s.start < w.paragraph.length) : w.scanLine s = w.wrapLine s := by
  have same := firstUnfit_eq_scan closed sound going left
  exact (congrArg (w.line s (w.skip s.start s.index)) same).symm

theorem wrapParagraph_eq_scan (closed : w.FitClosed) (sound : w.LimitSound) :
    w.wrapParagraph maxLines = w.scanParagraph maxLines := by
  have together : w.wrapLines maxLines = whileLoop (w.done maxLines) w.scanLine (w.paragraph.length + 1) {} := by
    refine (whileLoop_simulates (R := fun s t => s = t ∧ w.Going s) ⟨rfl, going_start⟩ ?_ ?_).1
    · rintro s t ⟨rfl, -⟩
      rfl
    · rintro s t open_ ⟨rfl, going⟩
      have left := left_of_going open_
      obtain ⟨-, -, -, -, next⟩ := wrapLine_stops going left
      exact ⟨(scanLine_eq closed sound going left).symm, next⟩
  unfold wrapParagraph scanParagraph
  rw [together]

/-- The lines are those the loop made, or one empty line. -/
theorem wrapParagraph_lines (w : Wrapping K) (maxLines : Option Nat) :
    w.wrapParagraph maxLines = (w.wrapLines maxLines).lines ∧ isBlank w.paragraph = false ∨
      w.wrapParagraph maxLines = [{ start := 0, stop := 0 }] ∧
        (isBlank w.paragraph = true ∨ (w.wrapLines maxLines).lines = []) := by
  unfold wrapParagraph
  split
  · exact .inr ⟨rfl, .inl ‹_›⟩
  · rename_i text
    unfold orEmpty
    split
    · rename_i empty
      exact .inr ⟨rfl, .inr (List.isEmpty_iff.mp empty)⟩
    · exact .inl ⟨rfl, by simpa using text⟩

omit [LE K] [DecidableLE K] in
theorem spaceAt_of_blank {paragraph : Text} {index : Nat} (blank : isBlank paragraph = true)
    (inText : index < paragraph.length) : spaceAt paragraph index := by
  unfold spaceAt
  rw [List.getElem?_eq_getElem inText]
  exact List.all_eq_true.mp blank _ (List.getElem_mem inText)

/-- A line is drawn of this unit. -/
def Covered (lines : List LineRange) (index : Nat) : Prop :=
  ∃ line ∈ lines, line.start ≤ index ∧ index < line.stop

/-- What the lines leave out is space, as far as the loop went. -/
theorem uncovered_space (w : Wrapping K) (maxLines : Option Nat) {index : Nat} (inText : index < w.paragraph.length)
    (out : ¬Covered (w.wrapParagraph maxLines) index) :
    spaceAt w.paragraph index ∨ (w.wrapLines maxLines).start ≤ index ∧
      ∃ limit, maxLines = some limit ∧ limit ≤ (w.wrapLines maxLines).lines.length := by
  have wrapped := wrapLines_wrapped (w := w) maxLines
  by_cases passed : index < (w.wrapLines maxLines).start
  · refine .inl ?_
    rcases wrapParagraph_lines w maxLines with ⟨same, -⟩ | ⟨-, blank | none⟩
    · rcases wrapped.covered index passed with inLine | space
      · exact absurd (same ▸ inLine) out
      · exact space
    · exact spaceAt_of_blank blank inText
    · rcases wrapped.covered index passed with ⟨line, member, -⟩ | space
      · rw [none] at member
        cases member
      · exact space
  · refine .inr ⟨by omega, ?_⟩
    have ended := wrapLines_done (w := w) maxLines
    unfold done at ended
    simp only [Bool.not_eq_true', Bool.and_eq_false_iff, decide_eq_false_iff_not] at ended
    have full := ended.resolve_left (by omega)
    cases maxLines with
    | none => cases full
    | some limit =>
      simp only [Option.all_some, decide_eq_false_iff_not] at full
      exact ⟨limit, rfl, by omega⟩

theorem made_or_empty (w : Wrapping K) (maxLines : Option Nat) {line : LineRange}
    (member : line ∈ w.wrapParagraph maxLines) :
    line ∈ (w.wrapLines maxLines).lines ∨ line = { start := 0, stop := 0 } := by
  rcases wrapParagraph_lines w maxLines with ⟨same, -⟩ | ⟨same, -⟩
  · exact .inl (same ▸ member)
  · rw [same] at member
    exact .inr (List.mem_singleton.mp member)

theorem narrow_of_wrapped (w : Wrapping K) (maxLines : Option Nat) {line : LineRange}
    (member : line ∈ w.wrapParagraph maxLines) : w.Narrow line := by
  rcases made_or_empty w maxLines member with made | rfl
  · exact (wrapLines_wrapped maxLines).narrow line made
  · exact .inr fun _ _ => Nat.zero_le _

/-- Each unit a cluster of its own. -/
def unitClusters : Segmenter where
  segment := fun text => text.map fun unit => [unit]
  joins := by
    intro text
    induction text with
    | nil => rfl
    | cons unit rest ih => simpa using ih
  visible := by
    intro text cluster member
    obtain ⟨unit, -, rfl⟩ := List.mem_map.mp member
    exact List.cons_ne_nil _ _

/-- A long word after a short one, three units to a line. -/
def columns : Wrapping Nat where
  paragraph := [97, 98, 32, 99, 100, 101, 102]
  breaks := [3, 7]
  increasing := by decide
  last := fun _ => rfl
  graphemes := unitClusters
  measure := fun start stop => stop - start
  width := 3
  fitLimit := fun start => start + 3

end Wrapping

end LetterIRL.Layout
