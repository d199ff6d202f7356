import LetterIRL.Layout.Pages
import LetterIRL.Layout.Scan

namespace LetterIRL.Layout
open Lib

/-! What a budget of lines leaves of a letter's text. -/

namespace Wrapping
variable {K : Type} [LE K] [DecidableLE K] {w : Wrapping K} {s : WrapState} {fuel limit : Nat}

omit [LE K] [DecidableLE K] in
theorem push_lines (w : Wrapping K) (start stop : Nat) (lines : List LineRange) :
    ∃ made : List LineRange, made.length ≤ 1 ∧ w.push start stop lines = lines ++ made := by
  simp only [push]
  split
  · exact ⟨_, le_of_eq List.length_singleton, rfl⟩
  · exact ⟨[], Nat.zero_le _, (List.append_nil _).symm⟩

theorem wrapLine_lines (w : Wrapping K) (s : WrapState) :
    ∃ made : List LineRange, made.length ≤ 1 ∧ (w.wrapLine s).lines = s.lines ++ made :=
  push_lines w _ _ _

theorem loop_prefix (w : Wrapping K) (maxLines : Option Nat) (fuel : Nat) (s : WrapState) :
    s.lines <+: (whileLoop (w.done maxLines) w.wrapLine fuel s).lines := by
  refine whileLoop_invariant (I := fun t : WrapState => s.lines <+: t.lines) (List.prefix_refl _) ?_
  intro t _ before
  obtain ⟨made, -, lines⟩ := wrapLine_lines w t
  rw [lines]
  exact before.trans (List.prefix_append _ _)

/-- A limited loop makes the first of the lines an unlimited one does. -/
theorem loop_take (few : s.lines.length ≤ limit) :
    (whileLoop (w.done (some limit)) w.wrapLine fuel s).lines =
      (whileLoop (w.done none) w.wrapLine fuel s).lines.take limit := by
  induction fuel generalizing s with
  | zero => exact (List.take_of_length_le few).symm
  | succ fuel ih =>
    by_cases stopped : w.done (some limit) s = true
    · rw [whileLoop_stop stopped]
      by_cases ended : w.done none s = true
      · rw [whileLoop_stop ended]
        exact (List.take_of_length_le few).symm
      · -- The limit is reached, and what more is made comes after it.
        have full : s.lines.length = limit := by
          simp only [done, Option.all_none, Option.all_some, Bool.and_true, Bool.not_eq_true', Bool.and_eq_false_iff,
            decide_eq_false_iff_not, not_lt] at stopped ended
          omega
        obtain ⟨more, same⟩ := loop_prefix w none (fuel + 1) s
        rw [← same, List.take_append_of_le_length (by omega), List.take_of_length_le few]
    · have going : w.done (some limit) s = false := by simpa using stopped
      have left := left_of_going going
      have both : w.done none s = false := by
        unfold done
        simp [left]
      have room : s.lines.length < limit := by
        unfold done at going
        simp only [Option.all_some, Bool.not_eq_false', Bool.and_eq_true, decide_eq_true_eq] at going
        exact going.2
      rw [whileLoop_turn going, whileLoop_turn both]
      obtain ⟨made, one, lines⟩ := wrapLine_lines w s
      refine ih ?_
      rw [lines, List.length_append]
      omega

omit [LE K] [DecidableLE K] in
theorem isBlank_drop {text : Text} {start : Nat} :
    isBlank (text.drop start) = true ↔ ∀ index, start ≤ index → index < text.length → spaceAt text index := by
  unfold isBlank
  rw [List.all_eq_true]
  constructor
  · intro blank index from_ inText
    unfold spaceAt
    rw [List.getElem?_eq_getElem inText]
    exact blank _ (List.mem_drop_iff_getElem.mpr ⟨index - start, by omega, by congr 1; omega⟩)
  · intro spaces unit member
    obtain ⟨index, inText, rfl⟩ := List.mem_drop_iff_getElem.mp member
    have space := spaces (start + index) (by omega) (by omega)
    unfold spaceAt at space
    rwa [List.getElem?_eq_getElem (by omega)] at space

/-- An unlimited wrapping leaves out only space. -/
theorem unwrapped_space {index : Nat} (inText : index < w.paragraph.length)
    (out : ¬Covered (w.wrapLines none).lines index) : spaceAt w.paragraph index := by
  have wrapped := wrapLines_wrapped (w := w) none
  have ended := wrapLines_done (w := w) none
  unfold done at ended
  simp only [Option.all_none, Bool.and_true, Bool.not_eq_true', decide_eq_false_iff_not, not_lt] at ended
  exact (wrapped.covered index (by omega)).resolve_left out

/-- A paragraph with text has lines, and wrapping it returns those. -/
theorem lines_of_text (text : isBlank w.paragraph = false) :
    (w.wrapLines none).lines ≠ [] ∧ w.wrapParagraph none = (w.wrapLines none).lines := by
  have some : (w.wrapLines none).lines ≠ [] := by
    intro none
    have blank : isBlank (w.paragraph.drop 0) = true := isBlank_drop.mpr fun index _ inText => by
      refine unwrapped_space inText ?_
      rintro ⟨line, member, -⟩
      rw [none] at member
      cases member
    rw [List.drop_zero, text] at blank
    cases blank
  unfold wrapParagraph orEmpty
  rw [if_neg (by simp [text]), if_neg (by simpa using some)]
  exact ⟨some, rfl⟩

theorem wrapParagraph_take (text : isBlank w.paragraph = false) (room : 0 < limit) :
    w.wrapParagraph (some limit) = (w.wrapParagraph none).take limit := by
  obtain ⟨lines, same⟩ := lines_of_text text
  have first : (w.wrapLines (some limit)).lines = (w.wrapLines none).lines.take limit := loop_take (Nat.zero_le _)
  rw [same, ← first]
  unfold wrapParagraph orEmpty
  rw [if_neg (by simp [text]), if_neg]
  rw [first]
  simp only [List.isEmpty_iff, List.take_eq_nil_iff]
  rintro (zero | empty)
  · omega
  · exact lines empty

/-- What is left of a paragraph after a limited wrapping is blank where it had no more lines. -/
theorem left_blank_iff (text : isBlank w.paragraph = false) (room : 0 < limit) {last : LineRange}
    (ends : (w.wrapParagraph (some limit)).getLast? = some last) :
    isBlank (w.paragraph.drop last.stop) = true ↔ (w.wrapParagraph none).length ≤ limit := by
  obtain ⟨-, same⟩ := lines_of_text text
  rw [wrapParagraph_take text room, same] at ends
  rw [same]
  have wrapped := wrapLines_wrapped (w := w) none
  have before : ∀ early ∈ ((w.wrapLines none).lines.take limit), early.stop ≤ last.stop := by
    obtain ⟨front, split⟩ := List.getLast?_eq_some_iff.mp ends
    have ordered := wrapped.ordered.sublist (List.take_sublist limit _)
    rw [split] at ordered
    intro early member
    rw [split] at member
    rcases List.mem_append.mp member with inFront | isLast
    · have inLines : last ∈ (w.wrapLines none).lines :=
        List.mem_of_mem_take (split ▸ List.mem_append_right _ (List.mem_singleton_self _))
      have follows := (List.pairwise_append.mp ordered).2.2 early inFront last (List.mem_singleton_self _)
      have some := (wrapped.within last inLines).1
      omega
    · rw [List.mem_singleton.mp isLast]
  rw [isBlank_drop]
  constructor
  · intro blank
    by_contra more
    -- The line after the last one holds text, at its end.
    have inLines : limit < (w.wrapLines none).lines.length := by omega
    have member := List.getElem_mem inLines
    obtain ⟨some, within⟩ := wrapped.within _ member
    obtain ⟨-, cut, -, stop⟩ := wrapped.cuts _ member
    have lastIn : last ∈ (w.wrapLines none).lines.take limit := List.mem_of_getLast? ends
    have follows : last.stop ≤ (w.wrapLines none).lines[limit].start := by
      obtain ⟨i, inTaken, rfl⟩ := List.mem_iff_getElem.mp lastIn
      rw [List.getElem_take]
      have few : i < limit := by
        rw [List.length_take] at inTaken
        omega
      exact List.pairwise_iff_getElem.mp wrapped.ordered i limit (by omega) inLines few
    have inText := wrapped.going.start
    rw [stop] at some within
    exact solid_trimmedEnd w.paragraph some (blank _ (by omega) (by omega))
  · intro all index from_ inText
    refine unwrapped_space inText ?_
    rintro ⟨line, member, -, inLine⟩
    rw [List.take_of_length_le all] at before
    have stops := before line member
    omega

end Wrapping

/-- A list of lists that stops early, inside one of them or between two. -/
inductive CutOff {α : Type} : List (List α) → List (List α) → Prop
  | here {whole : List (List α)} : CutOff [] whole
  | inside {first : List α} {rest : List (List α)} (count : Nat) : CutOff [first.take count] (first :: rest)
  | later {first : List α} {cut rest : List (List α)} (cutOff : CutOff cut rest) : CutOff (first :: cut) (first :: rest)

section
variable {α : Type} {cut whole : List (List α)}

theorem CutOff.flatten_prefix (cutOff : CutOff cut whole) : cut.flatten <+: whole.flatten := by
  induction cutOff with
  | here => exact List.nil_prefix
  | @inside first rest count =>
    simp only [List.flatten_cons, List.flatten_nil, List.append_nil]
    exact (List.take_prefix count first).trans (List.prefix_append _ _)
  | later _ ih =>
    simp only [List.flatten_cons]
    exact (List.prefix_append_right_inj _).mpr ih

theorem CutOff.take_length (cutOff : CutOff cut whole) (count : Nat) :
    (cut.take count).flatten.length = min (whole.take count).flatten.length cut.flatten.length := by
  induction cutOff generalizing count with
  | here => simp
  | @inside first rest kept =>
    cases count with
    | zero => simp
    | succ count =>
      simp only [List.take_succ_cons, List.take_nil, List.flatten_cons, List.flatten_nil, List.append_nil,
        List.length_append, List.length_take]
      omega
  | later _ ih =>
    cases count with
    | zero => simp
    | succ count =>
      simp only [List.take_succ_cons, List.flatten_cons, List.length_append, ih count]
      omega

end

section
variable {face : Face} {budget written : Nat} {paragraph : Text} {rest paragraphs : List Text}

/-- A paragraph's lines, all of them. -/
def linesOf (face : Face) (paragraph : Text) : List WrappedLine :=
  ((face.paragraphMeasure paragraph).wrapParagraph none).map (lineOf face paragraph)

/-- Each paragraph with text wraps into no more lines than the budget leaves it after the lines written before. -/
def WithinBudget (face : Face) (budget : Nat) : Nat → List Text → Prop
  | _, [] => True
  | written, paragraph :: rest =>
    (isBlank paragraph = false → (linesOf face paragraph).length ≤ budget - written) ∧
      WithinBudget face budget (written + (linesOf face paragraph).countP WrappedLine.written) rest

theorem blank_lines (maxLines : Option Nat) (blank : isBlank paragraph = true) :
    (face.paragraphMeasure paragraph).wrapParagraph maxLines = [{ start := 0, stop := 0 }] := by
  unfold Wrapping.wrapParagraph
  rw [if_pos]
  exact blank

theorem linesOf_ne_nil (face : Face) (paragraph : Text) : linesOf face paragraph ≠ [] := by
  unfold linesOf
  rw [Ne, List.map_eq_nil_iff]
  cases shown : isBlank paragraph with
  | true =>
    rw [blank_lines none shown]
    exact List.cons_ne_nil _ _
  | false =>
    obtain ⟨some, same⟩ := Wrapping.lines_of_text (w := face.paragraphMeasure paragraph) shown
    rw [same]
    exact some

theorem WithinBudget.spent (within : WithinBudget face budget written paragraphs) (spent : budget ≤ written) :
    paragraphs.any (!isBlank ·) = false := by
  induction paragraphs generalizing written with
  | nil => rfl
  | cons paragraph rest ih =>
    obtain ⟨here, later⟩ := within
    rw [List.any_cons, ih later (by omega), Bool.or_false, Bool.not_eq_false']
    by_contra text
    have few := here (by simpa using text)
    have some := List.length_pos_iff.mpr (linesOf_ne_nil face paragraph)
    omega

/-- The wrapping of a paragraph stopped with text left. -/
def stoppedIn (paragraph : Text) (ranges : List LineRange) : Bool :=
  ranges.getLast?.any fun last => !isBlank (paragraph.drop last.stop)

/-- A budget that a paragraph keeps to leaves it whole. -/
theorem wrap_whole {limit : Nat} (room : isBlank paragraph = false → 0 < limit)
    (few : isBlank paragraph = false → (linesOf face paragraph).length ≤ limit) :
    (face.paragraphMeasure paragraph).wrapParagraph (some limit) =
      (face.paragraphMeasure paragraph).wrapParagraph none := by
  cases shown : isBlank paragraph with
  | true => rw [blank_lines _ shown, blank_lines none shown]
  | false =>
    have few : ((face.paragraphMeasure paragraph).wrapParagraph none).length ≤ limit := by
      simpa [linesOf] using few shown
    rw [Wrapping.wrapParagraph_take shown (room shown)]
    exact List.take_of_length_le few

theorem wrap_stopped (face : Face) {limit : Nat} (text : isBlank paragraph = false) (room : 0 < limit)
    (many : limit < (linesOf face paragraph).length) :
    stoppedIn paragraph ((face.paragraphMeasure paragraph).wrapParagraph (some limit)) = true := by
  have many : limit < ((face.paragraphMeasure paragraph).wrapParagraph none).length := by
    simpa [linesOf] using many
  have taken := Wrapping.wrapParagraph_take (w := face.paragraphMeasure paragraph) text room
  obtain ⟨last, ends⟩ : ∃ last, ((face.paragraphMeasure paragraph).wrapParagraph (some limit)).getLast? = some last := by
    rw [← Option.isSome_iff_exists, List.getLast?_isSome, taken]
    intro empty
    rcases List.take_eq_nil_iff.mp empty with zero | none
    · omega
    · rw [none] at many
      cases many
  have left : ¬isBlank (paragraph.drop last.stop) = true :=
    (Wrapping.left_blank_iff (w := face.paragraphMeasure paragraph) text room ends).not.mpr (by omega)
  unfold stoppedIn
  rw [ends, Option.any_some]
  simpa using left

/-- An unlimited wrapping never stops with text left. -/
theorem wrap_unlimited (face : Face) (paragraph : Text) :
    stoppedIn paragraph ((face.paragraphMeasure paragraph).wrapParagraph none) = false := by
  cases shown : isBlank paragraph with
  | true =>
    rw [blank_lines none shown]
    simp [stoppedIn, shown]
  | false =>
    have some := List.length_pos_iff.mpr (linesOf_ne_nil face paragraph)
    have whole := wrap_whole (fun _ => some) fun _ => le_rfl
    rw [← whole]
    unfold stoppedIn
    rw [Option.any_eq_false]
    intro last ends
    have blank : isBlank (paragraph.drop last.stop) = true :=
      (Wrapping.left_blank_iff (w := face.paragraphMeasure paragraph) shown some ends).mpr (by simp [linesOf])
    simpa using blank

/-- The wrapping of a first paragraph, and of those after it. -/
theorem wrapFrom_cons (face : Face) (maxLines : Option Nat) (written : Nat) (paragraph : Text) (rest : List Text)
    (going : (maxLines.any (· ≤ written) && (paragraph :: rest).any (!isBlank ·)) = false) :
    wrapFrom face maxLines written (paragraph :: rest) =
      let ranges := (face.paragraphMeasure paragraph).wrapParagraph (maxLines.map (· - written))
      let lines := ranges.map (lineOf face paragraph)
      let later := wrapFrom face maxLines (written + lines.countP WrappedLine.written) rest
      if stoppedIn paragraph ranges then { paragraphs := [lines], truncated := true }
      else { later with paragraphs := lines :: later.paragraphs } := by
  conv => lhs; unfold wrapFrom
  rw [going]
  rfl

theorem wrapFrom_whole (face : Face) (maxLines : Option Nat) (written : Nat) (paragraph : Text) (rest : List Text)
    (going : (maxLines.any (· ≤ written) && (paragraph :: rest).any (!isBlank ·)) = false)
    (whole : (face.paragraphMeasure paragraph).wrapParagraph (maxLines.map (· - written)) =
      (face.paragraphMeasure paragraph).wrapParagraph none) :
    wrapFrom face maxLines written (paragraph :: rest) =
      let later := wrapFrom face maxLines (written + (linesOf face paragraph).countP WrappedLine.written) rest
      { later with paragraphs := linesOf face paragraph :: later.paragraphs } := by
  rw [wrapFrom_cons face maxLines written paragraph rest going, whole]
  simp only [wrap_unlimited, Bool.false_eq_true, if_false]
  rfl

theorem wrapFrom_none (face : Face) (written : Nat) (paragraphs : List Text) :
    wrapFrom face none written paragraphs = { paragraphs := paragraphs.map (linesOf face), truncated := false } := by
  induction paragraphs generalizing written with
  | nil => rfl
  | cons paragraph rest ih =>
    rw [wrapFrom_whole face none written paragraph rest rfl rfl]
    simp only [ih]
    rfl

/-- Within its budget a text is wrapped as without one. -/
theorem wrapFrom_within (within : WithinBudget face budget written paragraphs) :
    wrapFrom face (some budget) written paragraphs =
      { paragraphs := paragraphs.map (linesOf face), truncated := false } := by
  induction paragraphs generalizing written with
  | nil => rfl
  | cons paragraph rest ih =>
    have going : ((some budget).any (· ≤ written) && (paragraph :: rest).any (!isBlank ·)) = false := by
      by_cases spent : budget ≤ written
      · rw [within.spent spent, Bool.and_false]
      · simp [spent]
    obtain ⟨here, later⟩ := within
    have lines := List.length_pos_iff.mpr (linesOf_ne_nil face paragraph)
    have room : isBlank paragraph = false → 0 < budget - written := fun text => lines.trans_le (here text)
    rw [wrapFrom_whole face (some budget) written paragraph rest going (wrap_whole room here)]
    simp only [ih later]
    rfl

/-- A text past its budget is cut off with some of it left. -/
theorem wrapFrom_past (past : ¬WithinBudget face budget written paragraphs) :
    (wrapFrom face (some budget) written paragraphs).truncated = true ∧
      CutOff (wrapFrom face (some budget) written paragraphs).paragraphs (paragraphs.map (linesOf face)) ∧
      (wrapFrom face (some budget) written paragraphs).paragraphs.flatten.length <
        (paragraphs.map (linesOf face)).flatten.length := by
  induction paragraphs generalizing written with
  | nil => exact absurd trivial past
  | cons paragraph rest ih =>
    have lines := List.length_pos_iff.mpr (linesOf_ne_nil face paragraph)
    by_cases stopped : ((some budget).any (· ≤ written) && (paragraph :: rest).any (!isBlank ·)) = true
    · unfold wrapFrom
      rw [if_pos stopped]
      refine ⟨rfl, .here, ?_⟩
      simp only [List.flatten_nil, List.length_nil, List.map_cons, List.flatten_cons, List.length_append]
      omega
    · have going : ((some budget).any (· ≤ written) && (paragraph :: rest).any (!isBlank ·)) = false := by
        simpa using stopped
      have room : isBlank paragraph = false → 0 < budget - written := by
        intro text
        simp only [Option.any_some, List.any_cons, text, Bool.not_false, Bool.true_or, Bool.and_true,
          decide_eq_false_iff_not, not_le] at going
        omega
      by_cases few : isBlank paragraph = false → (linesOf face paragraph).length ≤ budget - written
      · rw [wrapFrom_whole face (some budget) written paragraph rest going (wrap_whole room few)]
        obtain ⟨truncated, cutOff, shorter⟩ := ih fun within => past ⟨few, within⟩
        refine ⟨truncated, .later cutOff, ?_⟩
        simp only [List.flatten_cons, List.length_append, List.map_cons]
        omega
      · obtain ⟨text, many⟩ := Classical.not_imp.mp few
        have stops := wrap_stopped face text (room text) (not_le.mp many)
        have cut := Wrapping.wrapParagraph_take (w := face.paragraphMeasure paragraph) text (room text)
        rw [wrapFrom_cons face (some budget) written paragraph rest going]
        simp only [Option.map_some, stops, if_true]
        have taken : ((face.paragraphMeasure paragraph).wrapParagraph (some (budget - written))).map (lineOf face paragraph) =
            (linesOf face paragraph).take (budget - written) := by
          rw [cut, List.map_take]
          rfl
        rw [taken]
        refine ⟨trivial, .inside _, ?_⟩
        simp only [List.flatten_cons, List.flatten_nil, List.append_nil, List.length_append, List.map_cons,
          List.length_take]
        omega

theorem WithinBudget.mono (within : WithinBudget face budget written paragraphs) {more : Nat} (atLeast : budget ≤ more) :
    WithinBudget face more written paragraphs := by
  induction paragraphs generalizing written with
  | nil => trivial
  | cons paragraph rest ih =>
    exact ⟨fun text => (within.1 text).trans (by omega), ih within.2⟩

end

section
variable {Art : Type} {content : LetterContent Art} {budget : Nat}

/-- The letter with its whole text. -/
abbrev LetterContent.whole (content : LetterContent Art) : PreparedLetter Art := prepareLetter content none

/-- No paragraph of the letter wraps into more lines than the budget leaves it. -/
def LetterContent.Within (content : LetterContent Art) (budget : Nat) : Prop :=
  WithinBudget content.stationery.face budget 0 (paragraphsOf content.stationery.face content.text)

theorem whole_paragraphs (content : LetterContent Art) :
    wrapParagraphs content.stationery.face content.text none = {
      paragraphs := (paragraphsOf content.stationery.face content.text).map (linesOf content.stationery.face)
      truncated := false } :=
  wrapFrom_none _ _ _

theorem prepareLetter_within (within : content.Within budget) : prepareLetter content (some budget) = content.whole := by
  have same : wrapParagraphs content.stationery.face content.text (some budget) =
      wrapParagraphs content.stationery.face content.text none := by
    rw [whole_paragraphs]
    exact wrapFrom_within within
  unfold LetterContent.whole prepareLetter
  rw [same]

theorem whole_untruncated (content : LetterContent Art) : content.whole.truncated = false := by
  unfold LetterContent.whole prepareLetter
  rw [whole_paragraphs]

theorem prepareLetter_past (past : ¬content.Within budget) : (prepareLetter content (some budget)).truncated = true :=
  (wrapFrom_past past).1

/-- The budgeted layout of a letter that keeps to its budget, and the reason it does where it fits. -/
theorem layoutWithin_within {maxPages : Nat} (within : content.Within budget) :
    layoutWithin content (some budget) maxPages = layoutWithin content none maxPages := by
  unfold layoutWithin
  rw [prepareLetter_within within]

theorem within_of_untruncated {maxPages : Nat}
    (untruncated : (layoutWithin content (some budget) maxPages).truncated = false) :
    content.Within budget := by
  by_contra past
  have truncated := prepareLetter_past past
  unfold layoutWithin at untruncated
  simp only [truncated, if_true, Bool.true_eq_false] at untruncated

theorem within_of_fits {maxPages : Nat} (fits : (layoutWithin content (some budget) maxPages).overflowLines = 0) :
    content.Within budget := by
  by_contra past
  have truncated := prepareLetter_past past
  unfold layoutWithin at fits
  simp only [truncated, if_true] at fits
  omega

end

end LetterIRL.Layout
