import LetterIRL.Layout.Sheets

namespace LetterIRL.Layout
open Lib

/-! Where the lines and the enclosed image of a letter that fits lie. -/

/-- A page of a letter: the stretch of its lines on it, and the top of the enclosed image where it is on it. -/
structure Sheet where
  span : Span
  image : Option ℚ

section
variable {Art : Type} {content : LetterContent Art} {letter : PreparedLetter Art} {maxPages count : Nat}

namespace PreparedLetter

def sheetLines (letter : PreparedLetter Art) (sheet : Sheet) : List LetterLine :=
  (letter.lines.drop sheet.span.start).take (sheet.span.stop - sheet.span.start)

/-- What is printed on a page. -/
def sheetPage (letter : PreparedLetter Art) (index : Nat) (sheet : Sheet) : LayoutPage Art where
  items := letter.pageItems (if index = 0 then letter.firstPageItems else []) (letter.pageTop index)
    (letter.sheetLines sheet) sheet.image
  linesUsed := (letter.sheetLines sheet).length
  linesAvailable := linesBetween (letter.pageTop index) (BODY_BOTTOM - if sheet.image.isSome then letter.reserved else 0)

/-- The enclosed image on the last page, under its lines or at its top where it has none, and inside the body. -/
structure Enclosed (letter : PreparedLetter Art) (box : Box) (sheets : List Sheet) (front : List Sheet) (sheet : Sheet)
    (top : ℚ) : Prop where
  last : sheets = front ++ [sheet]
  others : ∀ early ∈ front, early.image = none
  here : sheet.image = some top
  inBody : top + box.height ≤ BODY_BOTTOM
  below : top = letter.pageTop front.length + ((sheet.span.stop - sheet.span.start : Nat) : ℚ) * LINE_PITCH + IMAGE_GAP ∨
    sheet.span.stop = sheet.span.start ∧ 0 < front.length ∧ top = CONTINUATION_TOP

/-- The pages of a letter that fits on at most so many. -/
structure Printed (letter : PreparedLetter Art) (maxPages : Nat) (sheets : List Sheet) : Prop where
  atMost : sheets.length ≤ maxPages
  laid : letter.galley.Laid maxPages 0 0 (sheets.map Sheet.span)
  tops : ∀ i sheet, sheets[i]? = some sheet → 0 < i → sheet.span.start < sheet.span.stop →
    ∀ line, letter.lines[sheet.span.start]? = some line → letter.galley.dropped line = false
  none : letter.inlineBox = none → ∀ sheet ∈ sheets, sheet.image = none
  image : ∀ box, letter.inlineBox = some box → ∃ front sheet top, letter.Enclosed box sheets front sheet top
  band : ∀ band, Banded letter.lines band → ∃ i sheet, sheets[i]? = some sheet ∧
    band + SIGNATURE_LINES ≤ sheet.span.stop ∧ (sheet.span.start < band ∨ sheet.span.start = band ∧ 0 < i ∧
      ∀ line, letter.lines[band - 1]? = some line → letter.galley.dropped line = true)

end PreparedLetter

/-- An enclosed image that ends within a hair of the page's body ends in it. -/
theorem inline_exact (content : LetterContent Art) {box : Box} (inline_ : content.inlineBox = some box) (maxLines : Option Nat) (index : Nat)
    (fits : (prepareLetter content maxLines).pageTop index + count * LINE_PITCH + IMAGE_GAP + box.height ≤
      BODY_BOTTOM + hair) :
    (prepareLetter content maxLines).pageTop index + count * LINE_PITCH + IMAGE_GAP + box.height ≤ BODY_BOTTOM := by
  obtain ⟨layout, image, -, rfl⟩ := inlineBox_some inline_
  have noHeader : content.headerBox = none := by
    unfold LetterContent.headerBox
    rw [if_neg (by rw [layout]; decide)]
  have first : content.textTop = content.bodyTop := by
    unfold LetterContent.textTop
    rw [noHeader]
  unfold PreparedLetter.pageTop at fits ⊢
  rw [BODY_BOTTOM_eq, IMAGE_GAP_eq] at fits ⊢
  split at fits
  · have fits : content.textTop + count * LINE_PITCH + 36 + (fitImage image INLINE_IMAGE_MAX_HEIGHT).height ≤ 720 + hair := fits
    rw [if_pos ‹_›]
    show content.textTop + count * LINE_PITCH + 36 + (fitImage image INLINE_IMAGE_MAX_HEIGHT).height ≤ 720
    rw [first] at fits ⊢
    rcases bodyTop_cases content with top | top
    · rw [top] at fits ⊢
      have within := fits_exactly image 468 count (.inr rfl) (.inl rfl) (by linarith)
      linarith
    · rw [top] at fits ⊢
      have within := fits_exactly image 410.4 count (.inr rfl) (.inr (.inl rfl)) (by linarith)
      linarith
  · rw [if_neg ‹_›]
    rw [CONTINUATION_TOP_eq] at fits ⊢
    have within := fits_exactly image 612 count (.inr rfl) (.inr (.inr rfl)) (by linarith)
    linarith

theorem linesBetween_mono {top bottom lower : ℚ} (ordered : bottom ≤ lower) :
    linesBetween top bottom ≤ linesBetween top lower := by
  unfold linesBetween
  refine Nat.floor_le_floor ?_
  have pitch : (0 : ℚ) < LINE_PITCH := by norm_num [LINE_PITCH]
  gcongr

theorem inlineBox_height (content : LetterContent Art) {box : Box} (inline_ : content.inlineBox = some box) : 0 < box.height ∧ box.height ≤ 216 := by
  obtain ⟨-, image, -, rfl⟩ := inlineBox_some inline_
  obtain ⟨-, -, some, atMost⟩ := fitImage_bounds image INLINE_IMAGE_MAX_HEIGHT (by norm_num [INLINE_IMAGE_MAX_HEIGHT_eq])
  exact ⟨some, atMost.trans_eq INLINE_IMAGE_MAX_HEIGHT_eq⟩

theorem reserved_nonneg (content : LetterContent Art) (maxLines : Option Nat) :
    0 ≤ (prepareLetter content maxLines).reserved := by
  unfold PreparedLetter.reserved
  cases inline_ : (prepareLetter content maxLines).inlineBox with
  | none => exact le_rfl
  | some box =>
    have height := (inlineBox_height content inline_).1
    rw [Option.map_some, Option.getD_some, IMAGE_GAP_eq]
    linarith

theorem onePage_available (letter : PreparedLetter Art) :
    ⌊(BODY_BOTTOM - letter.textTop - letter.reserved + hair) / LINE_PITCH⌋₊ =
      linesBetween letter.textTop (BODY_BOTTOM - letter.reserved) := by
  unfold linesBetween
  congr 2
  ring

/-- The only page of a letter laid out on one. -/
def PreparedLetter.onlySheet (letter : PreparedLetter Art) : Sheet where
  span := { start := 0, stop := letter.lines.length }
  image := letter.inlineBox.map fun _ => letter.textTop + letter.lines.length * LINE_PITCH + IMAGE_GAP

theorem onlySheet_page (letter : PreparedLetter Art) :
    letter.layoutOnePage.pages = [letter.sheetPage 0 letter.onlySheet] := by
  have lines : letter.sheetLines letter.onlySheet = letter.lines := by
    unfold PreparedLetter.sheetLines PreparedLetter.onlySheet
    simp
  have kept : (if letter.onlySheet.image.isSome then letter.reserved else 0) = letter.reserved := by
    unfold PreparedLetter.onlySheet PreparedLetter.reserved
    cases letter.inlineBox <;> rfl
  unfold PreparedLetter.layoutOnePage PreparedLetter.sheetPage
  rw [lines, kept, onePage_available]
  rfl

/-- One page that nothing runs past. -/
theorem onePage_printed (pages : 0 < maxPages) (fits : content.whole.layoutOnePage.overflowLines = 0) :
    content.whole.Printed maxPages [content.whole.onlySheet] := by
  have some_ := lines_some content
  have few : content.whole.lines.length ≤
      linesBetween content.textTop (BODY_BOTTOM - content.whole.reserved) := by
    have same := onePage_available content.whole
    unfold PreparedLetter.layoutOnePage at fits
    simp only [same] at fits
    exact Nat.sub_eq_zero_iff_le.mp fits
  have room : content.whole.lines.length ≤ content.whole.galley.room 0 := by
    refine few.trans (linesBetween_mono ?_)
    linarith [reserved_nonneg content none]
  obtain ⟨left, rfl⟩ : ∃ left, maxPages = left + 1 := ⟨maxPages - 1, by omega⟩
  refine ⟨by simp, ?_, ?_, ?_, ?_, ?_⟩
  · exact .page le_rfl (fun i _ from_ before => absurd before (by omega)) (Nat.zero_le _) le_rfl (by
      rw [Nat.zero_add]
      exact room) .done
  · intro i sheet found later
    rw [List.getElem?_eq_none (by simp; omega)] at found
    cases found
  · intro none sheet member
    rw [List.mem_singleton.mp member]
    unfold PreparedLetter.onlySheet
    rw [none]
    rfl
  · intro box inline_
    have fits := (le_linesBetween some_).mp few
    have reserved : content.whole.reserved = IMAGE_GAP + box.height := by
      unfold PreparedLetter.reserved
      rw [inline_]
      rfl
    rw [reserved] at fits
    refine ⟨[], _, content.textTop + content.whole.lines.length * LINE_PITCH + IMAGE_GAP, rfl, nofun, ?_, ?_,
      .inl rfl⟩
    · unfold PreparedLetter.onlySheet
      rw [inline_]
      rfl
    · refine inline_exact content inline_ none 0 ?_
      show content.textTop + content.whole.lines.length * LINE_PITCH + IMAGE_GAP + box.height ≤ _
      linarith
  · intro band banded
    exact ⟨0, _, rfl, banded.within, .inl banded.closing⟩

/-! Several pages. -/

namespace PreparedLetter

/-- The pages of so many stretches of lines, with the enclosed image on one of them. -/
def sheetsOf (spans : List Span) (image : Option (Nat × ℚ)) : List Sheet :=
  spans.mapIdx fun index span => { span, image := (image.filter fun image => image.1 = index).map (·.2) }

theorem sheetsOf_spans (spans : List Span) (image : Option (Nat × ℚ)) : (sheetsOf spans image).map Sheet.span = spans := by
  refine List.ext_getElem? fun i => ?_
  unfold sheetsOf
  rw [List.getElem?_map, List.getElem?_mapIdx, Option.map_map]
  exact Option.map_id'

theorem sheetsOf_get {spans : List Span} {image : Option (Nat × ℚ)} {i : Nat} {sheet : Sheet}
    (found : (sheetsOf spans image)[i]? = some sheet) : spans[i]? = some sheet.span := by
  unfold sheetsOf at found
  rw [List.getElem?_mapIdx] at found
  obtain ⟨span, at_, rfl⟩ := Option.map_eq_some_iff.mp found
  exact at_

theorem flowed_pages (letter : PreparedLetter Art) (spans : List Span) (image : Option (Nat × ℚ)) :
    (letter.placedOf spans).mapIdx (letter.flowedPage image) = (sheetsOf spans image).mapIdx letter.sheetPage := by
  unfold placedOf sheetsOf
  rw [List.mapIdx_mapIdx, List.mapIdx_mapIdx]
  rfl

theorem placedOf_concat (letter : PreparedLetter Art) (spans : List Span) (span : Span) :
    letter.placedOf (spans ++ [span]) = letter.placedOf spans ++ [{
      top := letter.pageTop spans.length, lines := (letter.lines.drop span.start).take (span.stop - span.start) }] := by
  unfold placedOf
  rw [List.mapIdx_concat]

end PreparedLetter

/-- A page never stops between a closing and the end of its band, but where it could not start later. -/
theorem fill_together (content : LetterContent Art) (maxLines : Option Nat) {first : Nat}
    (banded : Banded (prepareLetter content maxLines).lines (first + 1)) (index start : Nat) (before : start ≤ first + 1) :
    first + 1 + SIGNATURE_LINES ≤ start + (prepareLetter content maxLines).galley.fill index start ∨
      start + (prepareLetter content maxLines).galley.fill index start ≤ first := by
  have room := room_least content maxLines index
  have within := banded.within
  have three : SIGNATURE_LINES = 3 := rfl
  have lines : (prepareLetter content maxLines).galley.lines = (prepareLetter content maxLines).lines := rfl
  have fill : (prepareLetter content maxLines).galley.fill index start =
      keepSignatureWithClosing (prepareLetter content maxLines).lines start
        (min ((prepareLetter content maxLines).galley.room index) ((prepareLetter content maxLines).lines.length - start)) :=
    rfl
  rw [fill]
  rcases keep_cases (prepareLetter content maxLines).lines start
    (min ((prepareLetter content maxLines).galley.room index) ((prepareLetter content maxLines).lines.length - start)) with
    ⟨same, whole⟩ | ⟨closing, found, same, past, -, -⟩
  · have whole := whole first banded.found
    rw [same]
    omega
  · rw [banded.found] at found
    cases found
    rw [same]
    omega

/-- A page with lines on it is one the lines were laid over, not the one added for the enclosed image. -/
theorem laid_of_some {laid spans : List Span} {count i : Nat} {span : Span}
    (same : spans = laid ∨ spans = laid ++ [{ start := count, stop := count }]) (found : spans[i]? = some span)
    (some_ : span.start < span.stop) : laid[i]? = some span := by
  rcases same with rfl | rfl
  · exact found
  · rcases Nat.lt_or_ge i laid.length with early | late
    · rwa [List.getElem?_append_left early] at found
    · rw [List.getElem?_append_right late] at found
      cases List.mem_singleton.mp (List.mem_of_getElem? found)
      exact absurd some_ (lt_irrefl _)

/-- The pages of a letter's stretches of lines, nothing running past them. -/
theorem sheets_printed {spans : List Span} {image : Option (Nat × ℚ)} (pages : 0 < maxPages)
    (fits : (content.whole.galley.lay maxPages 0 0).2 = 0)
    (laid : spans = (content.whole.galley.lay maxPages 0 0).1 ∨
      spans = (content.whole.galley.lay maxPages 0 0).1 ++
        [{ start := content.whole.lines.length, stop := content.whole.lines.length }])
    (few : spans.length ≤ maxPages) (plain : content.whole.inlineBox = none → image = none)
    (placed : ∀ box, content.whole.inlineBox = some box → ∃ front last top, spans = front ++ [last] ∧
      image = some (front.length, top) ∧ top + box.height ≤ BODY_BOTTOM ∧
      (top = content.whole.pageTop front.length + ((last.stop - last.start : Nat) : ℚ) * LINE_PITCH + IMAGE_GAP ∨
        last.stop = last.start ∧ 0 < front.length ∧ top = CONTINUATION_TOP)) :
    content.whole.Printed maxPages (PreparedLetter.sheetsOf spans image) := by
  have fills := galley_fills content none
  have whole := Galley.lay_laid fills pages (Nat.zero_le _) fits
  refine ⟨?_, ?_, ?_, ?_, ?_, ?_⟩
  · unfold PreparedLetter.sheetsOf
    rw [List.length_mapIdx]
    exact few
  · rw [PreparedLetter.sheetsOf_spans]
    rcases laid with rfl | rfl
    · exact whole
    · exact whole.and_empty (by simpa using few)
  · intro i sheet found later some_ line at_
    have inLaid := laid_of_some laid (PreparedLetter.sheetsOf_get found) some_
    obtain ⟨from_, -, start, -⟩ := Galley.lay_get fills (Nat.zero_le _) inLaid
    obtain ⟨inList, same⟩ := List.getElem?_eq_some_iff.mp at_
    have inGalley : content.whole.galley.top (0 + i) from_ < content.whole.galley.lines.length := by
      rw [← start]
      exact inList
    have kept := Galley.top_kept (by omega) inGalley
    have same : content.whole.galley.lines[content.whole.galley.top (0 + i) from_] = line := by
      rw [← same]
      congr 1
      exact start.symm
    rwa [same] at kept
  · intro noBox sheet member
    obtain ⟨i, found⟩ := List.getElem?_of_mem member
    rw [plain noBox] at found
    unfold PreparedLetter.sheetsOf at found
    rw [List.getElem?_mapIdx] at found
    obtain ⟨span, -, rfl⟩ := Option.map_eq_some_iff.mp found
    rfl
  · intro box inline_
    obtain ⟨front, last, top, rfl, rfl, inBody, below⟩ := placed box inline_
    refine ⟨PreparedLetter.sheetsOf front (some (front.length, top)), { span := last, image := some top }, top, ?_, ?_, rfl,
      inBody, ?_⟩
    · unfold PreparedLetter.sheetsOf
      rw [List.mapIdx_concat]
      simp
    · intro early member
      obtain ⟨i, found⟩ := List.getElem?_of_mem member
      have before := (List.getElem?_eq_some_iff.mp (PreparedLetter.sheetsOf_get found)).1
      unfold PreparedLetter.sheetsOf at found
      rw [List.getElem?_mapIdx] at found
      obtain ⟨span, -, rfl⟩ := Option.map_eq_some_iff.mp found
      have other : ¬front.length = i := by omega
      simp [other]
    · have same : (PreparedLetter.sheetsOf front (some (front.length, top))).length = front.length := by
        unfold PreparedLetter.sheetsOf
        exact List.length_mapIdx
      rw [same]
      exact below
  · intro band banded
    obtain ⟨first, rfl⟩ : ∃ first, band = first + 1 := Nat.exists_eq_add_one.mpr banded.closing
    have three : SIGNATURE_LINES = 3 := rfl
    have kept : ∀ inList : first + 1 < content.whole.galley.lines.length,
        content.whole.galley.dropped content.whole.galley.lines[first + 1] = false := by
      intro inList
      have held := banded.held (first + 1) le_rfl (by omega)
      have same : content.whole.galley.lines[first + 1] = bandLine := (List.getElem?_eq_some_iff.mp held).2
      rw [same]
      rfl
    obtain ⟨i, span, found, past, start⟩ := content.whole.galley.lay_together 0 0 pages
      banded.within (by omega) kept (fill_together content none banded) (Nat.zero_le _)
    have inSpans : spans[i]? = some span := by
      rcases laid with rfl | rfl
      · exact found
      · rw [List.getElem?_append_left (List.getElem?_eq_some_iff.mp found).1]
        exact found
    refine ⟨i, { span, image := (image.filter fun image => image.1 = i).map (·.2) }, ?_, past, ?_⟩
    · unfold PreparedLetter.sheetsOf
      rw [List.getElem?_mapIdx, inSpans]
      rfl
    · rcases start with before | ⟨same, later, dropped⟩
      · exact .inl (Nat.lt_succ_of_le before)
      · refine .inr ⟨same, by omega, fun line at_ => ?_⟩
        obtain ⟨inList, line_⟩ := List.getElem?_eq_some_iff.mp at_
        rw [← line_]
        exact dropped inList

theorem first_top (content : LetterContent Art) : content.whole.galley.top 0 0 < content.whole.galley.lines.length :=
  lines_some content

theorem laid_ne_nil (content : LetterContent Art) (pages : 0 < maxPages) :
    (content.whole.galley.lay maxPages 0 0).1 ≠ [] :=
  Galley.lay_ne_nil pages (first_top content)

/-- An enclosed image that leaves nothing over: under the last line, or at the top of a page of its own. -/
theorem placeImage_fits {box : Box} {front : List PreparedLetter.Placed} {ending : PreparedLetter.Placed} {past : Nat}
    (some_ : 0 < ending.lines.length) (tall : 0 < box.height)
    (full : past ≠ 0 → BODY_BOTTOM + hair < ending.top + ending.lines.length * LINE_PITCH)
    (fits : (PreparedLetter.placeImage box maxPages (front ++ [ending]) past).overflowLines = 0) : past = 0 ∧
      (ending.top + ending.lines.length * LINE_PITCH + IMAGE_GAP + box.height ≤ BODY_BOTTOM + hair ∧
        PreparedLetter.placeImage box maxPages (front ++ [ending]) past = {
          placed := front ++ [ending]
          image := some (front.length, ending.top + ending.lines.length * LINE_PITCH + IMAGE_GAP)
          overflowLines := 0 } ∨
        BODY_BOTTOM + hair < ending.top + ending.lines.length * LINE_PITCH + IMAGE_GAP + box.height ∧
        front.length + 1 < maxPages ∧ PreparedLetter.placeImage box maxPages (front ++ [ending]) past = {
          placed := front ++ [ending] ++ [{ top := CONTINUATION_TOP, lines := [] }]
          image := some (front.length + 1, CONTINUATION_TOP)
          overflowLines := 0 }) := by
  have last : (front ++ [ending]).getLast?.getD { top := 0, lines := [] } = ending := by simp
  have count : (front ++ [ending]).length = front.length + 1 := by simp
  unfold PreparedLetter.placeImage at fits ⊢
  simp only [last, count, Nat.add_sub_cancel] at fits ⊢
  split at fits
  · rename_i under
    rw [if_pos under]
    exact ⟨under.1, .inl ⟨under.2, by rw [under.1]⟩⟩
  · rename_i notUnder
    rw [if_neg notUnder]
    split at fits
    · rename_i apart
      rw [if_pos apart]
      exact ⟨apart.1, .inr ⟨not_le.mp fun low => notUnder ⟨apart.1, low⟩, apart.2, by rw [apart.1]⟩⟩
    · -- No page is left for it: lines run past the room it leaves.
      have runs : BODY_BOTTOM - (IMAGE_GAP + box.height) + hair < ending.top + ending.lines.length * LINE_PITCH := by
        by_cases zero : past = 0
        · have high : ¬_ := fun low => notUnder ⟨zero, low⟩
          rw [not_le] at high
          linarith
        · have bottom := full zero
          rw [IMAGE_GAP_eq]
          linarith
      have less := linesBetween_lt runs some_
      have fits : ending.lines.length - linesBetween ending.top (BODY_BOTTOM - (IMAGE_GAP + box.height)) = 0 := fits
      omega

/-- Where the last page allowed runs past, its lines end below the body. -/
theorem last_full {front : List Span} {last : Span} (pages : 0 < maxPages)
    (split : (content.whole.galley.lay maxPages 0 0).1 = front ++ [last])
    (past : (content.whole.galley.lay maxPages 0 0).2 ≠ 0) :
    BODY_BOTTOM + hair < content.whole.pageTop front.length + ((last.stop - last.start : Nat) : ℚ) * LINE_PITCH := by
  rcases content.whole.galley.begun_or_short maxPages 0 0 pages with ⟨start, begun⟩ | ⟨-, fits⟩
  · obtain ⟨length, ends, runs⟩ := begun.lays
    rw [split, List.getLast?_concat] at ends
    cases ends
    have count : maxPages - 1 = front.length := by
      rw [split, List.length_append, List.length_singleton] at length
      omega
    rw [runs, Nat.zero_add, count] at past
    have few : linesBetween (content.whole.pageTop front.length) BODY_BOTTOM < content.whole.galley.lines.length - start := by
      have same : content.whole.galley.room front.length = linesBetween (content.whole.pageTop front.length) BODY_BOTTOM := rfl
      omega
    show _ < content.whole.pageTop front.length +
      ((content.whole.galley.lines.length - start : Nat) : ℚ) * LINE_PITCH
    by_contra within
    have fits := (le_linesBetween (by omega)).mpr (not_lt.mp within)
    omega
  · exact absurd fits past

theorem flow_plain (letter : PreparedLetter Art) (maxPages : Nat) (plain : letter.inlineBox = none) :
    letter.flow maxPages = {
      placed := letter.placedOf (letter.galley.lay maxPages 0 0).1
      image := none
      overflowLines := (letter.galley.lay maxPages 0 0).2 } := by
  unfold PreparedLetter.flow
  rw [plain]

theorem flow_image (letter : PreparedLetter Art) (maxPages : Nat) {box : Box} (inline_ : letter.inlineBox = some box) :
    letter.flow maxPages = PreparedLetter.placeImage box maxPages (letter.placedOf (letter.galley.lay maxPages 0 0).1)
      (letter.galley.lay maxPages 0 0).2 := by
  unfold PreparedLetter.flow
  rw [inline_]

/-- A page for the enclosed image alone, after the last line. -/
def emptySpan (letter : PreparedLetter Art) : Span where
  start := letter.lines.length
  stop := letter.lines.length

/-- The height under the last line of the last page, and a gap. -/
def underLast (letter : PreparedLetter Art) (front : List Span) (last : Span) : ℚ :=
  letter.pageTop front.length + ((last.stop - last.start : Nat) : ℚ) * LINE_PITCH + IMAGE_GAP

/-- The last page has lines, and as many as its stretch is long. -/
theorem lastLines_length {front : List Span} {last : Span}
    (split : (content.whole.galley.lay maxPages 0 0).1 = front ++ [last]) :
    ((content.whole.lines.drop last.start).take (last.stop - last.start)).length = last.stop - last.start ∧
      last.start < last.stop := by
  have found : (content.whole.galley.lay maxPages 0 0).1[front.length]? = some last := by
    rw [split, List.getElem?_append_right le_rfl, Nat.sub_self]
    rfl
  obtain ⟨-, -, -, some_, within, -⟩ := Galley.lay_get (galley_fills content none) (Nat.zero_le _) found
  have within : last.stop ≤ content.whole.lines.length := within
  rw [List.length_take, List.length_drop]
  omega

/-- Where the enclosed image of a letter that fits lies. -/
theorem flow_enclosed {box : Box} (pages : 0 < maxPages) (inline_ : content.whole.inlineBox = some box)
    (fits : (content.whole.flow maxPages).overflowLines = 0) :
    (content.whole.galley.lay maxPages 0 0).2 = 0 ∧ ∃ front last,
      (content.whole.galley.lay maxPages 0 0).1 = front ++ [last] ∧
      (underLast content.whole front last + box.height ≤ BODY_BOTTOM + hair ∧ content.whole.flow maxPages = {
          placed := content.whole.placedOf (front ++ [last])
          image := some (front.length, underLast content.whole front last)
          overflowLines := 0 } ∨
        BODY_BOTTOM + hair < underLast content.whole front last + box.height ∧ front.length + 1 < maxPages ∧
        content.whole.flow maxPages = {
          placed := content.whole.placedOf (front ++ [last] ++ [emptySpan content.whole])
          image := some (front.length + 1, CONTINUATION_TOP)
          overflowLines := 0 }) := by
  obtain ⟨front, last, split⟩ : ∃ front last, (content.whole.galley.lay maxPages 0 0).1 = front ++ [last] :=
    ⟨_, _, (List.dropLast_concat_getLast (laid_ne_nil content pages)).symm⟩
  obtain ⟨lines, some_⟩ := lastLines_length split
  have count : (content.whole.placedOf front).length = front.length := List.length_mapIdx
  have flowed := flow_image content.whole maxPages inline_
  rw [split, PreparedLetter.placedOf_concat] at flowed
  rw [flowed] at fits
  obtain ⟨zero, place⟩ := placeImage_fits (by rw [lines]; omega) (inlineBox_height content inline_).1
    (fun past => by rw [lines]; exact last_full pages split past) fits
  simp only [lines, count] at place
  have own : content.whole.placedOf (front ++ [last] ++ [emptySpan content.whole]) =
      content.whole.placedOf (front ++ [last]) ++ [{ top := CONTINUATION_TOP, lines := [] }] := by
    rw [PreparedLetter.placedOf_concat]
    simp [PreparedLetter.pageTop, emptySpan]
  refine ⟨zero, front, last, split, ?_⟩
  rw [own, PreparedLetter.placedOf_concat, flowed]
  exact place

/-- Several pages that nothing runs past, the enclosed image on the last. -/
theorem flow_printed (pages : 0 < maxPages) (fits : (content.whole.flowPages maxPages).overflowLines = 0) :
    ∃ sheets, content.whole.Printed maxPages sheets ∧
      (content.whole.flowPages maxPages).pages = sheets.mapIdx content.whole.sheetPage := by
  have length := content.whole.galley.lay_length maxPages 0 0
  have fits : (content.whole.flow maxPages).overflowLines = 0 := fits
  show ∃ sheets, content.whole.Printed maxPages sheets ∧
    (content.whole.flow maxPages).placed.mapIdx (content.whole.flowedPage (content.whole.flow maxPages).image) = _
  cases inline_ : content.whole.inlineBox with
  | none =>
    rw [flow_plain content.whole maxPages inline_] at fits ⊢
    refine ⟨_, sheets_printed pages fits (.inl rfl) length (fun _ => rfl) fun box other => ?_, content.whole.flowed_pages _ _⟩
    rw [inline_] at other
    cases other
  | some box =>
    have some_ : content.whole.inlineBox ≠ none := by simp [inline_]
    obtain ⟨zero, front, last, split, ⟨low, flowed⟩ | ⟨-, more, flowed⟩⟩ := flow_enclosed pages inline_ fits
    · have body := inline_exact content inline_ none front.length low
      rw [flowed]
      refine ⟨_, sheets_printed pages zero (.inl split.symm) (by rw [← split]; exact length)
        (fun none => absurd none some_) fun other same => ?_, content.whole.flowed_pages _ _⟩
      rw [inline_] at same
      cases same
      exact ⟨front, last, _, rfl, rfl, body, .inl rfl⟩
    · have body : CONTINUATION_TOP + box.height ≤ BODY_BOTTOM := by
        have height := (inlineBox_height content inline_).2
        rw [CONTINUATION_TOP_eq, BODY_BOTTOM_eq]
        linarith
      have few : (front ++ [last] ++ [emptySpan content.whole]).length ≤ maxPages := by
        simp only [List.length_append, List.length_singleton]
        omega
      rw [flowed]
      refine ⟨_, sheets_printed pages zero (.inr (by rw [split]; rfl)) few (fun none => absurd none some_)
        fun other same => ?_, content.whole.flowed_pages _ _⟩
      rw [inline_] at same
      cases same
      exact ⟨front ++ [last], _, _, rfl, by simp, body, .inr ⟨rfl, by simp, rfl⟩⟩

/-! The limit on pages. -/

/-- Where nothing is left over, more pages allowed change nothing about the enclosed image. -/
theorem placeImage_more {box : Box} {front : List PreparedLetter.Placed} {ending : PreparedLetter.Placed} {more : Nat}
    (atLeast : maxPages ≤ more)
    (fits : BODY_BOTTOM + hair < ending.top + ending.lines.length * LINE_PITCH + IMAGE_GAP + box.height →
      front.length + 1 < maxPages) :
    PreparedLetter.placeImage box more (front ++ [ending]) 0 =
      PreparedLetter.placeImage box maxPages (front ++ [ending]) 0 := by
  have last : (front ++ [ending]).getLast?.getD { top := 0, lines := [] } = ending := by simp
  have count : (front ++ [ending]).length = front.length + 1 := by simp
  unfold PreparedLetter.placeImage
  simp only [true_and, last, count]
  split
  · rfl
  · rename_i under
    have few := fits (not_le.mp under)
    rw [if_pos (by omega), if_pos few]

/-- A letter that fits is laid out alike with more pages allowed. -/
theorem flowPages_more {more : Nat} (pages : 0 < maxPages) (atLeast : maxPages ≤ more)
    (fits : (content.whole.flowPages maxPages).overflowLines = 0) :
    content.whole.flowPages more = content.whole.flowPages maxPages := by
  have fits : (content.whole.flow maxPages).overflowLines = 0 := fits
  have laid (zero : (content.whole.galley.lay maxPages 0 0).2 = 0) :
      content.whole.galley.lay more 0 0 = content.whole.galley.lay maxPages 0 0 :=
    Galley.lay_more (fun start inList => keep_whole (lines_wholeBand content) inList) pages atLeast zero
  have same : content.whole.flow more = content.whole.flow maxPages := by
    cases inline_ : content.whole.inlineBox with
    | none =>
      rw [flow_plain content.whole maxPages inline_] at fits
      rw [flow_plain content.whole maxPages inline_, flow_plain content.whole more inline_, laid fits]
    | some box =>
      obtain ⟨zero, front, last, split, place⟩ := flow_enclosed pages inline_ fits
      have lines := (lastLines_length split).1
      rw [flow_image content.whole maxPages inline_, flow_image content.whole more inline_, laid zero, zero, split,
        PreparedLetter.placedOf_concat]
      refine placeImage_more atLeast fun high => ?_
      rw [lines] at high
      rcases place with ⟨low, -⟩ | ⟨-, few, -⟩
      · exact absurd high (not_lt.mpr low)
      · have count : (content.whole.placedOf front).length = front.length := List.length_mapIdx
        omega
  unfold PreparedLetter.flowPages
  rw [same]

end

end LetterIRL.Layout
