import LetterIRL.Layout.Conserved

namespace LetterIRL.Layout
open Lib

/-! The band of a letter's signature, on one page under its closing. -/

/-- Where an item stands clear of a stretch of the page: a photo above it or below. -/
def LayoutItem.ClearOf {Art : Type} (top bottom : ℚ) : LayoutItem Art → Prop
  | .image _ high _ height _ _ => high + height ≤ top ∨ bottom ≤ high
  | _ => True

section
variable {Art : Type} {content : LetterContent Art} {signature : Signature} {maxPages : Nat} {sheets : List Sheet}

/-- The height a letter's band starts at, on a page. -/
def LetterContent.bandTop (content : LetterContent Art) (signature : Signature) (i : Nat) (sheet : Sheet) : ℚ :=
  content.whole.pageTop i + ((content.band signature - sheet.span.start : Nat) : ℚ) * LINE_PITCH

def LetterContent.bandBottom (content : LetterContent Art) (signature : Signature) (i : Nat) (sheet : Sheet) : ℚ :=
  content.bandTop signature i sheet + SIGNATURE_LINES * LINE_PITCH

/-- The band on this page and no other, in its body and right under the closing's last line, if that draws anything; the
signature in it, and no line or photo over it. -/
structure SignedOn (content : LetterContent Art) (signature : Signature) (layout : LetterLayout Art) (sheets : List Sheet)
    (i : Nat) (sheet : Sheet) : Prop where
  found : sheets[i]? = some sheet
  held : ∀ k < SIGNATURE_LINES, (content.whole.sheetLines sheet)[content.band signature - sheet.span.start + k]? =
    some bandLine
  only : ∀ j other, sheets[j]? = some other → j ≠ i → ∀ line ∈ content.whole.sheetLines other, line.signature = false
  closing : (∃ k, k + 1 = content.band signature - sheet.span.start ∧
      (content.whole.sheetLines sheet)[k]? = content.whole.lines[content.band signature - 1]?) ∨
    content.band signature = sheet.span.start ∧
      ∀ line, content.whole.lines[content.band signature - 1]? = some line → isBlank line.drawn = true
  inBody : InBody i (content.bandTop signature i sheet) (content.bandBottom signature i sheet)
  image : ofKind .signature layout.items =
    [.image SIDE_MARGIN (content.bandTop signature i sheet + SIGNATURE_PADDING) (fitSignature signature.image).width
      (fitSignature signature.image).height signature.image true]
  inSides : InSides SIDE_MARGIN (fitSignature signature.image).width
  inBand : content.bandTop signature i sheet + SIGNATURE_PADDING + (fitSignature signature.image).height +
    SIGNATURE_PADDING ≤ content.bandBottom signature i sheet
  texts : ∀ item ∈ ofKind .text (content.whole.sheetPage i sheet).items, ∃ (k : Nat) (drawn source : Text),
    item = .text SIDE_MARGIN (content.whole.pageTop i + k * LINE_PITCH + content.whole.baseline) drawn source ∧
      (content.whole.pageTop i + (k + 1 : Nat) * LINE_PITCH ≤ content.bandTop signature i sheet ∨
        content.bandBottom signature i sheet ≤ content.whole.pageTop i + k * LINE_PITCH)
  pictures : ∀ item ∈ ofKind .picture (content.whole.sheetPage i sheet).items,
    item.ClearOf (content.bandTop signature i sheet) (content.bandBottom signature i sheet)

/-- A line of a page, by its place in the letter. -/
theorem sheetLines_get (letter : PreparedLetter Art) (sheet : Sheet) (k : Nat)
    (inPage : sheet.span.start + k < sheet.span.stop) :
    (letter.sheetLines sheet)[k]? = letter.lines[sheet.span.start + k]? := by
  unfold PreparedLetter.sheetLines
  rw [List.getElem?_take_of_lt (by omega), List.getElem?_drop]

theorem mem_sheetLines {letter : PreparedLetter Art} {sheet : Sheet} {line : LetterLine}
    (member : line ∈ letter.sheetLines sheet) :
    ∃ at_, sheet.span.start ≤ at_ ∧ at_ < sheet.span.stop ∧ letter.lines[at_]? = some line := by
  obtain ⟨k, found⟩ := List.getElem?_of_mem member
  have inPage : k < sheet.span.stop - sheet.span.start := by
    have less := (List.getElem?_eq_some_iff.mp found).1
    unfold PreparedLetter.sheetLines at less
    rw [List.length_take] at less
    omega
  rw [sheetLines_get _ _ _ (by omega)] at found
  exact ⟨sheet.span.start + k, by omega, by omega, found⟩

/-- The signature's band, where it starts on a page that holds it. -/
theorem band_found (signed : content.signature = some signature) {sheet : Sheet}
    (before : sheet.span.start ≤ content.band signature)
    (after : content.band signature + SIGNATURE_LINES ≤ sheet.span.stop) :
    content.whole.band (content.whole.sheetLines sheet) = some (content.band signature - sheet.span.start) := by
  have banded := whole_banded signed
  have three : SIGNATURE_LINES = 3 := rfl
  have isSome : content.whole.signature.isSome = true := by
    show (content.signature.map _).isSome = true
    rw [signed]
    rfl
  have here := sheetLines_get content.whole sheet (content.band signature - sheet.span.start) (by omega)
  have same : sheet.span.start + (content.band signature - sheet.span.start) = content.band signature := by omega
  rw [same, banded.held _ le_rfl (by omega)] at here
  obtain ⟨inPage, atBand⟩ := List.getElem?_eq_some_iff.mp here
  unfold PreparedLetter.band
  rw [if_pos isSome, List.findIdx?_eq_some_iff_getElem]
  refine ⟨inPage, ?_, fun k early => ?_⟩
  · rw [atBand]
    rfl
  · have text := sheetLines_get content.whole sheet k (by omega)
    rw [List.getElem?_eq_getElem (by omega)] at text
    rw [banded.text _ _ text.symm (.inl (by omega))]
    exact Bool.false_ne_true

/-- A page of other lines has no band. -/
theorem band_none {letter : PreparedLetter Art} {sheet : Sheet}
    (text : ∀ line ∈ letter.sheetLines sheet, line.signature = false) : letter.band (letter.sheetLines sheet) = none := by
  unfold PreparedLetter.band
  split
  · rw [List.findIdx?_eq_none_iff]
    exact text
  · rfl

theorem flatMap_single {α β : Type} {f : α → List β} {list : List α} {i : Nat} {item : α} (found : list[i]? = some item)
    (others : ∀ j other, list[j]? = some other → j ≠ i → f other = []) : list.flatMap f = f item := by
  induction list generalizing i with
  | nil => cases found
  | cons first rest ih =>
    rw [List.flatMap_cons]
    cases i with
    | zero =>
      cases found
      rw [List.flatMap_eq_nil_iff.mpr, List.append_nil]
      intro other member
      obtain ⟨j, at_⟩ := List.getElem?_of_mem member
      exact others (j + 1) other (by simpa using at_) (by omega)
    | succ i =>
      rw [others 0 first rfl (by omega), List.nil_append]
      exact ih (by simpa using found) fun j other at_ differ => others (j + 1) other (by simpa using at_) (by omega)

/-- The signature of a letter is drawn once, on the page its band is on. -/
theorem pages_signature (signed : content.signature = some signature) {i : Nat} {sheet : Sheet}
    (found : sheets[i]? = some sheet) (before : sheet.span.start ≤ content.band signature)
    (after : content.band signature + SIGNATURE_LINES ≤ sheet.span.stop)
    (others : ∀ j other, sheets[j]? = some other → j ≠ i → ∀ line ∈ content.whole.sheetLines other, line.signature = false) :
    ofKind .signature ((sheets.mapIdx content.whole.sheetPage).flatMap LayoutPage.items) =
      [.image SIDE_MARGIN (content.bandTop signature i sheet + SIGNATURE_PADDING) (fitSignature signature.image).width
        (fitSignature signature.image).height signature.image true] := by
  have image : content.whole.signature = some (signature.image, fitSignature signature.image) := by
    show content.signature.map _ = _
    rw [signed]
    rfl
  have at_ : (sheets.mapIdx content.whole.sheetPage)[i]? = some (content.whole.sheetPage i sheet) := by
    rw [List.getElem?_mapIdx, found]
    rfl
  have shared : ofKind .signature ((sheets.mapIdx content.whole.sheetPage).flatMap LayoutPage.items) =
      (sheets.mapIdx content.whole.sheetPage).flatMap fun page => ofKind .signature page.items := by
    unfold ofKind
    exact List.filter_flatMap ..
  rw [shared, flatMap_single at_]
  · rw [(sheetPage_ofKind content i sheet).2.1]
    unfold PreparedLetter.signatureItems
    rw [image, band_found signed before after]
    rfl
  · intro j page atPage differ
    rw [List.getElem?_mapIdx] at atPage
    obtain ⟨other, atOther, rfl⟩ := Option.map_eq_some_iff.mp atPage
    rw [(sheetPage_ofKind content j other).2.1]
    unfold PreparedLetter.signatureItems
    rw [image, band_none (others j other atOther differ)]

/-- Each text of a page is one of its lines that draw something, at its height. -/
theorem mem_textItems {letter : PreparedLetter Art} {top : ℚ} {lines : List LetterLine} {item : LayoutItem Art}
    (member : item ∈ letter.textItems top lines) : ∃ (k : Nat) (line : LetterLine), lines[k]? = some line ∧
      isBlank line.drawn = false ∧ item = .text SIDE_MARGIN (top + k * LINE_PITCH + letter.baseline) line.drawn line.source := by
  unfold PreparedLetter.textItems at member
  obtain ⟨⟨line, k⟩, inLines, made⟩ := List.mem_filterMap.mp member
  simp only at made
  split at made
  · cases made
  · rename_i drawn
    cases made
    exact ⟨k, line, List.mem_zipIdx_iff_getElem?.mp inLines, by simpa using drawn, rfl⟩

theorem pageTop_inBody (content : LetterContent Art) (i : Nat) :
    (if i = 0 then BODY_TOP else CONTINUATION_TOP) ≤ content.whole.pageTop i := by
  unfold PreparedLetter.pageTop
  split
  · exact (textTop_bounds content).1
  · exact le_rfl

theorem bandBottom_eq (content : LetterContent Art) (signature : Signature) (i : Nat) (sheet : Sheet) :
    content.bandBottom signature i sheet = content.whole.pageTop i +
      ((content.band signature - sheet.span.start + SIGNATURE_LINES : Nat) : ℚ) * LINE_PITCH := by
  unfold LetterContent.bandBottom LetterContent.bandTop
  push_cast
  ring

/-- Lines further down a page start lower. -/
theorem line_heights (content : LetterContent Art) (i : Nat) {above below : Nat} (ordered : above ≤ below) :
    content.whole.pageTop i + above * LINE_PITCH ≤ content.whole.pageTop i + below * LINE_PITCH := by
  have pitch : (0 : ℚ) ≤ LINE_PITCH := by norm_num [LINE_PITCH]
  have ordered : (above : ℚ) ≤ below := by exact_mod_cast ordered
  linarith [mul_le_mul_of_nonneg_right ordered pitch]

/-- The photos of the page a band is on stand clear of it. -/
theorem pictures_clear (printed : content.whole.Printed maxPages sheets) {i : Nat} {sheet : Sheet}
    (found : sheets[i]? = some sheet) (before : sheet.span.start ≤ content.band signature)
    (after : content.band signature + SIGNATURE_LINES ≤ sheet.span.stop) :
    ∀ item ∈ ofKind .picture (content.whole.sheetPage i sheet).items,
      item.ClearOf (content.bandTop signature i sheet) (content.bandBottom signature i sheet) := by
  intro item member
  rw [(sheetPage_ofKind content i sheet).2.2] at member
  rcases List.mem_append.mp member with above | enclosed
  · split at above
    · rename_i first
      unfold LetterContent.headerItems at above
      cases header : content.headerBox with
      | none =>
        rw [header] at above
        cases above
      | some shown =>
        rw [header] at above
        rw [List.mem_singleton.mp above]
        refine .inl ?_
        have top : content.whole.pageTop i = content.bodyTop + shown.2.height + IMAGE_GAP := by
          rw [first]
          show content.textTop = _
          unfold LetterContent.textTop
          rw [header]
        have lines := line_heights content i (Nat.zero_le (content.band signature - sheet.span.start))
        unfold LetterContent.bandTop
        rw [IMAGE_GAP_eq] at top
        push_cast at lines
        linarith
    · cases above
  · cases inline_ : content.whole.inlineBox with
    | none =>
      rw [printed.none inline_ sheet (List.mem_of_getElem? found), inlineItems_none] at enclosed
      cases enclosed
    | some box =>
      obtain ⟨front, last, high, place⟩ := printed.image box inline_
      cases shown : sheet.image with
      | none =>
        rw [shown, inlineItems_none] at enclosed
        cases enclosed
      | some top =>
        have notFront : ¬i < front.length := by
          intro early
          rw [place.last, List.getElem?_append_left early] at found
          rw [place.others sheet (List.mem_of_getElem? found)] at shown
          cases shown
        have here : i = front.length ∧ sheet = last := by
          rw [place.last, List.getElem?_append_right (by omega)] at found
          have first := (List.getElem?_eq_some_iff.mp found).1
          rw [List.length_singleton] at first
          have zero : i - front.length = 0 := by omega
          rw [zero] at found
          cases found
          exact ⟨by omega, rfl⟩
        obtain ⟨rfl, rfl⟩ := here
        have fitted : content.inlineBox = some box := inline_
        obtain ⟨-, image, photo, -⟩ := inlineBox_some fitted
        rw [place.here, inlineItems_some content.whole high inline_ photo] at enclosed
        rw [List.mem_singleton.mp enclosed]
        refine .inr ?_
        have three : SIGNATURE_LINES = 3 := rfl
        have lines := line_heights content front.length
          (by omega : content.band signature - sheet.span.start + SIGNATURE_LINES ≤ sheet.span.stop - sheet.span.start)
        rw [bandBottom_eq]
        rcases place.below with same | ⟨none_, -⟩
        · rw [same, IMAGE_GAP_eq]
          linarith
        · omega

/-- The band of a letter that fits is on one of its pages. -/
theorem printed_signed {layout : LetterLayout Art} (signed : content.signature = some signature)
    (printed : content.whole.Printed maxPages sheets)
    (pages : layout.pages = sheets.mapIdx content.whole.sheetPage) :
    ∃ i sheet, SignedOn content signature layout sheets i sheet := by
  have banded := whole_banded signed
  have three : SIGNATURE_LINES = 3 := rfl
  obtain ⟨i, sheet, found, after, start⟩ := printed.band _ banded
  have before : sheet.span.start ≤ content.band signature := by
    rcases start with early | ⟨same, -⟩ <;> omega
  have place (j : Nat) {other : Sheet} (at_ : sheets[j]? = some other) : (sheets.map Sheet.span)[j]? = some other.span := by
    rw [List.getElem?_map, at_]
    rfl
  obtain ⟨-, -, inLines, room⟩ := printed.laid.get (place i found)
  rw [Nat.zero_add] at room
  have others : ∀ j other, sheets[j]? = some other → j ≠ i →
      ∀ line ∈ content.whole.sheetLines other, line.signature = false := by
    intro j other at_ differ line member
    obtain ⟨index, from_, upTo, atIndex⟩ := mem_sheetLines member
    refine banded.text index line atIndex ?_
    rcases printed.laid.apart (place i found) (place j at_) differ with early | late
    · exact .inl (by omega)
    · exact .inr (by omega)
  have held : ∀ k < SIGNATURE_LINES,
      (content.whole.sheetLines sheet)[content.band signature - sheet.span.start + k]? = some bandLine := by
    intro k less
    have same : sheet.span.start + (content.band signature - sheet.span.start + k) = content.band signature + k := by omega
    rw [sheetLines_get _ _ _ (by omega), same]
    exact banded.held _ (Nat.le_add_right _ _) (by omega)
  obtain ⟨wide, narrow, tall, low⟩ := fitWithin_spec signature.image SIGNATURE_MAX_WIDTH
    (SIGNATURE_LINES * LINE_PITCH - 2 * SIGNATURE_PADDING) (by norm_num [SIGNATURE_MAX_WIDTH_eq])
    (by norm_num [SIGNATURE_LINES, LINE_PITCH, SIGNATURE_PADDING])
  refine ⟨i, sheet, found, held, others, ?_, ⟨?_, ?_⟩, ?_, ⟨le_rfl, ?_⟩, ?_, ?_, pictures_clear printed found before after⟩
  · rcases start with early | ⟨same, -, dropped⟩
    · refine .inl ⟨content.band signature - 1 - sheet.span.start, by omega, ?_⟩
      rw [sheetLines_get _ _ _ (by omega)]
      congr 1
      omega
    · refine .inr ⟨same.symm, fun line at_ => ?_⟩
      have blank : (isBlank line.drawn && !line.signature) = true := dropped line at_
      rw [Bool.and_eq_true] at blank
      exact blank.1
  · have lines := line_heights content i (Nat.zero_le (content.band signature - sheet.span.start))
    refine (pageTop_inBody content i).trans ?_
    unfold LetterContent.bandTop
    push_cast at lines
    linarith
  · have few : content.band signature - sheet.span.start + SIGNATURE_LINES ≤ content.whole.galley.room i := by omega
    rw [bandBottom_eq]
    exact room_exact content none few
  · unfold LetterLayout.items
    rw [pages]
    exact pages_signature signed found before after others
  · have narrow : (fitSignature signature.image).width ≤ 180 := narrow.trans_eq SIGNATURE_MAX_WIDTH_eq
    rw [CONTENT_WIDTH_eq]
    linarith
  · have low : (fitSignature signature.image).height ≤ SIGNATURE_LINES * LINE_PITCH - 2 * SIGNATURE_PADDING := low
    unfold LetterContent.bandBottom
    linarith
  · intro item member
    rw [(sheetPage_ofKind content i sheet).1] at member
    obtain ⟨k, line, atLine, drawn, rfl⟩ := mem_textItems member
    refine ⟨k, line.drawn, line.source, rfl, ?_⟩
    have outside : k + 1 ≤ content.band signature - sheet.span.start ∨
        content.band signature - sheet.span.start + SIGNATURE_LINES ≤ k := by
      by_contra inside
      have atBand := held (k - (content.band signature - sheet.span.start)) (by omega)
      have same : content.band signature - sheet.span.start + (k - (content.band signature - sheet.span.start)) = k := by
        omega
      rw [same, atLine] at atBand
      cases atBand
      cases drawn
    rcases outside with above | below
    · exact .inl (line_heights content i above)
    · refine .inr ?_
      rw [bandBottom_eq]
      exact line_heights content i below

/-- Lines that run past no page where greedy pages lay them, with no enclosed image, leave nothing over. -/
theorem plain_fits (plain : content.inlineBox = none) (fits : (content.whole.galley.lay maxPages 0 0).2 = 0) :
    (layoutWithin content none maxPages).overflowLines = 0 := by
  rw [layoutWithin_whole]
  split
  · rename_i single
    rcases single with one | zero
    · have reserved : content.whole.reserved = 0 := by
        unfold PreparedLetter.reserved
        have none_ : content.whole.inlineBox = none := plain
        rw [none_]
        rfl
      have some_ := first_top content
      have count : content.whole.lines.length - 0 - content.whole.galley.room 0 = 0 := by
        rw [one] at fits
        unfold Galley.lay at fits
        simp only [some_, if_true] at fits
        exact fits
      show content.whole.lines.length - ⌊(BODY_BOTTOM - content.whole.textTop - content.whole.reserved + hair) / LINE_PITCH⌋₊ = 0
      rw [onePage_available, reserved, sub_zero]
      exact count
    · exact zero
  · have flowed := flow_plain content.whole maxPages plain
    show (content.whole.flow maxPages).overflowLines = 0
    rw [flowed]
    exact fits

/-- Pages one of which holds the closing's last line with its band stop at no place between. -/
theorem stops_allowed {left index next closing high : Nat} {g : Galley LetterLine} {pages : List Span}
    (laid : Galley.Laid g left index next pages) {holder : Span} (member : holder ∈ pages)
    (before : holder.start ≤ closing) (after : high ≤ holder.stop) :
    ∀ page ∈ pages, ¬(closing < page.stop ∧ page.stop < high) := by
  rintro page inPages ⟨past, less⟩
  obtain ⟨i, found⟩ := List.getElem?_of_mem member
  obtain ⟨j, at_⟩ := List.getElem?_of_mem inPages
  by_cases same : j = i
  · rw [same, found] at at_
    cases at_
    omega
  · have ordered := (laid.get at_).2.1
    rcases laid.apart found at_ same with early | late <;> omega

/-- In a letter with a signature that fits, the band is whole on one page under its closing; and where no photo is enclosed,
a letter wrapped whole fits whenever any pages hold its lines with the closing and the band together. -/
theorem layoutLetter_signed (signed : content.signature = some signature) :
    (∀ maxPages layout, layoutLetter content maxPages = some layout → layout.overflowLines = 0 →
      ∃ sheets i sheet, layout.pages = sheets.mapIdx content.whole.sheetPage ∧ sheets.length ≤ maxPages ∧
        SignedOn content signature layout sheets i sheet) ∧
      ∀ maxPages layout, layoutLetter content maxPages = some layout → layout.truncated = false →
        content.inlineBox = none → ∀ breaks, content.whole.galley.Laid maxPages 0 0 breaks →
        (∃ page ∈ breaks, page.start < content.band signature ∧ content.band signature + SIGNATURE_LINES ≤ page.stop) →
        layout.overflowLines = 0 := by
  have banded := whole_banded signed
  refine ⟨fun maxPages layout laid fits => ?_, fun maxPages layout laid untruncated plain breaks broken together => ?_⟩
  · unfold layoutLetter at laid
    split at laid
    · cases laid
    · rename_i range
      rw [not_or, not_lt, not_lt] at range
      cases laid
      have within := within_of_fits fits
      rw [layoutWithin_within within] at fits ⊢
      obtain ⟨sheets, printed, pages⟩ := layoutWithin_printed (by omega) fits
      obtain ⟨i, sheet, here⟩ := printed_signed signed printed pages
      exact ⟨sheets, i, sheet, pages, printed.atMost, here⟩
  · obtain ⟨holder, member, before, after⟩ := together
    unfold layoutLetter at laid
    split at laid
    · cases laid
    · cases laid
      rw [layoutWithin_within (within_of_untruncated untruncated)]
      refine plain_fits plain (Galley.lay_fits
        (fun stop => ¬(content.band signature - 1 < stop ∧ stop < content.band signature + SIGNATURE_LINES)) ?_ broken ?_
        le_rfl)
      · intro start count stop allowed reached
        refine keep_reaches (fun closing found => ?_) reached
        rw [banded.found] at found
        have same := Option.some.inj found
        rwa [same] at allowed
      · exact stops_allowed broken member (by omega) after

end

def noteSignature : Signature where
  image := signedImage
  closingParagraph := 1

/-- A short letter with its signature. -/
def signedNote : LetterContent Unit where
  text := [72, 105, 10, 74, 111, 10, 75]
  layoutType := .textOnly
  image := none
  stationery := plainStationery (plainFace Wrapping.unitClusters 6)
  signature := some noteSignature

theorem signedNote_signed : ∃ layout, layoutLetter signedNote 2 = some layout ∧ layout.overflowLines = 0 ∧
    ∃ sheets i sheet, SignedOn signedNote noteSignature layout sheets i sheet := by
  have signed := layoutLetter_signed (rfl : signedNote.signature = some noteSignature)
  have lines : signedNote.whole.galley.lines.length = 6 := by decide +kernel
  have room : 6 ≤ signedNote.whole.galley.room 0 := (by decide : 6 ≤ 13).trans (room_least signedNote none 0)
  have broken : signedNote.whole.galley.Laid 2 0 0 [{ start := 0, stop := signedNote.whole.galley.lines.length }] :=
    .page le_rfl (fun i _ _ before => absurd before (Nat.not_lt_zero i)) (Nat.zero_le _) le_rfl (by omega) .done
  have fits := signed.2 2 _ rfl (by decide +kernel) rfl _ broken
    ⟨_, List.mem_singleton_self _, by decide +kernel, by decide +kernel⟩
  obtain ⟨sheets, i, sheet, -, -, here⟩ := signed.1 2 _ rfl fits
  exact ⟨_, rfl, fits, sheets, i, sheet, here⟩

/-- A letter whose closing draws nothing, where the page is full before it. -/
def blankClosing : LetterContent Unit where
  text := (List.replicate 26 [97, 10]).flatten
  layoutType := .textOnly
  image := none
  stationery := plainStationery (plainFace Wrapping.unitClusters 6)
  signature := some { image := signedImage, closingParagraph := 26 }

/-- The closing is dropped at the top of the second page, where the band then starts. -/
theorem blank_closing_dropped : ∃ layout, layoutLetter blankClosing 2 = some layout ∧ layout.overflowLines = 0 ∧
    blankClosing.whole.lines.length = 30 ∧ layout.pages.map LayoutPage.linesUsed = [26, 3] ∧
    layout.pages.map (fun page => ofKind .signature page.items) =
      [[], [.image SIDE_MARGIN (CONTINUATION_TOP + SIGNATURE_PADDING) 103.2 51.6
        ⟨400, 200, by decide, by decide, by decide⟩ true]] :=
  ⟨_, rfl, by decide +kernel⟩

end LetterIRL.Layout
