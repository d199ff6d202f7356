import LetterIRL.Layout.Placed

namespace LetterIRL.Layout
open Lib

/-! A letter laid out conserves its lines and its photo. -/

/-- What an item of a page is: a photo is a picture, or the person's signature. -/
inductive ItemKind
  | art
  | rules
  | text
  | picture
  | signature
  deriving DecidableEq

def LayoutItem.kind {Art : Type} : LayoutItem Art → ItemKind
  | .art _ => .art
  | .rules _ => .rules
  | .text .. => .text
  | .image _ _ _ _ _ signature => if signature then .signature else .picture

def ofKind {Art : Type} (kind : ItemKind) (items : List (LayoutItem Art)) : List (LayoutItem Art) :=
  items.filter fun item => item.kind = kind

/-- The items of all pages. -/
def LetterLayout.items {Art : Type} (layout : LetterLayout Art) : List (LayoutItem Art) :=
  layout.pages.flatMap LayoutPage.items

section
variable {Art : Type} {content : LetterContent Art} {maxPages : Nat}

/-- Heights inside the body of a page. -/
structure InBody (index : Nat) (top bottom : ℚ) : Prop where
  above : (if index = 0 then BODY_TOP else CONTINUATION_TOP) ≤ top
  below : bottom ≤ BODY_BOTTOM

/-- Inside the body's sides. -/
structure InSides (left width : ℚ) : Prop where
  start : SIDE_MARGIN ≤ left
  stop : left + width ≤ SIDE_MARGIN + CONTENT_WIDTH

/-- A line of the text, wrapped: no wider than the body, or a single cluster. -/
def WrappedAs (face : Face) (text : Text) (line : LetterLine) : Prop :=
  ∃ paragraph ∈ paragraphsOf face text, ∃ range ∈ (face.paragraphMeasure paragraph).wrapParagraph none,
    line = (lineOf face paragraph range).inLetter ∧
      (InSides SIDE_MARGIN (face.advanceWidth line.drawn) ∨
        ∀ first, ((face.paragraphMeasure paragraph).clusterEnds range.start).head? = some first → range.stop ≤ first)

/-- A letter's pages hold its lines, each once and inside the page's body, and its photo on one of them. -/
structure Conserves (content : LetterContent Art) (maxPages : Nat) (layout : LetterLayout Art) (sheets : List Sheet) :
    Prop where
  atMost : sheets.length ≤ maxPages
  pages : layout.pages = sheets.mapIdx content.whole.sheetPage
  lines : content.whole.galley.Laid maxPages 0 0 (sheets.map Sheet.span)
  tops : ∀ i sheet, sheets[i]? = some sheet → 0 < i → sheet.span.start < sheet.span.stop →
    ∀ line, content.whole.lines[sheet.span.start]? = some line → (isBlank line.drawn && !line.signature) = false
  texts : ∀ i sheet, sheets[i]? = some sheet → ofKind .text (content.whole.sheetPage i sheet).items =
    content.whole.textItems (content.whole.pageTop i) (content.whole.sheetLines sheet)
  inBody : ∀ i sheet, sheets[i]? = some sheet → ∀ line < (content.whole.sheetLines sheet).length,
    InBody i (content.whole.pageTop i + line * LINE_PITCH) (content.whole.pageTop i + (line + 1 : Nat) * LINE_PITCH)
  plain : content.headerBox = none → content.inlineBox = none →
    ofKind .picture layout.items = []
  header : ∀ image box, content.headerBox = some (image, box) →
    ofKind .picture layout.items =
        [.image (centred box) content.bodyTop box.width box.height image false] ∧
      InSides (centred box) box.width ∧ InBody 0 content.bodyTop (content.bodyTop + box.height) ∧
      content.bodyTop + box.height ≤ content.whole.pageTop 0
  enclosed : ∀ box, content.inlineBox = some box → ∃ image front sheet top, content.image = some image ∧
    sheets = front ++ [sheet] ∧
    ofKind .picture layout.items =
        [.image (centred box) top box.width box.height image false] ∧
      InSides (centred box) box.width ∧ InBody front.length top (top + box.height) ∧
      content.whole.pageTop front.length + (content.whole.sheetLines sheet).length * LINE_PITCH ≤ top

/-! What a page's items are. -/

theorem ofKind_append (kind : ItemKind) (items more : List (LayoutItem Art)) :
    ofKind kind (items ++ more) = ofKind kind items ++ ofKind kind more :=
  List.filter_append ..

theorem ofKind_all {kind : ItemKind} {items : List (LayoutItem Art)} (all : ∀ item ∈ items, item.kind = kind) :
    ofKind kind items = items := by
  unfold ofKind
  rw [List.filter_eq_self]
  intro item member
  simpa using all item member

theorem ofKind_none {kind : ItemKind} {items : List (LayoutItem Art)} (none : ∀ item ∈ items, item.kind ≠ kind) :
    ofKind kind items = [] := by
  unfold ofKind
  rw [List.filter_eq_nil_iff]
  intro item member
  simpa using none item member

theorem textItems_kind (letter : PreparedLetter Art) (top : ℚ) (lines : List LetterLine) :
    ∀ item ∈ letter.textItems top lines, item.kind = .text := by
  intro item member
  unfold PreparedLetter.textItems at member
  obtain ⟨⟨line, index⟩, -, made⟩ := List.mem_filterMap.mp member
  simp only at made
  split at made
  · cases made
  · cases made
    rfl

theorem ruleItems_kind (letter : PreparedLetter Art) (top : ℚ) (lines : List LetterLine) (inlineTop : Option ℚ) :
    ∀ item ∈ letter.ruleItems top lines inlineTop, item.kind = .rules := by
  intro item member
  unfold PreparedLetter.ruleItems at member
  simp only at member
  split at member
  · rw [List.mem_singleton.mp member]
    rfl
  · cases member

theorem signatureItems_kind (letter : PreparedLetter Art) (top : ℚ) (lines : List LetterLine) :
    ∀ item ∈ letter.signatureItems top lines, item.kind = .signature := by
  intro item member
  unfold PreparedLetter.signatureItems at member
  split at member
  · rw [List.mem_singleton.mp member]
    rfl
  · cases member

theorem inlineItems_kind (letter : PreparedLetter Art) (inlineTop : Option ℚ) :
    ∀ item ∈ letter.inlineItems inlineTop, item.kind = .picture := by
  intro item member
  unfold PreparedLetter.inlineItems at member
  split at member
  · rw [List.mem_singleton.mp member]
    rfl
  · cases member

/-- The photo above the text, where there is one. -/
def LetterContent.headerItems (content : LetterContent Art) : List (LayoutItem Art) :=
  match content.headerBox with
  | none => []
  | some (image, box) => [.image (centred box) content.bodyTop box.width box.height image false]

theorem headerItems_kind (content : LetterContent Art) : ∀ item ∈ content.headerItems, item.kind = .picture := by
  intro item member
  unfold LetterContent.headerItems at member
  split at member
  · cases member
  · rw [List.mem_singleton.mp member]
    rfl

/-- What a theme draws on the first page is no text, and no photo of the letter's. -/
theorem firstPage_ofKind (content : LetterContent Art) {kind : ItemKind} (drawn : kind ≠ .art) :
    ofKind kind content.firstPageItems = if kind = .picture then content.headerItems else [] := by
  have art : ofKind kind (content.stationery.items.map LayoutItem.art) = [] := by
    refine ofKind_none fun item member => ?_
    obtain ⟨-, -, rfl⟩ := List.mem_map.mp member
    exact fun same => drawn same.symm
  have items : content.firstPageItems = content.stationery.items.map .art ++ content.headerItems := rfl
  rw [items, ofKind_append, art, List.nil_append]
  split
  · rename_i picture
    rw [picture]
    exact ofKind_all (headerItems_kind content)
  · rename_i other
    exact ofKind_none fun item member same => other (same ▸ headerItems_kind content item member)

/-- A page's items of a kind, from the first page's own, its text, its band and its enclosed photo. -/
theorem sheetPage_ofKind (content : LetterContent Art) (i : Nat) (sheet : Sheet) :
    ofKind .text (content.whole.sheetPage i sheet).items =
        content.whole.textItems (content.whole.pageTop i) (content.whole.sheetLines sheet) ∧
      ofKind .signature (content.whole.sheetPage i sheet).items =
        content.whole.signatureItems (content.whole.pageTop i) (content.whole.sheetLines sheet) ∧
      ofKind .picture (content.whole.sheetPage i sheet).items =
        (if i = 0 then content.headerItems else []) ++ content.whole.inlineItems sheet.image := by
  have start {kind : ItemKind} (drawn : kind ≠ .art) :
      ofKind kind (if i = 0 then content.whole.firstPageItems else []) =
        if i = 0 then if kind = .picture then content.headerItems else [] else [] := by
    split
    · exact firstPage_ofKind content drawn
    · rfl
  have texts := textItems_kind content.whole (content.whole.pageTop i) (content.whole.sheetLines sheet)
  have rules := ruleItems_kind content.whole (content.whole.pageTop i) (content.whole.sheetLines sheet) sheet.image
  have signatures := signatureItems_kind content.whole (content.whole.pageTop i) (content.whole.sheetLines sheet)
  have pictures := inlineItems_kind content.whole sheet.image
  have other {kind own : ItemKind} {items : List (LayoutItem Art)} (all : ∀ item ∈ items, item.kind = own)
      (differ : own ≠ kind) : ofKind kind items = [] :=
    ofKind_none fun item member same => differ ((all item member).symm.trans same)
  unfold PreparedLetter.sheetPage PreparedLetter.pageItems
  simp only [ofKind_append]
  refine ⟨?_, ?_, ?_⟩
  · rw [start (by decide), other rules (by decide), ofKind_all texts, other signatures (by decide),
      other pictures (by decide)]
    simp
  · rw [start (by decide), other rules (by decide), other texts (by decide), ofKind_all signatures,
      other pictures (by decide)]
    simp
  · rw [start (by decide), other rules (by decide), other texts (by decide), other signatures (by decide),
      ofKind_all pictures]
    simp

theorem later_pictures (content : LetterContent Art) (past : Nat) (sheets : List Sheet) :
    ofKind .picture ((sheets.mapIdx fun i => content.whole.sheetPage (i + past + 1)).flatMap LayoutPage.items) =
      sheets.flatMap fun sheet => content.whole.inlineItems sheet.image := by
  induction sheets generalizing past with
  | nil => rfl
  | cons sheet rest ih =>
    have shifted : (fun i => content.whole.sheetPage (i + 1 + past + 1)) =
        fun i => content.whole.sheetPage (i + (past + 1) + 1) := by
      funext i
      congr 1
      omega
    rw [List.mapIdx_cons, List.flatMap_cons, ofKind_append, (sheetPage_ofKind content _ _).2.2, shifted, ih (past + 1),
      if_neg (by omega), List.nil_append, List.flatMap_cons]

/-- The photos of all pages together: what is above the text, and what each page encloses. -/
theorem pages_pictures (content : LetterContent Art) {sheets : List Sheet} (some_ : sheets ≠ []) :
    ofKind .picture ((sheets.mapIdx content.whole.sheetPage).flatMap LayoutPage.items) =
      content.headerItems ++ sheets.flatMap fun sheet => content.whole.inlineItems sheet.image := by
  obtain ⟨sheet, rest, rfl⟩ := List.exists_cons_of_ne_nil some_
  rw [List.mapIdx_cons, List.flatMap_cons, ofKind_append, (sheetPage_ofKind content _ _).2.2, if_pos rfl,
    later_pictures content 0 rest, List.flatMap_cons, List.append_assoc]

theorem headerBox_none {box : Box} (inline_ : content.inlineBox = some box) : content.headerBox = none := by
  unfold LetterContent.headerBox
  rw [if_neg (by rw [(inlineBox_some inline_).1]; decide)]

theorem inlineBox_none {shown : RenderImage × Box} (header : content.headerBox = some shown) :
    content.inlineBox = none := by
  unfold LetterContent.inlineBox
  rw [if_neg (by rw [(headerBox_some header).1]; decide)]

theorem centred_inSides {image : RenderImage} {maxHeight : ℚ} (tall : 0 < maxHeight) :
    InSides (centred (fitImage image maxHeight)) (fitImage image maxHeight).width := by
  obtain ⟨some_, atMost, -⟩ := fitImage_bounds image maxHeight tall
  unfold centred
  constructor <;> linarith

theorem sheetLines_length {letter : PreparedLetter Art} {sheet : Sheet} (within : sheet.span.stop ≤ letter.lines.length) :
    (letter.sheetLines sheet).length = sheet.span.stop - sheet.span.start := by
  unfold PreparedLetter.sheetLines
  rw [List.length_take, List.length_drop]
  omega

theorem inlineItems_none (letter : PreparedLetter Art) : letter.inlineItems none = [] := by
  unfold PreparedLetter.inlineItems
  split
  · rename_i shown
    cases shown
  · rfl

theorem inlineItems_some (letter : PreparedLetter Art) {box : Box} {image : RenderImage} (top : ℚ)
    (inline_ : letter.inlineBox = some box) (photo : letter.image = some image) :
    letter.inlineItems (some top) = [.image (centred box) top box.width box.height image false] := by
  unfold PreparedLetter.inlineItems
  rw [inline_, photo]

/-- The pages of a letter that fits conserve it. -/
theorem printed_conserves {layout : LetterLayout Art} {sheets : List Sheet} (printed : content.whole.Printed maxPages sheets)
    (pages : layout.pages = sheets.mapIdx content.whole.sheetPage) : Conserves content maxPages layout sheets := by
  have some_ : sheets ≠ [] := by
    have spans := printed.laid.some (lines_some content)
    rintro rfl
    exact spans rfl
  have within : ∀ i sheet, sheets[i]? = some sheet → (content.whole.sheetLines sheet).length =
      sheet.span.stop - sheet.span.start ∧ sheet.span.stop - sheet.span.start ≤ content.whole.galley.room i := by
    intro i sheet found
    have at_ : (sheets.map Sheet.span)[i]? = some sheet.span := by
      rw [List.getElem?_map, found]
      rfl
    obtain ⟨-, -, inLines, room⟩ := printed.laid.get at_
    rw [Nat.zero_add] at room
    exact ⟨sheetLines_length inLines, by omega⟩
  have top : ∀ i, (if i = 0 then BODY_TOP else CONTINUATION_TOP) ≤ content.whole.pageTop i := by
    intro i
    unfold PreparedLetter.pageTop
    split
    · exact (textTop_bounds content).1
    · exact le_rfl
  have pitch : (0 : ℚ) ≤ LINE_PITCH := by norm_num [LINE_PITCH]
  refine ⟨printed.atMost, pages, printed.laid, printed.tops, fun i sheet _ => (sheetPage_ofKind content i sheet).1, ?_, ?_, ?_, ?_⟩
  · intro i sheet found line inPage
    obtain ⟨length, room⟩ := within i sheet found
    refine ⟨(top i).trans ?_, room_exact content none (Nat.succ_le_of_lt inPage |>.trans (length.le.trans room))⟩
    have lines : (0 : ℚ) ≤ line * LINE_PITCH := by positivity
    linarith
  · intro noHeader noInline
    unfold LetterLayout.items
    rw [pages, pages_pictures content some_]
    unfold LetterContent.headerItems
    rw [noHeader, List.nil_append, List.flatMap_eq_nil_iff]
    intro sheet member
    rw [printed.none noInline sheet member, inlineItems_none]
  · intro image box header
    have noInline := inlineBox_none header
    have noneEnclosed : (sheets.flatMap fun sheet => content.whole.inlineItems sheet.image) = [] := by
      rw [List.flatMap_eq_nil_iff]
      intro sheet member
      rw [printed.none noInline sheet member, inlineItems_none]
    have first : content.whole.pageTop 0 = content.bodyTop + box.height + IMAGE_GAP := by
      show content.textTop = _
      unfold LetterContent.textTop
      rw [header]
    have body : BODY_TOP ≤ content.bodyTop := by
      rw [BODY_TOP_eq]
      rcases bodyTop_cases content with same | same <;> norm_num [same]
    have most := (textTop_bounds content).2
    have top : content.textTop = content.bodyTop + box.height + IMAGE_GAP := first
    obtain ⟨-, rfl⟩ := headerBox_some header
    unfold LetterLayout.items
    rw [pages, pages_pictures content some_, noneEnclosed, List.append_nil]
    rw [IMAGE_GAP_eq] at top first
    refine ⟨?_, centred_inSides (by norm_num [HEADER_IMAGE_MAX_HEIGHT_eq]), ⟨body, ?_⟩, by linarith⟩
    · unfold LetterContent.headerItems
      rw [header]
    · rw [BODY_BOTTOM_eq]
      linarith
  · intro box inline_
    obtain ⟨front, sheet, high, enclosed⟩ := printed.image box inline_
    obtain ⟨-, image, photo, fitted⟩ := inlineBox_some inline_
    have last := enclosed.last
    have found : sheets[front.length]? = some sheet := by
      rw [last, List.getElem?_append_right le_rfl, Nat.sub_self]
      rfl
    obtain ⟨length, -⟩ := within front.length sheet found
    have above : content.whole.pageTop front.length + (content.whole.sheetLines sheet).length * LINE_PITCH ≤ high := by
      rw [length]
      rcases enclosed.below with same | ⟨none_, later, same⟩
      · rw [same, IMAGE_GAP_eq]
        linarith
      · rw [same, none_, Nat.sub_self]
        unfold PreparedLetter.pageTop
        rw [if_neg (by omega)]
        simp
    have lines : (0 : ℚ) ≤ (content.whole.sheetLines sheet).length * LINE_PITCH := by positivity
    refine ⟨image, front, sheet, high, photo, last, ?_, ?_, ⟨(top _).trans (by linarith), enclosed.inBody⟩, above⟩
    · have others : (front.flatMap fun early => content.whole.inlineItems early.image) = [] := by
        rw [List.flatMap_eq_nil_iff]
        intro early member
        rw [enclosed.others early member, inlineItems_none]
      have noHeader : content.headerItems = [] := by
        unfold LetterContent.headerItems
        rw [headerBox_none inline_]
      unfold LetterLayout.items
      rw [pages, pages_pictures content some_, noHeader, List.nil_append, last, List.flatMap_append, others,
        List.nil_append, List.flatMap_singleton, enclosed.here]
      exact inlineItems_some content.whole high inline_ photo
    · rw [fitted]
      exact centred_inSides (by norm_num [INLINE_IMAGE_MAX_HEIGHT_eq])

theorem layoutWithin_whole (content : LetterContent Art) (maxPages : Nat) :
    layoutWithin content none maxPages =
      if maxPages = 1 ∨ content.whole.layoutOnePage.overflowLines = 0 then content.whole.layoutOnePage
      else content.whole.flowPages maxPages := by
  unfold layoutWithin
  simp only [whole_untruncated, Bool.false_eq_true, if_false]

/-- The pages of a letter whose layout without a budget of lines leaves nothing over. -/
theorem layoutWithin_printed (pages : 0 < maxPages) (fits : (layoutWithin content none maxPages).overflowLines = 0) :
    ∃ sheets, content.whole.Printed maxPages sheets ∧
      (layoutWithin content none maxPages).pages = sheets.mapIdx content.whole.sheetPage := by
  rw [layoutWithin_whole] at fits ⊢
  split at fits
  · rw [if_pos ‹_›]
    exact ⟨_, onePage_printed pages fits, onlySheet_page content.whole⟩
  · rw [if_neg ‹_›]
    exact flow_printed pages fits

theorem layoutWithin_more {more : Nat} (pages : 0 < maxPages) (atLeast : maxPages ≤ more)
    (fits : (layoutWithin content none maxPages).overflowLines = 0) :
    layoutWithin content none more = layoutWithin content none maxPages := by
  rw [layoutWithin_whole] at fits
  rw [layoutWithin_whole, layoutWithin_whole]
  split at fits
  · rw [if_pos (.inr fits), if_pos ‹_›]
  · rename_i several
    rw [not_or] at several
    rw [if_neg (by omega), if_neg (by omega)]
    exact flowPages_more pages atLeast fits

theorem mem_withBand {lines : List LetterLine} {after : Nat} {line : LetterLine} (member : line ∈ withBand lines after) :
    line ∈ lines ∨ line = bandLine := by
  unfold withBand at member
  simp only [List.mem_append, List.mem_replicate] at member
  rcases member with (early | ⟨-, band⟩) | late
  · exact .inl (List.mem_of_mem_take early)
  · exact .inr band
  · exact .inl (List.mem_of_mem_drop late)

/-- The lines of a letter, but its signature's band, are those its text wraps into. -/
theorem whole_wrapped (content : LetterContent Art) {line : LetterLine} (member : line ∈ content.whole.lines)
    (text : line.signature = false) : WrappedAs content.stationery.face content.text line := by
  have wrapped : line ∈ (wrapParagraphs content.stationery.face content.text none).paragraphs.flatten.map
      WrappedLine.inLetter := by
    unfold LetterContent.whole prepareLetter letterLines at member
    simp only at member
    split at member
    · exact member
    · rcases mem_withBand member with plain | rfl
      · exact plain
      · cases text
  rw [whole_paragraphs] at wrapped
  obtain ⟨drawn, inLines, rfl⟩ := List.mem_map.mp wrapped
  obtain ⟨lines, inParagraphs, inLines⟩ := List.mem_flatten.mp inLines
  obtain ⟨paragraph, inText, rfl⟩ := List.mem_map.mp inParagraphs
  obtain ⟨range, inRanges, rfl⟩ := List.mem_map.mp inLines
  refine ⟨paragraph, inText, range, inRanges, rfl, ?_⟩
  rcases Wrapping.narrow_of_wrapped _ none inRanges with narrow | single
  · have narrow : content.stationery.face.advanceWidth (content.stationery.face.visual paragraph range.start range.stop) ≤
        CONTENT_WIDTH := narrow
    exact .inl ⟨le_rfl, by
      have drawn : (lineOf content.stationery.face paragraph range).inLetter.drawn =
        content.stationery.face.visual paragraph range.start range.stop := rfl
      rw [drawn]
      linarith⟩
  · exact .inr single

/-- A letter nothing runs past conserves its lines and its photo, inside the pages' bodies but for a cluster wider than a
line, and is laid out alike whatever more pages it is allowed. -/
theorem layoutLetter_conserves {layout : LetterLayout Art} (laid : layoutLetter content maxPages = some layout)
    (fits : layout.overflowLines = 0) :
    (∃ sheets, Conserves content maxPages layout sheets) ∧
      (∀ line ∈ content.whole.lines, line.signature = false →
        WrappedAs content.stationery.face content.text line) ∧
      ∀ more, maxPages ≤ more → more ≤ MAX_LETTER_PAGES → layoutLetter content more = some layout := by
  unfold layoutLetter at laid ⊢
  split at laid
  · cases laid
  · rename_i range
    rw [not_or, not_lt, not_lt] at range
    cases laid
    have within := within_of_fits fits
    rw [layoutWithin_within within] at fits ⊢
    obtain ⟨sheets, printed, pages⟩ := layoutWithin_printed (by omega) fits
    refine ⟨⟨sheets, printed_conserves printed pages⟩, fun line member text => whole_wrapped content member text, ?_⟩
    intro more atLeast atMost
    have roomier : content.Within (LINE_BUDGET_PER_PAGE * more) := within.mono (Nat.mul_le_mul_left _ atLeast)
    rw [if_neg (by omega), layoutWithin_within roomier, layoutWithin_more (by omega) atLeast fits]

end

/-- A text with nothing to reorder. -/
def plainBidi : BidiJs where
  levels := fun text => text.map fun _ => 0
  segments := fun _ _ _ => []
  inLine := fun _ _ _ _ member => (nomatch member)
  mirror := fun _ => none
  drawn := fun _ _ mirror => (nomatch mirror)

/-- A text that is one cluster, such as leading consonants of Hangul one after the other. -/
def oneCluster : Segmenter where
  segment := fun text => if text.isEmpty then [] else [text]
  joins := by
    intro text
    cases text <;> simp
  visible := by
    intro text cluster member
    cases text with
    | nil => cases member
    | cons unit rest =>
      rw [List.mem_singleton.mp member]
      exact List.cons_ne_nil _ _

/-- A face whose units are all as wide, in which a text breaks nowhere. -/
def plainFace (graphemes : Segmenter) (advance : ℚ) : Face where
  bidi := plainBidi
  graphemes
  breaks := fun text => if text.isEmpty then [] else [text.length]
  increasing := by
    intro text
    split
    · exact .nil
    · exact List.pairwise_singleton _ _
  last := by
    intro text some_
    rw [if_neg (by simpa using some_)]
    rfl
  isMark := fun _ => false
  lookAlike := id
  advanceOf := fun _ => advance
  advanceWidth := fun text => advance * text.length
  ascent := 10
  descent := -3

def plainStationery (face : Face) : Stationery Unit where
  face
  items := []
  headline := false
  ruled := false

def signedImage : RenderImage := ⟨400, 200, by decide, by decide, by decide⟩

/-- A short letter with a closing, its signature, and a photo. -/
def signedLetter : LetterContent Unit where
  text := [72, 105, 10, 74, 111, 10, 75]
  layoutType := .inlineImage
  image := some ⟨800, 600, by decide, by decide, by decide⟩
  stationery := plainStationery (plainFace Wrapping.unitClusters 6)
  signature := some { image := signedImage, closingParagraph := 1 }

theorem signedLetter_conserves : ∃ layout, layoutLetter signedLetter 2 = some layout ∧
    ∃ sheets, Conserves signedLetter 2 layout sheets :=
  ⟨_, rfl, (layoutLetter_conserves rfl (by decide +kernel)).1⟩

/-- A line that runs past the body's side. -/
def LayoutItem.beyond {Art : Type} (face : Face) : LayoutItem Art → Bool
  | .text x _ drawn _ => decide (SIDE_MARGIN + CONTENT_WIDTH < x + face.advanceWidth drawn)
  | _ => false

/-- Sixty leading consonants of Hangul, which the face has no glyph of its own for. -/
def jamoLetter : LetterContent Unit where
  text := List.replicate 60 0x1100
  layoutType := .textOnly
  image := none
  stationery := plainStationery (plainFace oneCluster 9)
  signature := none

/-- A cluster wider than a line is drawn past the body's side, and nothing is over. -/
theorem wide_cluster_beyond : ∃ layout, layoutLetter jamoLetter 1 = some layout ∧ layout.overflowLines = 0 ∧
    ∃ page ∈ layout.pages, ∃ item ∈ page.items, item.beyond jamoLetter.stationery.face = true :=
  ⟨_, rfl, by decide +kernel, by decide +kernel⟩

end LetterIRL.Layout
