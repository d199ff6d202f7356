import LetterIRL.Layout.Budget

namespace LetterIRL.Layout
open Lib

/-! A letter's pages as stretches of its lines: the room each has, and what each holds. -/

section
variable {Art : Type} {content : LetterContent Art} {count : Nat}

theorem bodyTop_cases (content : LetterContent Art) : content.bodyTop = 216 ∨ content.bodyTop = 273.6 := by
  unfold LetterContent.bodyTop Stationery.bodyOffset
  split
  · exact .inr (by norm_num [BODY_TOP_eq, HEADLINE_LINES, LINE_PITCH])
  · exact .inl (by norm_num [BODY_TOP_eq])

theorem headerBox_some {image : RenderImage} {box : Box} (header : content.headerBox = some (image, box)) :
    content.layoutType = .headerImage ∧ box = fitImage image HEADER_IMAGE_MAX_HEIGHT := by
  unfold LetterContent.headerBox at header
  split at header
  · rename_i layout
    obtain ⟨image', -, same⟩ := Option.map_eq_some_iff.mp header
    cases same
    exact ⟨layout, rfl⟩
  · cases header

theorem inlineBox_some {box : Box} (inline_ : content.inlineBox = some box) :
    content.layoutType = .inlineImage ∧ ∃ image, content.image = some image ∧
      box = fitImage image INLINE_IMAGE_MAX_HEIGHT := by
  unfold LetterContent.inlineBox at inline_
  split at inline_
  · rename_i layout
    obtain ⟨image, found, same⟩ := Option.map_eq_some_iff.mp inline_
    exact ⟨layout, image, found, same.symm⟩
  · cases inline_

theorem fitImage_bounds (image : RenderImage) (maxHeight : ℚ) (tall : 0 < maxHeight) :
    0 < (fitImage image maxHeight).width ∧ (fitImage image maxHeight).width ≤ CONTENT_WIDTH ∧
      0 < (fitImage image maxHeight).height ∧ (fitImage image maxHeight).height ≤ maxHeight :=
  fitWithin_spec _ _ _ (by norm_num [CONTENT_WIDTH_eq]) tall

theorem textTop_bounds (content : LetterContent Art) : BODY_TOP ≤ content.textTop ∧ content.textTop ≤ 453.6 := by
  unfold LetterContent.textTop
  rw [BODY_TOP_eq]
  have body := bodyTop_cases content
  cases header : content.headerBox with
  | none => rcases body with top | top <;> simp only [top] <;> norm_num
  | some shown =>
    obtain ⟨image, box⟩ := shown
    obtain ⟨-, rfl⟩ := headerBox_some header
    obtain ⟨-, -, some, atMost⟩ := fitImage_bounds image HEADER_IMAGE_MAX_HEIGHT
      (by norm_num [HEADER_IMAGE_MAX_HEIGHT_eq])
    have most : (fitImage image HEADER_IMAGE_MAX_HEIGHT).height ≤ 144 := atMost.trans_eq HEADER_IMAGE_MAX_HEIGHT_eq
    simp only [IMAGE_GAP_eq]
    rcases body with top | top <;> rw [top] <;> constructor <;> linarith

/-- The lines under the text's top end inside the page, not a hair past it. -/
theorem textTop_exact (fits : content.textTop + count * LINE_PITCH ≤ BODY_BOTTOM + hair) :
    content.textTop + count * LINE_PITCH ≤ BODY_BOTTOM := by
  have body := bodyTop_cases content
  unfold LetterContent.textTop at fits ⊢
  rw [BODY_BOTTOM_eq] at fits ⊢
  cases header : content.headerBox with
  | none =>
    simp only [header, LINE_PITCH] at fits ⊢
    rcases body with top | top
    · rw [top] at fits ⊢
      have even := twentieths_exact (384 * count) 10080 (by push_cast; linarith)
      push_cast at even
      linarith
    · rw [top] at fits ⊢
      have even := twentieths_exact (384 * count) 8928 (by push_cast; linarith)
      push_cast at even
      linarith
  | some shown =>
    obtain ⟨image, box⟩ := shown
    obtain ⟨-, rfl⟩ := headerBox_some header
    simp only [header, IMAGE_GAP_eq] at fits ⊢
    rcases body with top | top
    · rw [top] at fits ⊢
      have within := fits_exactly image 468 count (.inl rfl) (.inl rfl) (by linarith)
      linarith
    · rw [top] at fits ⊢
      have within := fits_exactly image 410.4 count (.inl rfl) (.inr (.inl rfl)) (by linarith)
      linarith

/-! The signature's band. -/

/-- Lines with a signature's band from `band` on, after at least one other. -/
structure Banded (lines : List LetterLine) (band : Nat) : Prop where
  closing : 0 < band
  within : band + SIGNATURE_LINES ≤ lines.length
  found : lines.findIdx? LetterLine.signature = some band
  held : ∀ i, band ≤ i → i < band + SIGNATURE_LINES → lines[i]? = some bandLine
  text : ∀ i line, lines[i]? = some line → i < band ∨ band + SIGNATURE_LINES ≤ i → line.signature = false

theorem withBand_length {lines : List LetterLine} {after : Nat} (inLines : after ≤ lines.length) :
    (withBand lines after).length = lines.length + SIGNATURE_LINES := by
  unfold withBand
  simp only [List.length_append, List.length_take, List.length_replicate, List.length_drop]
  omega

theorem withBand_get {lines : List LetterLine} {after : Nat} (inLines : after ≤ lines.length) (i : Nat) :
    (withBand lines after)[i]? =
      if i < after then lines[i]? else if i < after + SIGNATURE_LINES then some bandLine
      else lines[i - SIGNATURE_LINES]? := by
  have early : (lines.take after).length = after := by
    rw [List.length_take]
    omega
  have upTo : (lines.take after ++ List.replicate SIGNATURE_LINES bandLine).length = after + SIGNATURE_LINES := by
    rw [List.length_append, early, List.length_replicate]
  unfold withBand
  split
  · rename_i before
    rw [List.getElem?_append_left (by omega), List.getElem?_append_left (by omega), List.getElem?_take_of_lt before]
  · rename_i from_
    split
    · rename_i before
      rw [List.getElem?_append_left (by omega), List.getElem?_append_right (by omega),
        List.getElem?_replicate_of_lt (by omega)]
    · rename_i past
      rw [List.getElem?_append_right (by omega), List.getElem?_drop, upTo]
      congr 1
      omega

theorem withBand_held {lines : List LetterLine} {after : Nat} (inLines : after ≤ lines.length) (i : Nat) (from_ : after ≤ i)
    (before : i < after + SIGNATURE_LINES) : (withBand lines after)[i]? = some bandLine := by
  rw [withBand_get inLines, if_neg (by omega), if_pos before]

theorem withBand_text {lines : List LetterLine} {after : Nat} (inLines : after ≤ lines.length)
    (text : ∀ line ∈ lines, line.signature = false) (i : Nat) (line : LetterLine)
    (found : (withBand lines after)[i]? = some line) (outside : i < after ∨ after + SIGNATURE_LINES ≤ i) :
    line.signature = false := by
  rw [withBand_get inLines] at found
  rcases outside with before | past
  · rw [if_pos before] at found
    exact text line (List.mem_of_getElem? found)
  · rw [if_neg (by omega), if_neg (by omega)] at found
    exact text line (List.mem_of_getElem? found)

theorem withBand_found {lines : List LetterLine} {after : Nat} (inLines : after ≤ lines.length)
    (text : ∀ line ∈ lines, line.signature = false) :
    (withBand lines after).findIdx? LetterLine.signature = some after := by
  have first : after < after + SIGNATURE_LINES := Nat.lt_add_of_pos_right (by decide)
  obtain ⟨inList, same⟩ := List.getElem?_eq_some_iff.mp (withBand_held inLines after le_rfl first)
  rw [List.findIdx?_eq_some_iff_getElem]
  refine ⟨inList, ?_, fun i before => ?_⟩
  · rw [same]
    rfl
  · rw [withBand_text inLines text i _ (List.getElem?_eq_getElem (by omega)) (.inl before)]
    exact Bool.false_ne_true

theorem withBand_banded {lines : List LetterLine} {after : Nat} (some_ : 0 < after) (inLines : after ≤ lines.length)
    (text : ∀ line ∈ lines, line.signature = false) : Banded (withBand lines after) after := by
  have length := withBand_length inLines
  exact ⟨some_, by omega, withBand_found inLines text, withBand_held inLines, withBand_text inLines text⟩

/-- What stays on a page: all of it, or what is before a closing whose band would not fit with it. -/
theorem keep_cases (lines : List LetterLine) (start count : Nat) :
    keepSignatureWithClosing lines start count = count ∧
        (∀ closing, lines.findIdx? LetterLine.signature = some (closing + 1) →
          ¬(start < closing ∧ closing < start + count ∧ start + count < closing + 1 + SIGNATURE_LINES)) ∨
      ∃ closing, lines.findIdx? LetterLine.signature = some (closing + 1) ∧
        keepSignatureWithClosing lines start count = closing - start ∧ start < closing ∧ closing < start + count ∧
        start + count < closing + 1 + SIGNATURE_LINES := by
  unfold keepSignatureWithClosing
  cases found : lines.findIdx? LetterLine.signature with
  | none => exact .inl ⟨rfl, nofun⟩
  | some band =>
    cases band with
    | zero => exact .inl ⟨rfl, nofun⟩
    | succ closing =>
      simp only
      split
      · rename_i parted
        exact .inr ⟨closing, rfl, rfl, parted⟩
      · rename_i whole
        refine .inl ⟨rfl, fun other same => ?_⟩
        cases same
        exact whole

/-- The lines hold a band wholly, or none. -/
def WholeBand (lines : List LetterLine) : Prop :=
  ∀ band, lines.findIdx? LetterLine.signature = some band → band + SIGNATURE_LINES ≤ lines.length

theorem keep_whole {lines : List LetterLine} (whole : WholeBand lines) {start : Nat} (inList : start < lines.length) :
    keepSignatureWithClosing lines start (lines.length - start) = lines.length - start := by
  rcases keep_cases lines start (lines.length - start) with ⟨same, -⟩ | ⟨closing, found, -, -, -, before⟩
  · exact same
  · have within := whole _ found
    omega

/-- What stays on a page reaches past every place that does not part a closing from its band. -/
theorem keep_reaches {lines : List LetterLine} {start count stop : Nat}
    (allowed : ∀ closing, lines.findIdx? LetterLine.signature = some (closing + 1) →
      ¬(closing < stop ∧ stop < closing + 1 + SIGNATURE_LINES))
    (reached : stop ≤ start + count) : stop ≤ start + keepSignatureWithClosing lines start count := by
  rcases keep_cases lines start count with ⟨same, -⟩ | ⟨closing, found, same, -, -, before⟩
  · rw [same]
    exact reached
  · have together := allowed closing found
    rw [same]
    omega

/-- A paragraph's lines bring no band with them. -/
theorem inLetter_text (paragraphs : List (List WrappedLine)) :
    ∀ line ∈ paragraphs.flatten.map WrappedLine.inLetter, line.signature = false := by
  intro line member
  obtain ⟨wrapped, -, rfl⟩ := List.mem_map.mp member
  rfl

theorem bandAfter_le (signature : Signature) (paragraphs : List (List WrappedLine)) :
    bandAfter signature paragraphs ≤ (paragraphs.flatten.map WrappedLine.inLetter).length := by
  rw [List.length_map]
  exact (List.take_sublist _ _).flatten.length_le

theorem letterLines_banded {signature : Signature} {first : List WrappedLine} {rest : List (List WrappedLine)}
    (some_ : first ≠ []) : Banded (letterLines (some signature) (first :: rest)) (bandAfter signature (first :: rest)) := by
  refine withBand_banded ?_ (bandAfter_le _ _) (inLetter_text _)
  have lines := List.length_pos_iff.mpr some_
  unfold bandAfter
  rw [List.take_succ_cons, List.flatten_cons, List.length_append]
  omega

theorem letterLines_plain (paragraphs : List (List WrappedLine)) :
    (letterLines none paragraphs).findIdx? LetterLine.signature = none := by
  rw [List.findIdx?_eq_none_iff]
  intro line member
  exact inLetter_text paragraphs line member

theorem paragraphsOf_cons (face : Face) (text : Text) : ∃ first rest, paragraphsOf face text = first :: rest :=
  List.exists_cons_of_ne_nil (List.splitOn_ne_nil _ _)

variable {maxLines : Option Nat}

/-- Where the band of a letter's signature starts among its lines. -/
def LetterContent.band (content : LetterContent Art) (signature : Signature) : Nat :=
  bandAfter signature (wrapParagraphs content.stationery.face content.text none).paragraphs

theorem whole_banded {signature : Signature} (signed : content.signature = some signature) :
    Banded content.whole.lines (content.band signature) := by
  obtain ⟨first, rest, same⟩ := paragraphsOf_cons content.stationery.face content.text
  unfold LetterContent.whole LetterContent.band prepareLetter
  rw [whole_paragraphs, signed, same]
  exact letterLines_banded (linesOf_ne_nil _ _)

theorem whole_plain (unsigned : content.signature = none) :
    content.whole.lines.findIdx? LetterLine.signature = none := by
  unfold LetterContent.whole prepareLetter
  rw [unsigned]
  exact letterLines_plain _

theorem lines_wholeBand (content : LetterContent Art) : WholeBand content.whole.lines := by
  intro band found
  cases signed : content.signature with
  | none =>
    rw [whole_plain signed] at found
    cases found
  | some signature =>
    have banded := whole_banded signed
    rw [banded.found] at found
    cases found
    exact banded.within

theorem lines_some (content : LetterContent Art) : 0 < content.whole.lines.length := by
  obtain ⟨first, rest, same⟩ := paragraphsOf_cons content.stationery.face content.text
  have lines := List.length_pos_iff.mpr (linesOf_ne_nil content.stationery.face first)
  unfold LetterContent.whole prepareLetter letterLines
  rw [whole_paragraphs]
  simp only [same, List.map_cons, List.flatten_cons]
  cases content.signature with
  | none =>
    simp only [List.length_map, List.length_append]
    omega
  | some signature =>
    simp only [withBand, List.length_append, List.length_replicate, SIGNATURE_LINES]
    omega

/-! The room of each page. -/

theorem pageTop_least (content : LetterContent Art) (maxLines : Option Nat) (index : Nat) :
    72 ≤ (prepareLetter content maxLines).pageTop index ∧ (prepareLetter content maxLines).pageTop index ≤ 453.6 := by
  have bounds := textTop_bounds content
  rw [BODY_TOP_eq] at bounds
  unfold PreparedLetter.pageTop
  split
  · exact ⟨by show (72 : ℚ) ≤ content.textTop; linarith, bounds.2⟩
  · rw [CONTINUATION_TOP_eq]
    norm_num

theorem room_least (content : LetterContent Art) (maxLines : Option Nat) (index : Nat) :
    13 ≤ (prepareLetter content maxLines).galley.room index := by
  have top := (pageTop_least content maxLines index).2
  refine (le_linesBetween (by decide)).mpr ?_
  rw [BODY_BOTTOM_eq]
  norm_num [LINE_PITCH, hair]
  linarith

/-- The lines a page has room for end inside its body. -/
theorem room_exact (content : LetterContent Art) (maxLines : Option Nat) {index : Nat}
    (within : count ≤ (prepareLetter content maxLines).galley.room index) :
    (prepareLetter content maxLines).pageTop index + count * LINE_PITCH ≤ BODY_BOTTOM := by
  have top := (pageTop_least content maxLines index).2
  rcases Nat.eq_zero_or_pos count with rfl | some
  · rw [BODY_BOTTOM_eq]
    norm_num
    linarith
  · have fits := (le_linesBetween some).mp within
    unfold PreparedLetter.pageTop at fits ⊢
    split at fits
    · rw [if_pos ‹_›]
      exact textTop_exact fits
    · rw [if_neg ‹_›]
      rw [CONTINUATION_TOP_eq, BODY_BOTTOM_eq] at fits ⊢
      have few : count ≤ 33 := by
        by_contra many
        have many : (34 : ℚ) ≤ count := by exact_mod_cast (by omega : 34 ≤ count)
        norm_num [LINE_PITCH, hair] at fits
        linarith
      have few : (count : ℚ) ≤ 33 := by exact_mod_cast few
      simp only [LINE_PITCH]
      linarith

theorem galley_fills (content : LetterContent Art) (maxLines : Option Nat) :
    (prepareLetter content maxLines).galley.Fills where
  room index := (by decide : 0 < 13).trans_le (room_least content maxLines index)
  some start count some_ := by
    show 0 < keepSignatureWithClosing _ start count
    rcases keep_cases (prepareLetter content maxLines).lines start count with ⟨same, -⟩ | ⟨closing, -, same, past, -⟩
    · rw [same]
      exact some_
    · rw [same]
      omega
  atMost start count := by
    show keepSignatureWithClosing _ start count ≤ count
    rcases keep_cases (prepareLetter content maxLines).lines start count with ⟨same, -⟩ | ⟨closing, -, same, past, few, -⟩
    · rw [same]
    · rw [same]
      omega

end

end LetterIRL.Layout
