import LetterIRL.Layout.Signed

namespace LetterIRL.Layout
open Lib

/-! The budget of lines: what it leaves of a letter that fits, and of one that does not. -/

section
variable {Art : Type} {content : LetterContent Art} {letter : PreparedLetter Art} {budget maxPages : Nat}

/-- How many lines the last page has room for, with the enclosed image under them. -/
def PreparedLetter.lastRoom (letter : PreparedLetter Art) (maxPages : Nat) : Nat :=
  linesBetween (letter.pageTop (maxPages - 1)) (BODY_BOTTOM - letter.reserved)

/-- An enclosed image that leaves lines over has no page left for it. -/
theorem placeImage_past {box : Box} {placed : List PreparedLetter.Placed} {runs : Nat}
    (past : 0 < (PreparedLetter.placeImage box maxPages placed runs).overflowLines) :
    (runs = 0 → maxPages ≤ placed.length) ∧ (PreparedLetter.placeImage box maxPages placed runs).overflowLines =
      (placed.getLast?.getD { top := 0, lines := [] }).lines.length -
        linesBetween (placed.getLast?.getD { top := 0, lines := [] }).top (BODY_BOTTOM - (IMAGE_GAP + box.height)) := by
  unfold PreparedLetter.placeImage at past ⊢
  simp only at past ⊢
  split at past
  · rename_i under
    exact absurd past (by rw [under.1]; exact lt_irrefl 0)
  · rename_i notUnder
    rw [if_neg notUnder]
    split at past
    · rename_i apart
      exact absurd past (by rw [apart.1]; exact lt_irrefl 0)
    · rename_i full
      rw [if_neg full]
      exact ⟨fun zero => not_lt.mp fun few => full ⟨zero, few⟩, rfl⟩

/-- A letter over its pages has begun the last, and is over by the lines that page has no room for. -/
theorem flow_past (pages : 0 < maxPages) (past : 0 < (letter.flow maxPages).overflowLines) :
    ∃ last, letter.galley.Begun maxPages 0 0 last ∧
      (letter.flow maxPages).overflowLines = letter.lines.length - last - letter.lastRoom maxPages := by
  rcases letter.galley.begun_or_short maxPages 0 0 pages with ⟨last, begun⟩ | ⟨short, fits⟩
  · refine ⟨last, begun, ?_⟩
    obtain ⟨length, ends, runs⟩ := begun.lays
    cases inline_ : letter.inlineBox with
    | none =>
      have reserved : letter.reserved = 0 := by
        unfold PreparedLetter.reserved
        rw [inline_]
        rfl
      rw [flow_plain letter maxPages inline_]
      unfold PreparedLetter.lastRoom
      rw [reserved, sub_zero]
      rw [Nat.zero_add] at runs
      exact runs
    | some box =>
      have reserved : letter.reserved = IMAGE_GAP + box.height := by
        unfold PreparedLetter.reserved
        rw [inline_]
        rfl
      obtain ⟨front, split⟩ := List.getLast?_eq_some_iff.mp ends
      have count : front.length = maxPages - 1 := by
        rw [split, List.length_append, List.length_singleton] at length
        omega
      have lines : ((letter.lines.drop last).take (letter.lines.length - last)).length = letter.lines.length - last := by
        rw [List.length_take, List.length_drop]
        omega
      rw [flow_image letter maxPages inline_] at past ⊢
      rw [(placeImage_past past).2, split, PreparedLetter.placedOf_concat, List.getLast?_concat, Option.getD_some, count]
      unfold PreparedLetter.lastRoom
      rw [reserved]
      exact congrArg (· - _) lines
  · exfalso
    cases inline_ : letter.inlineBox with
    | none =>
      rw [flow_plain letter maxPages inline_] at past
      have none_ : 0 < (letter.galley.lay maxPages 0 0).2 := past
      omega
    | some box =>
      rw [flow_image letter maxPages inline_] at past
      have full := (placeImage_past past).1 fits
      have count : (letter.placedOf (letter.galley.lay maxPages 0 0).1).length = (letter.galley.lay maxPages 0 0).1.length :=
        List.length_mapIdx
      omega

/-! A letter cut off by its budget. -/

/-- What a letter cut off by its budget keeps of its lines: fewer, the same ones but at its end, and a band under its
closing or after all the rest. -/
structure Cut (kept whole : List LetterLine) : Prop where
  shorter : kept.length < whole.length
  same : ∀ i, i + SIGNATURE_LINES < kept.length → kept[i]? = whole[i]?
  band : ∀ band, kept.findIdx? LetterLine.signature = some band →
    band + SIGNATURE_LINES = kept.length ∨ band + SIGNATURE_LINES ≤ kept.length ∧
      whole.findIdx? LetterLine.signature = some band

theorem prepareLetter_cut (past : ¬content.Within budget) :
    Cut (prepareLetter content (some budget)).lines content.whole.lines := by
  obtain ⟨-, cutOff, fewer⟩ := wrapFrom_past past
  have kept : (wrapParagraphs content.stationery.face content.text (some budget)).paragraphs =
      (wrapFrom content.stationery.face (some budget) 0 (paragraphsOf content.stationery.face content.text)).paragraphs := rfl
  unfold LetterContent.whole prepareLetter
  simp only [whole_paragraphs, kept]
  generalize (wrapFrom content.stationery.face (some budget) 0
    (paragraphsOf content.stationery.face content.text)).paragraphs = cut at cutOff fewer
  generalize (paragraphsOf content.stationery.face content.text).map (linesOf content.stationery.face) = full
    at cutOff fewer
  obtain ⟨more, joined⟩ := cutOff.flatten_prefix
  have lines : full.flatten.map WrappedLine.inLetter =
      cut.flatten.map WrappedLine.inLetter ++ more.map WrappedLine.inLetter := by
    rw [← joined, List.map_append]
  cases content.signature with
  | none =>
    unfold letterLines
    simp only
    refine ⟨by rw [List.length_map, List.length_map]; exact fewer, fun i less => ?_, fun band found => ?_⟩
    · rw [lines, List.getElem?_append_left (by omega)]
    · have plain := letterLines_plain cut
      unfold letterLines at plain
      simp only at plain
      rw [plain] at found
      cases found
  | some signature =>
    have after : bandAfter signature cut = min (bandAfter signature full) cut.flatten.length := cutOff.take_length _
    have inCut := bandAfter_le signature cut
    have inFull := bandAfter_le signature full
    unfold letterLines
    simp only
    rw [lines] at inFull ⊢
    generalize bandAfter signature cut = early at after inCut
    generalize bandAfter signature full = late at after inFull
    refine ⟨?_, fun i less => ?_, fun band found => ?_⟩
    · rw [withBand_length inCut, withBand_length inFull, ← lines, List.length_map, List.length_map]
      exact Nat.add_lt_add_right fewer _
    · rw [withBand_length inCut, List.length_map] at less
      rw [withBand_get inCut, withBand_get inFull]
      have same : ∀ j < cut.flatten.length, (cut.flatten.map WrappedLine.inLetter)[j]? =
          (cut.flatten.map WrappedLine.inLetter ++ more.map WrappedLine.inLetter)[j]? := fun j inside => by
        rw [List.getElem?_append_left (by rwa [List.length_map])]
      -- Either the two bands are under the same line, or the shorter letter ends with its own.
      by_cases sooner : i < early
      · rw [if_pos sooner, if_pos (by omega)]
        exact same i (by omega)
      · have both : early = late := by omega
        rw [both] at sooner ⊢
        rw [if_neg sooner, if_neg sooner]
        split
        · rfl
        · exact same _ (by omega)
    · have text := inLetter_text cut
      rw [withBand_found inCut text] at found
      cases found
      rw [withBand_length inCut, List.length_map]
      by_cases last : early = cut.flatten.length
      · exact .inl (by rw [last])
      · have both : early = late := by omega
        refine .inr ⟨by omega, ?_⟩
        have text := inLetter_text full
        rw [lines] at text
        rw [both]
        exact withBand_found inFull text

/-! A letter cut off by its budget is over its pages by no more lines than the whole of it. -/

theorem lastRoom_least (content : LetterContent Art) (maxLines : Option Nat) (more : 1 < maxPages) :
    SIGNATURE_LINES + 1 ≤ (prepareLetter content maxLines).lastRoom maxPages := by
  refine (le_linesBetween (by decide)).mpr ?_
  unfold PreparedLetter.pageTop
  rw [if_neg (by omega), CONTINUATION_TOP_eq, BODY_BOTTOM_eq]
  have reserved : (prepareLetter content maxLines).reserved ≤ 252 := by
    unfold PreparedLetter.reserved
    have same : (prepareLetter content maxLines).inlineBox = content.inlineBox := rfl
    rw [same]
    cases inline_ : content.inlineBox with
    | none => norm_num
    | some box =>
      obtain ⟨-, image, -, rfl⟩ := inlineBox_some inline_
      obtain ⟨-, -, -, atMost⟩ := fitImage_bounds image INLINE_IMAGE_MAX_HEIGHT
        (by norm_num [INLINE_IMAGE_MAX_HEIGHT_eq])
      have tallest := atMost.trans_eq INLINE_IMAGE_MAX_HEIGHT_eq
      show IMAGE_GAP + _ ≤ _
      rw [IMAGE_GAP_eq]
      linarith
  norm_num [LINE_PITCH, hair, SIGNATURE_LINES]
  linarith

theorem begun_unique {g : Galley LetterLine} {left index next last other : Nat} (begun : g.Begun left index next last)
    (again : g.Begun left index next other) : last = other := by
  have ends := begun.lays.2.1
  rw [again.lays.2.1] at ends
  cases ends
  rfl

/-- No page of the whole letter reaches further than that of the letter cut off, from no later a line. -/
theorem fill_earlier {cut whole : PreparedLetter Art} (same : Cut cut.lines whole.lines)
    (room : ∀ index, whole.galley.room index = cut.galley.room index) (fills : whole.galley.Fills) {last : Nat}
    (before : last + SIGNATURE_LINES + 1 < cut.lines.length) (index start earlier : Nat) (ordered : earlier ≤ start)
    (stops : start + cut.galley.fill index start ≤ last) :
    earlier + whole.galley.fill index earlier ≤ start + cut.galley.fill index start := by
  have lines : SIGNATURE_LINES = 3 := rfl
  have filled : whole.galley.fill index earlier ≤ cut.galley.room index := by
    have atMost := fills.atMost earlier (min (whole.galley.room index) (whole.lines.length - earlier))
    have count : whole.galley.fill index earlier = whole.galley.keep earlier
      (min (whole.galley.room index) (whole.lines.length - earlier)) := rfl
    rw [room] at atMost count
    omega
  have count : cut.galley.fill index start =
    keepSignatureWithClosing cut.lines start (min (cut.galley.room index) (cut.lines.length - start)) := rfl
  rcases keep_cases cut.lines start (min (cut.galley.room index) (cut.lines.length - start)) with
    ⟨all, -⟩ | ⟨closing, found, held, past, inside, parted⟩
  · -- The page is full, and the other letter's holds no more.
    omega
  · -- The page stops before a closing, whose band the other letter has too.
    rcases same.band _ found with ends | ⟨within, foundToo⟩
    · omega
    · have countToo : whole.galley.fill index earlier = keepSignatureWithClosing whole.lines earlier
        (min (whole.galley.room index) (whole.lines.length - earlier)) := rfl
      rcases keep_cases whole.lines earlier (min (whole.galley.room index) (whole.lines.length - earlier)) with
        ⟨all, together⟩ | ⟨other, foundOther, heldToo, -⟩
      · have apart := together closing foundToo
        have same := room index
        omega
      · rw [foundToo] at foundOther
        cases foundOther
        omega

theorem flow_cut (past : ¬content.Within budget) (more : 1 < maxPages)
    (full : 0 < (content.whole.flow maxPages).overflowLines) :
    ((prepareLetter content (some budget)).flow maxPages).overflowLines ≤
      (content.whole.flow maxPages).overflowLines := by
  rcases Nat.eq_zero_or_pos ((prepareLetter content (some budget)).flow maxPages).overflowLines with none_ | over_
  · omega
  · have same := prepareLetter_cut past
    obtain ⟨last, begun, lines⟩ := flow_past (by omega) over_
    obtain ⟨first, begins, wholeLines⟩ := flow_past (by omega) full
    have room := lastRoom_least content (some budget) more
    have shared : content.whole.lastRoom maxPages = (prepareLetter content (some budget)).lastRoom maxPages := rfl
    have shorter := same.shorter
    have kept : ∀ i (inList : i < (prepareLetter content (some budget)).lines.length)
        (inOther : i < content.whole.lines.length), i ≤ last →
        (prepareLetter content (some budget)).galley.dropped (prepareLetter content (some budget)).lines[i] = false →
        content.whole.galley.dropped content.whole.lines[i] = false := fun i inList inOther atMost shown => by
      have line := same.same i (by omega)
      rw [List.getElem?_eq_getElem inList, List.getElem?_eq_getElem inOther, Option.some.injEq] at line
      rw [← line]
      exact shown
    obtain ⟨other, earlier, again⟩ := Galley.Begun.earlier (h := content.whole.galley) begun
      (show last < content.whole.lines.length by omega) kept
      (fill_earlier same (fun _ => rfl) (galley_fills content none) (by omega)) le_rfl
    have agree := begun_unique begins again
    omega

/-- A letter cut off by its budget, that overflows without it: no more of it does. -/
theorem layoutWithin_cut (past : ¬content.Within budget) (pages : 0 < maxPages)
    (full : 0 < (layoutWithin content none maxPages).overflowLines) :
    (layoutWithin content (some budget) maxPages).overflowLines ≤ (layoutWithin content none maxPages).overflowLines := by
  have truncated := prepareLetter_past past
  have shorter := (prepareLetter_cut past).shorter
  have single : (prepareLetter content (some budget)).layoutOnePage.overflowLines ≤
      content.whole.layoutOnePage.overflowLines := Nat.sub_le_sub_right shorter.le _
  unfold layoutWithin at full ⊢
  simp only [truncated, whole_untruncated, if_true, Bool.false_eq_true, if_false] at full ⊢
  by_cases one : maxPages = 1
  · simp only [one, true_or, if_true] at full ⊢
    exact max_le full single
  · by_cases fits : content.whole.layoutOnePage.overflowLines = 0
    · simp only [fits, or_true, if_true, lt_irrefl] at full
    · simp only [one, fits, or_self, if_false] at full ⊢
      by_cases held : (prepareLetter content (some budget)).layoutOnePage.overflowLines = 0
      · simp only [held, or_true, if_true]
        omega
      · simp only [held, or_self, if_false]
        have flows := flow_cut past (by omega) full
        exact max_le full flows

theorem unbudgeted_whole (content : LetterContent Art) (maxPages : Nat) :
    (layoutWithin content none maxPages).truncated = false := by
  unfold layoutWithin
  simp only [whole_untruncated, Bool.false_eq_true, if_false]
  split
  · rfl
  · rfl

/-- A budget of lines is sound for a letter: one that fits is left as it is, and one marked truncated is over its pages
without the budget too, by no fewer lines. -/
structure BudgetSound (unbudgeted budgeted : LetterLayout Art) : Prop where
  whole : unbudgeted.overflowLines = 0 → budgeted.truncated = false ∧ budgeted = unbudgeted
  least : budgeted.truncated = true →
    0 < unbudgeted.overflowLines ∧ budgeted.overflowLines ≤ unbudgeted.overflowLines

/-- The budget is sound for every letter over its pages without it, and of those that fit, for the ones whose
paragraphs keep to it, the lines that draw nothing included. -/
theorem layoutLetter_budget {layout : LetterLayout Art} (laid : layoutLetter content maxPages = some layout) :
    BudgetSound (layoutWithin content none maxPages) layout ↔
      0 < (layoutWithin content none maxPages).overflowLines ∨ content.Within (LINE_BUDGET_PER_PAGE * maxPages) := by
  unfold layoutLetter at laid
  split at laid
  · cases laid
  · rename_i inRange
    cases laid
    constructor
    · intro sound
      rcases Nat.eq_zero_or_pos (layoutWithin content none maxPages).overflowLines with fits | full
      · exact .inr (within_of_untruncated (sound.whole fits).1)
      · exact .inl full
    · intro kept
      by_cases within : content.Within (LINE_BUDGET_PER_PAGE * maxPages)
      · have same : layoutWithin content (some (LINE_BUDGET_PER_PAGE * maxPages)) maxPages =
          layoutWithin content none maxPages := layoutWithin_within within
        have whole := unbudgeted_whole content maxPages
        refine ⟨fun _ => ⟨by rw [same, whole], same⟩, fun truncated => ?_⟩
        rw [same, whole] at truncated
        cases truncated
      · have full := kept.resolve_right within
        exact ⟨fun fits => absurd full (by omega), fun _ => ⟨full, layoutWithin_cut within (by omega) full⟩⟩

end

theorem signedNote_budget : ∃ layout, layoutLetter signedNote 2 = some layout ∧
    BudgetSound (layoutWithin signedNote none 2) layout := by
  have fits : (layoutWithin signedNote (some (LINE_BUDGET_PER_PAGE * 2)) 2).overflowLines = 0 := by decide +kernel
  exact ⟨_, rfl, (layoutLetter_budget rfl).mpr (.inr (within_of_fits fits))⟩

/-! A letter that fits, cut off: each of its first lines is a character that prints nothing, and the spaces that hang
after it. -/

/-- Where plain words break: after the spaces between two of them, and at the end. -/
def wordBreaks (text : Text) : List Nat :=
  (List.range' 1 text.length).filter fun index =>
    decide (index = text.length) || (text[index - 1]? == some 32 && text[index]? != some 32)

/-- A face whose every character is 6.6 pt wide, seventy to a line. -/
def typewriterFace : Face :=
  { plainFace Wrapping.unitClusters (33 / 5) with
    breaks := wordBreaks
    increasing := fun text => (List.pairwise_lt_range' (s := 1) (n := text.length)).sublist List.filter_sublist
    last := fun text some_ => by
      have length := List.length_pos_iff.mpr some_
      obtain ⟨before, same⟩ : ∃ n, text.length = n + 1 := ⟨text.length - 1, by omega⟩
      unfold wordBreaks
      rw [same, List.range'_concat, List.filter_append, List.filter_singleton]
      simp [Nat.add_comm] }

/-- A function application and 71 spaces, so many times over, and a letter. -/
def hangingUnit (runs index : Nat) : Nat := if index = 72 * runs then 65 else if index % 72 = 0 then 0x2061 else 32

def hangingText (runs : Nat) : Text := (List.range (72 * runs + 1)).map (hangingUnit runs)

section
variable {runs k later index limit : Nat}

theorem hanging_at (inText : index < 72 * runs + 1) : (hangingText runs)[index]? = some (hangingUnit runs index) := by
  unfold hangingText
  rw [List.getElem?_map, List.getElem?_range inText]
  rfl

theorem hanging_length (runs : Nat) : (hangingText runs).length = 72 * runs + 1 := by
  unfold hangingText
  rw [List.length_map, List.length_range]

theorem hanging_mem {unit : Nat} (member : unit ∈ hangingText runs) : unit = 65 ∨ unit = 0x2061 ∨ unit = 32 := by
  obtain ⟨index, -, rfl⟩ := List.mem_map.mp member
  unfold hangingUnit
  split
  · exact .inl rfl
  · split
    · exact .inr (.inl rfl)
    · exact .inr (.inr rfl)

theorem hanging_space (inText : index < 72 * runs + 1) :
    spaceAt (hangingText runs) index ↔ index ≠ 72 * runs ∧ index % 72 ≠ 0 := by
  unfold spaceAt
  rw [hanging_at inText, Option.any_some]
  unfold hangingUnit
  split
  · rename_i last
    exact iff_of_false (by decide) fun space => space.1 last
  · rename_i before
    split
    · rename_i turns
      exact iff_of_false (by decide) fun space => space.2 turns
    · rename_i inside
      exact iff_of_true (by decide) ⟨before, inside⟩

theorem normalizeBreaks_same {text : Text} (plain : 13 ∉ text) : normalizeBreaks text = text := by
  induction text with
  | nil => rfl
  | cons first rest ih =>
    have differs : first ≠ 13 := fun same => plain (same ▸ List.mem_cons_self)
    have later := ih fun member => plain (List.mem_cons_of_mem _ member)
    cases rest with
    | nil =>
      unfold normalizeBreaks
      rw [if_neg differs]
    | cons second rest =>
      unfold normalizeBreaks
      rw [if_neg differs, later]

theorem expandTabs_same {text : Text} (plain : 9 ∉ text) : expandTabs text = text := by
  induction text with
  | nil => rfl
  | cons first rest ih =>
    have differs : first ≠ 9 := fun same => plain (same ▸ List.mem_cons_self)
    have later := ih fun member => plain (List.mem_cons_of_mem _ member)
    unfold expandTabs at later ⊢
    rw [List.flatMap_cons, later, if_neg differs]
    rfl

theorem hanging_paragraphs (runs : Nat) : paragraphsOf typewriterFace (hangingText runs) = [hangingText runs] := by
  have without : ∀ unit, unit ≠ 65 → unit ≠ 0x2061 → unit ≠ 32 → unit ∉ hangingText runs := by
    intro unit first second third member
    rcases hanging_mem member with same | same | same
    · exact first same
    · exact second same
    · exact third same
  have unmarked : typewriterFace.clampMarks (hangingText runs) = hangingText runs := by
    unfold Face.clampMarks
    rw [if_neg]
    simp [typewriterFace, plainFace]
  unfold paragraphsOf
  rw [unmarked, normalizeBreaks_same (without 13 (by decide) (by decide) (by decide)),
    expandTabs_same (without 9 (by decide) (by decide) (by decide))]
  exact List.splitOn_eq_singleton (without 10 (by decide) (by decide) (by decide))

/-- Where each of its lines ends with its spaces. -/
def hangingStop (runs k : Nat) : Nat := min (72 * (k + 1)) (72 * runs + 1)

theorem hanging_break : index ∈ wordBreaks (hangingText runs) ↔ ∃ k < runs + 1, hangingStop runs k = index := by
  unfold wordBreaks hangingStop
  rw [List.mem_filter, List.mem_range'_1, hanging_length]
  simp only [Bool.or_eq_true, decide_eq_true_eq, Bool.and_eq_true, beq_iff_eq, bne_iff_ne]
  constructor
  · rintro ⟨⟨first, inText⟩, last | ⟨space, word⟩⟩
    · exact ⟨runs, by omega, by omega⟩
    · by_cases last : index = 72 * runs + 1
      · exact ⟨runs, by omega, by omega⟩
      · rw [hanging_at (by omega), Option.some.injEq] at space
        rw [hanging_at (by omega), ne_eq, Option.some.injEq] at word
        unfold hangingUnit at space word
        have turns : index % 72 = 0 := by
          by_contra inside
          rw [if_neg inside] at word
          split at word
          · omega
          · exact word rfl
        exact ⟨index / 72 - 1, by omega, by omega⟩
  · rintro ⟨k, inRange, rfl⟩
    refine ⟨by omega, ?_⟩
    by_cases last : k = runs
    · exact .inl (by omega)
    · have stop : min (72 * (k + 1)) (72 * runs + 1) = 72 * (k + 1) := by omega
      rw [stop]
      refine .inr ⟨?_, ?_⟩
      · rw [hanging_at (by omega)]
        unfold hangingUnit
        rw [if_neg (by omega), if_neg (by omega)]
      · rw [hanging_at (by omega)]
        unfold hangingUnit
        split
        · decide
        · rw [if_pos (by omega)]
          decide

theorem hanging_breaks (runs : Nat) : wordBreaks (hangingText runs) = (List.range (runs + 1)).map (hangingStop runs) := by
  refine (typewriterFace.increasing (hangingText runs)).eq_of_mem_iff ?_ fun index => ?_
  · refine List.pairwise_map.mpr (List.pairwise_lt_range.imp_of_mem fun early late before => ?_)
    have later := List.mem_range.mp late
    unfold hangingStop
    omega
  · refine hanging_break.trans ?_
    simp only [List.mem_map, List.mem_range]

/-- The letter's one paragraph, as it is wrapped. -/
def hangingMeasure (runs : Nat) : Wrapping ℚ := typewriterFace.paragraphMeasure (hangingText runs)

theorem hanging_breakAt (inRange : index < runs + 1) : (hangingMeasure runs).breakAt index = hangingStop runs index := by
  show ((wordBreaks (hangingText runs))[index]?).getD _ = _
  rw [hanging_breaks, List.getElem?_map, List.getElem?_range inRange]
  rfl

theorem hanging_visual (runs start stop : Nat) :
    typewriterFace.visual (hangingText runs) start stop = withoutInvisible (slice (hangingText runs) start stop) := by
  have plain : (hangingText runs).any (inRanges rightToLeft) = false := by
    rw [List.any_eq_false]
    intro unit member
    rcases hanging_mem member with rfl | rfl | rfl
    · decide
    · decide
    · decide
  unfold Face.visual Face.inFace ParagraphBidi.lineVisual ParagraphBidi.resolved
  simp only [plain, Bool.not_false, if_true]
  exact List.map_id _

theorem limitFrom_le (face : Face) (width total : ℚ) (index : Nat) (rest : List Text) :
    index ≤ face.limitFrom width total index rest := by
  induction rest generalizing total index with
  | nil => exact le_rfl
  | cons character rest ih =>
    unfold Face.limitFrom
    simp only
    generalize (if (!isInvisible (codePointOf character) && !face.isMark (codePointOf character)) = true then
      total + face.advanceOf (codePointOf character) else total) = sum
    split
    · exact Nat.le_add_right _ _
    · exact (Nat.le_add_right _ _).trans (ih _ _)

theorem characters_cons {text : Text} (some_ : text ≠ []) :
    ∃ character rest, characters text = character :: rest ∧ 0 < character.length := by
  unfold characters
  split
  · exact absurd rfl some_
  · exact ⟨_, _, rfl, Nat.one_pos⟩
  · split
    · exact ⟨_, _, rfl, Nat.two_pos⟩
    · exact ⟨_, _, rfl, Nat.one_pos⟩

theorem lt_limitFrom (face : Face) (width total : ℚ) (index : Nat) {text : Text} (some_ : text ≠ []) :
    index < face.limitFrom width total index (characters text) := by
  obtain ⟨character, rest, same, long⟩ := characters_cons some_
  rw [same]
  unfold Face.limitFrom
  simp only
  generalize (if (!isInvisible (codePointOf character) && !face.isMark (codePointOf character)) = true then
    total + face.advanceOf (codePointOf character) else total) = sum
  split
  · omega
  · have least := limitFrom_le face width sum (index + character.length) rest
    omega

theorem hanging_limit {start : Nat} (inText : start < 72 * runs + 1) : start < (hangingMeasure runs).fitLimit start := by
  refine lt_limitFrom typewriterFace CONTENT_WIDTH 0 start fun none_ => ?_
  have length := congrArg List.length none_
  unfold Face.inFace at length
  rw [List.length_drop, List.length_map, hanging_length, List.length_nil] at length
  omega

theorem hanging_trimmed (inRange : k < runs + 1) :
    trimmedEnd (hangingText runs) (72 * k) (hangingStop runs k) = 72 * k + 1 := by
  have stop : hangingStop runs k ≤ 72 * (k + 1) ∧ 72 * k < hangingStop runs k ∧ hangingStop runs k ≤ 72 * runs + 1 := by
    unfold hangingStop
    omega
  have atMost := trimmedEnd_le (hangingText runs) (72 * k) (hangingStop runs k)
  have past : 72 * k < trimmedEnd (hangingText runs) (72 * k) (hangingStop runs k) := by
    by_contra early
    have space := spaceAt_of_trimmed (hangingText runs) (72 * k) (hangingStop runs k) (72 * k) (by omega) (by omega)
    rw [hanging_space (by omega)] at space
    omega
  by_contra differs
  have solid := solid_trimmedEnd (hangingText runs) past
  rw [hanging_space (by omega)] at solid
  omega

theorem hanging_fits (inRange : k < runs + 1) (room : 72 * k < limit) :
    (hangingMeasure runs).fits (72 * k) (hangingStop runs k) limit = true := by
  unfold Wrapping.fits
  have trimmed : trimmedEnd (hangingMeasure runs).paragraph (72 * k) (hangingStop runs k) = 72 * k + 1 :=
    hanging_trimmed inRange
  have measure : (hangingMeasure runs).measure (72 * k) (72 * k + 1) ≤ (hangingMeasure runs).width := by
    show typewriterFace.advanceWidth (typewriterFace.visual (hangingText runs) (72 * k) (72 * k + 1)) ≤ CONTENT_WIDTH
    rw [hanging_visual, CONTENT_WIDTH_eq]
    show (33 / 5 : ℚ) * _ ≤ 468
    have short : (withoutInvisible (slice (hangingText runs) (72 * k) (72 * k + 1))).length ≤ 1 := by
      unfold withoutInvisible slice
      refine (List.length_filter_le _ _).trans ?_
      rw [List.length_take]
      omega
    have short : ((withoutInvisible (slice (hangingText runs) (72 * k) (72 * k + 1))).length : ℚ) ≤ 1 := by
      exact_mod_cast short
    linarith
  simp only [trimmed, Bool.and_eq_true, decide_eq_true_eq]
  exact ⟨room, measure⟩

/-- A run's spaces, with what follows them, are wider than a line. -/
theorem hanging_wide (before : k < runs) {stop : Nat} (past : 72 * (k + 1) ≤ stop) :
    71 ≤ (withoutInvisible (slice (hangingText runs) (72 * k) stop)).length := by
  have spaces : ((slice (hangingText runs) (72 * k) stop).drop 1).take 71 = List.replicate 71 32 := by
    refine List.ext_getElem? fun i => ?_
    by_cases inRun : i < 71
    · unfold slice
      rw [List.getElem?_take_of_lt inRun, List.getElem?_drop, List.getElem?_take_of_lt (by omega), List.getElem?_drop,
        hanging_at (by omega), List.getElem?_replicate_of_lt inRun]
      unfold hangingUnit
      rw [if_neg (by omega), if_neg (by omega)]
    · rw [List.getElem?_eq_none (by rw [List.length_take]; omega),
        List.getElem?_eq_none (by rw [List.length_replicate]; omega)]
  have shown : (List.replicate 71 32).filter (fun unit => !isInvisible unit) = List.replicate 71 32 := by decide
  have inside := ((List.take_sublist 71 _).trans (List.drop_sublist 1 (slice (hangingText runs) (72 * k) stop))).filter
    fun unit => !isInvisible unit
  rw [spaces, shown] at inside
  have least := inside.length_le
  rwa [List.length_replicate] at least

theorem hanging_unfit (before : k < later) (inRange : later < runs + 1) :
    (hangingMeasure runs).fits (72 * k) (hangingStop runs later) limit = false := by
  have stop : 72 * later < hangingStop runs later := by
    unfold hangingStop
    omega
  have same : (hangingMeasure runs).paragraph = hangingText runs := rfl
  have past : 72 * later < trimmedEnd (hangingText runs) (72 * k) (hangingStop runs later) := by
    by_contra early
    have space := spaceAt_of_trimmed (hangingText runs) (72 * k) (hangingStop runs later) (72 * later) (by omega) stop
    rw [hanging_space (by omega)] at space
    omega
  have wide : 71 ≤ (withoutInvisible (slice (hangingText runs) (72 * k)
    (trimmedEnd (hangingText runs) (72 * k) (hangingStop runs later)))).length := hanging_wide (by omega) (by omega)
  have measure : ¬(hangingMeasure runs).measure (72 * k)
      (trimmedEnd (hangingText runs) (72 * k) (hangingStop runs later)) ≤ (hangingMeasure runs).width := by
    show ¬typewriterFace.advanceWidth (typewriterFace.visual (hangingText runs) (72 * k) _) ≤ CONTENT_WIDTH
    rw [hanging_visual, CONTENT_WIDTH_eq]
    show ¬(33 / 5 : ℚ) * _ ≤ 468
    have wide : (71 : ℚ) ≤ (withoutInvisible (slice (hangingText runs) (72 * k)
      (trimmedEnd (hangingText runs) (72 * k) (hangingStop runs later)))).length := by exact_mod_cast wide
    linarith
  unfold Wrapping.fits
  simp only [same, measure, decide_false, Bool.and_false]

theorem hanging_firstUnfit (inRange : k < runs + 1) : (hangingMeasure runs).firstUnfit (72 * k) k = k + 1 := by
  have length : (hangingMeasure runs).breaks.length = runs + 1 := by
    show (wordBreaks (hangingText runs)).length = _
    rw [hanging_breaks, List.length_map, List.length_range]
  have limit : 72 * k < (hangingMeasure runs).fitLimit (72 * k) := hanging_limit (by omega)
  unfold Wrapping.firstUnfit
  rw [length]
  obtain ⟨above, below, before, after⟩ := searchFirst_spec
    (fun middle => (hangingMeasure runs).fits (72 * k) ((hangingMeasure runs).breakAt middle)
      ((hangingMeasure runs).fitLimit (72 * k))) (by omega : k ≤ runs + 1) (le_refl (runs + 1 - k))
  generalize searchFirst _ _ _ _ = first at above below before after ⊢
  by_cases same : first = k
  · rcases after with last | unfit
    · omega
    · rw [same, hanging_breakAt inRange, hanging_fits inRange limit] at unfit
      cases unfit
  · by_contra differs
    have fits := before.resolve_left same
    rw [hanging_breakAt (by omega), hanging_unfit (k := k) (by omega) (by omega)] at fits
    cases fits

theorem hanging_line (inRange : k < runs + 1) (lines : List LineRange) :
    (hangingMeasure runs).wrapLine { start := 72 * k, index := k, lines } =
      { start := hangingStop runs k, index := k + 1, lines := lines ++ [{ start := 72 * k, stop := 72 * k + 1 }] } := by
  have skip : (hangingMeasure runs).skip (72 * k) k = k := by
    have next : (hangingMeasure runs).breaks[k]? = some (hangingStop runs k) := by
      show (wordBreaks (hangingText runs))[k]? = _
      rw [hanging_breaks, List.getElem?_map, List.getElem?_range inRange]
      rfl
    obtain ⟨inList, at_⟩ := List.getElem?_eq_some_iff.mp next
    have past : ¬hangingStop runs k ≤ 72 * k := by
      unfold hangingStop
      omega
    unfold Wrapping.skip
    rw [List.drop_eq_getElem_cons inList, at_, List.takeWhile_cons_of_neg (by simpa using past)]
    rfl
  unfold Wrapping.wrapLine Wrapping.line Wrapping.push
  have same : (hangingMeasure runs).paragraph = hangingText runs := rfl
  simp only [skip, hanging_firstUnfit inRange, Nat.lt_add_one, if_true, Nat.add_sub_cancel, hanging_breakAt inRange,
    same, hanging_trimmed inRange]

theorem hanging_loop (runs left k : Nat) (lines : List LineRange) (all : k + left = runs + 1) {fuel : Nat} (enough : left < fuel) :
    (whileLoop ((hangingMeasure runs).done none) (hangingMeasure runs).wrapLine fuel
      { start := min (72 * k) (72 * runs + 1), index := k, lines }).lines =
        lines ++ (List.range' k left).map fun k => { start := 72 * k, stop := 72 * k + 1 } := by
  induction left generalizing k lines fuel with
  | zero =>
    have stopped : (hangingMeasure runs).done none { start := min (72 * k) (72 * runs + 1), index := k, lines } = true := by
      show (!(decide (min (72 * k) (72 * runs + 1) < (hangingText runs).length) && true)) = true
      rw [hanging_length, decide_eq_false (by omega)]
      rfl
    rw [whileLoop_stop stopped]
    simp
  | succ left ih =>
    obtain ⟨rest, rfl⟩ : ∃ rest, fuel = rest + 1 := ⟨fuel - 1, by omega⟩
    have here : min (72 * k) (72 * runs + 1) = 72 * k := by omega
    have going : (hangingMeasure runs).done none { start := 72 * k, index := k, lines } = false := by
      show (!(decide (72 * k < (hangingText runs).length) && true)) = false
      rw [hanging_length, decide_eq_true (by omega)]
      rfl
    rw [here, whileLoop_turn going, hanging_line (by omega)]
    refine (ih (k + 1) _ (by omega) (by omega)).trans ?_
    rw [List.append_assoc, List.range'_succ]
    rfl

theorem slice_one {text : Text} {unit : Nat} (found : text[index]? = some unit) : slice text index (index + 1) = [unit] := by
  obtain ⟨inText, same⟩ := List.getElem?_eq_some_iff.mp found
  unfold slice
  rw [Nat.add_sub_cancel_left, List.drop_eq_getElem_cons inText, same]
  rfl

theorem hanging_last (runs : Nat) : (hangingText runs)[72 * runs]? = some 65 := by
  rw [hanging_at (by omega)]
  unfold hangingUnit
  rw [if_pos rfl]

theorem hanging_shown (runs : Nat) : isBlank (hangingText runs) = false := by
  unfold isBlank
  rw [List.all_eq_false]
  exact ⟨65, List.mem_of_getElem? (hanging_last runs), by decide⟩

/-- Its lines, all but the last of which draw nothing. -/
theorem hanging_lines (runs : Nat) : linesOf typewriterFace (hangingText runs) =
    List.replicate runs { source := [0x2061], drawn := [] } ++ [{ source := [65], drawn := [65] }] := by
  have atLast := hanging_last runs
  have shown := hanging_shown runs
  have ranges : ((hangingMeasure runs).wrapLines none).lines =
      (List.range' 0 (runs + 1)).map fun k => { start := 72 * k, stop := 72 * k + 1 } := by
    have length := hanging_length runs
    have loop := hanging_loop runs (runs + 1) 0 [] (Nat.zero_add _)
      (show runs + 1 < (hangingText runs).length + 1 by omega)
    rw [Nat.mul_zero, Nat.zero_min, List.nil_append] at loop
    exact loop
  have first : ∀ k ∈ List.range' 0 runs, lineOf typewriterFace (hangingText runs) { start := 72 * k, stop := 72 * k + 1 } =
      { source := [0x2061], drawn := [] } := fun k member => by
    have before := (List.mem_range'_1.mp member).2
    have here : (hangingText runs)[72 * k]? = some 0x2061 := by
      rw [hanging_at (by omega)]
      unfold hangingUnit
      rw [if_neg (by omega), if_pos (by omega)]
    unfold lineOf
    rw [hanging_visual, slice_one here]
    rfl
  have last : lineOf typewriterFace (hangingText runs) { start := 72 * runs, stop := 72 * runs + 1 } =
      { source := [65], drawn := [65] } := by
    unfold lineOf
    rw [hanging_visual, slice_one atLast]
    rfl
  obtain ⟨-, same⟩ := Wrapping.lines_of_text (w := hangingMeasure runs) shown
  have all : (typewriterFace.paragraphMeasure (hangingText runs)).wrapParagraph none =
      (List.range' 0 (runs + 1)).map fun k => { start := 72 * k, stop := 72 * k + 1 } := same.trans ranges
  unfold linesOf
  rw [all, List.map_map, List.range'_1_concat, List.map_append, List.map_singleton, Nat.zero_add]
  congr 1
  · refine List.eq_replicate_iff.mpr ⟨by rw [List.length_map, List.length_range'], fun line member => ?_⟩
    obtain ⟨k, inRange, rfl⟩ := List.mem_map.mp member
    exact first k inRange
  · exact congrArg (fun line => [line]) last

def hangingLetter (runs : Nat) : LetterContent Unit where
  text := hangingText runs
  layoutType := .textOnly
  image := none
  stationery := plainStationery typewriterFace
  signature := none

/-- The letter with its whole text, as its pages are laid. -/
def hangingPrepared (runs : Nat) : PreparedLetter Unit where
  stationery := plainStationery typewriterFace
  firstPageItems := []
  textTop := BODY_TOP
  image := none
  inlineBox := none
  lines := List.map WrappedLine.inLetter
    (List.replicate runs { source := [0x2061], drawn := [] } ++ [{ source := [65], drawn := [65] }])
  signature := none
  truncated := false

theorem hangingLetter_whole (runs : Nat) : (hangingLetter runs).whole = hangingPrepared runs := by
  have top : (hangingLetter runs).textTop = BODY_TOP := add_zero _
  have wrapped := whole_paragraphs (hangingLetter runs)
  have paragraphs : (paragraphsOf (hangingLetter runs).stationery.face (hangingLetter runs).text).map
      (linesOf (hangingLetter runs).stationery.face) =
        [List.replicate runs { source := [0x2061], drawn := [] } ++ [{ source := [65], drawn := [65] }]] := by
    show (paragraphsOf typewriterFace (hangingText runs)).map (linesOf typewriterFace) = _
    rw [hanging_paragraphs, List.map_singleton, hanging_lines]
  unfold LetterContent.whole prepareLetter hangingPrepared
  rw [wrapped, paragraphs, top]
  unfold letterLines
  simp only [List.flatten_cons, List.flatten_nil, List.append_nil]
  rfl

theorem hangingLetter_past {budget : Nat} (few : budget < runs + 1) : ¬(hangingLetter runs).Within budget := by
  intro within
  have paragraphs : paragraphsOf (hangingLetter runs).stationery.face (hangingLetter runs).text = [hangingText runs] :=
    hanging_paragraphs runs
  unfold LetterContent.Within at within
  rw [paragraphs] at within
  have atMost : (linesOf typewriterFace (hangingText runs)).length ≤ budget := within.1 (hanging_shown runs)
  rw [hanging_lines, List.length_append, List.length_replicate, List.length_singleton] at atMost
  omega

/-- Its first page holds some of the lines that draw nothing, and the top of its second drops the rest. -/
theorem hangingLetter_fits (many : 13 ≤ runs) : (layoutWithin (hangingLetter runs) none 2).overflowLines = 0 := by
  have plain : (hangingLetter runs).whole.lines.findIdx? LetterLine.signature = none := whole_plain rfl
  have lines : (hangingLetter runs).whole.galley.lines.length = runs + 1 := by
    show (hangingLetter runs).whole.lines.length = runs + 1
    rw [hangingLetter_whole]
    unfold hangingPrepared
    rw [List.length_map, List.length_append, List.length_replicate, List.length_singleton]
  have blank : ∀ i (inList : i < (hangingLetter runs).whole.galley.lines.length), i < runs →
      (hangingLetter runs).whole.galley.dropped (hangingLetter runs).whole.galley.lines[i] = true := by
    intro i inList before
    have found : (hangingLetter runs).whole.lines[i]? = some (WrappedLine.inLetter { source := [0x2061], drawn := [] }) := by
      rw [hangingLetter_whole]
      unfold hangingPrepared
      rw [List.getElem?_map, List.getElem?_append_left (by rwa [List.length_replicate]),
        List.getElem?_replicate_of_lt before]
      rfl
    obtain ⟨_, same⟩ := List.getElem?_eq_some_iff.mp found
    exact (congrArg (hangingLetter runs).whole.galley.dropped same).trans rfl
  have room : ∀ index, 13 ≤ (hangingLetter runs).whole.galley.room index := room_least (hangingLetter runs) none
  have past : (hangingLetter runs).whole.galley.Laid 0 2 (runs + 1) [] := lines ▸ .done
  have second : (hangingLetter runs).whole.galley.Laid 1 1 13 [{ start := runs, stop := runs + 1 }] :=
    .page many (fun i inList _ before => ⟨Nat.one_pos, blank i inList before⟩) (Nat.le_succ _) (by omega)
      (by have next := room 1; omega) past
  have pages : (hangingLetter runs).whole.galley.Laid 2 0 0
      [{ start := 0, stop := 13 }, { start := runs, stop := runs + 1 }] :=
    .page le_rfl (fun i _ _ before => absurd before (Nat.not_lt_zero i)) (Nat.zero_le _) (by omega)
      (by have first := room 0; omega) second
  refine plain_fits rfl (Galley.lay_fits (fun _ => True) (fun start count stop _ reached => ?_) pages
    (fun _ _ => trivial) le_rfl)
  refine keep_reaches (fun closing found => ?_) reached
  rw [plain] at found
  cases found

theorem hangingLetter_cut (few : 132 < runs + 1) :
    ∃ layout, layoutLetter (hangingLetter runs) 2 = some layout ∧ layout.truncated = true := by
  have budget : LINE_BUDGET_PER_PAGE * 2 = 132 := by decide +kernel
  have past : ¬(hangingLetter runs).Within (LINE_BUDGET_PER_PAGE * 2) := hangingLetter_past (by omega)
  refine ⟨_, rfl, ?_⟩
  unfold layoutWithin
  simp only [prepareLetter_past past, if_true]

end

/-- A letter of 133 lines fits on two pages, the lines at the top of the second dropped, and is marked truncated. -/
theorem hangingLetter_truncated : (layoutWithin (hangingLetter 132) none 2).overflowLines = 0 ∧
    ∃ layout, layoutLetter (hangingLetter 132) 2 = some layout ∧ layout.truncated = true :=
  ⟨hangingLetter_fits (by decide), hangingLetter_cut (by decide)⟩

end LetterIRL.Layout
