import LetterIRL.Content.Letters

namespace LetterIRL.Content
open Lib.Json Commerce

/-! Drafts of one content version are mailed alike. -/

/-- Two drafts that agree in all their version hashes: an empty column of a nullable text or picture may be null. -/
structure Alike (a b : DraftRow) : Prop where
  mailType : a.mailType = b.mailType
  sender : a.sender = b.sender
  recipient : a.recipient = b.recipient
  bodyText : a.bodyText = b.bodyText
  signOff : filled a.signOff = filled b.signOff
  pages : a.pages = b.pages
  layoutType : a.layoutType = b.layoutType
  stationery : filledValue a.stationery = filledValue b.stationery
  picture : ∀ picture, filled (a.picture picture) = filled (b.picture picture)
  postcardSize : a.postcardSize = b.postcardSize
  postcardFront : filledValue a.postcardFront = filledValue b.postcardFront
  mailService : a.mailService = b.mailService
  arriveBy : day a.arriveBy = day b.arriveBy
  mailOn : day a.mailOn = day b.mailOn
  isGiftSend : a.isGiftSend = b.isGiftSend
  rendererVersion : a.rendererVersion = b.rendererVersion

theorem filled_getD {a b : Option Text} (same : a.getD [] = b.getD []) : filled a = filled b := by
  cases a <;> cases b <;> simp_all [filled, Option.filter]

theorem filledValue_getD {a b : Option Value} (same : a.getD .null = b.getD .null) :
    filledValue a = filledValue b := by
  have null : filledValue (some .null) = filledValue none := rfl
  cases a with
  | none =>
    cases b with
    | none => rfl
    | some value => rw [← null, show Value.null = value from same]
  | some value =>
    cases b with
    | none => rw [← null, show value = Value.null from same]
    | some value' => rw [show value = value' from same]

theorem pictureHash_filled (sha256Hex : Text → Text) (data : Option Text) :
    pictureHash sha256Hex data = (filled data).map sha256Hex := by
  match data with
  | none => rfl
  | some [] => rfl
  | some (c :: data) => rfl

theorem pictureHash_inj {sha256Hex : Text → Text} (hashes : Function.Injective sha256Hex) {a b : Option Text}
    (same : pictureHash sha256Hex a = pictureHash sha256Hex b) : filled a = filled b := by
  rw [pictureHash_filled, pictureHash_filled] at same
  exact Option.map_injective hashes same

theorem textOrNull_injective : Function.Injective textOrNull := by
  intro a b same
  cases a <;> cases b <;> simp_all [textOrNull]

theorem mailType_text_injective : Function.Injective MailType.text := by
  intro a b same
  cases a <;> cases b <;> first | rfl | exact absurd same (by decide)

theorem versionFields_read (sha256Hex : Text → Text) (draft : DraftRow) (reading : Reading) :
    versionFields sha256Hex (draft.read sha256Hex reading) = versionFields sha256Hex draft.selectAll := by
  cases reading <;> rfl

theorem contentVersionOf_read (sha256Hex versionHash : Text → Text) (draft : DraftRow) (reading : Reading) :
    contentVersionOf sha256Hex versionHash (draft.read sha256Hex reading) =
      contentVersionOf sha256Hex versionHash draft.selectAll := by
  rw [contentVersionOf, contentVersionOf, versionFields_read]

theorem alike_of_version {sha256Hex versionHash : Text → Text} (hashes : Function.Injective sha256Hex)
    (versions : Function.Injective versionHash) {a b : DraftRow}
    (same : contentVersionOf sha256Hex versionHash a.selectAll = contentVersionOf sha256Hex versionHash b.selectAll) :
    Alike a b := by
  have fields : versionFields sha256Hex a.selectAll = versionFields sha256Hex b.selectAll :=
    Value.array.inj (stringify_injective (versions same))
  simp only [versionFields, List.cons.injEq, Value.string.injEq, Value.number.injEq, Value.bool.injEq] at fields
  obtain ⟨mailType, sender, recipient, bodyText, signOff, pages, layoutType, stationery, signature, header, inline,
    front, postcardSize, postcardFront, mailService, arriveBy, mailOn, isGiftSend, rendererVersion, _⟩ := fields
  have picture : ∀ picture, filled (a.picture picture) = filled (b.picture picture) := by
    intro picture
    cases picture with
    | signatureImage => exact pictureHash_inj hashes (textOrNull_injective signature)
    | headerImageData => exact pictureHash_inj hashes (textOrNull_injective header)
    | inlineImageData => exact pictureHash_inj hashes (textOrNull_injective inline)
    | frontImageData => exact pictureHash_inj hashes (textOrNull_injective front)
  exact {
    mailType := mailType_text_injective mailType
    sender := sender
    recipient := recipient
    bodyText := bodyText
    signOff := filled_getD signOff
    pages := Numeral.ofNat_injective pages
    layoutType := Option.some.inj (textOrNull_injective layoutType)
    stationery := filledValue_getD stationery
    picture := picture
    postcardSize := textOrNull_injective postcardSize
    postcardFront := filledValue_getD postcardFront
    mailService := mailService
    arriveBy := textOrNull_injective arriveBy
    mailOn := textOrNull_injective mailOn
    isGiftSend := by simpa [DraftRow.selectAll] using isGiftSend
    rendererVersion := textOrNull_injective rendererVersion }

/-! What alike drafts print. -/

theorem letterPrintText_filled (bodyText : Text) {signOff signOff' : Option Text}
    (same : filled signOff = filled signOff') : letterPrintText bodyText signOff = letterPrintText bodyText signOff' := by
  unfold letterPrintText
  rw [same]

theorem signatureParagraph_filled (bodyText : Text) {signOff signOff' : Option Text}
    (same : filled signOff = filled signOff') :
    signatureParagraph bodyText signOff = signatureParagraph bodyText signOff' := by
  unfold signatureParagraph
  rw [letterPrintText_filled bodyText same]

theorem front_eq {a b : DraftRow} (alike : Alike a b) (postcard : a.mailType = .postcard) :
    a.picture .frontImageData = b.picture .frontImageData := by
  have there := a.postcardRequiresImage postcard
  have there' := b.postcardRequiresImage (alike.mailType ▸ postcard)
  obtain ⟨data, is⟩ := Option.ne_none_iff_exists'.mp there
  obtain ⟨data', is'⟩ := Option.ne_none_iff_exists'.mp there'
  have same := alike.picture .frontImageData
  rw [is, is'] at same ⊢
  by_cases empty : data = [] <;> by_cases empty' : data' = [] <;> simp_all [filled, Option.filter]

theorem image_congr {a b : LetterParams} (layoutType : a.layoutType = b.layoutType)
    (header : filled a.headerImageData = filled b.headerImageData)
    (inline : filled a.inlineImageData = filled b.inlineImageData) : a.image = b.image := by
  unfold LetterParams.image
  rw [layoutType, header, inline]

theorem Alike.letter_print {a b : DraftRow} (alike : Alike a b) (toUpperCase : Text → Text) (letter : LetterRow) :
    (letterParams toUpperCase letter (buildLetterContent a)).map LetterParams.print =
      (letterParams toUpperCase letter (buildLetterContent b)).map LetterParams.print := by
  have header := alike.picture .headerImageData
  have inline := alike.picture .inlineImageData
  have signature := alike.picture .signatureImage
  unfold letterParams
  simp only [buildLetterContent, alike.sender, bind, Except.bind]
  cases property letter.recipient "name" with
  | error thrown => rfl
  | ok recipientName =>
    cases addressOf toUpperCase letter.recipient with
    | error thrown => rfl
    | ok recipientAddress =>
      cases senderAddressOf toUpperCase b.sender with
      | error thrown => rfl
      | ok senderAddress =>
        simp only [Except.map, pure, Except.pure, LetterParams.print, Except.ok.injEq]
        congr 1
        · rw [alike.bodyText, letterPrintText_filled _ alike.signOff]
        · rw [alike.layoutType, header, inline]
        · rw [alike.pages]
        · rw [alike.layoutType]
        · exact image_congr (by dsimp only; rw [alike.layoutType]) header inline
        · rw [alike.rendererVersion]
        · exact alike.stationery
        · rw [signature, alike.bodyText, signatureParagraph_filled _ alike.signOff]

theorem Alike.buildPostcardContent {a b : DraftRow} (alike : Alike a b) (postcard : a.mailType = .postcard) :
    { Content.buildPostcardContent a with frontImageUrl := none } =
      { Content.buildPostcardContent b with frontImageUrl := none } := by
  simp only [Content.buildPostcardContent, alike.bodyText, alike.sender, front_eq alike postcard, alike.postcardSize,
    alike.rendererVersion, alike.postcardFront]

theorem Alike.postcard_params {a b : DraftRow} (alike : Alike a b) (postcard : a.mailType = .postcard)
    (toUpperCase : Text → Text) (letter : LetterRow) :
    postcardParams toUpperCase letter (Content.buildPostcardContent a) =
      postcardParams toUpperCase letter (Content.buildPostcardContent b) := by
  have same := congrArg (postcardParams toUpperCase letter) (alike.buildPostcardContent postcard)
  exact same

/-- A letter prints by its content, gift card, recipient and service. -/
theorem print_congr {toUpperCase : Text → Text} {letter letter' : LetterRow} (content : letter.content = letter'.content)
    (giftCard : letter.giftCard = letter'.giftCard) (recipient : letter.recipient = letter'.recipient)
    (mailService : letter.mailService = letter'.mailService) :
    letter.print toUpperCase = letter'.print toUpperCase := by
  simp only [LetterRow.print, letterParams, postcardParams, content, giftCard, recipient, mailService]

theorem Alike.letter_mailService {a b : DraftRow} (alike : Alike a b) (send : Send) (schedule : Option DraftSchedule) :
    (letterOf send schedule a).mailService = (letterOf send schedule b).mailService := by
  simp only [letterOf, alike.mailType, alike.mailService]

theorem map_print (read : Except TypeError LetterParams) :
    read.map (fun params => Print.letter params.print) = (read.map LetterParams.print).map Print.letter := by
  cases read <;> rfl

theorem Alike.print {a b : DraftRow} (alike : Alike a b) (toUpperCase : Text → Text) (send : Send)
    (schedule : Option DraftSchedule) :
    (letterOf send schedule a).print toUpperCase = (letterOf send schedule b).print toUpperCase := by
  let shared : LetterRow := { letterOf send schedule b with content := (letterOf send schedule a).content }
  have carried : (letterOf send schedule a).print toUpperCase = shared.print toUpperCase :=
    print_congr rfl (by simp only [shared, letterOf, alike.isGiftSend]) alike.recipient
      (alike.letter_mailService send schedule)
  rw [carried]
  cases type : a.mailType with
  | letter =>
    have type' : b.mailType = .letter := alike.mailType ▸ type
    have drawn : shared.print toUpperCase =
        (letterParams toUpperCase (letterOf send schedule b) (buildLetterContent a)).map
          fun params => .letter params.print := by
      simp only [LetterRow.print, letterParams, shared, letterOf, type]
    have drawn' : (letterOf send schedule b).print toUpperCase =
        (letterParams toUpperCase (letterOf send schedule b) (buildLetterContent b)).map
          fun params => .letter params.print := by
      simp only [LetterRow.print, letterOf, type']
    rw [drawn, drawn', map_print, map_print, alike.letter_print]
  | postcard =>
    have type' : b.mailType = .postcard := alike.mailType ▸ type
    have drawn : shared.print toUpperCase =
        (postcardParams toUpperCase (letterOf send schedule b) (Content.buildPostcardContent a)).map .postcard := by
      simp only [LetterRow.print, postcardParams, shared, letterOf, type]
    have drawn' : (letterOf send schedule b).print toUpperCase =
        (postcardParams toUpperCase (letterOf send schedule b) (Content.buildPostcardContent b)).map .postcard := by
      simp only [LetterRow.print, letterOf, type']
    rw [drawn, drawn', alike.postcard_params type]

/-! Dates: one that parses has ten characters, so its day is itself. -/

theorem parseCalendarDate_eq {value date : Text} (parsed : parseCalendarDate value = some date) :
    date = value ∧ value.length = 10 := by
  unfold parseCalendarDate at parsed
  split at parsed
  · dsimp only at parsed
    split at parsed
    · cases parsed
      exact ⟨rfl, rfl⟩
    · cases parsed
  · cases parsed

theorem calendarDateColumn_day {value : Option Text} {date : Text} (read : calendarDateColumn value = .ok date) :
    value ≠ none ∧ day value = some date := by
  unfold calendarDateColumn at read
  split at read
  · rename_i parsed
    cases read
    obtain ⟨value, is, parsed⟩ := Option.bind_eq_some_iff.mp parsed
    obtain ⟨same, length⟩ := parseCalendarDate_eq parsed
    subst is same
    refine ⟨nofun, ?_⟩
    match date, length with
    | c :: rest, length =>
      have whole : (c :: rest).take 10 = c :: rest := List.take_of_length_le (by omega)
      exact congrArg some whole
  · cases read

/-- The dates a draft's version holds. -/
theorem draftScheduleOf_day {draft : DraftRow} {schedule : Option DraftSchedule}
    (read : draftScheduleOf draft = .ok schedule) :
    day draft.arriveBy = schedule.map DraftSchedule.arriveBy ∧ day draft.mailOn = schedule.map DraftSchedule.mailOn := by
  unfold draftScheduleOf at read
  split at read
  · rename_i absent
    cases read
    rw [absent.1, absent.2]
    exact ⟨rfl, rfl⟩
  · cases arrives : calendarDateColumn draft.arriveBy with
    | error refusal =>
      rw [arrives] at read
      cases read
    | ok arriveBy =>
      cases mails : calendarDateColumn draft.mailOn with
      | error refusal =>
        rw [arrives, mails] at read
        cases read
      | ok mailOn =>
        rw [arrives, mails] at read
        cases read
        exact ⟨(calendarDateColumn_day arrives).2, (calendarDateColumn_day mails).2⟩

theorem Alike.draftSchedule {a b : DraftRow} (alike : Alike a b) {schedule schedule' : Option DraftSchedule}
    (read : draftScheduleOf a = .ok schedule) (read' : draftScheduleOf b = .ok schedule') : schedule = schedule' := by
  obtain ⟨arriveBy, mailOn⟩ := draftScheduleOf_day read
  obtain ⟨arriveBy', mailOn'⟩ := draftScheduleOf_day read'
  rw [alike.arriveBy, arriveBy'] at arriveBy
  rw [alike.mailOn, mailOn'] at mailOn
  match schedule, schedule' with
  | none, none => rfl
  | some schedule, none => cases arriveBy
  | none, some schedule' => cases arriveBy
  | some schedule, some schedule' =>
    have arriveBy_eq : schedule'.arriveBy = schedule.arriveBy := Option.some.inj arriveBy
    have mailOn_eq : schedule'.mailOn = schedule.mailOn := Option.some.inj mailOn
    cases schedule
    cases schedule'
    cases arriveBy_eq
    cases mailOn_eq
    rfl

theorem sendSchedule_read {send : Send} {draft : DraftRow} {schedule : Option DraftSchedule}
    (sent : sendSchedule send draft = .ok schedule) :
    ∃ read, draftScheduleOf draft = .ok read ∧
      schedule = read.filter fun schedule => decide (send.earliest ≤ schedule.mailOn) := by
  unfold sendSchedule at sent
  split at sent
  · cases sent
  · rename_i read
    cases sent
    exact ⟨none, read, rfl⟩
  · rename_i dates read
    refine ⟨some dates, read, ?_⟩
    split at sent
    · rename_i ahead
      cases sent
      simp only [Option.filter_some, ahead, decide_true, if_true]
    · rename_i passed
      split at sent
      · cases sent
        simp only [Option.filter_some, passed, decide_false, Bool.false_eq_true, if_false]
      · cases sent

theorem Alike.sendSchedule {a b : DraftRow} (alike : Alike a b) {send : Send} {schedule schedule' : Option DraftSchedule}
    (sent : Content.sendSchedule send a = .ok schedule) (sent' : Content.sendSchedule send b = .ok schedule') :
    schedule = schedule' := by
  obtain ⟨read, dates, is⟩ := sendSchedule_read sent
  obtain ⟨read', dates', is'⟩ := sendSchedule_read sent'
  rw [is, is', alike.draftSchedule dates dates']

theorem createMailOrder_ok {sha256Hex versionHash : Text → Text} {send : Send} {draft : DraftRow} {letter : LetterRow}
    (sent : createMailOrder sha256Hex versionHash send draft = .ok letter) :
    (send.funding = .prepaidBalance →
      contentVersionMatches sha256Hex versionHash send.contentVersion draft.selectAll ≠ .differs) ∧
    sendSchedule send draft = .ok letter.schedule ∧ letter = letterOf send letter.schedule draft := by
  unfold createMailOrder at sent
  split at sent
  · cases sent
  · rename_i unchanged
    split at sent
    · cases sent
    · rename_i schedule dates
      cases sent
      exact ⟨fun prepaid differs => unchanged ⟨prepaid, differs⟩, dates, rfl⟩

/-- Drafts of one version, however it was read, print alike, to one recipient, by one service and on one pair of dates;
so a send that names a version its draft has is mailed as the draft it was read from. -/
theorem mails_what_was_shown {sha256Hex versionHash : Text → Text} (hashes : Function.Injective sha256Hex)
    (versions : Function.Injective versionHash) (toUpperCase : Text → Text) :
    (∀ a b reading reading',
      contentVersionOf sha256Hex versionHash (DraftRow.read sha256Hex a reading) =
        contentVersionOf sha256Hex versionHash (DraftRow.read sha256Hex b reading') →
      ∀ send schedule,
        (letterOf send schedule a).print toUpperCase = (letterOf send schedule b).print toUpperCase ∧
        (letterOf send schedule a).recipient = (letterOf send schedule b).recipient ∧
        (letterOf send schedule a).mailService = (letterOf send schedule b).mailService ∧
        ∀ dates dates', sendSchedule send a = .ok dates → sendSchedule send b = .ok dates' → dates = dates') ∧
    ∀ shown reading send locked letter text,
      send.contentVersion = some (.string text) → trim text ≠ [] →
      trim text = contentVersionOf sha256Hex versionHash (DraftRow.read sha256Hex shown reading) →
      send.funding = .prepaidBalance → createMailOrder sha256Hex versionHash send locked = .ok letter →
        letter.print toUpperCase = (letterOf send letter.schedule shown).print toUpperCase ∧
        letter.recipient = shown.recipient ∧
        letter.mailService = (letterOf send letter.schedule shown).mailService ∧
        ∀ dates, sendSchedule send shown = .ok dates → letter.schedule = dates := by
  have same : ∀ a b reading reading',
      contentVersionOf sha256Hex versionHash (DraftRow.read sha256Hex a reading) =
        contentVersionOf sha256Hex versionHash (DraftRow.read sha256Hex b reading') → Alike a b := by
    intro a b reading reading' version
    rw [contentVersionOf_read, contentVersionOf_read] at version
    exact alike_of_version hashes versions version
  constructor
  · intro a b reading reading' version send schedule
    have alike := same a b reading reading' version
    exact ⟨alike.print toUpperCase send schedule, alike.recipient, alike.letter_mailService send schedule,
      fun dates dates' sent sent' => alike.sendSchedule sent sent'⟩
  · intro shown reading send locked letter text named given version prepaid sent
    obtain ⟨passed, dates, built⟩ := createMailOrder_ok sent
    have current : trim text = contentVersionOf sha256Hex versionHash locked.selectAll := by
      by_contra stale
      apply passed prepaid
      simp only [contentVersionMatches, named, given, stale, if_false]
    have alike : Alike locked shown := same locked shown .all reading (current ▸ version)
    have recipient : letter.recipient = shown.recipient := by
      rw [built]
      exact alike.recipient
    refine ⟨?_, recipient, ?_, fun dates' sent' => alike.sendSchedule dates sent'⟩
    · rw [built]
      exact alike.print toUpperCase send letter.schedule
    · rw [built]
      exact alike.letter_mailService send letter.schedule

/-- A letter of text, with the header picture an edit left behind. -/
def textLetter (header : Option Text) : DraftRow where
  mailType := .letter
  sender := .object [("name".toList, .string "Ada".toList)]
  recipient := .object [("name".toList, .string "Grace".toList), ("country".toList, .string "USA".toList)]
  bodyText := "Hello".toList
  signOff := some "Ada".toList
  pages := 1
  layoutType := "text_only".toList
  stationery := none
  picture := fun picture => if picture = .headerImageData then header else none
  headerImageUrl := none
  inlineImageUrl := none
  frontImageUrl := none
  postcardSize := none
  postcardFront := none
  mailService := "standard".toList
  arriveBy := some "2026-03-09".toList
  mailOn := some "2026-03-02".toList
  isGiftSend := false
  rendererVersion := none
  postcardRequiresImage := nofun

def prepaidSend (version : Text) : Send where
  funding := .prepaidBalance
  earliest := "2026-03-01".toList
  card := .null
  contentVersion := some (.string version)

def shownVersion : Text := contentVersionOf id id (DraftRow.read id (textLetter none) .versionColumns)

set_option maxRecDepth 8000 in
/-- A version read by columns, of a draft whose emptied picture was null when shown. -/
theorem mails_text_letter :
    ∃ letter, createMailOrder id id (prepaidSend shownVersion) (textLetter (some [])) = .ok letter ∧
      letter.print id = (letterOf (prepaidSend shownVersion) letter.schedule (textLetter none)).print id ∧
      letter.recipient = (textLetter none).recipient := by
  have unchanged : ¬((prepaidSend shownVersion).funding = .prepaidBalance ∧
      contentVersionMatches id id (prepaidSend shownVersion).contentVersion (textLetter (some [])).selectAll =
        .differs) := by decide +kernel
  have dates : sendSchedule (prepaidSend shownVersion) (textLetter (some [])) =
      .ok (some { arriveBy := "2026-03-09".toList, mailOn := "2026-03-02".toList }) := rfl
  obtain ⟨letter, sent⟩ : ∃ letter,
      createMailOrder id id (prepaidSend shownVersion) (textLetter (some [])) = .ok letter :=
    ⟨_, by rw [createMailOrder, if_neg unchanged, dates]⟩
  have shown := (mails_what_was_shown Function.injective_id Function.injective_id id).2 (textLetter none)
    .versionColumns (prepaidSend shownVersion) (textLetter (some [])) letter shownVersion rfl (by decide) (by decide)
    rfl sent
  exact ⟨letter, sent, shown.1, shown.2.1⟩

end LetterIRL.Content
