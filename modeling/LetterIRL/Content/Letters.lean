import LetterIRL.Content.Drafts
import Mathlib.Data.Char
import Mathlib.Data.List.Lex

namespace LetterIRL.Content
open Lib.Json Commerce

/-! The letter a send writes from a draft, and what the print hands the provider for it. -/

/-- A value JavaScript counts as true, of a nullable column. -/
def filled (text : Option Text) : Option Text := text.filter (· ≠ [])

/-- `text || fallback`. -/
def textOr (text fallback : Text) : Text := if text = [] then fallback else text

def filledValue (value : Option Value) : Option Value := value.filter Value.truthy

/-! Schedules. -/

structure DraftSchedule where
  arriveBy : Text
  mailOn : Text
  deriving DecidableEq

inductive SendRefusal
  | draftChangedSinceShown
  | notACalendarDate
  | schedulePassed
  deriving DecidableEq

def daysInMonth (year month : Nat) : Nat :=
  if month = 2 then if year % 4 = 0 ∧ (year % 100 ≠ 0 ∨ year % 400 = 0) then 29 else 28
  else if month = 4 ∨ month = 6 ∨ month = 9 ∨ month = 11 then 30 else 31

def number (digits : Text) : Nat := Nat.ofDigitChars 10 digits 0

/-- `parseCalendarDate`: a real date written 'YYYY-MM-DD'. -/
def parseCalendarDate (value : Text) : Option Text :=
  match value with
  | [y1, y2, y3, y4, '-', m1, m2, '-', d1, d2] =>
    let year := number [y1, y2, y3, y4]
    let month := number [m1, m2]
    let day := number [d1, d2]
    if [y1, y2, y3, y4, m1, m2, d1, d2].all Char.isDigit ∧ 1 ≤ month ∧ month ≤ 12 ∧ 1 ≤ day ∧
        day ≤ daysInMonth year month then some value
    else none
  | _ => none

def calendarDateColumn (value : Option Text) : Except SendRefusal Text :=
  match value.bind parseCalendarDate with
  | some date => .ok date
  | none => .error .notACalendarDate

def draftScheduleOf (draft : DraftRow) : Except SendRefusal (Option DraftSchedule) :=
  if draft.arriveBy = none ∧ draft.mailOn = none then .ok none
  else do
    let arriveBy ← calendarDateColumn draft.arriveBy
    let mailOn ← calendarDateColumn draft.mailOn
    return some { arriveBy := arriveBy, mailOn := mailOn }

inductive MailFunding
  | prepaidBalance
  | jitOrder
  deriving DecidableEq

/-- What a send decides apart from its draft: `earliest` is `earliestMailOn` of its time, `card` the gift letter's card
it would mint, and `contentVersion` the version it names. -/
structure Send where
  funding : MailFunding
  earliest : Text
  card : Value
  contentVersion : Option Value

/-- `sendSchedule`; a missed date goes as soon as it can, as one without dates does. -/
def sendSchedule (send : Send) (draft : DraftRow) : Except SendRefusal (Option DraftSchedule) :=
  match draftScheduleOf draft with
  | .error refusal => .error refusal
  | .ok none => .ok none
  | .ok (some schedule) =>
    if send.earliest ≤ schedule.mailOn then .ok (some schedule)
    else
      match send.funding with
      | .jitOrder => .ok none
      | .prepaidBalance => .error .schedulePassed

/-! The letter's row. -/

structure LetterContent where
  bodyText : Text
  signOff : Option Text
  sender : Value
  layoutType : Text
  headerImageData : Option Text
  headerImageUrl : Option Text
  inlineImageData : Option Text
  inlineImageUrl : Option Text
  rendererVersion : Option Text
  stationery : Option Value
  pages : Option Nat
  signatureImage : Option Text

def buildLetterContent (draft : DraftRow) : LetterContent where
  bodyText := draft.bodyText
  signOff := draft.signOff
  sender := draft.sender
  layoutType := textOr draft.layoutType "text_only".toList
  headerImageData := draft.picture .headerImageData
  headerImageUrl := draft.headerImageUrl
  inlineImageData := draft.picture .inlineImageData
  inlineImageUrl := draft.inlineImageUrl
  rendererVersion := filled draft.rendererVersion
  stationery := filledValue draft.stationery
  pages := if 1 < draft.pages then some draft.pages else none
  signatureImage := filled (draft.picture .signatureImage)

structure PostcardContent where
  message : Text
  sender : Value
  frontImageData : Option Text
  frontImageUrl : Option Text
  postcardSize : Text
  rendererVersion : Option Text
  postcardFront : Option Value

def buildPostcardContent (draft : DraftRow) : PostcardContent where
  message := draft.bodyText
  sender := draft.sender
  frontImageData := draft.picture .frontImageData
  frontImageUrl := draft.frontImageUrl
  postcardSize := (filled draft.postcardSize).getD "6x9".toList
  rendererVersion := filled draft.rendererVersion
  postcardFront := filledValue draft.postcardFront

inductive MailContent
  | letter (content : LetterContent)
  | postcard (content : PostcardContent)

/-- A `letters` row, as the print reads it; `giftCard` is the key of that name in its content. -/
structure LetterRow where
  content : MailContent
  giftCard : Option Value
  recipient : Value
  schedule : Option DraftSchedule
  mailService : Text

/-- The letter the send inserts, with the gift card it then writes into its content. -/
def letterOf (send : Send) (schedule : Option DraftSchedule) (draft : DraftRow) : LetterRow where
  content :=
    match draft.mailType with
    | .letter => .letter (buildLetterContent draft)
    | .postcard => .postcard (buildPostcardContent draft)
  giftCard := if send.funding ≠ .jitOrder ∧ draft.isGiftSend then some send.card else none
  recipient := draft.recipient
  schedule := schedule
  mailService := if draft.mailType = .letter then draft.mailService else "standard".toList

/-- `createMailOrderFromDraftWithClient`, of the draft it has locked: the version, the dates and the letter. -/
def createMailOrder (sha256Hex versionHash : Text → Text) (send : Send) (draft : DraftRow) :
    Except SendRefusal LetterRow :=
  if send.funding = .prepaidBalance ∧
      contentVersionMatches sha256Hex versionHash send.contentVersion draft.selectAll = .differs then
    .error .draftChangedSinceShown
  else
    match sendSchedule send draft with
    | .error refusal => .error refusal
    | .ok schedule => .ok (letterOf send schedule draft)

/-! What the print hands the provider. -/

/-- What a property of `null`, or a method of what is not a text, throws. -/
structure TypeError where
  deriving DecidableEq

def property (value : Value) (name : String) : Except TypeError (Option Value) :=
  match value with
  | .null => .error {}
  | .object members => .ok (members.lookup name.toList)
  | _ => .ok none

/-- `value || fallback`. -/
def valueOr (value : Option Value) (fallback : Text) : Value := (filledValue value).getD (.string fallback)

section Print

-- JavaScript's `toUpperCase`.
variable (toUpperCase : Text → Text)

def normalizeCountryToUS (country : Option Value) : Except TypeError Text :=
  match filledValue country with
  | none => .ok "US".toList
  | some (.string text) =>
    let normalized := trim (toUpperCase text)
    if (["US", "USA", "UNITED STATES", "U.S.", "U.S.A."].map String.toList).contains normalized then .ok "US".toList
    else .ok normalized
  | some _ => .error {}

structure Address where
  line1 : Value
  line2 : Option Value
  city : Value
  state : Value
  postalCode : Value
  country : Text

def addressOf (value : Value) : Except TypeError Address := do
  let line1 ← property value "addressLine1"
  let line2 ← property value "addressLine2"
  let city ← property value "city"
  let state ← property value "state"
  let postalCode ← property value "postalCode"
  let country ← property value "country"
  let country ← normalizeCountryToUS toUpperCase country
  return {
    line1 := valueOr line1 []
    line2 := line2
    city := valueOr city []
    state := valueOr state []
    postalCode := valueOr postalCode []
    country := country }

/-- `content.sender ? … : undefined`. -/
def senderAddressOf (sender : Value) : Except TypeError (Option Address) :=
  if sender.truthy then (addressOf toUpperCase sender).map some else .ok none

/-- `content.sender?.name`. -/
def senderNameOf (sender : Value) : Option Value := (property sender "name").toOption.join

/-- Each line break as `\n`. -/
def unix : Text → Text
  | '\r' :: '\n' :: rest => '\n' :: unix rest
  | '\r' :: rest => '\n' :: unix rest
  | c :: rest => c :: unix rest
  | [] => []

def letterPrintText (bodyText : Text) (signOff : Option Text) : Text :=
  let body := trimEnd (unix bodyText)
  match filled signOff with
  | none => trim body
  | some signOff => trim (body ++ '\n' :: unix signOff)

/-- The paragraph that holds the sign-off's first line. -/
def signatureParagraph (bodyText : Text) (signOff : Option Text) : Nat :=
  let body := letterPrintText bodyText none
  let paragraphs := (letterPrintText bodyText signOff).splitOn '\n'
  let index := if body = [] then 0 else (body.splitOn '\n').length
  index + ((paragraphs.drop index).takeWhile fun paragraph => trim paragraph == []).length

structure Signature where
  image : Text
  closingParagraph : Nat
  deriving DecidableEq

/-- `letterParams`, but for the keys that name the letter and its job. -/
structure LetterParams where
  recipientName : Option Value
  recipientAddress : Address
  senderName : Value
  senderAddress : Option Address
  message : Text
  color : Bool
  pages : Option Nat
  doubleSided : Bool
  layoutType : Text
  headerImageData : Option Text
  inlineImageData : Option Text
  giftCard : Option Value
  rendererVersion : Option Text
  stationery : Option Value
  signature : Option Signature
  extraService : Option Text

def mailServiceOf (value : Text) : Option Text :=
  if value = [] ∨ value = "standard".toList then none else some value

def letterParams (letter : LetterRow) (content : LetterContent) : Except TypeError LetterParams := do
  let recipientName ← property letter.recipient "name"
  let recipientAddress ← addressOf toUpperCase letter.recipient
  let senderAddress ← senderAddressOf toUpperCase content.sender
  return {
    recipientName := recipientName
    recipientAddress := recipientAddress
    senderName := valueOr (senderNameOf content.sender) "Letter IRL".toList
    senderAddress := senderAddress
    message := letterPrintText content.bodyText content.signOff
    color := content.layoutType != "text_only".toList &&
      ((filled content.headerImageData).isSome || (filled content.inlineImageData).isSome)
    pages := content.pages
    doubleSided := 1 < content.pages.getD 1
    layoutType := textOr content.layoutType "text_only".toList
    headerImageData := content.headerImageData
    inlineImageData := content.inlineImageData
    giftCard := letter.giftCard
    rendererVersion := content.rendererVersion
    stationery := content.stationery
    signature := (filled content.signatureImage).map fun image =>
      { image := image, closingParagraph := signatureParagraph content.bodyText content.signOff }
    extraService := mailServiceOf letter.mailService }

/-- `postcardParams`, likewise. -/
structure PostcardParams where
  recipientName : Option Value
  recipientAddress : Address
  senderName : Option Value
  senderAddress : Option Address
  frontImageBase64 : Option Text
  backMessage : Text
  size : Text
  giftCard : Option Value
  rendererVersion : Option Text
  front : Option Value

def postcardParams (letter : LetterRow) (content : PostcardContent) : Except TypeError PostcardParams := do
  let recipientName ← property letter.recipient "name"
  let recipientAddress ← addressOf toUpperCase letter.recipient
  let senderAddress ← senderAddressOf toUpperCase content.sender
  return {
    recipientName := recipientName
    recipientAddress := recipientAddress
    senderName := senderNameOf content.sender
    senderAddress := senderAddress
    frontImageBase64 := content.frontImageData
    backMessage := content.message
    size := textOr content.postcardSize "6x9".toList
    giftCard := letter.giftCard
    rendererVersion := content.rendererVersion
    front := content.postcardFront }

/-- A letter as the provider draws and addresses it: the picture is the layout's own, and an empty one is none, for the
legacy HTML (`generateHTML`) as for the renderer (`letterPrintLayout`). -/
structure LetterPrint where
  recipientName : Option Value
  recipientAddress : Address
  senderName : Value
  senderAddress : Option Address
  message : Text
  color : Bool
  pages : Nat
  layoutType : Text
  image : Option Text
  giftCard : Option Value
  rendererVersion : Option Text
  stationery : Option Value
  signature : Option Signature
  extraService : Option Text

def LetterParams.image (params : LetterParams) : Option Text :=
  if params.layoutType = "header_image".toList then filled params.headerImageData
  else if params.layoutType = "inline_image".toList then filled params.inlineImageData
  else none

def LetterParams.print (params : LetterParams) : LetterPrint where
  recipientName := params.recipientName
  recipientAddress := params.recipientAddress
  senderName := params.senderName
  senderAddress := params.senderAddress
  message := params.message
  color := params.color
  pages := params.pages.getD 1
  layoutType := params.layoutType
  image := params.image
  giftCard := params.giftCard
  rendererVersion := params.rendererVersion
  stationery := params.stationery
  signature := params.signature
  extraService := params.extraService

inductive Print
  | letter (print : LetterPrint)
  | postcard (params : PostcardParams)

/-- What the provider prints of a letter's row; an exception leaves nothing submitted. -/
def LetterRow.print (letter : LetterRow) : Except TypeError Print :=
  match letter.content with
  | .letter content => (letterParams toUpperCase letter content).map fun params => .letter params.print
  | .postcard content => (postcardParams toUpperCase letter content).map .postcard

end Print

end LetterIRL.Content
