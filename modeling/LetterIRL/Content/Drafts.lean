import LetterIRL.Commerce.Rows
import LetterIRL.Lib.Json

namespace LetterIRL.Content
open Lib.Json Commerce

/-! Drafts as stored, and the version of what they print. -/

abbrev Text := List Char

inductive Picture
  | signatureImage
  | headerImageData
  | inlineImageData
  | frontImageData
  deriving DecidableEq

/-- A `letter_drafts` row: the columns that decide what is mailed, and the pictures' source addresses. A `jsonb` holds
its keys in one order, and a `DATE` reads as text. -/
structure DraftRow where
  mailType : MailType
  sender : Value
  recipient : Value
  bodyText : Text
  signOff : Option Text
  pages : Nat
  layoutType : Text
  stationery : Option Value
  picture : Picture → Option Text
  headerImageUrl : Option Text
  inlineImageUrl : Option Text
  frontImageUrl : Option Text
  postcardSize : Option Text
  postcardFront : Option Value
  mailService : Text
  arriveBy : Option Text
  mailOn : Option Text
  isGiftSend : Bool
  rendererVersion : Option Text
  /-- The table's check of the same name. -/
  postcardRequiresImage : mailType = .postcard → picture .frontImageData ≠ none

/-- A query's row as the version reads it: the pictures as data, or as hashes. A column it does not select is
`undefined`, as `pictureHash picture` is outside `contentVersionColumns`. -/
structure ContentVersionRow where
  mailType : Option MailType
  sender : Option Value
  recipient : Option Value
  bodyText : Option Text
  signOff : Option Text
  pages : Option Nat
  layoutType : Option Text
  stationery : Option Value
  picture : Picture → Option Text
  pictureHash : Picture → Option (Option Text)
  postcardSize : Option Text
  postcardFront : Option Value
  mailService : Option Text
  arriveBy : Option Text
  mailOn : Option Text
  isGiftSend : Option Bool
  rendererVersion : Option Text

section Version

-- The SHA-256 of a text, in hex, and its first sixteen digits.
variable (sha256Hex versionHash : Text → Text)

def pictureHash (data : Option Text) : Option Text :=
  match data with
  | none | some [] => none
  | some data => some (sha256Hex data)

/-- `SELECT *`. -/
def DraftRow.selectAll (draft : DraftRow) : ContentVersionRow where
  mailType := draft.mailType
  sender := draft.sender
  recipient := draft.recipient
  bodyText := draft.bodyText
  signOff := draft.signOff
  pages := draft.pages
  layoutType := draft.layoutType
  stationery := draft.stationery
  picture := draft.picture
  pictureHash := fun _ => none
  postcardSize := draft.postcardSize
  postcardFront := draft.postcardFront
  mailService := draft.mailService
  arriveBy := draft.arriveBy
  mailOn := draft.mailOn
  isGiftSend := draft.isGiftSend
  rendererVersion := draft.rendererVersion

/-- `SELECT` of `contentVersionColumns`: the database hashes each picture. -/
def DraftRow.selectVersionColumns (draft : DraftRow) : ContentVersionRow :=
  { draft.selectAll with
    picture := fun _ => none
    pictureHash := fun picture => some (pictureHash sha256Hex (draft.picture picture)) }

/-- The queries a version is read by. -/
inductive Reading
  | all
  | versionColumns
  deriving DecidableEq

def DraftRow.read (draft : DraftRow) : Reading → ContentVersionRow
  | .all => draft.selectAll
  | .versionColumns => draft.selectVersionColumns sha256Hex

def pictureOf (row : ContentVersionRow) (picture : Picture) : Option Text :=
  match row.pictureHash picture with
  | some hashed => hashed
  | none => pictureHash sha256Hex (row.picture picture)

/-- `day`: a date column reads as text, so no `Date` is met here. -/
def day (value : Option Text) : Option Text :=
  match value with
  | none | some [] => none
  | some value => some (value.take 10)

def MailType.text : MailType → Text
  | .letter => "letter".toList
  | .postcard => "postcard".toList

def textOrNull : Option Text → Value
  | none => .null
  | some text => .string text

/-- What `contentVersionOf` hashes. -/
def versionFields (row : ContentVersionRow) : List Value :=
  [.string (MailType.text (row.mailType.getD .letter)),
    row.sender.getD .null,
    row.recipient.getD .null,
    .string (row.bodyText.getD []),
    .string (row.signOff.getD []),
    .number (.ofNat (row.pages.getD 1)),
    textOrNull row.layoutType,
    row.stationery.getD .null,
    textOrNull (pictureOf sha256Hex row .signatureImage),
    textOrNull (pictureOf sha256Hex row .headerImageData),
    textOrNull (pictureOf sha256Hex row .inlineImageData),
    textOrNull (pictureOf sha256Hex row .frontImageData),
    textOrNull row.postcardSize,
    row.postcardFront.getD .null,
    .string (row.mailService.getD "standard".toList),
    textOrNull (day row.arriveBy),
    textOrNull (day row.mailOn),
    .bool (row.isGiftSend == some true),
    textOrNull row.rendererVersion]

def contentVersionOf (row : ContentVersionRow) : Text :=
  versionHash (stringify (.array (versionFields sha256Hex row)))

/-- JavaScript's white space and line ends. -/
def isSpace (c : Char) : Bool :=
  [9, 10, 11, 12, 13, 32, 0xA0, 0x1680, 0x2028, 0x2029, 0x202F, 0x205F, 0x3000, 0xFEFF].contains c.toNat ||
    (0x2000 ≤ c.toNat && c.toNat ≤ 0x200A)

def trimEnd (text : Text) : Text := (text.reverse.dropWhile isSpace).reverse

def trim (text : Text) : Text := trimEnd (text.dropWhile isSpace)

inductive VersionCheck
  | matches
  | missing
  | differs
  deriving DecidableEq

/-- `shown` is the version a send names, of any JSON type. -/
def contentVersionMatches (shown : Option Value) (row : ContentVersionRow) : VersionCheck :=
  match shown with
  | none | some .null => .missing
  | some (.string text) =>
    if trim text = [] then .missing
    else if trim text = contentVersionOf sha256Hex versionHash row then .matches else .differs
  | some _ => .differs

end Version

theorem matches_eq {sha256Hex versionHash : Text → Text} {shown : Option Value} {row : ContentVersionRow}
    (accepted : contentVersionMatches sha256Hex versionHash shown row = .matches) :
    ∃ text, shown = some (.string text) ∧ trim text = contentVersionOf sha256Hex versionHash row := by
  unfold contentVersionMatches at accepted
  split at accepted
  · cases accepted
  · cases accepted
  · rename_i text
    by_cases blank : trim text = []
    · rw [if_pos blank] at accepted
      cases accepted
    · rw [if_neg blank] at accepted
      by_cases same : trim text = contentVersionOf sha256Hex versionHash row
      · exact ⟨text, rfl, same⟩
      · rw [if_neg same] at accepted
        cases accepted
  · cases accepted

end LetterIRL.Content
