import LetterIRL.Content.Drafts
import LetterIRL.Mail.Erasure

namespace LetterIRL.Content
open Lib Lib.Json Commerce

/-! A letter draft changed in place: what an edit is drawn from, the draft's lock, and the write. -/

inductive Theme
  | classic
  | monogram
  | botanical
  | celebration
  | typewriter
  | handwritten
  | custom
  deriving DecidableEq

def Theme.text : Theme → Text
  | .classic => "classic".toList
  | .monogram => "monogram".toList
  | .botanical => "botanical".toList
  | .celebration => "celebration".toList
  | .typewriter => "typewriter".toList
  | .handwritten => "handwritten".toList
  | .custom => "custom".toList

/-- Stationery as `storedStationery` keeps it and `letter_drafts_stationery_theme_known` checks it: never Classic. -/
structure StoredStationery where
  theme : Theme
  /-- What else it prints: the date line, the initials, the headline, a design and its name. -/
  slots : List (Text × Value)
  themed : theme ≠ .classic

def StoredStationery.json (stationery : StoredStationery) : Value :=
  .object (("theme".toList, .string stationery.theme.text) :: stationery.slots)

/-- `row.stationery ?? null`. -/
def stationeryJson : Option StoredStationery → Value
  | none => .null
  | some stationery => stationery.json

inductive RendererVersion
  | pdf1
  | pdf2
  | pdf3
  | pdf4
  deriving DecidableEq

def rendererVersionFor (stationery : Option StoredStationery) (signed : Bool) : RendererVersion :=
  if signed then .pdf4
  else
    match stationery with
    | some stationery => if stationery.theme ≠ .classic then .pdf2 else .pdf1
    | none => .pdf1

structure Words where
  bodyText : Text
  signOff : Option Text
  deriving DecidableEq

structure DrawnPage where
  previewHtml : Text
  pages : Nat
  deriving DecidableEq

/-- How a letter's page is drawn. -/
abbrev Draw := Words → Option StoredStationery → Option Text → DrawnPage

/-- The columns of a letter draft that its page is drawn from, and the page. -/
structure DraftLetter where
  words : Words
  stationery : Option StoredStationery
  signatureImage : Option Text
  rendererVersion : RendererVersion
  previewHtml : Option Text
  pages : Nat

/-- A preview's draft. -/
def previewedLetter (draw : Draw) (words : Words) (stationery : Option StoredStationery)
    (signatureImage : Option Text) : DraftLetter where
  words := words
  stationery := stationery
  signatureImage := signatureImage
  rendererVersion := rendererVersionFor stationery signatureImage.isSome
  previewHtml := some (draw words stationery signatureImage).previewHtml
  pages := (draw words stationery signatureImage).pages

/-- `DRAFT_REDACTION_SET`: stationery keeps its theme, and a signature its being there. -/
def DraftLetter.emptied (letter : DraftLetter) : DraftLetter :=
  { letter with
    words := { bodyText := [], signOff := letter.words.signOff.map fun _ => [] }
    stationery := letter.stationery.map fun stationery => { stationery with slots := [] }
    signatureImage := letter.signatureImage.map fun _ => []
    previewHtml := none }

/-- What the person chose last: the account's row, its saved designs, and its saved signature's `use_by_default`. -/
structure RememberedChoices where
  erased : Bool := false
  stationeryTheme : Option Theme := none
  stationeryDesignId : Option Nat := none
  designs : List Nat := []
  signByDefault : Option Bool := none
  deriving DecidableEq

/-! What an edit changes, and what its page was drawn from. -/

inductive DraftChange
  /-- `setDraftStationery`; `none` is Classic. -/
  | stationery (stored : Option StoredStationery) (designId : Option Nat)
  /-- `setDraftWords`. -/
  | words (bodyText signOff : Text)
  /-- `setDraftSignature`. -/
  | signature (image : Option Text)

/-- `DrawnFrom`: the ingredients an edit checks again, each where it has one. -/
structure DrawnFrom where
  words : Option Words
  stationery : Option (Option StoredStationery)
  signature : Option (Option Text)

def DraftChange.drawnFrom (change : DraftChange) (seen : DraftLetter) : DrawnFrom :=
  match change with
  | .stationery _ _ => { words := some seen.words, stationery := none, signature := some seen.signatureImage }
  | .words _ _ | .signature _ =>
    { words := some seen.words, stationery := some seen.stationery, signature := some seen.signatureImage }

def drawnFromChanged (row : DraftLetter) (drawnFrom : DrawnFrom) : Bool :=
  (drawnFrom.words.any fun words => row.words ≠ words) ||
    (drawnFrom.stationery.any fun stationery =>
      stringify (stationeryJson row.stationery) ≠ stringify (stationeryJson stationery)) ||
    drawnFrom.signature.any fun signature => row.signatureImage ≠ signature

/-- The page the caller draws of the draft as it read it. -/
def DraftChange.page (draw : Draw) (seen : DraftLetter) : DraftChange → DrawnPage
  | .stationery stored _ => draw seen.words stored seen.signatureImage
  | .words bodyText signOff => draw { bodyText, signOff := some signOff } seen.stationery seen.signatureImage
  | .signature image => draw seen.words seen.stationery image

/-- The edit's `UPDATE`. -/
def DraftChange.write (change : DraftChange) (page : DrawnPage) (row : DraftLetter) : DraftLetter :=
  let drawn := { row with previewHtml := some page.previewHtml, pages := page.pages }
  match change with
  | .stationery stored _ =>
    { drawn with
      stationery := stored
      rendererVersion := if row.signatureImage.isSome then .pdf4 else rendererVersionFor stored false }
  | .words bodyText signOff => { drawn with words := { bodyText, signOff := some signOff } }
  | .signature image =>
    { drawn with
      signatureImage := image
      rendererVersion := if image.isSome then .pdf4 else if row.stationery.isSome then .pdf2 else .pdf1 }

/-- What the account remembers in the same transaction: a theme, a saved design of its own, or to sign or not. -/
def DraftChange.remember (change : DraftChange) (remembered : RememberedChoices) : RememberedChoices :=
  match change with
  | .stationery stored designId =>
    let theme := stored.elim .classic StoredStationery.theme
    if remembered.erased then remembered
    else if theme ≠ .custom then { remembered with stationeryTheme := some theme, stationeryDesignId := none }
    else if designId.any (· ∈ remembered.designs) then { remembered with stationeryDesignId := designId }
    else remembered
  | .words _ _ => remembered
  | .signature image => { remembered with signByDefault := remembered.signByDefault.map fun _ => image.isSome }

end LetterIRL.Content
