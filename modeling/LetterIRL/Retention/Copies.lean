import LetterIRL.Content.Drafts
import LetterIRL.Mail.Erasure

namespace LetterIRL.Retention
open Lib Lib.Json Commerce Mail
open Content (Text)

/-! What a sweep saves of a row before it clears it, and how a restore reads the copy back. -/

/-- A value of a nullable JSON column: its writers store an object or nothing, never JSON `null`. -/
structure JsonColumn where
  value : Value
  stored : value ≠ .null

def JsonColumn.ofObject (members : List (Text × Value)) : JsonColumn where
  value := .object members
  stored same := nomatch same

/-- The columns of `DRAFT_CONTENT_COLUMNS`. -/
structure DraftContent where
  sender : Value
  recipient : Value
  bodyText : Text
  signOff : Option Text := none
  previewHtml : Option Text := none
  senderValidation : Option JsonColumn := none
  recipientValidation : Option JsonColumn := none
  frontImageData : Option Text := none
  frontImageUrl : Option Text := none
  headerImageData : Option Text := none
  headerImageUrl : Option Text := none
  inlineImageData : Option Text := none
  inlineImageUrl : Option Text := none
  stationery : Option JsonColumn := none
  postcardFront : Option JsonColumn := none
  signatureImage : Option Text := none

inductive DraftColumn
  | sender
  | recipient
  | bodyText
  | signOff
  | previewHtml
  | senderValidation
  | recipientValidation
  | frontImageData
  | frontImageUrl
  | headerImageData
  | headerImageUrl
  | inlineImageData
  | inlineImageUrl
  | stationery
  | postcardFront
  | signatureImage
  deriving DecidableEq

def DraftColumn.text : DraftColumn → Text
  | .sender => "sender".toList
  | .recipient => "recipient".toList
  | .bodyText => "body_text".toList
  | .signOff => "sign_off".toList
  | .previewHtml => "preview_html".toList
  | .senderValidation => "sender_validation".toList
  | .recipientValidation => "recipient_validation".toList
  | .frontImageData => "front_image_data".toList
  | .frontImageUrl => "front_image_url".toList
  | .headerImageData => "header_image_data".toList
  | .headerImageUrl => "header_image_url".toList
  | .inlineImageData => "inline_image_data".toList
  | .inlineImageUrl => "inline_image_url".toList
  | .stationery => "stationery".toList
  | .postcardFront => "postcard_front".toList
  | .signatureImage => "signature_image".toList

def DRAFT_CONTENT_COLUMNS : List DraftColumn :=
  [.sender, .recipient, .bodyText, .signOff, .previewHtml, .senderValidation, .recipientValidation, .frontImageData,
    .frontImageUrl, .headerImageData, .headerImageUrl, .inlineImageData, .inlineImageUrl, .stationery, .postcardFront,
    .signatureImage]

/-- `to_jsonb` of a text column inside `jsonb_build_object`, which stores a NULL as JSON `null`. -/
def textJson : Option Text → Value
  | none => .null
  | some text => .string text

def columnJson : Option JsonColumn → Value
  | none => .null
  | some column => column.value

def DraftContent.toJsonb (draft : DraftContent) : DraftColumn → Value
  | .sender => draft.sender
  | .recipient => draft.recipient
  | .bodyText => .string draft.bodyText
  | .signOff => textJson draft.signOff
  | .previewHtml => textJson draft.previewHtml
  | .senderValidation => columnJson draft.senderValidation
  | .recipientValidation => columnJson draft.recipientValidation
  | .frontImageData => textJson draft.frontImageData
  | .frontImageUrl => textJson draft.frontImageUrl
  | .headerImageData => textJson draft.headerImageData
  | .headerImageUrl => textJson draft.headerImageUrl
  | .inlineImageData => textJson draft.inlineImageData
  | .inlineImageUrl => textJson draft.inlineImageUrl
  | .stationery => columnJson draft.stationery
  | .postcardFront => columnJson draft.postcardFront
  | .signatureImage => textJson draft.signatureImage

/-- `DRAFT_QUARANTINE_OBJECT`. -/
def DraftContent.saved (draft : DraftContent) : Value :=
  .object (DRAFT_CONTENT_COLUMNS.map fun column => (column.text, draft.toJsonb column))

/-- `->`: NULL where the object has no such key. -/
def arrow (key : Text) : Value → Option Value
  | .object members => (members.find? fun member => member.1 == key).map Prod.snd
  | _ => none

/-- `->>`: JSON `null` reads as NULL. -/
def arrowText (key : Text) (content : Value) : Option Text :=
  match arrow key content with
  | none | some .null => none
  | some (.string text) => some text
  | some value => some (stringify value)

/-- `NULLIF(content->key, 'null'::jsonb)`. -/
def arrowNullif (key : Text) (content : Value) : Option JsonColumn :=
  match arrow key content with
  | none => none
  | some value =>
    match value with
    | .null => none
    | .bool flag => some ⟨.bool flag, nofun⟩
    | .number number => some ⟨.number number, nofun⟩
    | .string text => some ⟨.string text, nofun⟩
    | .array items => some ⟨.array items, nofun⟩
    | .object members => some ⟨.object members, nofun⟩

/-- The columns a restore assigns from a saved copy: none when a NOT NULL one would be NULL, which aborts it. -/
def DraftContent.ofSaved (content : Value) : Option DraftContent :=
  match arrow DraftColumn.sender.text content, arrow DraftColumn.recipient.text content,
    arrowText DraftColumn.bodyText.text content with
  | some sender, some recipient, some bodyText => some {
      sender, recipient, bodyText
      signOff := arrowText DraftColumn.signOff.text content
      previewHtml := arrowText DraftColumn.previewHtml.text content
      senderValidation := arrowNullif DraftColumn.senderValidation.text content
      recipientValidation := arrowNullif DraftColumn.recipientValidation.text content
      frontImageData := arrowText DraftColumn.frontImageData.text content
      frontImageUrl := arrowText DraftColumn.frontImageUrl.text content
      headerImageData := arrowText DraftColumn.headerImageData.text content
      headerImageUrl := arrowText DraftColumn.headerImageUrl.text content
      inlineImageData := arrowText DraftColumn.inlineImageData.text content
      inlineImageUrl := arrowText DraftColumn.inlineImageUrl.text content
      stationery := arrowNullif DraftColumn.stationery.text content
      postcardFront := arrowNullif DraftColumn.postcardFront.text content
      signatureImage := arrowText DraftColumn.signatureImage.text content }
  | _, _, _ => none

/-- `CASE WHEN column IS NULL THEN NULL ELSE '' END`. -/
def emptied (text : Option Text) : Option Text := text.map fun _ => []

/-- `CASE WHEN column IS NULL THEN NULL ELSE jsonb_build_object(key, column->key) END`. -/
def keptKey (key : Text) (column : Option JsonColumn) : Option JsonColumn :=
  column.map fun column => .ofObject [(key, (arrow key column.value).getD .null)]

/-- `DRAFT_REDACTION_SET`, of the content. -/
def DraftContent.redacted (draft : DraftContent) : DraftContent where
  sender := .object []
  recipient := .object []
  bodyText := []
  signOff := emptied draft.signOff
  frontImageData := emptied draft.frontImageData
  headerImageData := emptied draft.headerImageData
  inlineImageData := emptied draft.inlineImageData
  stationery := keptKey "theme".toList draft.stationery
  postcardFront := keptKey "layout".toList draft.postcardFront
  signatureImage := emptied draft.signatureImage

/-! What is read back. -/

theorem arrow_saved (draft : DraftContent) (column : DraftColumn) :
    arrow column.text draft.saved = some (draft.toJsonb column) := by
  cases column <;> rfl

theorem arrowText_textJson {key : Text} {content : Value} {text : Option Text}
    (here : arrow key content = some (textJson text)) : arrowText key content = text := by
  unfold arrowText
  rw [here]
  cases text <;> rfl

theorem arrowNullif_columnJson {key : Text} {content : Value} {column : Option JsonColumn}
    (here : arrow key content = some (columnJson column)) : arrowNullif key content = column := by
  unfold arrowNullif
  rw [here]
  cases column with
  | none => rfl
  | some column =>
    obtain ⟨value, stored⟩ := column
    cases value with
    | null => exact absurd rfl stored
    | _ => rfl

/-- Every column comes back as it was: a NULL as NULL, a JSON `null` as JSON `null`. -/
theorem ofSaved_saved (draft : DraftContent) : DraftContent.ofSaved draft.saved = some draft := by
  have saved := arrow_saved draft
  have text (column : DraftColumn) (value : Option Text) (same : draft.toJsonb column = textJson value) :
      arrowText column.text draft.saved = value := arrowText_textJson ((saved column).trans (congrArg some same))
  have nullif (column : DraftColumn) (value : Option JsonColumn) (same : draft.toJsonb column = columnJson value) :
      arrowNullif column.text draft.saved = value := arrowNullif_columnJson ((saved column).trans (congrArg some same))
  unfold DraftContent.ofSaved
  rw [saved .sender, saved .recipient, text .bodyText (some draft.bodyText) rfl, text .signOff _ rfl,
    text .previewHtml _ rfl, nullif .senderValidation _ rfl, nullif .recipientValidation _ rfl,
    text .frontImageData _ rfl, text .frontImageUrl _ rfl, text .headerImageData _ rfl, text .headerImageUrl _ rfl,
    text .inlineImageData _ rfl, text .inlineImageUrl _ rfl, nullif .stationery _ rfl, nullif .postcardFront _ rfl,
    text .signatureImage _ rfl]
  rfl

end LetterIRL.Retention
