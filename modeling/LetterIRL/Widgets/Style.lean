import LetterIRL.Widgets.Arrives

namespace LetterIRL.Widgets

open Lib

/-! The Style row: the letter's stationery, signature, words and mail service, changed from the card. -/

namespace Style

def THEMES : List Text := ["classic", "monogram", "botanical", "celebration", "typewriter", "handwritten"].map String.toList

def CUSTOM : Text := "custom".toList

def SERVICES : List Text := ["standard", "certified", "certified_return_receipt"].map String.toList

def isTheme (value : Text) : Bool := THEMES.contains value

/-- Whether the card can show a page drawn in this: a theme, or a saved design. -/
def isDrawn (value : Text) : Bool := isTheme value || value == CUSTOM

def serviceOr (value : Text) : Text := if SERVICES.contains value then value else "standard".toList

def includes (phrase : Text) : Text → Bool
  | [] => phrase.isEmpty
  | c :: rest => phrase.isPrefixOf (c :: rest) || includes phrase rest

/-- A design's choices, which are compared as they came. -/
structure Choices where
  face : Option Text := none
  ornament : Option Text := none
  ruled : Option Bool := none
  tone : Option Text := none
  deriving DecidableEq

structure Stationery where
  theme : Text
  designId : Option Text := none
  name : Option Text := none
  design : Option Choices := none
  monogram : Option Text := none
  headline : Option Text := none
  deriving DecidableEq

/-- A saved design as the preview offers it. -/
structure Design where
  designId : Text
  name : Text
  design : Option Choices := none
  deriving DecidableEq

/-- How full the pages are. -/
structure Fit where
  pages : Option Nat
  deriving DecidableEq

structure Travel where
  mailService : Text
  deliveryClass : Text
  deliveryDisclaimer : Text
  deriving DecidableEq

/-- What the letter costs now. -/
structure Terms where
  canSendNow : Bool
  sendEligibility : Text
  reasonCannotSend : Option Text
  pages : Nat
  pageFit : Option Fit
  travel : Option Travel
  deriving DecidableEq

structure Words where
  bodyText : Text
  signOff : Text
  version : Option Text := none
  deriving DecidableEq

/-- What an answer says, as far as it is of the type expected. -/
structure ToolData where
  draftId : Option Text := none
  stationery : Option Stationery := none
  signaturePrinted : Option Bool := none
  canSendNow : Option Bool := none
  sendEligibility : Option Text := none
  reasonCannotSend : Option Text := none
  pages : Option Nat := none
  mailService : Option Text := none
  deliveryClass : Option Text := none
  deliveryDisclaimer : Option Text := none
  bodyText : Option Text := none
  signOff : Option Text := none
  wordsVersion : Option Text := none
  message : Option Text := none
  deriving DecidableEq

def travelOf (data : ToolData) : Option Travel :=
  match data.deliveryClass with
  | none | some [] => none
  | some deliveryClass => some {
      mailService := data.mailService.getD [], deliveryClass, deliveryDisclaimer := data.deliveryDisclaimer.getD [] }

def termsOf (data : ToolData) (fit : Option Fit) : Option Terms :=
  match data.canSendNow, data.sendEligibility with
  | some canSendNow, some sendEligibility => some {
      canSendNow
      sendEligibility
      reasonCannotSend := data.reasonCannotSend
      pages := if data.pages = some 2 ∨ data.pages = some 3 then data.pages.getD 1 else 1
      pageFit := fit
      travel := travelOf data }
  | _, _ => none

/-- What the row reports of the draft. -/
structure Shown where
  stationery : Option Stationery := none
  previewHtml : Option Text := none
  terms : Option Terms := none
  words : Option Words := none
  signatureOffered : Bool := false
  signatureOn : Bool := false
  service : Text := "standard".toList
  designs : List Design := []
  deriving DecidableEq

structure Slots where
  monogram : Option Text := none
  headline : Option Text := none
  deriving DecidableEq

/-- The rest of its state, with the boxes of the Words tab. -/
structure Row where
  rowShown : Bool := false
  signatureShown : Bool := false
  serviceShown : Bool := false
  pending : Option Text := none
  held : Bool := false
  restyled : Bool := false
  message : Text := []
  error : Bool := false
  slots : Text → Slots := fun _ => {}
  updating : Bool := false
  current : Option Words := none
  base : Option Words := none
  body : Text := []
  signOff : Text := []
  editable : Bool := false
  wordsTyped : Bool := false
  wordsMessage : Text := []
  wordsError : Bool := false
  signaturePending : Option Bool := none
  serviceOffered : List Text := []
  servicePending : Option Text := none
  serviceMessage : Text := []
  serviceError : Bool := false

/-- The card: whether it has a Signature switch and service buttons. -/
structure Card extends Host where
  hasSwitch : Bool
  hasServices : Bool

/-- A preview of the card's draft, with what the card offers of it. -/
structure Output where
  enabled : Bool
  stationery : Option Stationery
  signaturePrinted : Option Bool := none
  noneSaved : Bool := false
  mailService : Option Text := none
  designs : List Design := []
  mailServices : List Text := []
  deriving DecidableEq

inductive Press
  | theme (theme : Text) (idle : Bool)
  | signature (idle : Bool)
  | service (wanted : Text) (idle : Bool)
  | update (idle : Bool)
  deriving DecidableEq

/-- What a tool is called to change, with its arguments. -/
inductive Change
  | stationery (theme : Text) (design : Option Design) (slots : Slots)
  | signature (wanted : Bool)
  | service (wanted : Text)
  | words (bodyText signOff : Text) (wordsVersion : Option Text)
  deriving DecidableEq

structure Result where
  isError : Bool := false
  resultText : Text := []
  data : ToolData := {}
  pageFit : Option Fit := none
  previewHtml : Option Text := none
  /-- What the card says then of its preview's fit. -/
  previewFit : Option Fit := none
  deriving DecidableEq

inductive Reply
  | result (given : Result)
  | rejected (reason : Text)
  deriving DecidableEq

/-- The draft as a status answer has it. -/
structure Adopted where
  stationery : Option Stationery
  previewHtml : Option Text := none
  answer : ToolData := {}
  signature : Option Bool := none
  fit : Option Fit := none
  force : Bool
  deriving DecidableEq

inductive Touch
  | hide
  | hold (held : Bool)
  | showWords (draftId : Text) (current : Option Words) (editable : Bool)
  | input (body signOff : Text)
  | putBack
  deriving DecidableEq

/-- What the row presses for a stationery. A design named without its id is the last offered one of its name and choices. -/
def keyOf (designs : List Design) (stationery : Stationery) : Text :=
  if stationery.theme ≠ CUSTOM then stationery.theme
  else
    let named := (designs.filter fun design => some design.name == stationery.name &&
      (design.design.isSome && design.design == stationery.design)).getLast?
    "design:".toList ++ (((stationery.designId.filter fun id => !id.isEmpty).orElse fun _ => named.map (·.designId)).getD [])

def designFor (designs : List Design) (key : Text) : Option Design :=
  if "design:".toList.isPrefixOf key then designs.find? fun design => design.designId == key.drop 7 else none

def keepSlots (designs : List Design) (stationery : Stationery) (row : Row) : Row :=
  let slots : Slots := { monogram := stationery.monogram, headline := stationery.headline }
  { row with slots := Function.update row.slots (keyOf designs stationery) slots }

/-- `adoptTerms`, of an answer that says something of them. -/
def adoptTerms (said : Option Terms) (shown : Shown) : Shown :=
  match said with
  | none => shown
  | some terms => { shown with terms := said, service := (terms.travel.map (serviceOr ·.mailService)).getD shown.service }

/-- A page that came back. -/
def pageOf (previewHtml : Option Text) : Option Text := previewHtml.filter fun page => !page.isEmpty

def takePage (previewHtml : Option Text) (shown : Shown) : Shown :=
  { shown with previewHtml := (pageOf previewHtml).orElse fun _ => shown.previewHtml }

def notChanged : Change → Text
  | .stationery .. => "The style was not changed.".toList
  | .signature _ => "The signature was not changed.".toList
  | .service _ => "How the letter travels was not changed.".toList
  | .words .. => "The words were not changed.".toList

def mayHaveChanged : Change → Text
  | .stationery .. => "The style may have changed. Make the preview again to see it.".toList
  | .signature _ => "The signature may have changed. Make the preview again to see it.".toList
  | .service _ => "How the letter travels may have changed. Make the preview again to see it.".toList
  | .words .. => "The words may have changed. Make the preview again to see them.".toList

/-- An answer to the change: a theme asked is answered with a theme, and a design with that design. -/
def answers (data : ToolData) : Change → Bool
  | .stationery _ (some design) _ => data.stationery.any fun stationery =>
      stationery.theme == CUSTOM && stationery.designId == some design.designId
  | .stationery _ none _ => data.stationery.any fun stationery => isTheme stationery.theme
  | .signature _ => data.signaturePrinted.isSome
  | .service _ => (termsOf data none).isSome
  | .words .. => true

/-- An answer about another draft is no answer to this one. -/
def checked (draftId : Text) (change : Change) : Reply → Except Text Result
  | .rejected reason => .error reason
  | .result given =>
    if given.isError then .error (if given.resultText = [] then notChanged change else given.resultText)
    else if given.data.draftId.any (· != draftId) then .error (mayHaveChanged change)
    else if answers given.data change then .ok given
    else .error (mayHaveChanged change)

/-- What a change that was made tells of the draft. -/
def made (change : Change) (given : Result) (shown : Shown) : Shown :=
  let said := termsOf given.data given.pageFit
  match change with
  | .stationery .. => takePage given.previewHtml (adoptTerms said { shown with stationery := given.data.stationery })
  | .signature _ =>
    takePage given.previewHtml (adoptTerms said { shown with signatureOn := given.data.signaturePrinted.getD shown.signatureOn })
  | .service _ =>
    -- A change of service lays nothing out: the fit is the one known, unless it counts other pages.
    let known := match shown.terms with
      | some terms => terms.pageFit
      | none => given.previewFit
    adoptTerms ((termsOf given.data known).map fun terms =>
      { terms with pageFit := terms.pageFit.filter fun fit => fit.pages == some terms.pages }) shown
  | .words bodyText signOff _ =>
    takePage given.previewHtml (adoptTerms said
      { shown with words := some { bodyText, signOff, version := given.data.wordsVersion } })

/-- What a refusal tells: that a design was deleted, or that no signature is saved any more. -/
def refused (change : Change) (text : Text) (shown : Shown) : Shown :=
  match change with
  | .stationery _ (some design) _ =>
    if includes "That stationery design was not found".toList text then
      { shown with designs := shown.designs.filter fun kept => kept.designId != design.designId }
    else shown
  | .signature _ =>
    if includes "No signature is saved".toList text then { shown with signatureOffered := false, signatureOn := false }
    else shown
  | _ => shown

def SERVICE_REFUSALS : List (Text × Text) := [
  ("This letter has already been sent", "This letter has already been sent, so how it travels can't change now."),
  ("This letter was sent just after", "This letter was sent just as it was changed. Its order says how it travels."),
  ("This preview has expired", "This preview has expired. Ask in the chat for a new one."),
  ("tied to a Pay & Send payment", "A Pay & Send payment is open for this letter, so how it travels can't change now."),
  ("gift letter does not pay for certified mail",
    "A gift letter can't go by certified mail. Ask in the chat for a new preview to send it certified."),
  ("postcard always goes as ordinary mail", "A postcard always goes as ordinary mail."),
  ("That preview wasn't found", "That preview wasn't found. Ask in the chat for a new one.")].map
    fun (phrase, said) => (phrase.toList, said.toList)

def NOT_OFFERED : Text := "Certified mail is not available right now. The preview stays as it is.".toList

def serviceRefusal (text : Text) : Text :=
  match SERVICE_REFUSALS.find? fun refusal => includes refusal.1 text with
  | some (_, said) => said
  | none => if includes "set_mail_service".toList text && includes "not found".toList text then NOT_OFFERED else text

def KEPT : Text := ("The words were changed in the chat. What you typed is kept here, and the page shows the chat's: " ++
  "Update the page to use yours instead, or Put back to take the chat's.").toList

def STALE : Text := ("The words were not changed: this card's copy of them is out of date. " ++
  "Ask in the chat to change them, or make the preview again.").toList

def NO_PAGE : Text :=
  "The words are changed, but the page did not come back here. Make the preview again to see it.".toList

/-- The messages and marks of a change that was made. -/
def madeRow (change : Change) (given : Result) (shown : Shown) (row : Row) : Row :=
  let paged := (pageOf given.previewHtml).isSome
  match change with
  | .stationery .. =>
    let kept := (given.data.stationery.map fun stationery => keepSlots shown.designs stationery row).getD row
    { kept with
      restyled := true
      message := if paged then row.message
        else "The style is changed, but its page did not come back here. Make the preview again to see it.".toList }
  | .signature _ =>
    { row with
      restyled := true
      message := if paged then row.message
        else "The signature is changed, but its page did not come back here. Make the preview again to see it.".toList }
  | .service _ => { row with restyled := true }
  | .words bodyText signOff _ =>
    { row with
      restyled := true
      base := some { bodyText, signOff, version := given.data.wordsVersion }
      wordsMessage := if paged
        then (pageOf given.data.message).getD "The words are changed. Nothing has been sent.".toList
        else NO_PAGE }

/-- Those of a refusal, in the person's words. -/
def refusedRow (change : Change) (text : Text) (row : Row) : Row :=
  match change with
  | .stationery _ design _ =>
    { row with
      error := true
      message :=
        if design.isSome && includes "That stationery design was not found".toList text then
          "That design was deleted. Make the preview again to see your designs.".toList
        else if design.isSome && includes "Name the stationery".toList text then
          "Saved designs aren't available now. Make the preview again to see the styles.".toList
        else text }
  | .signature _ =>
    if includes "No signature is saved".toList text then
      { row with
        error := true
        signatureShown := false
        message := ("There's no saved signature to add now. Save one in the chat, " ++
          "or on your Letter IRL settings page.").toList }
    else { row with error := true, message := text }
  | .service _ => { row with serviceError := true, serviceMessage := serviceRefusal text }
  | .words .. =>
    { row with wordsError := true, wordsMessage := if includes "Nothing was changed:".toList text then STALE else text }

/-- The boxes hold other words than the ones they were filled from. -/
def typed (row : Row) : Bool := row.base.any fun base => row.body != base.bodyText || row.signOff != base.signOff

def drawWords (row : Row) : Row := { row with wordsTyped := row.editable && typed row }

/-- The boxes follow the draft's words, each while nothing is typed in it. -/
def fillWords (row : Row) : Row :=
  match row.current with
  | none => row
  | some current =>
    if row.updating || row.base == some current then row
    else
      let other := row.base.any fun base => base.bodyText != current.bodyText || base.signOff != current.signOff
      let bodyKept := row.base.any fun base => row.body != base.bodyText && row.body != current.bodyText
      let signOffKept := row.base.any fun base => row.signOff != base.signOff && row.signOff != current.signOff
      let filled := { row with
        body := if bodyKept then row.body else current.bodyText
        signOff := if signOffKept then row.signOff else current.signOff
        base := some current }
      if other && (bodyKept || signOffKept) then { filled with wordsMessage := KEPT, wordsError := false }
      else if (other && !row.wordsError) || row.wordsMessage == STALE then { filled with wordsMessage := [], wordsError := false }
      else filled

/-- The designs the preview offers that have an id and a name. -/
def offeredDesigns (output : Output) : List Design :=
  output.designs.filter fun design => !design.designId.isEmpty && !design.name.isEmpty

variable (card : Card)

def accepts (draftId : Text) (output : Output) : Bool :=
  (output.enabled && !draftId.isEmpty) && (card.callable && output.stationery.any fun offered => isDrawn offered.theme)

def opened (output : Output) : Shown :=
  let offered := output.signaturePrinted.isSome && !output.noneSaved
  { stationery := output.stationery
    signatureOffered := offered
    signatureOn := offered && output.signaturePrinted == some true
    service := serviceOr (output.mailService.getD [])
    designs := offeredDesigns output }

def reopened (output : Output) (row : Row) : Row :=
  let fresh := { row with
    pending := none
    restyled := false
    message := []
    error := false
    slots := fun _ => {}
    updating := false
    base := none
    wordsMessage := []
    wordsError := false
    signaturePending := none
    serviceOffered := output.mailServices.filter SERVICES.contains
    servicePending := none
    serviceMessage := []
    serviceError := false }
  (output.stationery.map fun offered => keepSlots (offeredDesigns output) offered fresh).getD fresh

def redrawn (shown : Shown) (row : Row) : Row :=
  { row with
    rowShown := true
    serviceShown := decide (1 < row.serviceOffered.length) && card.hasServices
    signatureShown := shown.signatureOffered && card.hasSwitch }

def hidden (row : Row) : Row := { row with rowShown := false, serviceShown := false, signatureShown := false }

/-- The initials and headline last seen with a style come back with it, where it prints them. -/
def slotsFor (theme : Text) (design : Option Design) (row : Row) : Slots :=
  let slots := row.slots theme
  let monogrammed := (design.bind (·.design)).any fun choices => choices.ornament == some "monogram".toList
  { monogram := if theme == "monogram".toList || monogrammed then pageOf slots.monogram else none
    headline := if theme == "celebration".toList || design.isSome then pageOf slots.headline else none }

/-- What `set`, `setSignature`, `setService` and `setWords` ask for; a draft and no wait they look for themselves. -/
def presses (press : Press) (shown : Shown) (row : Row) : Option Change :=
  match press with
  | .theme theme idle =>
    let design := designFor shown.designs theme
    if row.held || !card.callable || !(isTheme theme || design.isSome) then none
    else if shown.stationery.map (keyOf shown.designs) = some theme then none
    else if idle then some (.stationery theme design (slotsFor theme design row))
    else none
  | .signature idle =>
    if row.held || !card.callable || !shown.signatureOffered then none
    else if card.hasSwitch && !row.signatureShown then none
    else if idle then some (.signature (!shown.signatureOn))
    else none
  | .service wanted idle =>
    if !card.callable || !row.serviceOffered.contains wanted then none
    else if card.hasServices && !row.serviceShown then none
    else if idle then some (.service wanted)
    else none
  | .update idle =>
    if !row.editable || row.updating || !typed row || row.held || !card.callable then none
    else if idle then some (.words row.body row.signOff (row.base.bind (·.version)))
    else none

def begins (change : Change) (row : Row) : Row :=
  match change with
  | .stationery theme _ _ => { row with pending := some theme, message := [], error := false }
  | .signature wanted => { row with signaturePending := some wanted, message := [], error := false }
  | .service wanted => { row with servicePending := some wanted, serviceMessage := [], serviceError := false }
  | .words .. => drawWords { row with updating := true, wordsMessage := [], wordsError := false }

def ends (change : Change) (row : Row) : Row :=
  match change with
  | .stationery .. => { row with pending := none }
  | .signature _ => { row with signaturePending := none }
  | .service _ => { row with servicePending := none }
  | .words .. => drawWords { row with updating := false }

def tells (draftId : Text) (change : Change) (reply : Reply) (shown : Shown) : Shown :=
  match checked draftId change reply with
  | .ok given => made change given shown
  | .error reason => refused change (card.readableError reason) shown

def heard (draftId : Text) (change : Change) (reply : Reply) (shown : Shown) (row : Row) : Row :=
  match checked draftId change reply with
  | .ok given => madeRow change given shown row
  | .error reason => refusedRow change (card.readableError reason) row

def adopts (adopted : Adopted) (busy : Bool) (row : Row) : Bool :=
  (adopted.force || (!busy && !row.restyled)) && adopted.stationery.any fun stationery => isDrawn stationery.theme

def takes (adopted : Adopted) (shown : Shown) : Shown :=
  let drawn := takePage adopted.previewHtml { shown with stationery := adopted.stationery }
  let priced := adoptTerms (termsOf adopted.answer adopted.fit) drawn
  { priced with
    words := match adopted.answer.bodyText, adopted.answer.signOff, adopted.answer.wordsVersion with
      | some bodyText, some signOff, some version => some { bodyText, signOff, version := some version }
      | _, _, _ => shown.words
    signatureOn := if shown.signatureOffered then adopted.signature.getD shown.signatureOn else shown.signatureOn }

def settled (adopted : Adopted) (shown : Shown) (row : Row) : Row :=
  let kept := (adopted.stationery.map fun stationery => keepSlots shown.designs stationery row).getD row
  { kept with
    restyled := if adopted.force then false else row.restyled
    wordsMessage := if (pageOf adopted.previewHtml).isSome && row.wordsMessage == NO_PAGE then [] else row.wordsMessage }

def touches (touch : Touch) (draftId : Option Text) (row : Row) : Row :=
  match touch with
  | .hide => hidden row
  | .hold held => drawWords { row with held }
  | .showWords shownFor current editable =>
    let offered := { row with
      current
      editable := editable && current.isSome && (draftId == some shownFor && (row.rowShown && card.callable)) }
    drawWords (if offered.editable then fillWords offered else offered)
  | .input body signOff =>
    -- The boxes are read only while their words are being set.
    if row.updating then row
    else
      let filled := { row with body, signOff }
      drawWords (if typed filled && !row.wordsTyped && !row.wordsError then { filled with wordsMessage := [] } else filled)
  | .putBack =>
    match row.current with
    | none => row
    | some current =>
      if row.updating then row
      else drawWords { row with
        body := current.bodyText
        signOff := current.signOff
        base := some current
        wordsMessage := []
        wordsError := false }

/-- The editor `createStyle` makes. -/
@[reducible] def style : Editor Text where
  Output := Output
  Press := Press
  Change := Change
  Reply := Reply
  Taken := Adopted
  Touch := Touch
  Shown := Shown
  Rest := Row
  accepts := accepts card
  opened := opened
  reopened := fun output _ row => reopened output row
  redrawn := fun _ shown row => redrawn card shown row
  hidden := hidden
  presses := fun press shown row => (row, presses card press shown row)
  begins := begins
  tells := tells card
  heard := heard card
  ends := ends
  adopts := adopts
  takes := takes
  settled := settled
  touches := fun touch draftId _ row => touches card touch draftId row

end Style
end LetterIRL.Widgets
