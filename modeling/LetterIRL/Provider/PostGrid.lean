import LetterIRL.Content.Drafts
import LetterIRL.Mail.Rows

namespace LetterIRL.Provider

open Lib.Json

/-! What a letter or a postcard given to PostGrid comes to, whatever the drawing and the exchange do. -/

abbrev Text := List Char

inductive ProviderSubmissionOutcome
  | definiteRejection
  | ambiguous
  deriving DecidableEq

def AMBIGUOUS_SUBMISSION_STATUS_CODES : List Nat := [408, 409, 425, 429]

def classifySubmissionOutcome : Option Nat → ProviderSubmissionOutcome
  | none => .ambiguous
  | some statusCode =>
    if 500 ≤ statusCode then .ambiguous
    else if statusCode ∈ AMBIGUOUS_SUBMISSION_STATUS_CODES then .ambiguous
    else if 400 ≤ statusCode then .definiteRejection
    else .ambiguous

structure PostGridRequestError where
  message : Text
  statusCode : Option Nat
  retryable : Bool
  submissionOutcome : ProviderSubmissionOutcome
  deriving DecidableEq

/-- The constructor, without an outcome of its own. -/
def PostGridRequestError.classified (message : Text) (statusCode : Option Nat) (retryable : Bool) : PostGridRequestError :=
  { message, statusCode, retryable, submissionOutcome := classifySubmissionOutcome statusCode }

inductive RefusalReason
  | unknownVersion
  | image
  | overflow
  | size
  | render
  | pages
  | layoutChanged
  deriving DecidableEq

/-- What drawing may throw before anything is sent. -/
inductive DrawError
  | refusal (reason : RefusalReason) (message : Text)
  | error (message : Text)
  deriving DecidableEq

/-- What the two catch blocks are given. -/
inductive Thrown
  | drawing (error : DrawError)
  | request (error : PostGridRequestError)
  deriving DecidableEq

/-- A response's body: when it has all come, if ever, and what it parses to, unless it is cut off or is no JSON. -/
structure Body where
  arrivesAt : Option Nat
  content : Except Text Value

/-- What the transport does with a request: times are in milliseconds from its start. -/
inductive Exchange
  | fails (isError : Bool) (name message : Text)
  | silent
  | responds (headersAt status : Nat) (statusText : Text) (body : Body)

/-- A property read of a value parsed from JSON: none is undefined. -/
def property (key : String) : Value → Option Value
  | .object members => (members.find? fun entry => entry.1 == key.toList).map (·.2)
  | _ => none

def truthy : Value → Bool
  | .null => false
  | .bool value => value
  | .number value => value.text != ['0']
  | .string value => !value.isEmpty
  | .array _ | .object _ => true

mutual

/-- `String(value)`, which throws where a member hides `toString`: no value of JSON can be called. -/
def toText : Value → Option Text
  | .null => some "null".toList
  | .bool value => some (if value then "true".toList else "false".toList)
  | .number value => some value.text
  | .string value => some value
  | .array items => joined items
  | .object members =>
    if members.any fun entry => entry.1 == "toString".toList then none else some "[object Object]".toList

/-- An array's items, with commas between: a null is written as nothing. -/
def joined : List Value → Option Text
  | [] => some []
  | value :: rest =>
    let item := match value with
      | .null => some []
      | _ => toText value
    item.bind fun text => (followed rest).map fun more => text ++ more

def followed : List Value → Option Text
  | [] => some []
  | value :: rest =>
    let item := match value with
      | .null => some []
      | _ => toText value
    item.bind fun text => (followed rest).map fun more => ',' :: (text ++ more)

end

def CANNOT_CONVERT : Text := "Cannot convert object to primitive value".toList

def isUsableSubmissionResponse (payload : Value) : Bool :=
  match property "id" payload, property "status" payload with
  | some (.string id), some (.string status) => !(Content.trim id).isEmpty && !(Content.trim status).isEmpty
  | _, _ => false

def ok (status : Nat) : Bool := decide (200 ≤ status) && decide (status < 300)

def http (status : Nat) (message : Text) : Text := "HTTP ".toList ++ Nat.toDigits 10 status ++ ": ".toList ++ message

def readJsonWithinDeadline (timeoutMs : Nat) (body : Body) : Except Text Value :=
  let late := "PostGrid response body read timed out".toList
  match body.arrivesAt with
  | none => .error late
  | some arrivesAt => if arrivesAt < timeoutMs then body.content else .error late

/-- `errorData?.error?.message`, where the body could be read; else the status's own text. -/
def errorMessage (timeoutMs : Nat) (statusText : Text) (body : Body) : Option Value :=
  match readJsonWithinDeadline timeoutMs body with
  | .ok errorData => (property "error" errorData).bind (property "message")
  | .error _ => some (.string statusText)

/-- The message of an answer that is not ok, which may have no text. -/
def refusalMessage (timeoutMs status : Nat) (statusText : Text) (body : Body) : Value :=
  match (errorMessage timeoutMs statusText body).filter truthy with
  | some message => message
  | none => .string (http status statusText)

/-- What the inner catch makes of an error that is no `PostGridRequestError`. -/
def transportError (timeoutMs : Nat) (isError : Bool) (name message : Text) : PostGridRequestError :=
  if isError && name == "AbortError".toList then
    .classified ("PostGrid request timed out after ".toList ++ Nat.toDigits 10 timeoutMs ++ "ms".toList) none true
  else .classified (if isError then message else "PostGrid network error".toList) none true

/-- One submission: its body is validated as every submission's is. -/
def apiRequest (timeoutMs : Nat) (exchange : Exchange) : Except PostGridRequestError Value :=
  match exchange with
  | .fails isError name message => .error (transportError timeoutMs isError name message)
  | .silent => .error (transportError timeoutMs true "AbortError".toList [])
  | .responds headersAt status statusText body =>
    if timeoutMs ≤ headersAt then .error (transportError timeoutMs true "AbortError".toList [])
    else if ok status then
      match readJsonWithinDeadline timeoutMs body with
      | .error _ => .error {
          message := http status "provider response body was unreadable".toList
          statusCode := some status, retryable := false, submissionOutcome := .ambiguous }
      | .ok payload =>
        if isUsableSubmissionResponse payload then .ok payload
        else .error {
          message := http status "provider response was missing required fields".toList
          statusCode := some status, retryable := false, submissionOutcome := .ambiguous }
    else
      match toText (refusalMessage timeoutMs status statusText body) with
      | some message => .error (.classified (http status message) (some status) (status == 429 || decide (500 ≤ status)))
      -- The template throws a TypeError, which the catch below it takes for the transport's.
      | none => .error (transportError timeoutMs true "TypeError".toList CANNOT_CONVERT)

/-- A `LetterResult` or `PostcardResult`, with the metadata that is read of it. -/
structure SubmissionResult where
  success : Bool
  trackingId : Text := []
  error : Option Text := none
  /-- What the date of delivery is made of. -/
  expectedDeliveryDate : Option Value := none
  status : Option Text := none
  statusCode : Option Nat := none
  retryable : Option Bool := none
  submissionOutcome : Option ProviderSubmissionOutcome := none
  errorClass : Option Text := none

/-- As `completeJob` and `failOrRescheduleJob` read it: what is not said to be a rejection is none. -/
def SubmissionResult.answer (result : SubmissionResult) : Mail.ProviderAnswer :=
  if result.success then .accepted
  else if result.submissionOutcome = some .definiteRejection then .definiteRejection
  else .ambiguous

def includes (phrase : Text) (text : Text) : Bool := text.tails.any phrase.isPrefixOf

/-- `/timeout|timed out|network|fetch failed|econnreset|socket/i` -/
def transient (message : Text) : Bool :=
  (["timeout", "timed out", "network", "fetch failed", "econnreset", "socket"].map String.toList).any fun phrase =>
    includes phrase (message.map Char.toLower)

/-- The outer catch. -/
def failed : Thrown → SubmissionResult
  | .request error => {
      success := false
      error := some error.message
      statusCode := error.statusCode
      retryable := some error.retryable
      submissionOutcome := some error.submissionOutcome }
  | .drawing (.refusal _ message) => {
      success := false
      error := some message
      retryable := some false
      submissionOutcome := some .ambiguous
      errorClass := some "render_refused".toList }
  | .drawing (.error message) => {
      success := false
      error := some message
      retryable := some (transient message)
      submissionOutcome := some .ambiguous }

/-- What is made of a usable answer. A date that has no text throws, as `new Date` does. -/
def taken (payload : Value) : Except Thrown SubmissionResult :=
  let expected := (property "expectedDeliveryDate" payload).filter truthy
  if expected.any fun date => (toText date).isNone then .error (.drawing (.error CANNOT_CONVERT))
  else
    match property "id" payload, property "status" payload with
    | some (.string id), some (.string status) => .ok {
        success := true, trackingId := id, expectedDeliveryDate := expected, status := some status }
    -- No usable answer is without them.
    | _, _ => .error (.drawing (.error CANNOT_CONVERT))

/-- The `try` both submissions share: what is drawn first, with the time it may take, and then the request. -/
def submit (prepared : Except DrawError Nat) (exchange : Exchange) : SubmissionResult :=
  let tried := do
    let timeoutMs ← prepared.mapError Thrown.drawing
    let payload ← (apiRequest timeoutMs exchange).mapError Thrown.request
    taken payload
  match tried with
  | .ok result => result
  | .error thrown => failed thrown

def PDF_UPLOAD_TIMEOUT_MS : Nat := 30000

def RENDERER_VERSION : Text := "pdf-1".toList

def STATIONERY_RENDERER_VERSION : Text := "pdf-2".toList

def POSTCARD_FRONT_RENDERER_VERSION : Text := "pdf-3".toList

def SIGNATURE_RENDERER_VERSION : Text := "pdf-4".toList

def PRINTABLE_RENDERER_VERSIONS : List Text :=
  [RENDERER_VERSION, STATIONERY_RENDERER_VERSION, POSTCARD_FRONT_RENDERER_VERSION, SIGNATURE_RENDERER_VERSION]

/-- The versions this build cannot print a letter or a postcard with. -/
def unprintable (foreign : List Text) (words : Text) (rendererVersion : Option Text) : Except DrawError Unit :=
  match rendererVersion with
  | none => .ok ()
  | some renderer =>
    if renderer ∉ PRINTABLE_RENDERER_VERSIONS then
      .error (.refusal .unknownVersion
        ("This build cannot print renderer version \"".toList ++ renderer ++ "\".".toList))
    else if renderer ∈ foreign then
      .error (.refusal .unknownVersion (words ++ ": renderer version \"".toList ++ renderer ++ "\".".toList))
    else .ok ()

/-- The time a request may take. -/
def budget (timeoutMs : Nat) (rendererVersion : Option Text) : Nat :=
  if rendererVersion.isSome then PDF_UPLOAD_TIMEOUT_MS else timeoutMs

def mailServiceOf : Option Text → Option Text
  | none => none
  | some value => if value = [] ∨ value = "standard".toList then none else some value

def EXTRA_SERVICES : List Text := ["certified".toList, "certified_return_receipt".toList]

structure LetterParams where
  extraService : Option Text
  rendererVersion : Option Text

/-- An extra service PostGrid does not sell. -/
def refusedService (params : LetterParams) : Bool :=
  (mailServiceOf params.extraService).any fun requested => !EXTRA_SERVICES.contains requested

/-- What is done before a letter's request: `draw` is the PDF or the HTML, the contacts and the gift card. -/
def prepareLetter (timeoutMs : Nat) (params : LetterParams) (draw : Except DrawError Unit) : Except DrawError Nat := do
  unprintable [POSTCARD_FRONT_RENDERER_VERSION] "A letter is never drawn with a postcard's front".toList params.rendererVersion
  draw
  .ok (budget timeoutMs params.rendererVersion)

def sendLetter (timeoutMs : Nat) (params : LetterParams) (draw : Except DrawError Unit) (exchange : Exchange) :
    SubmissionResult :=
  if refusedService params then {
    success := false
    error := some "PostGrid does not sell that extra service.".toList
    retryable := some false
    submissionOutcome := some .definiteRejection
    errorClass := some "extra_service_refused".toList }
  else submit (prepareLetter timeoutMs params draw) exchange

def POSTCARD_SIZES : List Text := ["6x4".toList, "6x9".toList, "6x11".toList]

/-- A stored size is what its row holds, of any type. -/
structure PostcardParams where
  size : Option Value
  rendererVersion : Option Text

/-- The text a refusal names a size by. -/
def shownSize : Value → Text
  | .string size => '"' :: size.take 20 ++ ['"']
  | size => (stringify size).take 20

def checkSize (params : PostcardParams) : Except DrawError Unit :=
  match (params.size.filter truthy).getD (.string "6x9".toList) with
  | .string size =>
    if size ∈ POSTCARD_SIZES then .ok ()
    else .error (.refusal .size ("A postcard cannot be printed at size ".toList ++ shownSize (.string size) ++ ".".toList))
  | size => .error (.refusal .size ("A postcard cannot be printed at size ".toList ++ shownSize size ++ ".".toList))

def preparePostcard (timeoutMs : Nat) (params : PostcardParams) (draw : Except DrawError Unit) : Except DrawError Nat := do
  checkSize params
  unprintable [STATIONERY_RENDERER_VERSION, SIGNATURE_RENDERER_VERSION]
    "A postcard is never drawn in stationery or with a signature".toList params.rendererVersion
  draw
  .ok (budget timeoutMs params.rendererVersion)

def sendPostcard (timeoutMs : Nat) (params : PostcardParams) (draw : Except DrawError Unit) (exchange : Exchange) :
    SubmissionResult :=
  submit (preparePostcard timeoutMs params draw) exchange

end LetterIRL.Provider
