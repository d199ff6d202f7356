import LetterIRL.Lib.Editing

namespace LetterIRL.Widgets

open Lib

/-! The Arrives row: the date a draft is to arrive by, set from the card. -/

abbrev Text := List Char

/-- What a card gives its editors: whether its host can call tools, and how it reads an error out. -/
structure Host where
  callable : Bool
  readableError : Text → Text

def isCalendarDate (value : Text) : Bool :=
  value.length == 10 && (value.zip "0000-00-00".toList).all fun (c, place) => if place == '-' then c == '-' else c.isDigit

def isDate (value : Option Text) : Bool := value.any isCalendarDate

namespace Arrives

def KEY_CHANGE_MS : Nat := 200

/-- Dates as an answer names them. -/
structure Dates where
  arriveBy : Option Text := none
  mailOn : Option Text := none
  earliestArrival : Option Text := none
  latestArrival : Option Text := none
  deriving DecidableEq

structure Schedule where
  arriveBy : Text
  mailOn : Text
  deriving DecidableEq

def scheduleOf (value : Option Dates) : Option Schedule :=
  match value with
  | some { arriveBy := some arriveBy, mailOn := some mailOn, .. } =>
    if isCalendarDate arriveBy && isCalendarDate mailOn then some { arriveBy, mailOn } else none
  | _ => none

/-- The date in brackets after a phrase, at its first place that has one. -/
def boundAfter (phrase : Text) : Text → Option Text
  | [] => none
  | c :: rest =>
    let bracket := ((c :: rest).drop phrase.length).dropWhile (· != '(')
    let date := (bracket.drop 1).take 10
    if phrase.isPrefixOf (c :: rest) && (isCalendarDate date && (bracket.drop 11).head? == some ')') then some date
    else boundAfter phrase rest

structure Bounds where
  earliest : Option Text
  latest : Option Text
  deriving DecidableEq

def boundsFromRefusal (text : Text) : Bounds where
  earliest := boundAfter "earliest this can arrive is ".toList text
  latest := boundAfter "latest arrival date on offer is ".toList text

/-- What the note says of a date that was not set. -/
inductive Message
  | nothing
  | said (text : Text)
  | earliestNow (date : Text)
  | latestIs (date : Text)
  deriving DecidableEq

def Message.text (describeDate : Text → Text) : Message → Text
  | nothing => []
  | said text => text
  | earliestNow date =>
    "That date can't be met any more. The earliest on offer is now ".toList ++ describeDate date ++ ".".toList
  | latestIs date => "That date is too far ahead. The latest on offer is ".toList ++ describeDate date ++ ".".toList

/-- The picker's state, without the draft, the dates and `busy`. -/
structure Row where
  rowShown : Bool := false
  min : Text := []
  max : Text := []
  pending : Option Text := none
  message : Message := .nothing
  error : Bool := false
  set : Bool := false
  typing : Bool := false
  keyAt : Nat := 0
  deriving DecidableEq

/-- A preview of the card's draft. -/
structure Output where
  enabled : Bool
  arrivalWindow : Option Dates
  schedule : Option Dates
  deriving DecidableEq

/-- What the person does at the row, with the field's value and whether the card may change the draft. -/
inductive Press
  | keydown (enter : Bool) (timeStamp : Nat) (value : Text) (idle : Bool)
  | blur (value : Text) (idle : Bool)
  | change (timeStamp : Nat) (value : Text) (idle : Bool)
  | asap (idle : Bool)
  deriving DecidableEq

structure Result where
  isError : Bool := false
  resultText : Text := []
  schedule : Option Dates := none
  deriving DecidableEq

inductive Reply
  | result (given : Result)
  | rejected (reason : Text)
  deriving DecidableEq

structure Adopted where
  schedule : Option Dates
  force : Bool
  deriving DecidableEq

variable (host : Host)

/-- The error of a refusal, a rejection or neither. -/
def Reply.error : Reply → Option Text
  | .rejected reason => some (host.readableError reason)
  | .result given =>
    if given.isError then
      some (host.readableError (if given.resultText = [] then "The date was not changed.".toList else given.resultText))
    else none

/-- `show` draws the row for these. -/
def accepts (draftId : Text) (output : Output) : Bool :=
  (output.enabled && !draftId.isEmpty) && (host.callable &&
    output.arrivalWindow.any fun offered => isDate offered.earliestArrival && isDate offered.latestArrival)

def reopened (output : Output) (row : Row) : Row :=
  { row with
    typing := false
    min := (output.arrivalWindow.bind (·.earliestArrival)).getD []
    max := (output.arrivalWindow.bind (·.latestArrival)).getD []
    pending := none
    message := .nothing
    error := false
    set := false }

/-- What `set` is asked for; a draft and no wait it looks for itself. -/
def wanted (idle : Bool) (arriveBy : Option Text) : Option (Option Text) :=
  if host.callable && idle then some arriveBy else none

def commit (value : Text) (idle : Bool) (schedule : Option Schedule) : Option (Option Text) :=
  if isCalendarDate value = false then none
  else if schedule.map (·.arriveBy) = some value then none
  else wanted host idle (some value)

def presses (press : Press) (schedule : Option Schedule) (row : Row) : Row × Option (Option Text) :=
  match press with
  | .keydown true timeStamp value idle =>
    if row.typing then ({ row with keyAt := timeStamp, typing := false }, commit host value idle schedule)
    else ({ row with keyAt := timeStamp }, none)
  | .keydown false timeStamp _ _ => ({ row with keyAt := timeStamp, typing := true }, none)
  | .blur value idle => if row.typing then ({ row with typing := false }, commit host value idle schedule) else (row, none)
  | .change timeStamp value idle =>
    if row.typing ∧ timeStamp < row.keyAt + KEY_CHANGE_MS then (row, none)
    else ({ row with typing := false }, commit host value idle schedule)
  | .asap idle => if schedule.isSome then (row, wanted host idle none) else (row, none)

def begins (arriveBy : Option Text) (row : Row) : Row :=
  { row with pending := some (arriveBy.getD []), message := .nothing, error := false }

/-- The dates a successful set answers with. -/
def tells (reply : Reply) (schedule : Option Schedule) : Option Schedule :=
  match reply.error host, reply with
  | none, .result result => scheduleOf result.schedule
  | _, _ => schedule

/-- A successful set names the dates on offer now; a refusal may name one of them. -/
def heard (reply : Reply) (row : Row) : Row :=
  match reply.error host, reply with
  | none, .result result =>
    match result.schedule with
    | some { earliestArrival := some earliest, latestArrival := some latest, .. } =>
      if isCalendarDate earliest && isCalendarDate latest then { row with set := true, min := earliest, max := latest }
      else { row with set := true }
    | _ => { row with set := true }
  | none, .rejected _ => row
  | some text, _ =>
    let bounds := boundsFromRefusal text
    { row with
      min := bounds.earliest.getD row.min
      max := bounds.latest.getD row.max
      error := true
      message := match bounds.earliest, bounds.latest with
        | some earliest, _ => .earliestNow earliest
        | none, some latest => .latestIs latest
        | none, none => .said text }

/-- The picker `createPicker` makes; a change is of the date to arrive by, or to none. -/
@[reducible] def picker : Editor Text where
  Output := Output
  Press := Press
  Change := Option Text
  Reply := Reply
  Taken := Adopted
  Touch := Unit
  Shown := Option Schedule
  Rest := Row
  accepts := accepts host
  opened := fun output => scheduleOf output.schedule
  reopened := fun output _ row => reopened output row
  redrawn := fun _ _ row => { row with rowShown := true }
  hidden := fun row => { row with rowShown := false }
  presses := presses host
  begins := begins
  tells := fun _ _ reply schedule => tells host reply schedule
  heard := fun _ _ reply _ row => heard host reply row
  ends := fun _ row => { row with pending := none }
  adopts := fun adopted busy row => adopted.force || (!busy && !row.set)
  takes := fun adopted _ => scheduleOf adopted.schedule
  settled := fun adopted _ row => if adopted.force then { row with set := false } else row
  touches := fun _ _ _ row => { row with rowShown := false }

/-- A date the field already stands for is not asked for again, nor one that is not a date. -/
theorem commit_new {value : Text} {idle : Bool} {schedule : Option Schedule} {change : Option Text}
    (asked : commit host value idle schedule = some change) :
    change = some value ∧ isCalendarDate value = true ∧ schedule.map (·.arriveBy) ≠ some value := by
  unfold commit at asked
  split at asked
  · nomatch asked
  · rename_i date
    split at asked
    · nomatch asked
    · rename_i other
      unfold wanted at asked
      split at asked
      · exact ⟨(Option.some.inj asked).symm, Bool.not_eq_false _ ▸ date, other⟩
      · nomatch asked

end Arrives
end LetterIRL.Widgets
