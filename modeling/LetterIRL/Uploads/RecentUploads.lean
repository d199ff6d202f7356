import LetterIRL.Lib.Runs

namespace LetterIRL.Uploads
open Lib

/-! `recentUploadStore`, for one user: the most recent upload, in the process's memory and in the user's row. -/

abbrev Text := List Char

/-- An entry of the map, or the row, with the set it is of: the first is one, and zero is a row from before. -/
structure Upload where
  imageUrl : Text
  context : Option Text
  storedAt : Int
  set : Nat
  deriving DecidableEq

/-- A call of `setRecentUploadedImage` that has not returned. -/
structure SetCall where
  set : Nat
  imageUrl : Text
  context : Option Text
  /-- Its statement has taken effect. -/
  written : Bool := false
  deriving DecidableEq

/-- A call of `getRecentUploadedImage` that has not returned. -/
structure GetCall where
  get : Nat
  expected : Option Text
  /-- The last set in the database when it was called, of those that had returned with none in flight. -/
  floor : Nat
  /-- What its statement has read. -/
  read : Option (Option Upload) := none
  deriving DecidableEq

/-- An image a get has returned, and when. -/
structure Answer where
  upload : Upload
  now : Int
  floor : Nat
  deriving DecidableEq

structure RecentUploads where
  memory : Option Upload := none
  row : Option Upload
  sets : List SetCall := []
  gets : List GetCall := []
  setsCalled : Nat := 0
  getsCalled : Nat := 0
  /-- The last set whose statement has taken effect. -/
  reached : Nat := 0
  /-- The same, when last no set was in flight. -/
  settled : Nat := 0
  answers : List Answer := []
  /-- Every set's image and context, in order. -/
  images : List (Text × Option Text)
  /-- When each image was stored: at its call, and in the row. -/
  stored : List (Nat × Int)

inductive UploadEvent
  | setCalled (imageUrl : Text) (context : Option Text) (now : Int)
  /-- A set's statement takes effect, at a time of the database. -/
  | setWritten (call : SetCall) (now : Int)
  /-- A set returns, its statement having succeeded or failed. -/
  | setReturned (call : SetCall)
  | getCalled (expected : Option Text) (prunedAt now : Int)
  | getRead (call : GetCall) (now : Int)
  | getFailed (call : GetCall)
  | getReturned (call : GetCall) (now : Int)
  /-- The timer prunes the map. -/
  | pruned (now : Int)

def matchContext (stored expected : Option Text) : Bool :=
  expected.getD [] = [] ∨ stored.getD [] = [] ∨ stored = expected

namespace RecentUploads
variable (ttlMs : Int) (store : RecentUploads)

/-- Before any call, with the row the database has. -/
def begun (row : Option Upload) : RecentUploads :=
  { row := row.map fun row => { row with set := 0 }
    images := [((row.map (·.imageUrl)).getD [], row.bind (·.context))]
    stored := (row.map fun row => (0, row.storedAt)).toList }

/-- `pruneExpiredRecentUploads`, of the user's entry. -/
def pruneExpired (memory : Option Upload) (now : Int) : Option Upload := memory.filter fun cached => now - cached.storedAt ≤ ttlMs

/-- The entry a get answers from at once. -/
def cachedFor (memory : Option Upload) (expected : Option Text) (now : Int) : Option Upload :=
  memory.filter fun cached => now - cached.storedAt ≤ ttlMs && matchContext cached.context expected

/-- The row a get that has read one answers with, and puts in memory. -/
def readFor (call : GetCall) (now : Int) : Option Upload :=
  (call.read.bind id).filter fun row => now - row.storedAt ≤ ttlMs && matchContext row.context call.expected

def setCalled (imageUrl : Text) (context : Option Text) (now : Int) : RecentUploads :=
  let set := store.setsCalled + 1
  { store with
    memory := some { imageUrl, context, storedAt := now, set }
    sets := store.sets ++ [{ set, imageUrl, context }]
    setsCalled := set
    images := store.images ++ [(imageUrl, context)]
    stored := store.stored ++ [(set, now)] }

def setWritten (call : SetCall) (now : Int) : RecentUploads :=
  { store with
    row := some { imageUrl := call.imageUrl, context := call.context, storedAt := now, set := call.set }
    sets := store.sets.erase call ++ [{ call with written := true }]
    reached := max store.reached call.set
    stored := store.stored ++ [(call.set, now)] }

def setReturned (call : SetCall) : RecentUploads :=
  let sets := store.sets.erase call
  { store with sets, settled := if sets = [] then store.reached else store.settled }

def getCalled (expected : Option Text) (prunedAt now : Int) : RecentUploads :=
  let memory := pruneExpired ttlMs store.memory prunedAt
  match cachedFor ttlMs memory expected now with
  | some cached => { store with memory, answers := store.answers ++ [{ upload := cached, now, floor := store.settled }] }
  | none =>
    { store with
      memory := pruneExpired ttlMs memory now
      gets := store.gets ++ [{ get := store.getsCalled, expected, floor := store.settled }]
      getsCalled := store.getsCalled + 1 }

def getRead (call : GetCall) (now : Int) : RecentUploads :=
  { store with gets := store.gets.erase call ++ [{ call with read := some (store.row.filter fun row => now - ttlMs < row.storedAt) }] }

def getReturned (call : GetCall) (now : Int) : RecentUploads :=
  let gets := store.gets.erase call
  match readFor ttlMs call now with
  | some row => { store with gets, memory := some row, answers := store.answers ++ [{ upload := row, now, floor := call.floor }] }
  | none => { store with gets }

/-- One event; an error where it cannot come. -/
def step : UploadEvent → Except Unit RecentUploads
  | .setCalled imageUrl context now => .ok (store.setCalled imageUrl context now)
  | .setWritten call now => if call ∈ store.sets ∧ call.written = false then .ok (store.setWritten call now) else .error ()
  | .setReturned call => if call ∈ store.sets then .ok (store.setReturned call) else .error ()
  | .getCalled expected prunedAt now => .ok (store.getCalled ttlMs expected prunedAt now)
  | .getRead call now => if call ∈ store.gets ∧ call.read = none then .ok (store.getRead ttlMs call now) else .error ()
  | .getFailed call => if call ∈ store.gets then .ok { store with gets := store.gets.erase call } else .error ()
  | .getReturned call now => if call ∈ store.gets ∧ call.read ≠ none then .ok (store.getReturned ttlMs call now) else .error ()
  | .pruned now => .ok { store with memory := pruneExpired ttlMs store.memory now }

/-- Sets' statements take effect in the order of their calls, and a get puts in memory no row older than a set that is in
flight or in the database. -/
def InOrder : UploadEvent → Prop
  | .setWritten call _ => store.reached < call.set
  | .getReturned call now => ∀ row, readFor ttlMs call now = some row →
      store.reached ≤ row.set ∧ ∀ other ∈ store.sets, other.set ≤ row.set
  | _ => True

end RecentUploads

end LetterIRL.Uploads
