import LetterIRL.Lib.Runs

namespace LetterIRL.Uploads.TempImages

open Lib

/-! `tempImageStore` in bucket mode: calls of any accounts, their object requests one at a time. -/

abbrev Buffer := List UInt8

/-- Milliseconds. -/
abbrev Time := Nat

def TTL_MS : Time := 15 * 60 * 1000

def UPLOADED_PHOTO_TTL_MS : Time := TTL_MS

/-- `OBJECT_PREFIX` and `UPLOADED_PHOTO_PREFIX`. -/
inductive Folder
  | tempImages
  | uploadedPhotos
  deriving DecidableEq

structure ObjectKey where
  folder : Folder
  name : List Char
  deriving DecidableEq

/-- An object of the bucket; `put` numbers the request that put it there. -/
structure StoredObject where
  body : Buffer
  expiresAt : Time
  lastModified : Time
  put : Nat
  deriving DecidableEq

/-- A call between two of its object requests. `started` is the object that stood under the key, not expired, when a get
was called. -/
inductive Call
  | storing (key : ObjectKey) (body : Buffer) (expiresAt : Time)
  | getting (key : ObjectKey) (started : Option StoredObject)
  | fetched (key : ObjectKey) (started : Option StoredObject) (object : StoredObject) (readAt : Time)
  | dropping (key : ObjectKey) (started : Option StoredObject) (seen : Nat)
  | deleting (key : ObjectKey) (issued : Nat)
  | listing (startedAt : Time) (folders : List Folder)
  | clearing (startedAt : Time) (queue : List (ObjectKey × Nat)) (more : Bool) (folders : List Folder)
  deriving DecidableEq

/-- What a get has returned, with the object it read and when. -/
structure Answer where
  started : Option StoredObject
  result : Option Buffer
  read : Option (StoredObject × Time) := none
  deriving DecidableEq

/-- The bucket and the calls under way. `standing` is the last object put under a key, until a delete called after it
runs. -/
structure World where
  now : Time := 0
  objects : ObjectKey → Option StoredObject := fun _ => none
  standing : ObjectKey → Option StoredObject := fun _ => none
  puts : Nat := 0
  calls : Nat → Option Call := fun _ => none
  answers : List Answer := []

namespace World

variable (world : World)

def setCall (id : Nat) (call : Option Call) : World := { world with calls := Function.update world.calls id call }

/-- A `PutObjectCommand`. -/
def putObject (key : ObjectKey) (body : Buffer) (expiresAt : Time) : World :=
  let object : StoredObject := { body, expiresAt, lastModified := world.now, put := world.puts }
  { world with
    objects := Function.update world.objects key (some object)
    standing := Function.update world.standing key (some object)
    puts := world.puts + 1 }

/-- A `DeleteObjectCommand` of a get or of the clean-up. -/
def dropObject (key : ObjectKey) : World := { world with objects := Function.update world.objects key none }

/-- A `DeleteObjectCommand` of `deleteUploadedPhoto`: what was put before the call no longer stands. -/
def removeObject (key : ObjectKey) (issued : Nat) : World :=
  { world.dropObject key with
    standing := Function.update world.standing key ((world.standing key).filter fun object => !decide (object.put < issued)) }

/-- The object that stands under a key and has not expired. -/
def live (key : ObjectKey) : Option StoredObject := (world.standing key).filter fun object => decide (world.now < object.expiresAt)

def answer (id : Nat) (answer : Answer) : World := { world.setCall id none with answers := world.answers ++ [answer] }

/-- What a page of the listing gives the clean-up to delete. -/
def stale (startedAt : Time) (page : List ObjectKey) : List (ObjectKey × Nat) :=
  page.filterMap fun key => (world.objects key).bind fun object =>
    if startedAt < object.lastModified + TTL_MS then none else some (key, object.put)

end World

/-- Where the clean-up goes when a page is cleared. -/
def nextPage (startedAt : Time) (more : Bool) (folders : List Folder) : Option Call :=
  match if more then folders else folders.tail with
  | [] => none
  | left => some (.listing startedAt left)

def afterClear (startedAt : Time) (queue : List (ObjectKey × Nat)) (more : Bool) (folders : List Folder) : Option Call :=
  match queue with
  | [] => nextPage startedAt more folders
  | left => some (.clearing startedAt left more folders)

/-- A call begins, one of its object requests runs, or its answer is handled; `fail` is a request that was refused. -/
inductive Event
  | tick (elapsed : Time)
  | storeImage (id : Nat) (token : List Char) (body : Buffer)
  | storeUploadedPhoto (id : Nat) (userId : List Char) (body : Buffer)
  | put (id : Nat)
  | getImage (id : Nat) (token : List Char)
  | getUploadedPhoto (id : Nat) (userId : List Char)
  | fetch (id : Nat)
  | check (id : Nat)
  | drop (id : Nat)
  | deleteUploadedPhoto (id : Nat) (userId : List Char)
  | remove (id : Nat)
  | cleanupExpiredImages (id : Nat)
  | list (id : Nat) (page : List ObjectKey) (more : Bool)
  | clear (id : Nat)
  | fail (id : Nat)
  deriving DecidableEq

section Steps

variable (digest : List Char → List Char) (world : World)

/-- An account's key, by a digest of its id. -/
def uploadedPhotoKey (userId : List Char) : ObjectKey := { folder := .uploadedPhotos, name := digest userId }

def objectKey (token : List Char) : ObjectKey := { folder := .tempImages, name := token }

def next : Event → Option World
  | .tick elapsed => some { world with now := world.now + elapsed }
  | .storeImage id token body =>
    if world.calls id = none then some (world.setCall id (some (.storing (objectKey token) body (world.now + TTL_MS)))) else none
  | .storeUploadedPhoto id userId body =>
    if world.calls id = none then
      some (world.setCall id (some (.storing (uploadedPhotoKey digest userId) body (world.now + UPLOADED_PHOTO_TTL_MS))))
    else none
  | .put id =>
    match world.calls id with
    | some (.storing key body expiresAt) => some ((world.putObject key body expiresAt).setCall id none)
    | _ => none
  | .getImage id token =>
    if world.calls id = none then some (world.setCall id (some (.getting (objectKey token) (world.live (objectKey token))))) else none
  | .getUploadedPhoto id userId =>
    let key := uploadedPhotoKey digest userId
    if world.calls id = none then some (world.setCall id (some (.getting key (world.live key)))) else none
  | .fetch id =>
    match world.calls id with
    | some (.getting key started) =>
      match world.objects key with
      | none => some (world.answer id { started, result := none })
      | some object => some (world.setCall id (some (.fetched key started object world.now)))
    | _ => none
  | .check id =>
    match world.calls id with
    | some (.fetched key started object readAt) =>
      if object.expiresAt ≤ world.now then some (world.setCall id (some (.dropping key started object.put)))
      else some (world.answer id { started, result := some object.body, read := some (object, readAt) })
    | _ => none
  | .drop id =>
    match world.calls id with
    | some (.dropping key started _) => some ((world.dropObject key).answer id { started, result := none })
    | _ => none
  | .deleteUploadedPhoto id userId =>
    if world.calls id = none then some (world.setCall id (some (.deleting (uploadedPhotoKey digest userId) world.puts))) else none
  | .remove id =>
    match world.calls id with
    | some (.deleting key issued) => some ((world.removeObject key issued).setCall id none)
    | _ => none
  | .cleanupExpiredImages id =>
    if world.calls id = none then some (world.setCall id (some (.listing world.now [.tempImages, .uploadedPhotos]))) else none
  | .list id page more =>
    match world.calls id with
    | some (.listing startedAt (folder :: folders)) =>
      if page.all fun key => key.folder == folder && (world.objects key).isSome then
        some (world.setCall id (afterClear startedAt (world.stale startedAt page) more (folder :: folders)))
      else none
    | _ => none
  | .clear id =>
    match world.calls id with
    | some (.clearing startedAt ((key, _) :: queue) more folders) =>
      some ((world.dropObject key).setCall id (afterClear startedAt queue more folders))
    | _ => none
  | .fail id => some (world.setCall id none)

/-- One event, or one that cannot be. -/
def step (event : Event) : Except Unit World :=
  match next digest world event with
  | some after => .ok after
  | none => .error ()

/-- A delete request finds no object put since it was decided on, and a get's requests run while the object it began
with still stands. -/
def Undisturbed : Event → Prop
  | .fetch id => ∀ key object, world.calls id = some (.getting key (some object)) → world.live key = some object
  | .check id => ∀ key object found readAt, world.calls id = some (.fetched key (some object) found readAt) →
      world.now < object.expiresAt
  | .drop id => ∀ key started seen, world.calls id = some (.dropping key started seen) →
      ∀ object, world.objects key = some object → object.put = seen
  | .remove id => ∀ key issued, world.calls id = some (.deleting key issued) →
      ∀ object, world.objects key = some object → object.put < issued
  | .clear id => ∀ startedAt key seen queue more folders,
      world.calls id = some (.clearing startedAt ((key, seen) :: queue) more folders) →
      ∀ object, world.objects key = some object → object.put = seen
  | _ => True

end Steps

end LetterIRL.Uploads.TempImages
