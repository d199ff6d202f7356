import LetterIRL.Lib.Runs
import LetterIRL.Commerce.Rows

namespace LetterIRL.Photos
open Lib Commerce

/-! `photoUploadService`: a photo sent in chunks, held in memory until its last. -/

/-- 512 Ki characters of base64. -/
def MAX_CHUNK_CHARS : Nat := 512 * 1024
def MAX_CHUNKS : Nat := 24
def MAX_PHOTO_BYTES : Nat := 8 * 1024 * 1024
def UPLOAD_WINDOW_MS : Nat := 10 * 60 * 1000
/-- The longest an upload may go without a chunk. -/
def CHUNK_IDLE_MS : Nat := 2 * 60 * 1000
def MAX_PENDING_BYTES : Nat := 64 * 1024 * 1024
def DAY_MS : Nat := 24 * 60 * 60 * 1000

abbrev UploadId := List Char
abbrev Bytes := List UInt8

inductive PhotoContext
  | postcard
  | headerImage
  | inlineImage
  deriving DecidableEq

/-- `CONTEXTS`, by their texts. -/
def PhotoContext.ofText : List Char → Option PhotoContext
  | text =>
    if text = "postcard".toList then some .postcard
    else if text = "header_image".toList then some .headerImage
    else if text = "inline_image".toList then some .inlineImage
    else none

/-- A call's input; its numbers are whole. -/
structure PhotoChunkInput where
  uploadId : UploadId
  index : Int
  total : Int
  data : List Char
  context : Option (List Char) := none
  deriving DecidableEq

structure PhotoChunkResult where
  uploadId : UploadId
  received : Nat
  total : Nat
  /-- Of a photo that is done. -/
  size : Option (Nat × Nat) := none
  deriving DecidableEq

/-- The codes of `PhotoUploadRefusedError` this service gives. -/
inductive RefusalCode
  | badChunk
  | outOfOrder
  | tooLarge
  | dailyLimit
  | busy
  | stillSaving
  deriving DecidableEq

def RefusalCode.message : RefusalCode → String
  | .badChunk => "That upload could not be read. Choose the photo again."
  | .outOfOrder => "That upload was interrupted. Choose the photo again."
  | .tooLarge => "That photo is too large to upload. Choose a smaller one."
  | .dailyLimit =>
    "This account has uploaded as many photos as it can today. Please try again tomorrow, or use a link to the photo."
  | .busy => "Photo uploads are busy right now. Please try again in a minute."
  | .stillSaving => "Your last photo is still being saved. Please try again in a moment."

def isHexDigit (c : Char) : Bool := c.isDigit || ('a' ≤ c && c ≤ 'f') || ('A' ≤ c && c ≤ 'F')

/-- `UPLOAD_ID_SHAPE`. -/
def uploadIdShaped (uploadId : UploadId) : Bool :=
  uploadId.length == 36 && uploadId.zipIdx.all fun (c, place) =>
    if place ∈ [8, 13, 18, 23] then c == '-' else isHexDigit c

/-- The value of a base64 character; `=` and any other have none. -/
def base64Value (c : Char) : Option Nat :=
  if 'A' ≤ c ∧ c ≤ 'Z' then some (c.toNat - 'A'.toNat)
  else if 'a' ≤ c ∧ c ≤ 'z' then some (c.toNat - 'a'.toNat + 26)
  else if '0' ≤ c ∧ c ≤ '9' then some (c.toNat - '0'.toNat + 52)
  else if c = '+' then some 62
  else if c = '/' then some 63
  else none

/-- `BASE64_SHAPE`: base64 characters, then at most two `=`. -/
def base64Shaped (data : List Char) : Bool :=
  let padding := data.dropWhile fun c => (base64Value c).isSome
  padding.length ≤ 2 && padding.all (· == '=')

/-- `Buffer.from(data, 'base64')` of data of that shape. -/
def decodeBase64 : List Char → Bytes
  | a :: b :: c :: d :: rest =>
    match base64Value a, base64Value b, base64Value c, base64Value d with
    | some a, some b, some c, some d =>
      UInt8.ofNat (a * 4 + b / 16) :: UInt8.ofNat (b % 16 * 16 + c / 4) :: UInt8.ofNat (c % 4 * 64 + d) ::
        decodeBase64 rest
    | some a, some b, some c, none => [UInt8.ofNat (a * 4 + b / 16), UInt8.ofNat (b % 16 * 16 + c / 4)]
    | some a, some b, none, _ => [UInt8.ofNat (a * 4 + b / 16)]
    | _, _, _, _ => []
  | _ => []

def PhotoChunkInput.bytes (input : PhotoChunkInput) : Bytes := decodeBase64 input.data

structure PendingUpload where
  userId : UserId
  uploadId : UploadId
  total : Int
  context : Option PhotoContext
  chunks : List Bytes
  bytes : Nat
  startedAtMs : Nat
  /-- When its last chunk came. -/
  lastChunkAtMs : Nat
  deriving DecidableEq

/-- A photo being checked and kept; `kept` once the private store has it. -/
structure Finishing where
  userId : UserId
  uploadId : UploadId
  total : Int
  context : Option PhotoContext
  photo : Bytes
  atMs : Nat
  kept : Bool := false
  deriving DecidableEq

structure Finished where
  userId : UserId
  result : PhotoChunkResult
  atMs : Nat
  deriving DecidableEq

/-- A photo the private store was given. -/
structure KeptPhoto where
  userId : UserId
  uploadId : UploadId
  total : Int
  photo : Bytes
  deriving DecidableEq

structure Store where
  nowMs : Nat := 0
  pending : Table PendingUpload.userId := Table.empty
  /-- Each account's starts that may still count against its day. -/
  startedAt : List (UserId × Nat) := []
  finishing : Table Finishing.userId := Table.empty
  finished : Table Finished.userId := Table.empty
  /-- Every upload started, and every photo kept, so far. -/
  starts : List (UserId × Nat) := []
  photos : List KeptPhoto := []

def pendingBytes (s : Store) : Nat :=
  total PendingUpload.bytes s.pending.rows + total (fun finish => finish.photo.length) s.finishing.rows

/-- An upload too old, or too long without a chunk. -/
def PendingUpload.expired (nowMs : Nat) (upload : PendingUpload) : Bool :=
  UPLOAD_WINDOW_MS < nowMs - upload.startedAtMs || CHUNK_IDLE_MS < nowMs - upload.lastChunkAtMs

/-- `nowMs - at < DAY_MS`. -/
def recent (nowMs : Nat) (start : UserId × Nat) : Bool := nowMs - start.2 < DAY_MS

def dropExpired (s : Store) : Store :=
  { s with
    pending := s.pending.filter fun upload => !upload.expired s.nowMs
    finished := s.finished.filter fun done => !decide (UPLOAD_WINDOW_MS < s.nowMs - done.atMs)
    startedAt := s.startedAt.filter (recent s.nowMs) }

/-- The account's starts of the last day. -/
def recentStarts (s : Store) (userId : UserId) : List (UserId × Nat) :=
  s.startedAt.filter fun start => start.1 == userId && recent s.nowMs start

def checkShape (input : PhotoChunkInput) : Except RefusalCode (Option PhotoContext) :=
  if !uploadIdShaped input.uploadId then .error .badChunk
  else if input.total < 1 ∨ (MAX_CHUNKS : Int) < input.total then .error .tooLarge
  else if input.index < 0 ∨ input.total ≤ input.index then .error .badChunk
  else if input.data = [] ∨ MAX_CHUNK_CHARS < input.data.length then .error .badChunk
  else if input.data.length % 4 ≠ 0 || !base64Shaped input.data then .error .badChunk
  else
    match input.context with
    | none => .ok none
    | some text =>
      match PhotoContext.ofText text with
      | none => .error .badChunk
      | some context => .ok (some context)

/-- What a call comes to: a refusal, an answer, or the answer of the finish in flight. -/
inductive Outcome
  | refused (code : RefusalCode)
  | answered (result : PhotoChunkResult)
  | awaits
  deriving DecidableEq

/-- A new upload of the account, in place of the one in progress. -/
def startUpload (limit : Nat) (s : Store) (userId : UserId) (input : PhotoChunkInput) (context : Option PhotoContext) :
    Store × Except RefusalCode PendingUpload :=
  if (s.finishing.find userId).isSome then (s, .error .stillSaving)
  else
    let dropped := { s with pending := s.pending.erase userId }
    if limit ≤ (recentStarts dropped userId).length then (dropped, .error .dailyLimit)
    else if MAX_PENDING_BYTES < pendingBytes dropped + input.data.length then (dropped, .error .busy)
    else
      let upload : PendingUpload :=
        { userId, uploadId := input.uploadId, total := input.total, context, chunks := [], bytes := 0,
          startedAtMs := s.nowMs, lastChunkAtMs := s.nowMs }
      ({ dropped with
          pending := dropped.pending.set upload
          startedAt := dropped.startedAt ++ [(userId, s.nowMs)]
          starts := (userId, s.nowMs) :: s.starts }, .ok upload)

/-- The last chunk: the photo is the account's finish in flight. -/
def finishUpload (s : Store) (upload : PendingUpload) : Store :=
  { s with
    pending := s.pending.erase upload.userId
    finishing := s.finishing.set
      { userId := upload.userId, uploadId := upload.uploadId, total := upload.total, context := upload.context,
        photo := upload.chunks.flatten, atMs := s.nowMs } }

/-- The chunk, of the account's upload `upload`. -/
def takeChunk (s : Store) (upload : PendingUpload) (input : PhotoChunkInput) : Store × Outcome :=
  if upload.uploadId ≠ input.uploadId ∨ upload.total ≠ input.total then (s, .refused .outOfOrder)
  else if input.index = (upload.chunks.length : Int) - 1 then
    -- A chunk sent again is the card still there.
    ({ s with pending := s.pending.set { upload with lastChunkAtMs := s.nowMs } },
      .answered { uploadId := upload.uploadId, received := upload.chunks.length, total := upload.total.toNat })
  else
    let dropped := { s with pending := s.pending.erase upload.userId }
    if input.index ≠ upload.chunks.length then (dropped, .refused .outOfOrder)
    else if MAX_PHOTO_BYTES < upload.bytes + input.bytes.length then (dropped, .refused .tooLarge)
    else if MAX_PENDING_BYTES < pendingBytes s + input.bytes.length then (dropped, .refused .busy)
    else
      let grown := { upload with
        chunks := upload.chunks ++ [input.bytes]
        bytes := upload.bytes + input.bytes.length
        lastChunkAtMs := s.nowMs }
      if (grown.chunks.length : Int) < grown.total then
        ({ s with pending := s.pending.set grown },
          .answered { uploadId := grown.uploadId, received := grown.chunks.length, total := grown.total.toNat })
      else (finishUpload s grown, .awaits)

/-- `receivePhotoChunk`; `limit` is `dailyPhotoUploadsPerAccount()`. -/
def receivePhotoChunk (limit : Nat) (s : Store) (userId : UserId) (input : PhotoChunkInput) : Store × Outcome :=
  match checkShape input with
  | .error code => (s, .refused code)
  | .ok context =>
    let s := dropExpired s
    if (s.finishing.find userId).any fun finish => finish.uploadId == input.uploadId then (s, .awaits)
    else
      match (s.finished.find userId).filter fun done => done.result.uploadId == input.uploadId with
      | some done => (s, .answered done.result)
      | none =>
        let current := s.pending.find userId
        if input.index = 0 ∧ current.map PendingUpload.uploadId ≠ some input.uploadId then
          match startUpload limit s userId input context with
          | (s, .error code) => (s, .refused code)
          | (s, .ok upload) => takeChunk s upload input
        else
          match current with
          | none => (s, .refused .outOfOrder)
          | some upload => takeChunk s upload input

/-- `storeUploadedPhoto` of the finish in flight, which passed its inspection. -/
def keepPhoto (s : Store) (userId : UserId) : Store :=
  match s.finishing.find userId with
  | none => s
  | some finish =>
    if finish.kept then s
    else { s with
      finishing := s.finishing.set { finish with kept := true }
      photos := { userId, uploadId := finish.uploadId, total := finish.total, photo := finish.photo } :: s.photos }

/-- The finish settles: off the record, and remembered as finished unless it failed. -/
def settleFinish (s : Store) (userId : UserId) (size : Option (Nat × Nat)) : Store :=
  match s.finishing.find userId with
  | none => s
  | some finish =>
    let settled := { s with finishing := s.finishing.erase userId }
    match size with
    | none => settled
    | some size =>
      if !finish.kept then s
      else { settled with
        finished := s.finished.set
          { userId, atMs := finish.atMs,
            result := { uploadId := finish.uploadId, received := finish.total.toNat, total := finish.total.toNat,
                        size := some size } } }

/-- What happens to the store: time, a call, and the steps of a finish, in any order. -/
inductive Event
  | tick (elapsed : Nat)
  | chunk (userId : UserId) (input : PhotoChunkInput)
  | keeps (userId : UserId)
  | settles (userId : UserId) (size : Option (Nat × Nat))
  deriving DecidableEq

def step (limit : Nat) (s : Store) : Event → Store
  | .tick elapsed => { s with nowMs := s.nowMs + elapsed }
  | .chunk userId input => (receivePhotoChunk limit s userId input).1
  | .keeps userId => keepPhoto s userId
  | .settles userId size => settleFinish s userId size

/-- The store after a history of events. -/
def after (limit : Nat) (events : List Event) : Store := events.foldl (step limit) {}

end LetterIRL.Photos
