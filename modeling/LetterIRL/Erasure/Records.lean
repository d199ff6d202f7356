import LetterIRL.Content.Edits
import LetterIRL.Lib.Runs

namespace LetterIRL.Erasure
open Lib Content Commerce

/-! What an account's records hold of the person, and the calls that write them. -/

/-- `MAX_STATIONERY_DESIGNS`. -/
def MAX_STATIONERY_DESIGNS : Nat := 10

inductive Email
  | address (text : Text)
  /-- `erased-<uuid>@erased.invalid`. -/
  | placeholder (serial : Nat)
  deriving DecidableEq

structure ReturnAddress where
  name : Text
  addressLine1 : Text
  addressLine2 : Option Text
  city : Text
  state : Text
  postalCode : Text
  country : Text
  deriving DecidableEq

/-- The columns of a `users` row that are the person's own. -/
structure UserRow where
  email : Email
  returnAddress : Option ReturnAddress := none
  stationeryTheme : Option Theme := none
  stationeryDesignId : Option Nat := none
  erasedAt : Option Time := none
  deriving DecidableEq

structure RecentUpload where
  imageUrl : Text
  context : Option Text
  updatedAt : Time
  deriving DecidableEq

structure SavedSignature where
  imagePng : List Nat
  width : Nat
  height : Nat
  useByDefault : Bool := true
  deriving DecidableEq

structure StationeryDesign where
  face : Text
  ornament : Text
  ruled : Bool
  tone : Text
  deriving DecidableEq

structure SavedDesign where
  designId : Nat
  name : Text
  design : StationeryDesign
  deriving DecidableEq

structure AddressRequest where
  requestId : Nat
  recipientName : Text
  senderFirstName : Text
  /-- `status = 'waiting'`. -/
  waiting : Bool := true
  createdAt : Time
  expiresAt : Time
  deriving DecidableEq

/-- What a call writes once its checks outside the database are done. -/
inductive Call
  /-- `getOrCreateUser`, past its own check of the row, with the sign-in's address. -/
  | updateUserEmail (email : Text)
  /-- `setReturnAddress`, past the address check. -/
  | saveReturnAddress (address : ReturnAddress)
  | setRecentUploadedImage (imageUrl : Text) (context : Option Text)
  | saveSignature (imagePng : List Nat) (width height : Nat)
  | saveDesign (name : Text) (design : StationeryDesign) (replace : Bool)
  | rememberDesign (designId : Option Nat)
  | rememberStationery (theme : Theme)
  | createAddressRequest (recipientName senderFirstName : Text)
  /-- `setDraftStationery`. -/
  | restyle (draftId : DraftId) (theme : Theme) (designId : Option Nat)
  deriving DecidableEq

/-- The call's write checks `erased_at`, under the account's lock or in its own `WHERE`. -/
def Call.checksErasure : Call → Bool
  | .updateUserEmail _ | .saveReturnAddress _ | .setRecentUploadedImage _ _ => false
  | _ => true

structure Config where
  /-- PostgreSQL's `lower`. -/
  lower : Text → Text := id
  addressRequestWaitingCap : Nat := 10
  addressRequestDailyCap : Nat := 20
  addressRequestLinkDays : Nat := 7

/-- An account's records. -/
structure Records where
  now : Time := 0
  user : UserRow
  recentUpload : Option RecentUpload := none
  signature : Option SavedSignature := none
  designs : List SavedDesign := []
  addressRequests : List AddressRequest := []
  /-- The drafts that may still be changed. -/
  openDrafts : List DraftId := []
  /-- The calls past sign-in that have yet to write. -/
  calls : List Call := []
  /-- An erasure holds the account's row. -/
  erasing : Bool := false

namespace Records

def erased (s : Records) : Bool := s.user.erasedAt.isSome

/-- The remembered design, where it is one the account saved. -/
def remember (s : Records) (designId : Nat) : Records :=
  if s.designs.any (·.designId == designId) then
    { s with user := { s.user with stationeryDesignId := some designId } }
  else s

def rememberTheme (s : Records) (theme : Theme) : Records :=
  { s with user := { s.user with stationeryTheme := some theme, stationeryDesignId := none } }

/-- `saveDesign` of an open account. -/
def saveDesign (cfg : Config) (s : Records) (serial : Nat) (name : Text) (design : StationeryDesign)
    (replace : Bool) : Records :=
  let named := fun saved : SavedDesign => cfg.lower saved.name == cfg.lower name
  if !replace && s.designs.any named then s
  else if s.designs.any named then
    { s with designs := s.designs.map fun saved => if named saved then { saved with name, design } else saved }
  else if MAX_STATIONERY_DESIGNS ≤ s.designs.length then s
  else { s with designs := s.designs ++ [{ designId := serial, name, design }] }

/-- `createAddressRequest` of an open account. -/
def createAddressRequest (cfg : Config) (s : Records) (serial : Nat) (recipientName senderFirstName : Text) : Records :=
  let waiting := s.addressRequests.countP fun request => request.waiting && decide (s.now < request.expiresAt)
  let today := s.addressRequests.countP fun request => decide (s.now < request.createdAt + 24 * 60 * 60)
  if cfg.addressRequestWaitingCap ≤ waiting ∨ cfg.addressRequestDailyCap ≤ today then s
  else { s with addressRequests := s.addressRequests ++
    [{ requestId := serial, recipientName, senderFirstName, createdAt := s.now
       expiresAt := s.now + cfg.addressRequestLinkDays * 24 * 60 * 60 }] }

/-- What a call commits; `serial` names a row it inserts. -/
def write (cfg : Config) (s : Records) (serial : Nat) : Call → Records
  | .updateUserEmail email => { s with user := { s.user with email := .address email } }
  | .saveReturnAddress address => { s with user := { s.user with returnAddress := some address } }
  | .setRecentUploadedImage imageUrl context =>
    { s with recentUpload := some { imageUrl, context, updatedAt := s.now } }
  | .saveSignature imagePng width height =>
    if s.erased then s else { s with signature := some { imagePng, width, height } }
  | .saveDesign name design replace => if s.erased then s else s.saveDesign cfg serial name design replace
  | .rememberDesign designId =>
    if s.erased then s
    else
      match designId with
      | none => { s with user := { s.user with stationeryDesignId := none } }
      | some designId => s.remember designId
  | .rememberStationery theme => if s.erased then s else s.rememberTheme theme
  | .createAddressRequest recipientName senderFirstName =>
    if s.erased then s else s.createAddressRequest cfg serial recipientName senderFirstName
  | .restyle draftId theme designId =>
    if draftId ∉ s.openDrafts ∨ s.erased then s
    else if theme ≠ .custom then s.rememberTheme theme
    else designId.elim s s.remember

/-- The deletes and the tombstone of `eraseAccountWithClient`. -/
def tombstone (s : Records) (serial : Nat) : Records :=
  { s with
    user := { email := .placeholder serial, erasedAt := some s.now }
    recentUpload := none, signature := none, designs := [], addressRequests := [], openDrafts := []
    erasing := false }

end Records

end LetterIRL.Erasure
