import LetterIRL.Layout.Wrap

namespace LetterIRL.Guards
open Layout (Text isWhitespace)

/-! `totp.ts`: a six-digit code against the steps around a time. -/

abbrev Bytes := List (BitVec 8)

/-- What the code takes from the language and Node: `toUpperCase`, and the twenty bytes of
`createHmac("sha1", secret).update(message).digest()`. -/
structure Platform where
  toUpperCase : Text → Text
  hmacSha1 : Bytes → Bytes → Bytes

/-- `BASE32_ALPHABET.indexOf(character)`. -/
def base32Index (unit : Nat) : Option Nat :=
  if 65 ≤ unit ∧ unit ≤ 90 then some (unit - 65)
  else if 50 ≤ unit ∧ unit ≤ 55 then some (unit - 24)
  else none

/-- What `decodeBase32`'s loop keeps. -/
structure Base32State where
  bytes : Bytes := []
  bits : Nat := 0
  value : BitVec 32 := 0

/-- One character of `decodeBase32`'s loop; `none` is the error it throws. -/
def decodeCharacter (state : Base32State) (unit : Nat) : Option Base32State :=
  (base32Index unit).map fun index =>
    let value := (state.value <<< 5) ||| BitVec.ofNat 32 index
    let bits := state.bits + 5
    if 8 ≤ bits then { bytes := state.bytes ++ [(value >>> (bits - 8)).setWidth 8], bits := bits - 8, value }
    else { state with bits, value }

/-- `/[\s=-]/`. -/
def isFiller (unit : Nat) : Bool := isWhitespace unit || unit == 61 || unit == 45

def decodeBase32 (platform : Platform) (input : Text) : Option Bytes :=
  let normalized := platform.toUpperCase (input.filter fun unit => !isFiller unit)
  (normalized.foldlM decodeCharacter {}).map (·.bytes)

/-- `writeUInt32BE`. -/
def uint32BE (value : BitVec 32) : Bytes :=
  [value.extractLsb' 24 8, value.extractLsb' 16 8, value.extractLsb' 8 8, value.extractLsb' 0 8]

/-- `String(value)`. -/
def decimalText (value : Nat) : Text := (Nat.toDigits 10 value).map Char.toNat

/-- `hotp` with six digits; `none` where `writeUInt32BE` throws a range error. -/
def hotp (platform : Platform) (secret : Bytes) (counter : Int) : Option Text :=
  let high := counter / 2 ^ 32
  if high < 0 ∨ 2 ^ 32 ≤ high then none
  else
    let message := uint32BE (BitVec.ofInt 32 high) ++ uint32BE (BitVec.ofInt 32 counter)
    let digest := platform.hmacSha1 secret message
    let offset := (digest.getD (digest.length - 1) 0 &&& 0x0f).toNat
    let binary := (digest.getD offset 0 &&& 0x7f) ++ digest.getD (offset + 1) 0 ++ digest.getD (offset + 2) 0 ++
      digest.getD (offset + 3) 0
    some ((decimalText (binary.toNat % 10 ^ 6)).leftpad 6 48)

def TOTP_STEP_SECONDS : Nat := 30

def totpCounter (unixSeconds : Nat) : Int := unixSeconds / TOTP_STEP_SECONDS

inductive TotpVerification
  | ok (counter : Int)
  | invalid
  | replayed
  deriving DecidableEq

/-- The loop over the counters: the last one whose code was presented. -/
def matchCounters (platform : Platform) (secret : Bytes) (presented : Text) (counters : List Int) : Option (Option Int) :=
  counters.foldlM (fun matched counter =>
    (hotp platform secret counter).map fun expected => if expected = presented then some counter else matched) none

/-- `verifyTotp` with its default skew of one step; `none` where it throws. -/
def verifyTotp (platform : Platform) (secret : Bytes) (code : Text) (nowSeconds : Nat) (lastCounter : Option Int) :
    Option TotpVerification :=
  let presented := code.filter fun unit => !isWhitespace unit
  if presented.length = 6 ∧ presented.all (fun unit => 48 ≤ unit && unit ≤ 57) then
    let current := totpCounter nowSeconds
    (matchCounters platform secret presented [current - 1, current, current + 1]).map fun
      | none => .invalid
      | some counter => if lastCounter.any (counter ≤ ·) then .replayed else .ok counter
  else some .invalid

end LetterIRL.Guards
