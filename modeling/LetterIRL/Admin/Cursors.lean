import LetterIRL.Lib.Encoded
import LetterIRL.Schedule.Calendar

namespace LetterIRL.Admin
open Lib Schedule

/-! `paging.ts`: a position in a list, as the text a page hands on. -/

/-- A string, by its code units. -/
abbrev Text := List Nat

/-- A TIMESTAMPTZ, in microseconds since 1970, of those a `Date` can hold. -/
structure Timestamp where
  micros : Int
  least : -8640000000000000000 ≤ micros
  most : micros ≤ 8640000000000000000
  deriving DecidableEq

/-- The `Date` the driver makes of a TIMESTAMPTZ: whole milliseconds since 1970. -/
def Timestamp.date (time : Timestamp) : Int := time.micros / 1000

/-- The hexadecimal digits of a UUID. -/
structure Uuid where
  digits : List (Fin 16)
  length : digits.length = 32
  deriving DecidableEq

def hexUnit (digit : Fin 16) : Nat := if digit.val < 10 then 48 + digit.val else 87 + digit.val

/-- Digits from an index on, with the dashes of a UUID. -/
def dashed : Nat → List (Fin 16) → Text
  | _, [] => []
  | index, digit :: rest =>
    if index = 8 ∨ index = 12 ∨ index = 16 ∨ index = 20 then 45 :: hexUnit digit :: dashed (index + 1) rest
    else hexUnit digit :: dashed (index + 1) rest

/-- `id::text`. -/
def Uuid.text (id : Uuid) : Text := dashed 0 id.digits

/-! `toISOString`, and `new Date` of what it writes. -/

def yearText (year : Int) : Text :=
  if 0 ≤ year ∧ year ≤ 9999 then padded 4 year.toNat
  else (if 0 ≤ year then 43 else 45) :: padded 6 year.natAbs

def clockText (clock : Nat) : Text :=
  padded 2 (clock / 3600000) ++ 58 :: (padded 2 (clock / 60000 % 60) ++ 58 :: (padded 2 (clock / 1000 % 60) ++ 46 ::
    (padded 3 (clock % 1000) ++ [90])))

def toISOString (date : Int) : Text :=
  let day := yearMonthDay (date / 86400000)
  yearText day.year ++ 45 :: (padded 2 day.month.toNat ++ 45 :: (padded 2 day.day.toNat ++ 84 ::
    clockText (date % 86400000).toNat))

/-- A text without the unit it must start with. -/
def expect (unit : Nat) : Text → Option Text
  | [] => none
  | first :: rest => if first = unit then some rest else none

/-- A number of some digits, and the unit after it. -/
def readField (width unit : Nat) (text : Text) : Option (Nat × Text) :=
  (readPadded width text).bind fun read => (expect unit read.2).map (read.1, ·)

def readYear : Text → Option (Int × Text)
  | 43 :: rest => (readField 6 45 rest).map fun read => ((read.1 : Int), read.2)
  | 45 :: rest => (readField 6 45 rest).map fun read => (-(read.1 : Int), read.2)
  | text => (readField 4 45 text).map fun read => ((read.1 : Int), read.2)

/-- The milliseconds of the clock, which ends a text. -/
def readClock (text : Text) : Option Nat := do
  let hours ← readField 2 58 text
  let minutes ← readField 2 58 hours.2
  let seconds ← readField 2 46 minutes.2
  let millis ← readField 3 90 seconds.2
  if millis.2 = [] ∧ hours.1 < 24 ∧ minutes.1 < 60 ∧ seconds.1 < 60 then
    some (hours.1 * 3600000 + minutes.1 * 60000 + seconds.1 * 1000 + millis.1)
  else none

/-- The time of a text in the format of `toISOString`. -/
def readISOString (text : Text) : Option Int := do
  let year ← readYear text
  let month ← readField 2 45 year.2
  let day ← readField 2 84 month.2
  let clock ← readClock day.2
  let number ← realDayNumber { year := year.1, month := month.1, day := day.1 }
  some (number * 86400000 + clock)

/-- What Node and the engine make of other texts: `Buffer.from(value, "base64url").toString("utf8")` of one that is no
base64url of ASCII, and `new Date(text)` of one `toISOString` does not write. -/
structure Platform where
  lenient : Text → Text
  otherDate : Text → Option Int

structure Cursor where
  at_ : Int
  id : Text
  deriving DecidableEq

def encodeCursor (at_ : Int) (id : Uuid) : Text := Base64.encode (toISOString at_ ++ 124 :: id.text)

/-- `Buffer.from(value, "base64url").toString("utf8")`. -/
def fromBase64url (platform : Platform) (value : Text) : Text :=
  match Base64.decode value with
  | some bytes => if bytes.all (· < 128) then bytes else platform.lenient value
  | none => platform.lenient value

/-- `new Date(text).getTime()`, `none` for NaN. -/
def dateOf (platform : Platform) (text : Text) : Option Int :=
  match readISOString text with
  | some date => some date
  | none => platform.otherDate text

def decodeCursor (platform : Platform) : Option Text → Option Cursor
  | none => none
  | some value =>
    if value = [] ∨ 200 < value.length then none
    else
      let decoded := fromBase64url platform value
      let separator := decoded.idxOf 124
      if separator = 0 ∨ separator = decoded.length then none
      else
        let id := decoded.drop (separator + 1)
        (dateOf platform (decoded.take separator)).bind fun at_ =>
          if id = [] ∨ 255 < id.length then none else some { at_, id }

/-! What is written is read back. -/

section
variable {platform : Platform} {date : Int} {id other : Uuid}

theorem readField_padded (width unit value : Nat) (small : value < 10 ^ width) (rest : Text) :
    readField width unit (padded width value ++ unit :: rest) = some (value, rest) := by
  unfold readField
  rw [readPadded_padded width value small, Option.bind_some, expect, if_pos rfl, Option.map_some]

theorem readYear_yearText {year : Int} (few : -1000000 < year ∧ year < 1000000) (rest : Text) :
    readYear (yearText year ++ 45 :: rest) = some (year, rest) := by
  unfold yearText
  split
  · rename_i common
    have read := readField_padded 4 45 year.toNat (by omega) rest
    have value : ((year.toNat : Nat) : Int) = year := Int.toNat_of_nonneg common.1
    -- The first of the four digits is no sign.
    have first : ∃ digit more, padded 4 year.toNat = (48 + digit) :: more := ⟨_, _, rfl⟩
    obtain ⟨digit, more, digits⟩ := first
    rw [digits] at read ⊢
    rw [List.cons_append] at read ⊢
    have unsigned : readYear ((48 + digit) :: (more ++ 45 :: rest)) =
        (readField 4 45 ((48 + digit) :: (more ++ 45 :: rest))).map fun read => ((read.1 : Int), read.2) := by
      unfold readYear
      split
      · rename_i sign
        have same := (List.cons.inj sign).1
        omega
      · rename_i sign
        have same := (List.cons.inj sign).1
        omega
      · rfl
    rw [unsigned, read, Option.map_some, value]
  · have read := readField_padded 6 45 year.natAbs (by omega) rest
    split
    · rename_i positive
      have value : (year.natAbs : Int) = year := Int.natAbs_of_nonneg positive
      rw [List.cons_append, readYear, read, Option.map_some, value]
    · rename_i negative
      have value : -(year.natAbs : Int) = year := by omega
      rw [List.cons_append, readYear, read, Option.map_some, value]

theorem readClock_clockText {clock : Nat} (inDay : clock < 86400000) : readClock (clockText clock) = some clock := by
  unfold readClock clockText
  simp only [Option.bind_eq_bind]
  rw [readField_padded 2 58 _ (by omega), Option.bind_some, readField_padded 2 58 _ (by omega), Option.bind_some,
    readField_padded 2 46 _ (by omega), Option.bind_some, readField_padded 3 90 _ (by omega), Option.bind_some,
    if_pos ⟨rfl, by omega, by omega, by omega⟩]
  exact congrArg some (by omega)

/-- A day within a `Date`'s reach is in a year of six digits. -/
theorem year_few {day : Int} (least : -100000000 ≤ day) (most : day ≤ 100000000) :
    -1000000 < yearOf day ∧ yearOf day < 1000000 := by
  obtain ⟨from_, before⟩ := yearOf_spec day
  unfold daysBeforeYear at from_ before
  omega

theorem readISOString_toISOString (least : -8640000000000000 ≤ date) (most : date ≤ 8640000000000000) :
    readISOString (toISOString date) = some date := by
  obtain ⟨year, month, month', day, day'⟩ := yearMonthDay_bounds (date / 86400000)
  have few := @year_few (date / 86400000) (by omega) (by omega)
  rw [← year] at few
  have real := realDayNumber_yearMonthDay (date / 86400000)
  have clock := @readClock_clockText (date % 86400000).toNat (by omega)
  unfold toISOString readISOString
  simp only [Option.bind_eq_bind]
  generalize yearMonthDay (date / 86400000) = written at *
  have monthText : ((written.month.toNat : Nat) : Int) = written.month := by omega
  have dayText : ((written.day.toNat : Nat) : Int) = written.day := by omega
  rw [readYear_yearText few, Option.bind_some, readField_padded 2 45 _ (by omega), Option.bind_some,
    readField_padded 2 84 _ (by omega), Option.bind_some, clock, Option.bind_some]
  simp only [monthText, dayText]
  rw [real, Option.bind_some]
  exact congrArg some (by omega)

theorem padded_unit {width value unit : Nat} (member : unit ∈ padded width value) : 48 ≤ unit ∧ unit ≤ 57 := by
  simpa [isDecimal] using padded_decimal width value unit member

theorem yearText_units (year : Int) : ∀ unit ∈ yearText year, unit < 91 := by
  intro unit member
  unfold yearText at member
  split at member
  · have bounds := padded_unit member
    omega
  · rcases List.mem_cons.mp member with sign | digit
    · split at sign
      · omega
      · omega
    · have bounds := padded_unit digit
      omega

theorem toISOString_units (date : Int) : ∀ unit ∈ toISOString date, unit < 91 := by
  intro unit member
  have inField : ∀ {width value separator : Nat} {rest : Text}, separator < 91 → (∀ unit ∈ rest, unit < 91) →
      ∀ unit ∈ padded width value ++ separator :: rest, unit < 91 := by
    intro width value separator rest small later unit member
    rcases List.mem_append.mp member with digit | member
    · have bounds := padded_unit digit
      omega
    · exact (List.mem_cons.mp member).elim (fun same => same ▸ small) (later unit)
  unfold toISOString clockText at member
  rcases List.mem_append.mp member with year | member
  · exact yearText_units _ unit year
  · rcases List.mem_cons.mp member with dash | member
    · omega
    · refine inField (by decide) (inField (by decide) (inField (by decide) (inField (by decide) (inField (by decide)
        (inField (by decide) ?_))))) unit member
      exact fun unit member => nomatch member

theorem length_toISOString (date : Int) : 0 < (toISOString date).length ∧ (toISOString date).length ≤ 27 := by
  unfold toISOString clockText yearText
  simp only
  split
  · simp [length_padded]
  · simp [length_padded]

theorem dashed_units (index : Nat) (digits : List (Fin 16)) : ∀ unit ∈ dashed index digits, unit < 103 := by
  induction digits generalizing index with
  | nil => exact fun _ member => (nomatch member)
  | cons digit rest ih =>
    have small : hexUnit digit < 103 := by
      unfold hexUnit
      split
      · omega
      · omega
    intro unit member
    unfold dashed at member
    split at member
    · rcases List.mem_cons.mp member with dash | member
      · omega
      · rcases List.mem_cons.mp member with here | later
        · omega
        · exact ih _ unit later
    · rcases List.mem_cons.mp member with here | later
      · omega
      · exact ih _ unit later

theorem length_dashed (index : Nat) (digits : List (Fin 16)) :
    digits.length ≤ (dashed index digits).length ∧ (dashed index digits).length ≤ 2 * digits.length := by
  induction digits generalizing index with
  | nil => exact ⟨le_rfl, le_rfl⟩
  | cons digit rest ih =>
    obtain ⟨least, most⟩ := ih (index + 1)
    unfold dashed
    split
    · simp only [List.length_cons]
      omega
    · simp only [List.length_cons]
      omega

theorem hexUnit_lt (digit other : Fin 16) : hexUnit digit < hexUnit other ↔ digit < other := by
  revert digit other
  decide

theorem hexUnit_inj (digit other : Fin 16) : hexUnit digit = hexUnit other ↔ digit = other := by
  revert digit other
  decide

theorem dashed_lt (index : Nat) (digits others : List (Fin 16)) (length : digits.length = others.length) :
    dashed index digits < dashed index others ↔ digits < others := by
  induction digits generalizing others index with
  | nil =>
    cases others with
    | nil => simp [dashed]
    | cons _ _ => cases length
  | cons digit rest ih =>
    cases others with
    | nil => cases length
    | cons other rest' =>
      have shorter := ih (index + 1) rest' (Nat.succ.inj length)
      unfold dashed
      split
      · rw [List.cons_lt_cons_iff, List.cons_lt_cons_iff, List.cons_lt_cons_iff, hexUnit_lt, hexUnit_inj, shorter]
        simp
      · rw [List.cons_lt_cons_iff, List.cons_lt_cons_iff, hexUnit_lt, hexUnit_inj, shorter]

/-- UUIDs are ordered as their texts are. -/
theorem Uuid.text_lt : id.text < other.text ↔ id.digits < other.digits :=
  dashed_lt 0 id.digits other.digits (id.length.trans other.length.symm)

theorem dashed_inj (index : Nat) (digits others : List (Fin 16)) (same : dashed index digits = dashed index others) :
    digits = others := by
  induction digits generalizing others index with
  | nil =>
    cases others with
    | nil => rfl
    | cons other rest =>
      unfold dashed at same
      split at same <;> cases same
  | cons digit rest ih =>
    cases others with
    | nil =>
      unfold dashed at same
      split at same <;> cases same
    | cons other rest' =>
      unfold dashed at same
      split at same
      · obtain ⟨here, later⟩ := List.cons.inj (List.cons.inj same).2
        rw [(hexUnit_inj digit other).mp here, ih (index + 1) rest' later]
      · obtain ⟨here, later⟩ := List.cons.inj same
        rw [(hexUnit_inj digit other).mp here, ih (index + 1) rest' later]

/-- A cursor is read back as the time, to the millisecond, and id it was written from. -/
theorem decodeCursor_encodeCursor (platform : Platform) (least : -8640000000000000 ≤ date)
    (most : date ≤ 8640000000000000) (id : Uuid) :
    decodeCursor platform (some (encodeCursor date id)) = some { at_ := date, id := id.text } := by
  have iso := toISOString_units date
  have uuid := dashed_units 0 id.digits
  obtain ⟨some_, short⟩ := length_toISOString date
  obtain ⟨long, few⟩ := length_dashed 0 id.digits
  rw [id.length] at long few
  have small : ∀ unit ∈ toISOString date ++ 124 :: id.text, unit < 128 := by
    intro unit member
    rcases List.mem_append.mp member with inDate | member
    · have less := iso unit inDate
      omega
    · rcases List.mem_cons.mp member with bar | inId
      · omega
      · have less := uuid unit inId
        omega
  have length : (toISOString date ++ 124 :: id.text).length ≤ 92 := by
    rw [List.length_append, List.length_cons]
    unfold Uuid.text
    omega
  have encoded := Base64.length_encode (toISOString date ++ 124 :: id.text)
  have filled : 0 < (Base64.encode (toISOString date ++ 124 :: id.text)).length := by
    by_contra empty
    have none_ := List.length_eq_zero_iff.mp (Nat.le_zero.mp (not_lt.mp empty))
    have back := Base64.decode_encode _ fun unit member => (small unit member).trans (by decide)
    rw [none_] at back
    have nothing : toISOString date ++ 124 :: id.text = [] := (Option.some.inj back).symm
    cases (List.append_eq_nil_iff.mp nothing).2
  have decoded : fromBase64url platform (encodeCursor date id) = toISOString date ++ 124 :: id.text := by
    unfold fromBase64url encodeCursor
    rw [Base64.decode_encode _ fun unit member => (small unit member).trans (by decide)]
    exact if_pos (List.all_eq_true.mpr fun unit member => decide_eq_true (small unit member))
  have bar : (toISOString date ++ 124 :: id.text).idxOf 124 = (toISOString date).length := by
    rw [List.idxOf_append_of_notMem fun member => by have less := iso 124 member; omega, List.idxOf_cons_self]
    rfl
  unfold decodeCursor
  have fits : ¬(encodeCursor date id = [] ∨ 200 < (encodeCursor date id).length) := by
    unfold encodeCursor
    rintro (empty | tooLong)
    · rw [empty] at filled
      exact absurd filled (lt_irrefl _)
    · omega
  simp only
  rw [if_neg fits, decoded, bar, if_neg (by
    rw [List.length_append, List.length_cons]
    omega)]
  rw [List.take_left, List.drop_append, List.drop_of_length_le (by omega), Nat.add_sub_cancel_left]
  have read := readISOString_toISOString least most
  unfold dateOf
  rw [read]
  simp only [List.nil_append, List.drop_succ_cons, List.drop_zero, Option.bind_some]
  rw [if_neg]
  unfold Uuid.text
  rintro (empty | tooLong)
  · rw [empty] at long
    exact absurd long (by decide)
  · omega

end

end LetterIRL.Admin
