import LetterIRL.Lib.Joined

namespace LetterIRL.Download
open Lib

/-! The texts of IP addresses, and what `ipv6Groups` reads of them. -/

/-- A text, as its UTF-16 code units. -/
abbrev Text := List Nat

/-- `%` -/
def PERCENT : Nat := 37
/-- `.` -/
def DOT : Nat := 46
/-- `:` -/
def COLON : Nat := 58

def isDigit (unit : Nat) : Bool := 48 ≤ unit && unit ≤ 57

def decimalValue (text : Text) : Nat := text.foldl (fun value unit => 10 * value + (unit - 48)) 0

/-- `0` to `9` or `a` to `f`. -/
def isHexDigit (unit : Nat) : Bool := isDigit unit || 97 ≤ unit && unit ≤ 102

def hexValue (text : Text) : Nat :=
  text.foldl (fun value unit => 16 * value + (if unit ≤ 57 then unit - 48 else unit - 87)) 0

/-- `/^[0-9a-f]{1,4}$/`. -/
def isGroup (text : Text) : Bool := 1 ≤ text.length && text.length ≤ 4 && text.all isHexDigit

def hexDigit (value : Nat) : Nat := if value < 10 then 48 + value else 87 + value

/-- `toString(16)` of a number of sixteen bits. -/
def toHex (value : Nat) : Text :=
  if value < 16 then [hexDigit value]
  else if value < 256 then [hexDigit (value / 16), hexDigit (value % 16)]
  else if value < 4096 then [hexDigit (value / 256), hexDigit (value / 16 % 16), hexDigit (value % 16)]
  else [hexDigit (value / 4096), hexDigit (value / 256 % 16), hexDigit (value / 16 % 16), hexDigit (value % 16)]

/-- A number up to 255 in decimal, with no leading zero. -/
def isOctet : Text → Bool
  | [one] => isDigit one
  | [ten, one] => isDigit ten && isDigit one && ten != 48
  | [hundred, ten, one] => isDigit hundred && isDigit ten && isDigit one && hundred != 48 && decimalValue [hundred, ten, one] ≤ 255
  | _ => false

/-- `isIP(text) === 4`. -/
def isIPv4 (text : Text) : Bool := (text.splitOn DOT).length == 4 && (text.splitOn DOT).all isOctet

/-- `/^\d+\.\d+\.\d+\.\d+$/`. -/
def isDotted (text : Text) : Bool :=
  (text.splitOn DOT).length == 4 && (text.splitOn DOT).all fun part => part != [] && part.all isDigit

/-- What `.` does not match. -/
def isLineEnd (unit : Nat) : Bool := unit == 10 || unit == 13 || unit == 8232 || unit == 8233

/-- A trailing dotted IPv4 as two groups; none where it is not one. -/
def undotted (text : Text) : Option Text :=
  match cutLast COLON text with
  | some (before, tail) =>
    if before.all (fun unit => !isLineEnd unit) && isDotted tail then
      match isIPv4 tail, (tail.splitOn DOT).map decimalValue with
      | true, [a, b, c, d] => some (before ++ toHex (a <<< 8 ||| b) ++ COLON :: toHex (c <<< 8 ||| d))
      | _, _ => none
    else some text
  | none => some text

/-- `parse`. -/
def partsOf (part : Text) : List Text := if part = [] then [] else part.splitOn COLON

def groupsOf (parts : List Text) : Option (List Nat) := if parts.all isGroup then some (parts.map hexValue) else none

/-- The groups of a text without a dotted tail. -/
def plainGroups (text : Text) : Option (List Nat) :=
  match splitPair COLON text with
  | [whole] => if (partsOf whole).length = 8 then groupsOf (partsOf whole) else none
  | [head, tail] =>
    let missing : Int := 8 - (partsOf head).length - (partsOf tail).length
    if missing < 1 then none else groupsOf (partsOf head ++ List.replicate missing.toNat [48] ++ partsOf tail)
  | _ => none

def ipv6Groups (toLowerCase : Text → Text) (address : Text) : Option (List Nat) :=
  (undotted ((toLowerCase address).takeWhile (· ≠ PERCENT))).bind plainGroups

/-! The grammar. -/

/-- A number up to 255 in decimal. -/
def decimal (value : Nat) : Text :=
  if value < 10 then [48 + value]
  else if value < 100 then [48 + value / 10, 48 + value % 10]
  else [48 + value / 100, 48 + value / 10 % 10, 48 + value % 10]

/-- Four decimal numbers up to 255 with dots between. -/
structure IsQuad (text : Text) (a b c d : Nat) : Prop where
  octets : a ≤ 255 ∧ b ≤ 255 ∧ c ≤ 255 ∧ d ≤ 255
  text : text = [DOT].intercalate [decimal a, decimal b, decimal c, decimal d]

/-- One to four hexadecimal digits, and their number. -/
structure IsGroup (text : Text) (value : Nat) : Prop where
  digits : isGroup text = true
  value : hexValue text = value

/-- Groups, the last two of which may be written as a dotted quad. -/
inductive Written : List Text → List Nat → Prop
  | none : Written [] []
  | group {part : Text} {value : Nat} {parts : List Text} {values : List Nat} (group : IsGroup part value)
      (rest : Written parts values) : Written (part :: parts) (value :: values)
  | quad {part : Text} {a b c d : Nat} (quad : IsQuad part a b c d) : Written [part] [256 * a + b, 256 * c + d]

/-- An IPv6 address in lower case, and its eight groups: all of them, or some with `::` for one or more that are zero. -/
inductive Spelled : Text → List Nat → Prop
  | full {parts : List Text} {groups : List Nat} (written : Written parts groups) (eight : groups.length = 8) :
      Spelled ([COLON].intercalate parts) groups
  | elided {left right : List Text} {head tail : List Nat} (before : List.Forall₂ IsGroup left head) (after : Written right tail)
      (fewer : head.length + tail.length < 8) :
      Spelled ([COLON].intercalate left ++ COLON :: COLON :: [COLON].intercalate right)
        (head ++ List.replicate (8 - (head.length + tail.length)) 0 ++ tail)

/-- A letter `A` to `Z` in lower case. -/
def lowerUnit (unit : Nat) : Nat := if 65 ≤ unit ∧ unit ≤ 90 then unit + 32 else unit

/-- A textual IPv6 address without a zone, with digits of either case, and the groups it denotes. -/
def Denotes (text : Text) (groups : List Nat) : Prop := Spelled (text.map lowerUnit) groups

/-- What `toLowerCase` does: a unit of ASCII is lowered on its own, and any other becomes units that no address has. -/
inductive Lowered : Text → Text → Prop
  | none : Lowered [] []
  | ascii {unit : Nat} {text lower : Text} (ascii : unit < 128) (rest : Lowered text lower) :
      Lowered (unit :: text) (lowerUnit unit :: lower)
  | other {unit : Nat} {text piece lower : Text} (other : 128 ≤ unit) (some_ : piece ≠ [])
      (none_ : ∀ unit ∈ piece, isHexDigit unit = false ∧ unit ≠ COLON ∧ unit ≠ DOT ∧ unit ≠ PERCENT) (rest : Lowered text lower) :
      Lowered (unit :: text) (piece ++ lower)

section
variable {text part : Text} {value a b c d : Nat}

theorem hexDigit_value {digit : Nat} (less : digit < 16) : isHexDigit (hexDigit digit) = true ∧
    (if hexDigit digit ≤ 57 then hexDigit digit - 48 else hexDigit digit - 87) = digit := by
  have each : ∀ digit < 16, isHexDigit (hexDigit digit) = true ∧
      (if hexDigit digit ≤ 57 then hexDigit digit - 48 else hexDigit digit - 87) = digit := by decide
  exact each digit less

/-- A number of sixteen bits, as a group and back. -/
theorem toHex_group (less : value < 65536) : IsGroup (toHex value) value := by
  have digit : ∀ place : Nat, isHexDigit (hexDigit (value / place % 16)) = true ∧
      (if hexDigit (value / place % 16) ≤ 57 then hexDigit (value / place % 16) - 48 else hexDigit (value / place % 16) - 87) =
        value / place % 16 := fun place => hexDigit_value (Nat.mod_lt _ (by decide))
  have one := digit 1
  have two := digit 16
  have three := digit 256
  have four := digit 4096
  rw [Nat.div_one] at one
  unfold toHex
  split
  · rename_i small
    rw [Nat.mod_eq_of_lt small] at one
    exact ⟨by simp [isGroup, one.1], by simpa [hexValue] using one.2⟩
  · split
    · rename_i small
      rw [Nat.mod_eq_of_lt (show value / 16 < 16 by omega)] at two
      refine ⟨by simp [isGroup, one.1, two.1], ?_⟩
      simp only [hexValue, List.foldl_cons, List.foldl_nil]
      rw [one.2, two.2]
      omega
    · split
      · rename_i small
        rw [Nat.mod_eq_of_lt (show value / 256 < 16 by omega)] at three
        refine ⟨by simp [isGroup, one.1, two.1, three.1], ?_⟩
        simp only [hexValue, List.foldl_cons, List.foldl_nil]
        rw [one.2, two.2, three.2]
        omega
      · rw [Nat.mod_eq_of_lt (show value / 4096 < 16 by omega)] at four
        refine ⟨by simp [isGroup, one.1, two.1, three.1, four.1], ?_⟩
        simp only [hexValue, List.foldl_cons, List.foldl_nil]
        rw [one.2, two.2, three.2, four.2]
        omega

theorem isHexDigit_iff {unit : Nat} : isHexDigit unit = true ↔ 48 ≤ unit ∧ unit ≤ 57 ∨ 97 ≤ unit ∧ unit ≤ 102 := by
  simp [isHexDigit, isDigit]

theorem IsGroup.units (group : IsGroup part value) : part ≠ [] ∧ ∀ unit ∈ part, isHexDigit unit = true := by
  have digits := group.digits
  unfold isGroup at digits
  simp only [Bool.and_eq_true, decide_eq_true_eq, List.all_eq_true] at digits
  refine ⟨?_, digits.2⟩
  rintro rfl
  exact absurd digits.1.1 (by decide)

theorem IsGroup.plain (group : IsGroup part value) : part ≠ [] ∧ COLON ∉ part := by
  refine ⟨group.units.1, ?_⟩
  intro member
  exact absurd (group.units.2 COLON member) (by decide)

theorem decimal_octet (octet : value ≤ 255) : isOctet (decimal value) = true ∧ decimalValue (decimal value) = value ∧
    (decimal value ≠ [] ∧ ∀ unit ∈ decimal value, isDigit unit = true) := by
  have each : ∀ value < 256, isOctet (decimal value) = true ∧ decimalValue (decimal value) = value ∧
      (decimal value ≠ [] ∧ ∀ unit ∈ decimal value, isDigit unit = true) := by decide +kernel
  exact each value (by omega)

theorem isDigit_iff {unit : Nat} : isDigit unit = true ↔ 48 ≤ unit ∧ unit ≤ 57 := by
  simp [isDigit]

/-- An octet is the decimal of its number. -/
theorem isOctet_decimal (octet : isOctet part = true) : ∃ value ≤ 255, part = decimal value := by
  unfold isOctet at octet
  split at octet
  · rename_i one
    have digit := isDigit_iff.mp octet
    refine ⟨one - 48, by omega, ?_⟩
    rw [decimal, if_pos (by omega), show 48 + (one - 48) = one by omega]
  · rename_i ten one
    simp only [Bool.and_eq_true, isDigit_iff, bne_iff_ne, ne_eq] at octet
    refine ⟨10 * (ten - 48) + (one - 48), by omega, ?_⟩
    rw [decimal, if_neg (by omega), if_pos (by omega), show 48 + (10 * (ten - 48) + (one - 48)) / 10 = ten by omega,
      show 48 + (10 * (ten - 48) + (one - 48)) % 10 = one by omega]
  · rename_i hundred ten one
    simp only [Bool.and_eq_true, isDigit_iff, bne_iff_ne, ne_eq] at octet
    have small : 10 * (10 * (10 * 0 + (hundred - 48)) + (ten - 48)) + (one - 48) ≤ 255 := of_decide_eq_true octet.2
    refine ⟨100 * (hundred - 48) + 10 * (ten - 48) + (one - 48), by omega, ?_⟩
    rw [decimal, if_neg (by omega), if_neg (by omega),
      show 48 + (100 * (hundred - 48) + 10 * (ten - 48) + (one - 48)) / 100 = hundred by omega,
      show 48 + (100 * (hundred - 48) + 10 * (ten - 48) + (one - 48)) / 10 % 10 = ten by omega,
      show 48 + (100 * (hundred - 48) + 10 * (ten - 48) + (one - 48)) % 10 = one by omega]
  · cases octet

theorem IsQuad.split (quad : IsQuad text a b c d) : text.splitOn DOT = [decimal a, decimal b, decimal c, decimal d] := by
  rw [quad.text]
  apply List.splitOn_intercalate
  · intro part member
    have plain : ∀ value ≤ 255, DOT ∉ decimal value := by
      intro value octet member
      exact absurd ((decimal_octet octet).2.2.2 DOT member) (by decide)
    simp only [List.mem_cons, List.not_mem_nil, or_false] at member
    rcases member with rfl | rfl | rfl | rfl
    · exact plain a quad.octets.1
    · exact plain b quad.octets.2.1
    · exact plain c quad.octets.2.2.1
    · exact plain d quad.octets.2.2.2
  · exact List.cons_ne_nil _ _

theorem IsQuad.units (quad : IsQuad text a b c d) : text ≠ [] ∧ ∀ unit ∈ text, isDigit unit = true ∨ unit = DOT := by
  obtain ⟨one, two, three, four⟩ := quad.octets
  have digits : ∀ value ≤ 255, ∀ unit ∈ decimal value, isDigit unit = true := fun value octet => (decimal_octet octet).2.2.2
  constructor
  · rw [quad.text]
    simp [List.intercalate_cons_cons, (decimal_octet one).2.2.1]
  · intro unit member
    rw [quad.text] at member
    simp only [List.intercalate_cons_cons, List.intercalate_singleton, List.mem_append, List.mem_singleton] at member
    rcases member with (inA | dot) | (inB | dot) | (inC | dot) | inD
    · exact .inl (digits a one unit inA)
    · exact .inr dot
    · exact .inl (digits b two unit inB)
    · exact .inr dot
    · exact .inl (digits c three unit inC)
    · exact .inr dot
    · exact .inl (digits d four unit inD)

theorem IsQuad.plain (quad : IsQuad text a b c d) : text ≠ [] ∧ COLON ∉ text := by
  refine ⟨quad.units.1, ?_⟩
  intro member
  rcases quad.units.2 COLON member with digit | dot
  · exact absurd digit (by decide)
  · exact absurd dot (by decide)

theorem IsQuad.isIPv4 (quad : IsQuad text a b c d) : isIPv4 text = true ∧ isDotted text = true ∧
    (text.splitOn DOT).map decimalValue = [a, b, c, d] := by
  obtain ⟨one, two, three, four⟩ := quad.octets
  have octets := fun value (octet : value ≤ 255) => decimal_octet octet
  refine ⟨?_, ?_, ?_⟩
  · unfold Download.isIPv4
    rw [quad.split]
    simp [(octets a one).1, (octets b two).1, (octets c three).1, (octets d four).1]
  · unfold isDotted
    rw [quad.split]
    have part : ∀ value ≤ 255, (decimal value != [] && (decimal value).all isDigit) = true := by
      intro value octet
      obtain ⟨-, -, some_, digits⟩ := octets value octet
      simp only [Bool.and_eq_true, bne_iff_ne, ne_eq, List.all_eq_true]
      exact ⟨some_, digits⟩
    simp [part a one, part b two, part c three, part d four]
  · rw [quad.split]
    simp [(octets a one).2.1, (octets b two).2.1, (octets c three).2.1, (octets d four).2.1]

theorem isIPv4_quad (four : isIPv4 text = true) : ∃ a b c d, IsQuad text a b c d := by
  unfold isIPv4 at four
  simp only [Bool.and_eq_true, beq_iff_eq, List.all_eq_true] at four
  obtain ⟨length, octets⟩ := four
  have joined : [DOT].intercalate (text.splitOn DOT) = text := List.intercalate_splitOn DOT
  match parts : text.splitOn DOT, length, octets with
  | [p, q, r, s], _, octets =>
    obtain ⟨a, one, rfl⟩ := isOctet_decimal (octets p (by simp))
    obtain ⟨b, two, rfl⟩ := isOctet_decimal (octets q (by simp))
    obtain ⟨c, three, rfl⟩ := isOctet_decimal (octets r (by simp))
    obtain ⟨d, four, rfl⟩ := isOctet_decimal (octets s (by simp))
    rw [parts] at joined
    exact ⟨a, b, c, d, ⟨one, two, three, four⟩, joined.symm⟩

/-- Two bytes make sixteen bits. -/
theorem byte_or (byte : b ≤ 255) : a <<< 8 ||| b = 256 * a + b := by
  rw [← Nat.shiftLeft_add_eq_or_of_lt (show b < 2 ^ 8 by omega), Nat.shiftLeft_eq]
  omega

end

end LetterIRL.Download
