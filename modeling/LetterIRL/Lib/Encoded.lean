import Mathlib.Tactic

namespace LetterIRL.Lib

/-! Numbers of a fixed width in decimal digits, and bytes in base 64; a text is a list of character codes. -/

/-- A number's last `width` decimal digits. -/
def padded : Nat → Nat → List Nat
  | 0, _ => []
  | width + 1, value => padded width (value / 10) ++ [48 + value % 10]

def isDecimal (unit : Nat) : Bool := 48 ≤ unit && unit ≤ 57

/-- The number of some decimal digits. -/
def decimalValue (digits : List Nat) : Nat := digits.foldl (fun value unit => value * 10 + (unit - 48)) 0

/-- A number of `width` digits off the start of a text. -/
def readPadded (width : Nat) (text : List Nat) : Option (Nat × List Nat) :=
  if width ≤ text.length ∧ (text.take width).all isDecimal = true then
    some (decimalValue (text.take width), text.drop width)
  else none

theorem length_padded (width value : Nat) : (padded width value).length = width := by
  induction width generalizing value with
  | zero => rfl
  | succ width ih => rw [padded, List.length_append, ih, List.length_singleton]

theorem padded_decimal (width value : Nat) : ∀ unit ∈ padded width value, isDecimal unit = true := by
  induction width generalizing value with
  | zero => exact fun _ member => (nomatch member)
  | succ width ih =>
    intro unit member
    rcases List.mem_append.mp member with old | last
    · exact ih _ unit old
    · rw [List.mem_singleton.mp last]
      unfold isDecimal
      simp only [Bool.and_eq_true, decide_eq_true_eq]
      omega

theorem decimalValue_padded (width value : Nat) (small : value < 10 ^ width) :
    decimalValue (padded width value) = value := by
  induction width generalizing value with
  | zero =>
    have none_ : value = 0 := by simpa using small
    rw [none_]
    rfl
  | succ width ih =>
    have less : value / 10 < 10 ^ width := by
      rw [Nat.div_lt_iff_lt_mul (by decide), ← Nat.pow_succ]
      exact small
    have before := ih (value / 10) less
    unfold decimalValue at before ⊢
    rw [padded, List.foldl_append, before]
    simp only [List.foldl_cons, List.foldl_nil]
    omega

theorem readPadded_padded (width value : Nat) (small : value < 10 ^ width) (rest : List Nat) :
    readPadded width (padded width value ++ rest) = some (value, rest) := by
  have length := length_padded width value
  unfold readPadded
  rw [List.take_append_of_le_length length.ge, List.take_of_length_le length.le, List.drop_append_of_le_length length.ge,
    List.drop_of_length_le length.le, List.nil_append, decimalValue_padded width value small, if_pos]
  refine ⟨?_, List.all_eq_true.mpr (padded_decimal width value)⟩
  rw [List.length_append, length]
  exact Nat.le_add_right _ _

namespace Base64

/-- The character of six bits, in the URL alphabet. -/
def symbol (bits : Nat) : Nat :=
  if bits < 26 then 65 + bits
  else if bits < 52 then 71 + bits
  else if bits < 62 then bits - 4
  else if bits = 62 then 45
  else 95

/-- The six bits of a character. -/
def bitsOf (unit : Nat) : Option Nat :=
  if 65 ≤ unit ∧ unit ≤ 90 then some (unit - 65)
  else if 97 ≤ unit ∧ unit ≤ 122 then some (unit - 71)
  else if 48 ≤ unit ∧ unit ≤ 57 then some (unit + 4)
  else if unit = 45 then some 62
  else if unit = 95 then some 63
  else none

theorem bitsOf_symbol {bits : Nat} (small : bits < 64) : bitsOf (symbol bits) = some bits := by
  unfold symbol
  split
  · rw [bitsOf, if_pos (by omega)]
    exact congrArg some (by omega)
  · split
    · rw [bitsOf, if_neg (by omega), if_pos (by omega)]
      exact congrArg some (by omega)
    · split
      · rw [bitsOf, if_neg (by omega), if_neg (by omega), if_pos (by omega)]
        exact congrArg some (by omega)
      · split
        · rename_i last
          rw [last]
          rfl
        · have last : bits = 63 := by omega
          rw [last]
          rfl

/-- Bytes, six bits at a time, without padding. -/
def sextets : List Nat → List Nat
  | [] => []
  | [a] => [a / 4, a % 4 * 16]
  | [a, b] => [a / 4, a % 4 * 16 + b / 16, b % 16 * 4]
  | a :: b :: c :: rest => a / 4 :: (a % 4 * 16 + b / 16) :: (b % 16 * 4 + c / 64) :: c % 64 :: sextets rest

def bytesOf : List Nat → List Nat
  | [] | [_] => []
  | [w, x] => [w * 4 + x / 16]
  | [w, x, y] => [w * 4 + x / 16, x % 16 * 16 + y / 4]
  | w :: x :: y :: z :: rest => (w * 4 + x / 16) :: (x % 16 * 16 + y / 4) :: (y % 4 * 64 + z) :: bytesOf rest

def encode (bytes : List Nat) : List Nat := (sextets bytes).map symbol

/-- The bytes of a text in the alphabet; `none` for any other text. -/
def decode (text : List Nat) : Option (List Nat) := (text.mapM bitsOf).map bytesOf

theorem sextets_small (bytes : List Nat) (small : ∀ byte ∈ bytes, byte < 256) : ∀ bits ∈ sextets bytes, bits < 64 := by
  induction bytes using sextets.induct with
  | case1 => exact fun _ member => (nomatch member)
  | case2 a =>
    have one := small a (by simp)
    intro bits member
    simp only [sextets, List.mem_cons, List.not_mem_nil, or_false] at member
    omega
  | case3 a b =>
    have one := small a (by simp)
    have two := small b (by simp)
    intro bits member
    simp only [sextets, List.mem_cons, List.not_mem_nil, or_false] at member
    omega
  | case4 a b c rest ih =>
    have one := small a (by simp)
    have two := small b (by simp)
    have three := small c (by simp)
    have rest := ih fun byte member => small byte (by simp [member])
    intro bits member
    simp only [sextets, List.mem_cons] at member
    obtain here | here | here | here | later := member
    · omega
    · omega
    · omega
    · omega
    · exact rest bits later

theorem bytesOf_sextets (bytes : List Nat) (small : ∀ byte ∈ bytes, byte < 256) : bytesOf (sextets bytes) = bytes := by
  induction bytes using sextets.induct with
  | case1 => rfl
  | case2 a =>
    have one := small a (by simp)
    simp only [sextets, bytesOf, List.cons.injEq, and_true]
    omega
  | case3 a b =>
    have one := small a (by simp)
    have two := small b (by simp)
    simp only [sextets, bytesOf, List.cons.injEq, and_true]
    omega
  | case4 a b c rest ih =>
    have one := small a (by simp)
    have two := small b (by simp)
    have three := small c (by simp)
    simp only [sextets, bytesOf, ih fun byte member => small byte (by simp [member]), List.cons.injEq, and_true]
    omega

theorem mapM_symbol (bits : List Nat) (small : ∀ b ∈ bits, b < 64) : (bits.map symbol).mapM bitsOf = some bits := by
  induction bits with
  | nil => rfl
  | cons first rest ih =>
    have here := bitsOf_symbol (small first (by simp))
    have later := ih fun b member => small b (by simp [member])
    rw [List.map_cons, List.mapM_cons, here, later]
    rfl

theorem decode_encode (bytes : List Nat) (small : ∀ byte ∈ bytes, byte < 256) : decode (encode bytes) = some bytes := by
  unfold decode encode
  rw [mapM_symbol _ (sextets_small bytes small), Option.map_some, bytesOf_sextets bytes small]

theorem length_encode (bytes : List Nat) : 3 * (encode bytes).length ≤ 4 * bytes.length + 4 := by
  unfold encode
  rw [List.length_map]
  induction bytes using sextets.induct with
  | case1 => exact Nat.zero_le _
  | case2 a => simp [sextets]
  | case3 a b => simp [sextets]
  | case4 a b c rest ih =>
    simp only [sextets, List.length_cons]
    omega

end Base64

end LetterIRL.Lib
