import LetterIRL.Download.Spellings

namespace LetterIRL.Download
open Lib

/-! Which addresses are not public. -/

/-- What `parseInt` skips. -/
def isBlank (unit : Nat) : Bool :=
  (9 ≤ unit && unit ≤ 13) || unit == 32 || unit == 160 || unit == 5760 || (8192 ≤ unit && unit ≤ 8202) || unit == 8232 ||
    unit == 8233 || unit == 8239 || unit == 8287 || unit == 12288 || unit == 65279

/-- `parseInt(text, 10)`; none for `NaN`. -/
def parseInt (text : Text) : Option Int :=
  let number (negative : Bool) (rest : Text) :=
    let digits := rest.takeWhile isDigit
    if digits = [] then none else some (if negative then -(decimalValue digits : Int) else decimalValue digits)
  match text.dropWhile isBlank with
  | 45 :: rest => number true rest
  | 43 :: rest => number false rest
  | rest => number false rest

def isUnsafeIpv4Address (address : Text) : Bool :=
  match (address.splitOn DOT).map parseInt with
  | [some a, some b, some c, some d] =>
    if a < 0 ∨ 255 < a ∨ b < 0 ∨ 255 < b ∨ c < 0 ∨ 255 < c ∨ d < 0 ∨ 255 < d then true
    else
      a = 0 ∨ a = 10 ∨ a = 127 ∨ 224 ≤ a ∨ (a = 100 ∧ 64 ≤ b ∧ b ≤ 127) ∨ (a = 169 ∧ b = 254) ∨
        (a = 172 ∧ 16 ≤ b ∧ b ≤ 31) ∨ (a = 192 ∧ b = 168) ∨ (a = 192 ∧ b = 0 ∧ c = 0) ∨ (a = 192 ∧ b = 0 ∧ c = 2) ∨
        (a = 198 ∧ (b = 18 ∨ b = 19)) ∨ (a = 198 ∧ b = 51 ∧ c = 100) ∨ (a = 203 ∧ b = 0 ∧ c = 113)
  | _ => true

def isUnsafeIpv6Address (toLowerCase : Text → Text) (address : Text) : Bool :=
  match ipv6Groups toLowerCase address with
  | some (g0 :: g1 :: g2 :: g3 :: _) =>
    g0 ≤ 0x00ff ∨ g0 &&& 0xfe00 = 0xfc00 ∨ g0 &&& 0xffc0 = 0xfe80 ∨ g0 &&& 0xffc0 = 0xfec0 ∨ g0 &&& 0xff00 = 0xff00 ∨
      (g0 = 0x2001 ∧ g1 = 0x0db8) ∨ (g0 = 0x3fff ∧ g1 < 0x1000) ∨ g0 = 0x2002 ∨ (g0 = 0x2001 ∧ g1 < 0x0200) ∨
      (g0 = 0x0100 ∧ g1 = 0 ∧ g2 = 0 ∧ g3 = 0) ∨ g0 = 0x5f00
  | _ => true

/-! What it is for: the blocks of addresses that are not public. -/

/-- Addresses that share so many leading bits with a first one. -/
structure Block where
  first : Nat
  bits : Nat

/-- An address in a block, addresses being so many bits wide. -/
def Block.has (width : Nat) (block : Block) (address : Nat) : Prop :=
  address / 2 ^ (width - block.bits) = block.first / 2 ^ (width - block.bits)

def ipv4 (a b c d : Nat) : Nat := ((a * 256 + b) * 256 + c) * 256 + d

def ipv6 (groups : List Nat) : Nat := groups.foldl (fun value group => value * 65536 + group) 0

/-- This network, private use, loopback, shared, link local, protocol assignments, documentation, benchmarking, multicast and
reserved. -/
def NOT_PUBLIC_IPV4 : List Block :=
  [⟨ipv4 0 0 0 0, 8⟩, ⟨ipv4 10 0 0 0, 8⟩, ⟨ipv4 127 0 0 0, 8⟩, ⟨ipv4 224 0 0 0, 3⟩, ⟨ipv4 100 64 0 0, 10⟩,
    ⟨ipv4 169 254 0 0, 16⟩, ⟨ipv4 172 16 0 0, 12⟩, ⟨ipv4 192 168 0 0, 16⟩, ⟨ipv4 192 0 0 0, 24⟩, ⟨ipv4 192 0 2 0, 24⟩,
    ⟨ipv4 198 18 0 0, 15⟩, ⟨ipv4 198 51 100 0, 24⟩, ⟨ipv4 203 0 113 0, 24⟩]

/-- `::/8`, unique local, link and site local, multicast, documentation, 6to4, the protocol block holding Teredo, discard and
SRv6. -/
def NOT_PUBLIC_IPV6 : List Block :=
  [⟨ipv6 [0, 0, 0, 0, 0, 0, 0, 0], 8⟩, ⟨ipv6 [0xfc00, 0, 0, 0, 0, 0, 0, 0], 7⟩, ⟨ipv6 [0xfe80, 0, 0, 0, 0, 0, 0, 0], 10⟩,
    ⟨ipv6 [0xfec0, 0, 0, 0, 0, 0, 0, 0], 10⟩, ⟨ipv6 [0xff00, 0, 0, 0, 0, 0, 0, 0], 8⟩,
    ⟨ipv6 [0x2001, 0x0db8, 0, 0, 0, 0, 0, 0], 32⟩, ⟨ipv6 [0x3fff, 0, 0, 0, 0, 0, 0, 0], 20⟩,
    ⟨ipv6 [0x2002, 0, 0, 0, 0, 0, 0, 0], 16⟩, ⟨ipv6 [0x2001, 0, 0, 0, 0, 0, 0, 0], 23⟩,
    ⟨ipv6 [0x0100, 0, 0, 0, 0, 0, 0, 0], 64⟩, ⟨ipv6 [0x5f00, 0, 0, 0, 0, 0, 0, 0], 16⟩]

def PublicIpv4 (address : Nat) : Prop := ∀ block ∈ NOT_PUBLIC_IPV4, ¬ block.has 32 address

def PublicIpv6 (address : Nat) : Prop := ∀ block ∈ NOT_PUBLIC_IPV6, ¬ block.has 128 address

section
variable {text : Text} {a b c d : Nat} {groups : List Nat} {toLowerCase : Text → Text}

theorem parseInt_decimal {value : Nat} (octet : value ≤ 255) : parseInt (decimal value) = some (value : Int) := by
  have each : ∀ value < 256, parseInt (decimal value) = some (value : Int) := by decide +kernel
  exact each value (by omega)

/-- A dotted quad is unsafe exactly where it is in none of the public addresses. -/
theorem isUnsafeIpv4Address_quad (quad : IsQuad text a b c d) :
    isUnsafeIpv4Address text = false ↔ PublicIpv4 (ipv4 a b c d) := by
  obtain ⟨one, two, three, four⟩ := quad.octets
  have blocks : PublicIpv4 (ipv4 a b c d) ↔ ¬ (a = 0 ∨ a = 10 ∨ a = 127 ∨ 224 ≤ a ∨ (a = 100 ∧ 64 ≤ b ∧ b ≤ 127) ∨
      (a = 169 ∧ b = 254) ∨ (a = 172 ∧ 16 ≤ b ∧ b ≤ 31) ∨ (a = 192 ∧ b = 168) ∨ (a = 192 ∧ b = 0 ∧ c = 0) ∨
      (a = 192 ∧ b = 0 ∧ c = 2) ∨ (a = 198 ∧ (b = 18 ∨ b = 19)) ∨ (a = 198 ∧ b = 51 ∧ c = 100) ∨
      (a = 203 ∧ b = 0 ∧ c = 113)) := by
    simp only [PublicIpv4, NOT_PUBLIC_IPV4, List.forall_mem_cons, List.not_mem_nil, IsEmpty.forall_iff, implies_true, and_true,
      Block.has, ipv4, not_or]
    refine and_congr ?_ (and_congr ?_ (and_congr ?_ (and_congr ?_ (and_congr ?_ (and_congr ?_ (and_congr ?_ (and_congr ?_
      (and_congr ?_ (and_congr ?_ (and_congr ?_ (and_congr ?_ ?_)))))))))))
    all_goals norm_num; omega
  rw [blocks]
  unfold isUnsafeIpv4Address
  rw [quad.split]
  simp only [List.map_cons, List.map_nil, parseInt_decimal one, parseInt_decimal two, parseInt_decimal three,
    parseInt_decimal four]
  rw [if_neg (by omega), decide_eq_false_iff_not]
  apply not_congr
  norm_cast

/-- The leading bits of a group, masked. -/
theorem and_mask {group low : Nat} (less : group < 2 ^ 16) (few : low ≤ 16) :
    group &&& (2 ^ (16 - low) - 1) <<< low = group / 2 ^ low * 2 ^ low := by
  rw [← Nat.shiftRight_eq_div_pow, ← Nat.shiftLeft_eq]
  apply Nat.eq_of_testBit_eq
  intro place
  simp only [Nat.testBit_and, Nat.testBit_shiftLeft, Nat.testBit_shiftRight, Nat.testBit_two_pow_sub_one]
  by_cases above : low ≤ place
  · by_cases inGroup : place < 16
    · have within : place - low < 16 - low := by omega
      simp [above, within]
    · have zero : group.testBit place = false :=
        Nat.testBit_lt_two_pow (lt_of_lt_of_le less (Nat.pow_le_pow_right (by decide) (by omega)))
      simp [above, zero]
  · simp [above]

theorem hexFold_lt (digits : ∀ unit ∈ text, isHexDigit unit = true) (start : Nat) :
    text.foldl (fun value unit => 16 * value + (if unit ≤ 57 then unit - 48 else unit - 87)) start <
      (start + 1) * 16 ^ text.length := by
  induction text generalizing start with
  | nil =>
    simp
  | cons unit text ih =>
    have digit := isHexDigit_iff.mp (digits unit List.mem_cons_self)
    have rest := ih (fun unit member => digits unit (List.mem_cons_of_mem _ member))
      (16 * start + (if unit ≤ 57 then unit - 48 else unit - 87))
    have atMost : 16 * start + (if unit ≤ 57 then unit - 48 else unit - 87) + 1 ≤ 16 * (start + 1) := by
      split
      · omega
      · omega
    rw [List.foldl_cons, List.length_cons]
    calc _ < _ := rest
      _ ≤ 16 * (start + 1) * 16 ^ text.length := Nat.mul_le_mul_right _ atMost
      _ = (start + 1) * 16 ^ (text.length + 1) := by ring

theorem IsGroup.small {part : Text} {value : Nat} (group : IsGroup part value) : value < 65536 := by
  have digits := group.digits
  unfold isGroup at digits
  simp only [Bool.and_eq_true, decide_eq_true_eq, List.all_eq_true] at digits
  rw [← group.value]
  calc hexValue part < (0 + 1) * 16 ^ part.length := hexFold_lt digits.2 0
    _ ≤ (0 + 1) * 16 ^ 4 := Nat.mul_le_mul_left _ (Nat.pow_le_pow_right (by decide) digits.1.2)
    _ = 65536 := by norm_num

theorem groups_small {parts : List Text} (written : List.Forall₂ IsGroup parts groups) : ∀ group ∈ groups, group < 65536 := by
  induction written with
  | nil => exact fun _ member => (nomatch member)
  | cons own _ ih =>
    intro group member
    rcases List.mem_cons.mp member with rfl | member
    · exact own.small
    · exact ih group member

theorem Written.small {parts : List Text} (written : Written parts groups) : ∀ group ∈ groups, group < 65536 := by
  intro group member
  rcases written.cases_quad with all | ⟨init, head, quad, a, b, c, d, rfl, rfl, before, dotted⟩
  · exact groups_small all group member
  · obtain ⟨one, two, three, four⟩ := dotted.octets
    rcases List.mem_append.mp member with inHead | inQuad
    · exact groups_small before group inHead
    · simp only [List.mem_cons, List.not_mem_nil, or_false] at inQuad
      omega

/-- An address denotes eight groups of sixteen bits. -/
theorem Spelled.eight (spelled : Spelled text groups) : groups.length = 8 ∧ ∀ group ∈ groups, group < 65536 := by
  cases spelled with
  | full written eight => exact ⟨eight, written.small⟩
  | @elided left right head tail before after fewer =>
    constructor
    · rw [List.length_append, List.length_append, List.length_replicate]
      omega
    · intro group member
      rcases List.mem_append.mp member with inFront | inTail
      · rcases List.mem_append.mp inFront with inHead | zero
        · exact groups_small before group inHead
        · rw [List.eq_of_mem_replicate zero]
          decide
      · exact after.small group inTail

/-- An address's groups are unsafe exactly where they are in none of the public addresses. -/
theorem isUnsafeIpv6Address_groups {g0 g1 g2 g3 g4 g5 g6 g7 : Nat}
    (read : ipv6Groups toLowerCase text = some [g0, g1, g2, g3, g4, g5, g6, g7])
    (small : ∀ group ∈ [g0, g1, g2, g3, g4, g5, g6, g7], group < 65536) :
    isUnsafeIpv6Address toLowerCase text = false ↔ PublicIpv6 (ipv6 [g0, g1, g2, g3, g4, g5, g6, g7]) := by
  simp only [List.forall_mem_cons, List.not_mem_nil, IsEmpty.forall_iff, implies_true, and_true] at small
  obtain ⟨small0, small1, small2, small3, small4, small5, small6, small7⟩ := small
  have mask9 : g0 &&& 0xfe00 = g0 / 512 * 512 := @and_mask _ 9 small0 (by decide)
  have mask6 : g0 &&& 0xffc0 = g0 / 64 * 64 := @and_mask _ 6 small0 (by decide)
  have mask8 : g0 &&& 0xff00 = g0 / 256 * 256 := @and_mask _ 8 small0 (by decide)
  unfold isUnsafeIpv6Address
  rw [read]
  simp only
  rw [decide_eq_false_iff_not, mask9, mask6, mask8]
  simp only [PublicIpv6, NOT_PUBLIC_IPV6, List.forall_mem_cons, List.not_mem_nil, IsEmpty.forall_iff, implies_true, and_true,
    Block.has, ipv6, List.foldl_cons, List.foldl_nil, not_or]
  refine and_congr ?_ (and_congr ?_ (and_congr ?_ (and_congr ?_ (and_congr ?_ (and_congr ?_ (and_congr ?_ (and_congr ?_
    (and_congr ?_ (and_congr ?_ ?_)))))))))
  all_goals norm_num; omega

/-- Every spelling of an address has one verdict: whether it is public. -/
theorem isUnsafeIpv6Address_address (lowers : ∀ text, Lowered text (toLowerCase text)) (address : IsAddress text groups) :
    isUnsafeIpv6Address toLowerCase text = false ↔ PublicIpv6 (ipv6 groups) := by
  have read := ipv6Groups_address lowers address
  have eight : groups.length = 8 ∧ ∀ group ∈ groups, group < 65536 := by
    cases address with
    | bare denotes => exact Spelled.eight denotes
    | zoned denotes zone => exact Spelled.eight denotes
  obtain ⟨length, small⟩ := eight
  match groups, length, read, small with
  | [g0, g1, g2, g3, g4, g5, g6, g7], _, read, small => exact isUnsafeIpv6Address_groups read small

end

end LetterIRL.Download
