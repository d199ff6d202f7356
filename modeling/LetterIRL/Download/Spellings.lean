import Mathlib.Data.List.TakeWhile
import LetterIRL.Download.Addresses

namespace LetterIRL.Download
open Lib

/-! Every spelling of an address is read as the groups it denotes, and nothing else is read. -/

/-- An address without a dotted tail. -/
inductive Plain : Text → List Nat → Prop
  | full {parts : List Text} {groups : List Nat} (written : List.Forall₂ IsGroup parts groups) (eight : groups.length = 8) :
      Plain ([COLON].intercalate parts) groups
  | elided {left right : List Text} {head tail : List Nat} (before : List.Forall₂ IsGroup left head)
      (after : List.Forall₂ IsGroup right tail) (fewer : head.length + tail.length < 8) :
      Plain ([COLON].intercalate left ++ COLON :: COLON :: [COLON].intercalate right)
        (head ++ List.replicate (8 - (head.length + tail.length)) 0 ++ tail)

section
variable {text : Text} {parts : List Text} {groups : List Nat}

theorem groups_parts (written : List.Forall₂ IsGroup parts groups) : Parts COLON parts := by
  induction written with
  | nil => exact fun _ member => (nomatch member)
  | cons group _ ih =>
    intro part member
    rcases List.mem_cons.mp member with rfl | member
    · exact group.plain
    · exact ih part member

theorem groups_all : List.Forall₂ IsGroup parts (parts.map hexValue) ↔ parts.all isGroup = true := by
  rw [List.forall₂_map_right_iff, List.forall₂_same, List.all_eq_true]
  constructor
  · intro groups part member
    exact (groups part member).digits
  · intro all part member
    exact ⟨all part member, rfl⟩

theorem groupsOf_some : groupsOf parts = some groups ↔ List.Forall₂ IsGroup parts groups := by
  unfold groupsOf
  constructor
  · intro read
    split at read
    · rename_i all
      cases read
      exact groups_all.mpr all
    · cases read
  · intro written
    have values : parts.map hexValue = groups := by
      induction written with
      | nil => rfl
      | cons group _ ih => rw [List.map_cons, group.value, ih]
    rw [if_pos (groups_all.mp (values ▸ written)), values]

theorem partsOf_joined (plain : Parts COLON parts) : partsOf ([COLON].intercalate parts) = parts := by
  unfold partsOf
  cases parts with
  | nil => rfl
  | cons part parts =>
    have some_ : [COLON].intercalate (part :: parts) ≠ [] := by
      have first := (plain part List.mem_cons_self).1
      cases parts with
      | nil => simpa [List.intercalate_singleton] using first
      | cons second parts => simp [List.intercalate_cons_cons]
    rw [if_neg some_, List.splitOn_intercalate COLON (fun part member => (plain part member).2) (List.cons_ne_nil _ _)]

theorem joined_partsOf (part : Text) : [COLON].intercalate (partsOf part) = part := by
  unfold partsOf
  split
  · rename_i none_
    rw [none_]
    rfl
  · exact List.intercalate_splitOn COLON

theorem zeros (count : Nat) : List.Forall₂ IsGroup (List.replicate count [48]) (List.replicate count 0) := by
  induction count with
  | zero => exact .nil
  | succ count ih => exact .cons ⟨by decide, by decide⟩ ih

/-- Groups with so many zeros among them. -/
theorem groupsOf_zeros {front back : List Text} {count : Nat} :
    groupsOf (front ++ List.replicate count [48] ++ back) = some groups ↔
      ∃ head tail, List.Forall₂ IsGroup front head ∧ List.Forall₂ IsGroup back tail ∧
        groups = head ++ List.replicate count 0 ++ tail := by
  constructor
  · intro read
    have written := groupsOf_some.mp read
    unfold groupsOf at read
    split at read
    · rename_i all
      cases read
      rw [List.all_append, List.all_append, Bool.and_eq_true, Bool.and_eq_true] at all
      refine ⟨_, _, groups_all.mpr all.1.1, groups_all.mpr all.2, ?_⟩
      rw [List.map_append, List.map_append, List.map_replicate]
      rfl
    · cases read
  · rintro ⟨head, tail, before, after, rfl⟩
    exact groupsOf_some.mpr (List.rel_append (List.rel_append before (zeros count)) after)

/-- What is read of a text without a dotted tail is what it spells. -/
theorem plainGroups_some : plainGroups text = some groups ↔ Plain text groups := by
  constructor
  · intro read
    have joined := intercalate_splitPair COLON text
    unfold plainGroups at read
    split at read
    · rename_i whole split
      split at read
      · rename_i eight
        have written := groupsOf_some.mp read
        rw [split, List.intercalate_singleton] at joined
        rw [← joined, ← joined_partsOf whole]
        exact .full written (written.length_eq ▸ eight)
      · cases read
    · rename_i front back split
      simp only at read
      split at read
      · cases read
      · rename_i some_
        obtain ⟨head, tail, before, after, rfl⟩ := groupsOf_zeros.mp read
        rw [split, List.intercalate_cons_cons, List.intercalate_singleton] at joined
        have one := before.length_eq
        have two := after.length_eq
        rw [show (8 - ((partsOf front).length : Int) - (partsOf back).length).toNat = 8 - (head.length + tail.length) by omega]
        have spelled := Plain.elided before after (by omega)
        rw [joined_partsOf, joined_partsOf] at spelled
        rw [← joined, List.append_assoc]
        exact spelled
    · cases read
  · intro spelled
    unfold plainGroups
    cases spelled with
    | full written eight =>
      rw [splitPair_none (groups_parts written)]
      simp only
      rw [partsOf_joined (groups_parts written), if_pos (written.length_eq.trans eight), groupsOf_some]
      exact written
    | @elided left right head tail before after fewer =>
      rw [splitPair_one (groups_parts before) (groups_parts after)]
      simp only
      rw [partsOf_joined (groups_parts before), partsOf_joined (groups_parts after), before.length_eq, after.length_eq,
        if_neg (by omega), groupsOf_zeros]
      refine ⟨head, tail, before, after, ?_⟩
      rw [show (8 - (head.length : Int) - tail.length).toNat = 8 - (head.length + tail.length) by omega]

end

/-- The units of an address in lower case, but for the dots of a dotted tail. -/
def InAddress (unit : Nat) : Prop := isHexDigit unit = true ∨ unit = COLON

section
variable {text before quad : Text} {parts init : List Text} {groups values : List Nat} {a b c d : Nat}

theorem joined_units (written : List.Forall₂ IsGroup parts groups) : ∀ unit ∈ [COLON].intercalate parts, InAddress unit := by
  induction written with
  | nil => exact fun _ member => (nomatch member)
  | @cons part value parts values group rest ih =>
    intro unit member
    cases parts with
    | nil =>
      rw [List.intercalate_singleton] at member
      exact .inl (group.units.2 unit member)
    | cons second parts =>
      rw [List.intercalate_cons_cons, List.append_assoc] at member
      rcases List.mem_append.mp member with own | member
      · exact .inl (group.units.2 unit own)
      · rcases List.mem_append.mp member with colon | later
        · exact .inr (List.mem_singleton.mp colon)
        · exact ih unit later

theorem lead_units (written : List.Forall₂ IsGroup parts groups) : ∀ unit ∈ parts.flatMap (· ++ [COLON]), InAddress unit := by
  intro unit member
  have all := joined_units (List.rel_append written (zeros 1))
  rw [List.replicate_one, joined_last] at all
  exact all unit (List.mem_append_left _ member)

/-- Every part is a group, or the last is a dotted quad. -/
theorem Written.cases_quad (written : Written parts values) : List.Forall₂ IsGroup parts values ∨
    ∃ init head quad a b c d, parts = init ++ [quad] ∧ values = head ++ [256 * a + b, 256 * c + d] ∧
      List.Forall₂ IsGroup init head ∧ IsQuad quad a b c d := by
  induction written with
  | none => exact .inl .nil
  | @group part value parts values group rest ih =>
    rcases ih with all | ⟨init, head, quad, a, b, c, d, rfl, rfl, before, dotted⟩
    · exact .inl (.cons group all)
    · exact .inr ⟨part :: init, value :: head, quad, a, b, c, d, rfl, rfl, .cons group before, dotted⟩
  | quad dotted => exact .inr ⟨[], [], _, _, _, _, _, rfl, rfl, .nil, dotted⟩

theorem Written.of_groups (written : List.Forall₂ IsGroup parts values) : Written parts values := by
  induction written with
  | nil => exact .none
  | cons group _ ih => exact .group group ih

theorem Written.of_quad (written : List.Forall₂ IsGroup init groups) (dotted : IsQuad quad a b c d) :
    Written (init ++ [quad]) (groups ++ [256 * a + b, 256 * c + d]) := by
  induction written with
  | nil => exact .quad dotted
  | cons group _ ih => exact .group group ih

/-- A text without a dot is left as it is. -/
theorem undotted_plain (plain : DOT ∉ text) : undotted text = some text := by
  unfold undotted
  split
  · rename_i before tail cut
    obtain ⟨init, -, rfl, -⟩ := cutLast_some cut
    have single := List.splitOn_eq_singleton (fun member => plain (List.mem_append_right before member) : DOT ∉ tail)
    have undot : isDotted tail = false := by
      unfold isDotted
      rw [single]
      rfl
    rw [undot, Bool.and_false, if_neg (by decide)]
  · rfl

/-- A dotted tail becomes two groups. -/
theorem undotted_quad {start : Text} (dotted : IsQuad quad a b c d) (units : ∀ unit ∈ start ++ [COLON], InAddress unit) :
    undotted (start ++ COLON :: quad) =
      some (start ++ [COLON] ++ toHex (256 * a + b) ++ COLON :: toHex (256 * c + d)) := by
  have oneLine : (start ++ [COLON]).all (fun unit => !isLineEnd unit) = true := by
    rw [List.all_eq_true]
    intro unit member
    rcases units unit member with digit | rfl
    · have bounds := isHexDigit_iff.mp digit
      simp only [isLineEnd, Bool.not_eq_true', Bool.or_eq_false_iff, beq_eq_false_iff_ne, ne_eq]
      omega
    · decide
  obtain ⟨four, isDot, values⟩ := dotted.isIPv4
  unfold undotted
  rw [cutLast_append dotted.plain.2]
  simp only
  rw [oneLine, isDot, Bool.and_true, if_pos rfl, four, values]
  simp only
  rw [byte_or dotted.octets.2.1, byte_or dotted.octets.2.2.2]

theorem undotted_some {plain : Text} (undot : undotted text = some plain) : plain = text ∨
    ∃ start quad a b c d, IsQuad quad a b c d ∧ text = start ++ COLON :: quad ∧
      plain = start ++ [COLON] ++ toHex (256 * a + b) ++ COLON :: toHex (256 * c + d) := by
  unfold undotted at undot
  split at undot
  · rename_i before tail cut
    obtain ⟨start, rfl, rfl, -⟩ := cutLast_some cut
    split at undot
    · split at undot
      · rename_i a b c d four values
        obtain ⟨a', b', c', d', dotted⟩ := isIPv4_quad four
        rw [dotted.isIPv4.2.2] at values
        cases values
        rw [byte_or dotted.octets.2.1, byte_or dotted.octets.2.2.2] at undot
        exact .inr ⟨start, tail, _, _, _, _, dotted, by simp, (Option.some.inj undot).symm⟩
      · cases undot
    · exact .inl (Option.some.inj undot).symm
  · exact .inl (Option.some.inj undot).symm

/-- The last two groups of a text, and all before them, are one way to cut it. -/
theorem last_two_inj {start start' one two one' two' : Text} (plain : COLON ∉ one) (plain' : COLON ∉ one')
    (plainTwo : COLON ∉ two) (plainTwo' : COLON ∉ two')
    (same : start ++ [COLON] ++ one ++ COLON :: two = start' ++ [COLON] ++ one' ++ COLON :: two') :
    start = start' ∧ one = one' ∧ two = two' := by
  obtain ⟨first, rfl⟩ := last_part_inj plainTwo plainTwo' same
  rw [List.append_assoc, List.append_assoc, List.singleton_append, List.singleton_append] at first
  obtain ⟨rfl, rfl⟩ := last_part_inj plain plain' first
  exact ⟨rfl, rfl, rfl⟩

end

section
variable {text : Text} {parts left right : List Text} {groups head tail : List Nat}

theorem groups_concat {last : Text} (written : List.Forall₂ IsGroup (parts ++ [last]) groups) :
    ∃ init value, groups = init ++ [value] ∧ List.Forall₂ IsGroup parts init ∧ IsGroup last value := by
  induction parts generalizing groups with
  | nil =>
    cases written with
    | cons group rest =>
      cases rest
      exact ⟨[], _, rfl, .nil, group⟩
  | cons part parts ih =>
    cases written with
    | cons group rest =>
      obtain ⟨init, value, rfl, before, own⟩ := ih rest
      exact ⟨_ :: init, value, rfl, .cons group before, own⟩

/-- A text ending in a colon, with groups and a colon each after it, ends in one. -/
theorem lead_colon (start : Text) (init : List Text) :
    ∃ start', start ++ [COLON] ++ init.flatMap (· ++ [COLON]) = start' ++ [COLON] := by
  rcases List.eq_nil_or_concat init with rfl | ⟨front, last, rfl⟩
  · exact ⟨start, by simp⟩
  · refine ⟨start ++ [COLON] ++ front.flatMap (· ++ [COLON]) ++ last, ?_⟩
    simp [List.flatMap_append]

theorem no_dot (units : ∀ unit ∈ text, InAddress unit) : DOT ∉ text := by
  intro member
  rcases units DOT member with digit | colon
  · exact absurd digit (by decide)
  · exact absurd colon (by decide)

theorem pair_last (init : List Text) (one two : Text) :
    [COLON].intercalate (init ++ [one, two]) = init.flatMap (· ++ [COLON]) ++ one ++ COLON :: two := by
  rw [show init ++ [one, two] = (init ++ [one]) ++ [two] by simp, joined_last, List.flatMap_append]
  simp

/-- What an address spells is what its text with no dotted tail does. -/
theorem Spelled.plain (spelled : Spelled text groups) : ∃ plain, undotted text = some plain ∧ Plain plain groups := by
  cases spelled with
  | full written eight =>
    rcases written.cases_quad with all | ⟨init, heads, quad, a, b, c, d, rfl, rfl, before, dotted⟩
    · exact ⟨_, undotted_plain (no_dot (joined_units all)), .full all eight⟩
    · obtain ⟨one, two, three, four⟩ := dotted.octets
      have hi := toHex_group (show 256 * a + b < 65536 by omega)
      have lo := toHex_group (show 256 * c + d < 65536 by omega)
      rw [List.length_append] at eight
      have length := before.length_eq
      rcases List.eq_nil_or_concat init with rfl | ⟨front, last, rfl⟩
      · cases before
        cases eight
      · have whole : (front ++ [last]).flatMap (· ++ [COLON]) = front.flatMap (· ++ [COLON]) ++ last ++ [COLON] := by
          simp [List.flatMap_append]
        have units := lead_units before
        rw [List.concat_eq_append] at *
        rw [whole] at units
        have spelled := Plain.full (List.rel_append before (.cons hi (.cons lo .nil))) (by simpa using eight)
        rw [pair_last, whole] at spelled
        rw [joined_last, whole, List.append_assoc, List.singleton_append]
        exact ⟨_, undotted_quad dotted units, spelled⟩
  | @elided left right head tail before written fewer =>
    rcases written.cases_quad with all | ⟨init, tails, quad, a, b, c, d, rfl, rfl, after, dotted⟩
    · refine ⟨_, undotted_plain (no_dot ?_), .elided before all fewer⟩
      intro unit member
      rcases List.mem_append.mp member with inLeft | inRight
      · exact joined_units before unit inLeft
      · rcases List.mem_cons.mp inRight with rfl | inRight
        · exact .inr rfl
        · rcases List.mem_cons.mp inRight with rfl | inRight
          · exact .inr rfl
          · exact joined_units all unit inRight
    · obtain ⟨one, two, three, four⟩ := dotted.octets
      have hi := toHex_group (show 256 * a + b < 65536 by omega)
      have lo := toHex_group (show 256 * c + d < 65536 by omega)
      have spelled := Plain.elided before (List.rel_append after (.cons hi (.cons lo .nil))) fewer
      obtain ⟨start, ends⟩ := lead_colon ([COLON].intercalate left ++ [COLON]) init
      have units : ∀ unit ∈ start ++ [COLON], InAddress unit := by
        intro unit member
        rw [← ends] at member
        simp only [List.mem_append, List.mem_singleton] at member
        rcases member with ((inLeft | colon) | colon) | inInit
        · exact joined_units before unit inLeft
        · exact .inr colon
        · exact .inr colon
        · exact lead_units after unit inInit
      have text : [COLON].intercalate left ++ COLON :: COLON :: [COLON].intercalate (init ++ [quad]) = start ++ COLON :: quad := by
        rw [joined_last, show start ++ COLON :: quad = start ++ [COLON] ++ quad by simp, ← ends]
        simp
      have undot := undotted_quad dotted units
      rw [← text] at undot
      refine ⟨_, undot, ?_⟩
      rw [pair_last] at spelled
      rw [← ends]
      simpa using spelled

/-- And the other way. -/
theorem Plain.spelled {plain : Text} (spelled : Plain plain groups) (undot : undotted text = some plain) : Spelled text groups := by
  rcases undotted_some undot with rfl | ⟨start, quad, a, b, c, d, dotted, rfl, rfl⟩
  · cases spelled with
    | full written eight => exact .full (.of_groups written) eight
    | elided before after fewer => exact .elided before (.of_groups after) fewer
  · obtain ⟨one, two, three, four⟩ := dotted.octets
    have hi := toHex_group (show 256 * a + b < 65536 by omega)
    have lo := toHex_group (show 256 * c + d < 65536 by omega)
    generalize cut : start ++ [COLON] ++ toHex (256 * a + b) ++ COLON :: toHex (256 * c + d) = plain at spelled
    cases spelled with
    | @full parts groups written eight =>
      rcases List.eq_nil_or_concat parts with rfl | ⟨rest, q, rfl⟩
      · cases written
        cases eight
      · rw [List.concat_eq_append] at *
        obtain ⟨values, last, rfl, written, own⟩ := groups_concat written
        rcases List.eq_nil_or_concat rest with rfl | ⟨init, p, rfl⟩
        · cases written
          cases eight
        · rw [List.concat_eq_append] at *
          obtain ⟨values, second, rfl, inner, own'⟩ := groups_concat written
          rcases List.eq_nil_or_concat init with rfl | ⟨front, part, rfl⟩
          · cases inner
            cases eight
          · rw [List.concat_eq_append] at *
            have whole : (front ++ [part]).flatMap (· ++ [COLON]) = front.flatMap (· ++ [COLON]) ++ part ++ [COLON] := by
              simp [List.flatMap_append]
            rw [show front ++ [part] ++ [p] ++ [q] = (front ++ [part]) ++ [p, q] by simp, pair_last, whole] at cut
            obtain ⟨rfl, rfl, rfl⟩ := last_two_inj hi.plain.2 own'.plain.2 lo.plain.2 own.plain.2 cut
            obtain rfl := own.value.symm.trans lo.value
            obtain rfl := own'.value.symm.trans hi.value
            have spelled := Spelled.full (Written.of_quad inner dotted) (by simpa using eight)
            rw [joined_last, whole] at spelled
            simpa using spelled
    | @elided left right head tail before after fewer =>
      obtain ⟨toHexSome, -⟩ := lo.plain
      rcases List.eq_nil_or_concat right with rfl | ⟨rest, q, rfl⟩
      · -- Nothing is after the two colons, but the text has groups after its last.
        have same : start ++ [COLON] ++ toHex (256 * a + b) ++ COLON :: toHex (256 * c + d) =
            ([COLON].intercalate left ++ [COLON]) ++ COLON :: [] := by
          rw [cut]
          simp
        exact absurd (last_part_inj lo.plain.2 List.not_mem_nil same).2 toHexSome
      · rw [List.concat_eq_append] at *
        obtain ⟨values, last, rfl, written, own⟩ := groups_concat after
        rcases List.eq_nil_or_concat rest with rfl | ⟨init, p, rfl⟩
        · -- One group is after the two colons, but the text has two after its last but one.
          have same : start ++ [COLON] ++ toHex (256 * a + b) ++ COLON :: toHex (256 * c + d) =
              ([COLON].intercalate left ++ [COLON]) ++ COLON :: q := by
            rw [cut]
            simp [List.intercalate_singleton]
          obtain ⟨first, -⟩ := last_part_inj lo.plain.2 own.plain.2 same
          rw [List.append_assoc, List.singleton_append] at first
          exact absurd (last_part_inj hi.plain.2 List.not_mem_nil first).2 hi.plain.1
        · rw [List.concat_eq_append] at *
          obtain ⟨values, second, rfl, inner, own'⟩ := groups_concat written
          obtain ⟨start', ends⟩ := lead_colon ([COLON].intercalate left ++ [COLON]) init
          have same : start ++ [COLON] ++ toHex (256 * a + b) ++ COLON :: toHex (256 * c + d) =
              start' ++ [COLON] ++ p ++ COLON :: q := by
            rw [cut, show init ++ [p] ++ [q] = init ++ [p, q] by simp, pair_last, ← ends]
            simp
          obtain ⟨rfl, rfl, rfl⟩ := last_two_inj hi.plain.2 own'.plain.2 lo.plain.2 own.plain.2 same
          obtain rfl := own.value.symm.trans lo.value
          obtain rfl := own'.value.symm.trans hi.value
          have spelled := Spelled.elided before (Written.of_quad inner dotted) (by simpa using fewer)
          have text : [COLON].intercalate left ++ COLON :: COLON :: [COLON].intercalate (init ++ [quad]) =
              start ++ COLON :: quad := by
            rw [joined_last, show start ++ COLON :: quad = start ++ [COLON] ++ quad by simp, ← ends]
            simp
          rw [text] at spelled
          simpa using spelled

end

/-- A textual IPv6 address, with a zone or without. -/
inductive IsAddress : Text → List Nat → Prop
  | bare {text : Text} {groups : List Nat} (denotes : Denotes text groups) : IsAddress text groups
  | zoned {text : Text} {groups : List Nat} (denotes : Denotes text groups) (zone : Text) :
      IsAddress (text ++ PERCENT :: zone) groups

section
variable {text lower rest : Text} {parts : List Text} {groups values : List Nat} {toLowerCase : Text → Text}

theorem spelled_iff : (undotted text).bind plainGroups = some groups ↔ Spelled text groups := by
  constructor
  · intro read
    obtain ⟨plain, undot, read⟩ := Option.bind_eq_some_iff.mp read
    exact (plainGroups_some.mp read).spelled undot
  · intro spelled
    obtain ⟨plain, undot, spelled⟩ := spelled.plain
    rw [undot, Option.bind_some, plainGroups_some]
    exact spelled

theorem Written.units (written : Written parts values) : ∀ unit ∈ [COLON].intercalate parts, InAddress unit ∨ unit = DOT := by
  intro unit member
  rcases written.cases_quad with all | ⟨init, head, quad, a, b, c, d, rfl, rfl, before, dotted⟩
  · exact .inl (joined_units all unit member)
  · rw [joined_last] at member
    rcases List.mem_append.mp member with inInit | inQuad
    · exact .inl (lead_units before unit inInit)
    · rcases dotted.units.2 unit inQuad with digit | dot
      · exact .inl (.inl (by simp [isHexDigit, digit]))
      · exact .inr dot

theorem Spelled.units (spelled : Spelled text groups) : ∀ unit ∈ text, InAddress unit ∨ unit = DOT := by
  cases spelled with
  | full written eight => exact written.units
  | elided before after fewer =>
    intro unit member
    rcases List.mem_append.mp member with inLeft | inRight
    · exact .inl (joined_units before unit inLeft)
    · rcases List.mem_cons.mp inRight with rfl | inRight
      · exact .inl (.inr rfl)
      · rcases List.mem_cons.mp inRight with rfl | inRight
        · exact .inl (.inr rfl)
        · exact after.units unit inRight

theorem inAddress_bounds {unit : Nat} (inside : InAddress unit ∨ unit = DOT) : unit < 128 ∧ unit ≠ PERCENT := by
  unfold PERCENT
  rcases inside with (digit | rfl) | rfl
  · have bounds := isHexDigit_iff.mp digit
    omega
  · decide
  · decide

/-- The text of an address is ASCII, and is lowered a unit at a time. -/
theorem Lowered.address (lowered : Lowered (text ++ rest) lower) (ascii : ∀ unit ∈ text, unit < 128) :
    ∃ lower', lower = text.map lowerUnit ++ lower' ∧ Lowered rest lower' := by
  induction text generalizing lower with
  | nil => exact ⟨lower, rfl, lowered⟩
  | cons unit text ih =>
    rw [List.cons_append] at lowered
    cases lowered with
    | ascii small later =>
      obtain ⟨lower', rfl, after⟩ := ih later fun unit member => ascii unit (List.mem_cons_of_mem _ member)
      exact ⟨lower', rfl, after⟩
    | other large some_ none_ later =>
      have small := ascii unit List.mem_cons_self
      omega

/-- A text lowered to that of an address is ASCII. -/
theorem Lowered.ascii_of (lowered : Lowered text lower) (inside : ∀ unit ∈ lower, InAddress unit ∨ unit = DOT) :
    lower = text.map lowerUnit := by
  induction lowered with
  | none => rfl
  | ascii small later ih =>
    rw [List.map_cons, ih fun unit member => inside unit (List.mem_cons_of_mem _ member)]
  | @other unit text piece lower large some_ none_ later ih =>
    obtain ⟨first, others, rfl⟩ := List.exists_cons_of_ne_nil some_
    obtain ⟨noDigit, noColon, noDot, -⟩ := none_ first List.mem_cons_self
    rcases inside first (by simp) with (digit | colon) | dot
    · rw [noDigit] at digit
      cases digit
    · exact absurd colon noColon
    · exact absurd dot noDot

theorem Lowered.percent (lowered : Lowered text lower) (none_ : PERCENT ∉ text) : PERCENT ∉ lower := by
  induction lowered with
  | none => exact List.not_mem_nil
  | @ascii unit text lower small later ih =>
    intro member
    rcases List.mem_cons.mp member with same | member
    · have own : unit = PERCENT := by
        unfold lowerUnit PERCENT at *
        split at same
        · omega
        · exact same.symm
      exact none_ (own ▸ List.mem_cons_self)
    · exact ih (fun member => none_ (List.mem_cons_of_mem _ member)) member
  | other large some_ pieces later ih =>
    intro member
    rcases List.mem_append.mp member with inPiece | member
    · exact (pieces PERCENT inPiece).2.2.2 rfl
    · exact ih (fun member => none_ (List.mem_cons_of_mem _ member)) member

theorem Denotes.units (denotes : Denotes text groups) : ∀ unit ∈ text, unit < 128 := by
  intro unit member
  have bounds := inAddress_bounds (Spelled.units denotes (lowerUnit unit) (List.mem_map_of_mem member))
  unfold lowerUnit at bounds
  split at bounds
  · omega
  · exact bounds.1

/-- The groups read of an address are those it denotes. -/
theorem ipv6Groups_address (lowers : ∀ text, Lowered text (toLowerCase text)) (address : IsAddress text groups) :
    ipv6Groups toLowerCase text = some groups := by
  have cut : ∀ text rest groups, Denotes text groups → (rest = [] ∨ ∃ zone, rest = PERCENT :: zone) →
      ipv6Groups toLowerCase (text ++ rest) = some groups := by
    intro text rest groups denotes either
    obtain ⟨lower', same, after⟩ := (lowers (text ++ rest)).address denotes.units
    have inside : ∀ unit ∈ text.map lowerUnit, (decide (unit ≠ PERCENT)) = true := by
      intro unit member
      exact decide_eq_true (inAddress_bounds (Spelled.units denotes unit member)).2
    have ends : lower'.takeWhile (· ≠ PERCENT) = [] := by
      rcases either with rfl | ⟨zone, rfl⟩
      · cases after
        rfl
      · cases after with
        | ascii small later => rfl
        | other large some_ none_ later => exact absurd large (by decide)
    unfold ipv6Groups
    rw [same, List.takeWhile_append_of_pos inside, ends, List.append_nil, spelled_iff]
    exact denotes
  cases address with
  | bare denotes => simpa using cut text [] groups denotes (.inl rfl)
  | zoned denotes zone => exact cut _ _ groups denotes (.inr ⟨zone, rfl⟩)

/-- Nothing is read of any other text without a zone. -/
theorem ipv6Groups_some (lowers : ∀ text, Lowered text (toLowerCase text)) (none_ : PERCENT ∉ text)
    (read : ipv6Groups toLowerCase text = some groups) : Denotes text groups := by
  have lowered := lowers text
  have whole : (toLowerCase text).takeWhile (· ≠ PERCENT) = toLowerCase text := by
    rw [List.takeWhile_eq_self_iff]
    intro unit member
    have apart : unit ≠ PERCENT := by
      rintro rfl
      exact lowered.percent none_ member
    simpa using apart
  unfold ipv6Groups at read
  rw [whole, spelled_iff] at read
  unfold Denotes
  rw [← lowered.ascii_of read.units]
  exact read

end

end LetterIRL.Download
