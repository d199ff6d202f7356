import LetterIRL.Lib.Json
import LetterIRL.Lib.Table
import LetterIRL.Render.Items

namespace LetterIRL.Render

open Lib.Json Photos

/-! JavaScript values, and the plain data the fingerprint is made of. -/

/-- A JavaScript value; a string by its characters, an object by its own fields in their order. -/
inductive Js
  | undefined
  | null
  | bool (value : Bool)
  | number (value : Number)
  | string (value : List Char)
  | bytes (value : Buffer)
  | array (items : List Js)
  | object (fields : List (List Char × Js))

/-- The code units of one character. -/
def charUnits (c : Char) : Text :=
  if c.toNat < 0x10000 then [c.toNat]
  else [0xd800 + (c.toNat - 0x10000) / 0x400, 0xdc00 + (c.toNat - 0x10000) % 0x400]

def utf16 (text : List Char) : Text := text.flatMap charUnits

/-- The order `sort()` puts keys in, that of their code units. -/
def keyLe (a b : List Char) : Bool := decide (utf16 a ≤ utf16 b)

/-- Up to three decimals, as many as are needed. -/
def fraction (thousandths : Nat) : List Char :=
  if thousandths = 0 then []
  else if thousandths % 100 = 0 then ['.', Nat.digitChar (thousandths / 100)]
  else if thousandths % 10 = 0 then ['.', Nat.digitChar (thousandths / 100), Nat.digitChar (thousandths / 10 % 10)]
  else ['.', Nat.digitChar (thousandths / 100), Nat.digitChar (thousandths / 10 % 10), Nat.digitChar (thousandths % 10)]

/-- The text of a number of thousandths; one of 10^21 or more is not written with an exponent here. -/
def decimalText (thousandths : Int) : List Char :=
  (if thousandths < 0 then ['-'] else []) ++ Nat.toDigits 10 (thousandths.natAbs / 1000) ++ fraction (thousandths.natAbs % 1000)

theorem digitChar_digit : ∀ d < 10, (Nat.digitChar d).isDigit = true ∧ (Nat.digitChar d).toNat - 48 = d := by decide

/-- The decimals are none, or a point and digits of the thousandths. -/
theorem fraction_cases {n : Nat} (small : n < 1000) : n = 0 ∧ fraction n = [] ∨
    ∃ digits : List Nat, fraction n = '.' :: digits.map Nat.digitChar ∧ (∀ d ∈ digits, d < 10) ∧
      (digits = [n / 100] ∧ n % 100 = 0 ∨ digits = [n / 100, n / 10 % 10] ∧ n % 10 = 0 ∨
        digits = [n / 100, n / 10 % 10, n % 10]) := by
  have hundreds : n / 100 < 10 := by omega
  have tens : n / 10 % 10 < 10 := by omega
  have ones : n % 10 < 10 := by omega
  unfold fraction
  split_ifs with none_ one two
  · exact .inl ⟨none_, rfl⟩
  · exact .inr ⟨[n / 100], rfl, by simp [hundreds], .inl ⟨rfl, one⟩⟩
  · exact .inr ⟨[n / 100, n / 10 % 10], rfl, by simp [hundreds, tens], .inr (.inl ⟨rfl, two⟩)⟩
  · exact .inr ⟨[n / 100, n / 10 % 10, n % 10], rfl, by simp [hundreds, tens, ones], .inr (.inr rfl)⟩

theorem fraction_numeral {n : Nat} (small : n < 1000) : ∀ c ∈ fraction n, isNumeral c = true := by
  intro c member
  rcases fraction_cases small with ⟨_, shown⟩ | ⟨digits, shown, each, _⟩
  · rw [shown] at member
    nomatch member
  · rw [shown] at member
    rcases List.mem_cons.mp member with rfl | digit
    · rfl
    · obtain ⟨d, inDigits, rfl⟩ := List.mem_map.mp digit
      simp only [isNumeral, (digitChar_digit d (each d inDigits)).1, Bool.true_or]

theorem fraction_head {n : Nat} (small : n < 1000) : ∀ c ∈ (fraction n).head?, c = '.' := by
  intro c first
  rcases fraction_cases small with ⟨_, shown⟩ | ⟨digits, shown, _⟩
  · rw [shown] at first
    nomatch first
  · rw [shown] at first
    exact (Option.some.inj first).symm

/-- The thousandths of some decimals. -/
def readFraction : List Char → Nat
  | ['.', a] => (a.toNat - 48) * 100
  | ['.', a, b] => (a.toNat - 48) * 100 + (b.toNat - 48) * 10
  | ['.', a, b, c] => (a.toNat - 48) * 100 + (b.toNat - 48) * 10 + (c.toNat - 48)
  | _ => 0

theorem readFraction_fraction {n : Nat} (small : n < 1000) : readFraction (fraction n) = n := by
  rcases fraction_cases small with ⟨rfl, shown⟩ | ⟨digits, shown, each, kinds⟩
  · rfl
  · rw [shown]
    have value (d : Nat) (member : d ∈ digits) := (digitChar_digit d (each d member)).2
    rcases kinds with ⟨rfl, round⟩ | ⟨rfl, round⟩ | rfl
    · have hundreds := value (n / 100) (by simp)
      simp only [List.map_cons, List.map_nil, readFraction, hundreds]
      omega
    · have hundreds := value (n / 100) (by simp)
      have tens := value (n / 10 % 10) (by simp)
      simp only [List.map_cons, List.map_nil, readFraction, hundreds, tens]
      omega
    · have hundreds := value (n / 100) (by simp)
      have tens := value (n / 10 % 10) (by simp)
      have ones := value (n % 10) (by simp)
      simp only [List.map_cons, List.map_nil, readFraction, hundreds, tens, ones]
      omega

def decimal (thousandths : Int) : Numeral where
  text := decimalText thousandths
  written := by
    intro empty
    have digits := (List.append_eq_nil_iff.mp (List.append_eq_nil_iff.mp empty).1).2
    exact Nat.toDigits_ne_nil digits
  numeral := by
    intro c member
    rcases List.mem_append.mp member with whole | part
    · rcases List.mem_append.mp whole with sign | digits
      · split at sign
        · rw [List.mem_singleton.mp sign]
          rfl
        · nomatch sign
      · have digit := Nat.isDigit_of_mem_toDigits (by decide) (by decide) digits
        simp only [isNumeral, digit, Bool.true_or]
    · exact fraction_numeral (Nat.mod_lt _ (by decide)) c part

theorem digits_isDigit {n : Nat} {c : Char} (member : c ∈ Nat.toDigits 10 n) : c.isDigit = true :=
  Nat.isDigit_of_mem_toDigits (by decide) (by decide) member

/-- Digits followed by decimals: where the decimals begin is seen in the text. -/
theorem digits_fraction_inj {m n a b : Nat} (small : a < 1000) (small' : b < 1000)
    (same : Nat.toDigits 10 m ++ fraction a = Nat.toDigits 10 n ++ fraction b) : m = n ∧ a = b := by
  have split_ (k r : Nat) (small : r < 1000) :
      (Nat.toDigits 10 k ++ fraction r).takeWhile Char.isDigit = Nat.toDigits 10 k := by
    rw [List.takeWhile_append_of_pos fun c member => digits_isDigit member]
    have none_ : (fraction r).takeWhile Char.isDigit = [] := by
      cases shown : fraction r with
      | nil => rfl
      | cons c rest =>
        have dot := fraction_head small c (by rw [shown]; rfl)
        rw [dot]
        rfl
    rw [none_, List.append_nil]
  have whole : Nat.toDigits 10 m = Nat.toDigits 10 n := by
    rw [← split_ m a small, same, split_ n b small']
  rw [whole] at same
  have part := List.append_cancel_left same
  refine ⟨?_, ?_⟩
  · have read := congrArg (fun text => Nat.ofDigitChars 10 text 0) whole
    simpa only [Nat.ofDigitChars_ten_toDigits] using read
  · rw [← readFraction_fraction small, part, readFraction_fraction small']

theorem decimal_injective : Function.Injective decimal := by
  intro a b same
  have text : decimalText a = decimalText b := congrArg Numeral.text same
  have unsigned (k : Nat) (r : Nat) (rest : List Char) : Nat.toDigits 10 k ++ fraction r ≠ '-' :: rest := by
    intro minus
    cases digits : Nat.toDigits 10 k with
    | nil => exact Nat.toDigits_ne_nil digits
    | cons c others =>
      rw [digits, List.cons_append] at minus
      have digit := digits_isDigit (n := k) (c := c) (by rw [digits]; exact List.mem_cons_self)
      rw [(List.cons.inj minus).1] at digit
      exact absurd digit (by decide)
  have same_ (read : Nat.toDigits 10 (a.natAbs / 1000) ++ fraction (a.natAbs % 1000) =
      Nat.toDigits 10 (b.natAbs / 1000) ++ fraction (b.natAbs % 1000)) : a.natAbs = b.natAbs := by
    obtain ⟨whole, part⟩ := digits_fraction_inj (Nat.mod_lt _ (by decide)) (Nat.mod_lt _ (by decide)) read
    omega
  unfold decimalText at text
  by_cases negative : a < 0
  · by_cases negative' : b < 0
    · rw [if_pos negative, if_pos negative', List.append_assoc, List.append_assoc] at text
      have equal := same_ (List.append_cancel_left text)
      omega
    · rw [if_pos negative, if_neg negative', List.append_assoc, List.nil_append] at text
      exact absurd text.symm (unsigned _ _ _)
  · by_cases negative' : b < 0
    · rw [if_neg negative, if_pos negative', List.append_assoc, List.nil_append] at text
      exact absurd text (unsigned _ _ _)
    · rw [if_neg negative, if_neg negative', List.nil_append, List.nil_append] at text
      have equal := same_ text
      omega

theorem charUnits_append_inj {a b : Char} {rest rest' : Text} (same : charUnits a ++ rest = charUnits b ++ rest') :
    a = b ∧ rest = rest' := by
  have valid (c : Char) : c.toNat < 0xd800 ∨ 0xdfff < c.toNat ∧ c.toNat < 0x110000 := c.valid
  have one := valid a
  have two := valid b
  unfold charUnits at same
  split at same
  · split at same
    · simp only [List.cons_append, List.nil_append, List.cons.injEq] at same
      exact ⟨Char.toNat_inj.mp same.1, same.2⟩
    · simp only [List.cons_append, List.nil_append, List.cons.injEq] at same
      omega
  · split at same
    · simp only [List.cons_append, List.nil_append, List.cons.injEq] at same
      omega
    · simp only [List.cons_append, List.nil_append, List.cons.injEq] at same
      exact ⟨Char.toNat_inj.mp (by omega), same.2.2⟩

theorem utf16_injective : Function.Injective utf16 := by
  intro first second same
  induction first generalizing second with
  | nil =>
    cases second with
    | nil => rfl
    | cons c rest =>
      have some_ : charUnits c ≠ [] := by
        unfold charUnits
        split <;> exact List.cons_ne_nil _ _
      exact absurd (List.append_eq_nil_iff.mp same.symm).1 some_
  | cons c rest ih =>
    cases second with
    | nil =>
      have some_ : charUnits c ≠ [] := by
        unfold charUnits
        split <;> exact List.cons_ne_nil _ _
      exact absurd (List.append_eq_nil_iff.mp same).1 some_
    | cons c' rest' =>
      obtain ⟨head, tail⟩ := charUnits_append_inj same
      rw [head, ih tail]

/-- `rounded`: a number to a thousandth, or the name of one that is not finite. -/
def roundedValue : Number → Value
  | .finite value => .number (decimal ⌊value * 1000 + 1 / 2⌋)
  | .nan => .string "NaN".toList
  | .infinite true => .string "Infinity".toList
  | .infinite false => .string "-Infinity".toList

def sortedByKey (members : List (List Char × Value)) : List (List Char × Value) :=
  members.mergeSort fun a b => keyLe a.1 b.1

section

variable (sha256 : Buffer → List Char)

mutual

/-- `canonical`, as the JSON value it is written as: undefined is none, and an item that is undefined is null. -/
def canonical : Js → Option Value
  | .undefined => none
  | .null => some .null
  | .bool value => some (.bool value)
  | .number value => some (roundedValue value)
  | .string value => some (.string value)
  | .bytes value => some (.object [("sha256".toList, .string (sha256 value))])
  | .array items => some (.array (canonicalItems items))
  | .object fields => some (.object (sortedByKey (canonicalFields fields)))

def canonicalItems : List Js → List Value
  | [] => []
  | item :: rest => (canonical item).getD .null :: canonicalItems rest

/-- The fields an object keeps: an undefined one is left out. -/
def canonicalFields : List (List Char × Js) → List (List Char × Value)
  | [] => []
  | (key, value) :: rest =>
    match canonical value with
    | some kept => (key, kept) :: canonicalFields rest
    | none => canonicalFields rest

end

end

/-- `value.name` -/
def Js.get (value : Js) (name : String) : Js :=
  match value with
  | .object fields => ((fields.find? fun field => decide (field.1 = name.toList)).map (·.2)).getD .undefined
  | _ => .undefined

/-- An object, which has each key once. -/
def Js.isRecord : Js → Bool
  | .object fields => decide (fields.map (·.1)).Nodup
  | _ => false

/-- The member of a plain object by its key. -/
def member (value : Value) (name : String) : Option Value :=
  match value with
  | .object members => (members.find? fun entry => decide (entry.1 = name.toList)).map (·.2)
  | _ => none

variable {sha256 : Buffer → List Char}

theorem keyLe_total (a b : List Char) : (keyLe a b || keyLe b a) = true := by
  rw [Bool.or_eq_true, keyLe, keyLe, decide_eq_true_iff, decide_eq_true_iff]
  exact le_total _ _

theorem keyLe_trans {a b c : List Char} (first : keyLe a b = true) (second : keyLe b c = true) : keyLe a c = true := by
  rw [keyLe, decide_eq_true_iff] at first second ⊢
  exact first.trans second

theorem keyLe_antisymm {a b : List Char} (first : keyLe a b = true) (second : keyLe b a = true) : a = b := by
  rw [keyLe, decide_eq_true_iff] at first second
  exact utf16_injective (le_antisymm first second)

theorem sortedByKey_perm (members : List (List Char × Value)) : (sortedByKey members).Perm members :=
  List.mergeSort_perm _ _

/-- Members with each key once are sorted alike, in whatever order they come. -/
theorem sortedByKey_eq {members members' : List (List Char × Value)} (perm : members.Perm members')
    (once : (members.map (·.1)).Nodup) : sortedByKey members = sortedByKey members' := by
  have sorted (entries : List (List Char × Value)) : (sortedByKey entries).Pairwise fun a b => keyLe a.1 b.1 = true :=
    @List.pairwise_mergeSort _ (fun a b => keyLe a.1 b.1) (fun _ _ _ => keyLe_trans) (fun a b => keyLe_total a.1 b.1) entries
  have perm_ := ((sortedByKey_perm members).trans perm).trans (sortedByKey_perm members').symm
  refine perm_.eq_of_pairwise (fun a b inside inside' first second => ?_) (sorted members) (sorted members')
  have mine := (sortedByKey_perm members).mem_iff.mp inside
  have other := (perm.mem_iff).mpr ((sortedByKey_perm members').mem_iff.mp inside')
  exact List.inj_on_of_nodup_map once mine other (keyLe_antisymm first second)

theorem canonicalFields_keys (fields : List (List Char × Js)) :
    ((canonicalFields sha256 fields).map (·.1)).Sublist (fields.map (·.1)) := by
  induction fields with
  | nil => exact .slnil
  | cons field fields ih =>
    obtain ⟨key, value⟩ := field
    rw [canonicalFields]
    cases canonical sha256 value with
    | some kept => exact ih.cons_cons key
    | none => exact ih.cons key

theorem canonicalFields_perm {fields fields' : List (List Char × Js)} (perm : fields.Perm fields') :
    (canonicalFields sha256 fields).Perm (canonicalFields sha256 fields') := by
  induction perm with
  | nil => exact .nil
  | cons field _ ih =>
    obtain ⟨key, value⟩ := field
    simp only [canonicalFields]
    cases canonical sha256 value with
    | some kept => exact ih.cons _
    | none => exact ih
  | swap field field' fields =>
    obtain ⟨key, value⟩ := field
    obtain ⟨key', value'⟩ := field'
    simp only [canonicalFields]
    cases canonical sha256 value with
    | some kept =>
      cases canonical sha256 value' with
      | some kept' => exact List.Perm.swap _ _ _
      | none => exact List.Perm.refl _
    | none =>
      cases canonical sha256 value' with
      | some kept' => exact List.Perm.refl _
      | none => exact List.Perm.refl _
  | trans _ _ first second => exact first.trans second

theorem find?_perm {entries entries' : List (List Char × Value)} (perm : entries.Perm entries')
    (once : (entries.map (·.1)).Nodup) (key : List Char) :
    (entries.find? fun entry => decide (entry.1 = key)) = entries'.find? fun entry => decide (entry.1 = key) := by
  have once' := (perm.map (·.1)).nodup_iff.mp once
  refine Option.ext fun entry => ?_
  have first : Lib.Table.find (⟨entries, once⟩ : Lib.Table Prod.fst) key = some entry ↔ _ := Lib.Table.find_eq_some
  have second : Lib.Table.find (⟨entries', once'⟩ : Lib.Table Prod.fst) key = some entry ↔ _ := Lib.Table.find_eq_some
  exact first.trans ((and_congr_left fun _ => perm.mem_iff).trans second.symm)

/-- A field is read of the canonical object as it is of the object. -/
theorem member_canonical {fields : List (List Char × Js)} (once : (fields.map (·.1)).Nodup) (name : String) :
    member (.object (sortedByKey (canonicalFields sha256 fields))) name = canonical sha256 ((Js.object fields).get name) := by
  have once_ : ((canonicalFields sha256 fields).map (·.1)).Nodup := (canonicalFields_keys fields).nodup once
  have unsorted := find?_perm (sortedByKey_perm (canonicalFields sha256 fields)).symm once_ name.toList
  rw [member, ← unsorted, Js.get]
  clear unsorted once_
  induction fields with
  | nil => rfl
  | cons field fields ih =>
    obtain ⟨key, value⟩ := field
    obtain ⟨absent, rest⟩ := List.nodup_cons.mp once
    rw [canonicalFields]
    by_cases here : key = name.toList
    · rw [List.find?_cons_of_pos (p := fun field : List Char × Js => decide (field.1 = name.toList)) (decide_eq_true here)]
      cases kept : canonical sha256 value with
      | some plain =>
        rw [List.find?_cons_of_pos (p := fun entry : List Char × Value => decide (entry.1 = name.toList)) (decide_eq_true here)]
        exact kept.symm
      | none =>
        have none_ : ((canonicalFields sha256 fields).find? fun entry => decide (entry.1 = name.toList)) = none := by
          refine List.find?_eq_none.mpr fun entry inside same => absent ?_
          have key_ := (canonicalFields_keys fields).subset (List.mem_map_of_mem inside)
          rw [of_decide_eq_true same] at key_
          rw [here]
          exact key_
        simp only [none_, Option.map_none]
        exact kept.symm
    · have away : ¬ decide (key = name.toList) = true := fun same => here (of_decide_eq_true same)
      rw [List.find?_cons_of_neg (a := (key, value)) (p := fun field : List Char × Js => decide (field.1 = name.toList)) away,
        ← ih rest]
      cases canonical sha256 value with
      | some plain =>
        exact congrArg (Option.map (·.2))
          (List.find?_cons_of_neg (a := (key, plain)) (p := fun entry : List Char × Value => decide (entry.1 = name.toList)) away)
      | none => rfl

theorem canonical_get {value : Js} (record : value.isRecord = true) (name : String) :
    canonical sha256 (value.get name) = (canonical sha256 value).bind (member · name) := by
  cases value with
  | object fields => exact (member_canonical (of_decide_eq_true record) name).symm
  | _ => exact absurd record (by simp [Js.isRecord])

theorem canonicalItems_eq (items : List Js) :
    canonicalItems sha256 items = items.map fun item => (canonical sha256 item).getD .null := by
  induction items with
  | nil => rfl
  | cons item items ih => rw [canonicalItems, ih, List.map_cons]

/-- Two values that differ in the order of some object's fields, and in fields that are undefined. -/
inductive Alike : Js → Js → Prop
  | refl (value : Js) : Alike value value
  | trans {a b c : Js} (first : Alike a b) (second : Alike b c) : Alike a c
  | reorder {fields fields' : List (List Char × Js)} (perm : fields.Perm fields') (once : (fields.map (·.1)).Nodup) :
      Alike (.object fields) (.object fields')
  | drop (fields : List (List Char × Js)) (key : List Char) : Alike (.object ((key, .undefined) :: fields)) (.object fields)
  | add (fields : List (List Char × Js)) (key : List Char) : Alike (.object fields) (.object ((key, .undefined) :: fields))
  | item {a b : Js} (before after : List Js) (alike : Alike a b) :
      Alike (.array (before ++ a :: after)) (.array (before ++ b :: after))
  | field {a b : Js} (before after : List (List Char × Js)) (key : List Char) (alike : Alike a b) :
      Alike (.object (before ++ (key, a) :: after)) (.object (before ++ (key, b) :: after))

theorem canonicalFields_congr {a b : Js} (same : canonical sha256 a = canonical sha256 b)
    (before after : List (List Char × Js)) (key : List Char) :
    canonicalFields sha256 (before ++ (key, a) :: after) = canonicalFields sha256 (before ++ (key, b) :: after) := by
  induction before with
  | nil => simp only [List.nil_append, canonicalFields, same]
  | cons field before ih =>
    obtain ⟨key', value⟩ := field
    simp only [List.cons_append, canonicalFields, ih]

/-- Neither the order of the fields nor an undefined field changes the canonical value. -/
theorem canonical_alike {a b : Js} (alike : Alike a b) : canonical sha256 a = canonical sha256 b := by
  induction alike with
  | refl => rfl
  | trans _ _ first second => exact first.trans second
  | @reorder fields fields' perm once =>
    have moved : (canonicalFields sha256 fields).Perm (canonicalFields sha256 fields') := canonicalFields_perm perm
    have sorted := sortedByKey_eq moved ((canonicalFields_keys fields).nodup once)
    rw [canonical, canonical, sorted]
  | drop fields key => rfl
  | add fields key => rfl
  | item before after _ same =>
    rw [canonical, canonical, canonicalItems_eq, canonicalItems_eq, List.map_append, List.map_append, List.map_cons,
      List.map_cons, same]
  | field before after key _ same => rw [canonical, canonical, canonicalFields_congr same]

end LetterIRL.Render
