import Mathlib.Data.List.Basic

namespace LetterIRL.Lib.Json

/-! JSON values and the text `JSON.stringify` writes of them, which determines the value. -/

/-- A character a number is written with. -/
def isNumeral (c : Char) : Bool := c.isDigit || c == '-' || c == '+' || c == '.' || c == 'e'

/-- A finite number, by the text it is written as. -/
structure Numeral where
  text : List Char
  written : text ≠ []
  numeral : ∀ c ∈ text, isNumeral c = true
  deriving DecidableEq

inductive Value
  | null
  | bool (value : Bool)
  | number (value : Numeral)
  | string (value : List Char)
  | array (items : List Value)
  | object (members : List (List Char × Value))

def hexDigit (n : Nat) : Char := "0123456789abcdef".toList.getD n '0'

def hexValue (c : Char) : Nat := "0123456789abcdef".toList.findIdx (· == c)

def escapeChar (c : Char) : List Char :=
  if c = '"' then ['\\', '"']
  else if c = '\\' then ['\\', '\\']
  else if c.toNat = 8 then ['\\', 'b']
  else if c.toNat = 9 then ['\\', 't']
  else if c.toNat = 10 then ['\\', 'n']
  else if c.toNat = 12 then ['\\', 'f']
  else if c.toNat = 13 then ['\\', 'r']
  else if c.toNat < 32 then ['\\', 'u', '0', '0', hexDigit (c.toNat / 16), hexDigit (c.toNat % 16)]
  else [c]

def quote (text : List Char) : List Char := '"' :: text.flatMap escapeChar ++ ['"']

mutual

/-- `JSON.stringify`, without white space. -/
def stringify : Value → List Char
  | .null => ['n', 'u', 'l', 'l']
  | .bool true => ['t', 'r', 'u', 'e']
  | .bool false => ['f', 'a', 'l', 's', 'e']
  | .number value => value.text
  | .string value => quote value
  | .array items => '[' :: itemsText items
  | .object members => '{' :: membersText members

def itemsText : List Value → List Char
  | [] => [']']
  | value :: rest => stringify value ++ moreItemsText rest

def moreItemsText : List Value → List Char
  | [] => [']']
  | value :: rest => ',' :: (stringify value ++ moreItemsText rest)

def membersText : List (List Char × Value) → List Char
  | [] => ['}']
  | (key, value) :: rest => quote key ++ ':' :: (stringify value ++ moreMembersText rest)

def moreMembersText : List (List Char × Value) → List Char
  | [] => ['}']
  | (key, value) :: rest => ',' :: (quote key ++ ':' :: (stringify value ++ moreMembersText rest))

end

def Numeral.ofNat (n : Nat) : Numeral where
  text := Nat.toDigits 10 n
  written := Nat.toDigits_ne_nil
  numeral := by
    intro c member
    have digit := Nat.isDigit_of_mem_toDigits (by decide) (by decide) member
    simp only [isNumeral, digit, Bool.true_or]

theorem Numeral.ofNat_injective : Function.Injective Numeral.ofNat := by
  intro m n same
  have read : Nat.ofDigitChars 10 (Nat.toDigits 10 m) 0 = Nat.ofDigitChars 10 (Nat.toDigits 10 n) 0 :=
    congrArg (fun numeral => Nat.ofDigitChars 10 numeral.text 0) same
  rwa [Nat.ofDigitChars_toDigits (by decide) (by decide), Nat.ofDigitChars_toDigits (by decide) (by decide)] at read

/-- Whether JavaScript counts the value as true. -/
def Value.truthy : Value → Bool
  | .null => false
  | .bool value => value
  | .number value => value.text != ['0']
  | .string value => value != []
  | .array _ | .object _ => true

/-! Strings: each escape reads back as its character. -/

def unescape : Char → Char
  | 'b' => Char.ofNat 8
  | 't' => Char.ofNat 9
  | 'n' => Char.ofNat 10
  | 'f' => Char.ofNat 12
  | 'r' => Char.ofNat 13
  | c => c

/-- The first character of a string's body, and what follows it; none at the closing quote. -/
def readChar : List Char → Option (Char × List Char)
  | '\\' :: 'u' :: _ :: _ :: high :: low :: rest => some (Char.ofNat (16 * hexValue high + hexValue low), rest)
  | '\\' :: c :: rest => some (unescape c, rest)
  | '"' :: _ => none
  | c :: rest => some (c, rest)
  | [] => none

theorem hexValue_hexDigit : ∀ n < 16, hexValue (hexDigit n) = n := by decide

theorem readChar_plain {c : Char} (notQuote : c ≠ '"') (notSlash : c ≠ '\\') (rest : List Char) :
    readChar (c :: rest) = some (c, rest) := by
  unfold readChar
  split <;> simp_all

theorem char_of_toNat {c : Char} {n : Nat} (same : c.toNat = n) : Char.ofNat n = c := by
  rw [← same, Char.ofNat_toNat]

theorem readChar_escapeChar (c : Char) (rest : List Char) : readChar (escapeChar c ++ rest) = some (c, rest) := by
  by_cases isQuote : c = '"'
  · rw [isQuote]
    rfl
  by_cases isSlash : c = '\\'
  · rw [isSlash]
    rfl
  by_cases isBackspace : c.toNat = 8
  · rw [← char_of_toNat isBackspace]
    rfl
  by_cases isTab : c.toNat = 9
  · rw [← char_of_toNat isTab]
    rfl
  by_cases isLine : c.toNat = 10
  · rw [← char_of_toNat isLine]
    rfl
  by_cases isForm : c.toNat = 12
  · rw [← char_of_toNat isForm]
    rfl
  by_cases isReturn : c.toNat = 13
  · rw [← char_of_toNat isReturn]
    rfl
  simp only [escapeChar, isQuote, isSlash, isBackspace, isTab, isLine, isForm, isReturn, if_false]
  by_cases control : c.toNat < 32
  · have high := hexValue_hexDigit (c.toNat / 16) (by omega)
    have low := hexValue_hexDigit (c.toNat % 16) (by omega)
    have whole : c.toNat = 16 * (c.toNat / 16) + c.toNat % 16 := by omega
    rw [if_pos control]
    simp only [List.cons_append, List.nil_append, readChar, high, low]
    rw [char_of_toNat whole]
  · rw [if_neg control]
    exact readChar_plain isQuote isSlash rest

theorem escaped_append_inj {text text' rest rest' : List Char}
    (same : text.flatMap escapeChar ++ '"' :: rest = text'.flatMap escapeChar ++ '"' :: rest') :
    text = text' ∧ rest = rest' := by
  induction text generalizing text' with
  | nil =>
    cases text' with
    | nil =>
      simp only [List.flatMap_nil, List.nil_append, List.cons.injEq, true_and] at same
      exact ⟨rfl, same⟩
    | cons c text' =>
      have read := congrArg readChar same
      simp only [List.flatMap_cons, List.append_assoc, readChar_escapeChar, List.flatMap_nil, List.nil_append] at read
      simp [readChar] at read
  | cons c text ih =>
    cases text' with
    | nil =>
      have read := congrArg readChar same
      simp only [List.flatMap_cons, List.append_assoc, readChar_escapeChar, List.flatMap_nil, List.nil_append] at read
      simp [readChar] at read
    | cons c' text' =>
      have read := congrArg readChar same
      simp only [List.flatMap_cons, List.append_assoc, readChar_escapeChar, Option.some.injEq, Prod.mk.injEq] at read
      obtain ⟨alike, follows⟩ := ih read.2
      exact ⟨by rw [read.1, alike], follows⟩

theorem quote_append_inj {text text' rest rest' : List Char} (same : quote text ++ rest = quote text' ++ rest') :
    text = text' ∧ rest = rest' := by
  simp only [quote, List.cons_append, List.append_assoc, List.nil_append, List.cons.injEq, true_and] at same
  exact escaped_append_inj same

/-! Values: the first character tells the kind, and nothing that can follow a number continues it. -/

/-- One character for each kind of first character. -/
def kindOf (c : Char) : Char := if isNumeral c then '0' else c

def Value.kind : Value → Char
  | .null => 'n'
  | .bool true => 't'
  | .bool false => 'f'
  | .number _ => '0'
  | .string _ => '"'
  | .array _ => '['
  | .object _ => '{'

theorem stringify_head (value : Value) : ∃ c rest, stringify value = c :: rest ∧ kindOf c = value.kind := by
  cases value with
  | null => exact ⟨_, _, by rw [stringify], by decide⟩
  | bool value =>
    cases value with
    | true => exact ⟨_, _, by rw [stringify], by decide⟩
    | false => exact ⟨_, _, by rw [stringify], by decide⟩
  | number value =>
    obtain ⟨c, rest, text⟩ := List.exists_cons_of_ne_nil value.written
    refine ⟨c, rest, by rw [stringify, text], ?_⟩
    have numeral := value.numeral c (by rw [text]; exact List.mem_cons_self)
    simp only [kindOf, numeral, if_true, Value.kind]
  | string value => exact ⟨_, _, by rw [stringify, quote]; rfl, by rw [Value.kind]; decide⟩
  | array items => exact ⟨_, _, by rw [stringify], by rw [Value.kind]; decide⟩
  | object members => exact ⟨_, _, by rw [stringify], by rw [Value.kind]; decide⟩

theorem kind_eq {a b : Value} {rest rest' : List Char} (same : stringify a ++ rest = stringify b ++ rest') :
    a.kind = b.kind := by
  obtain ⟨c, tail, written, kind⟩ := stringify_head a
  obtain ⟨c', tail', written', kind'⟩ := stringify_head b
  rw [written, written', List.cons_append, List.cons_append, List.cons.injEq] at same
  rw [← kind, ← kind', same.1]

theorem stringify_not_closing {value : Value} {rest rest' : List Char} :
    stringify value ++ rest ≠ ']' :: rest' := by
  intro same
  obtain ⟨c, tail, written, kind⟩ := stringify_head value
  rw [written, List.cons_append, List.cons.injEq] at same
  rw [same.1] at kind
  cases value with
  | bool value => cases value <;> exact absurd kind (by decide)
  | null => exact absurd kind (by decide)
  | _ =>
    rw [Value.kind] at kind
    exact absurd kind (by decide)

/-- A text no number runs on into. -/
def Ends (rest : List Char) : Prop := ∀ c ∈ rest.head?, isNumeral c = false

theorem ends_nil : Ends [] := fun _ member => nomatch member

theorem ends_cons {c : Char} {rest : List Char} (ends : isNumeral c = false) : Ends (c :: rest) := by
  intro c' member
  rw [List.head?_cons, Option.mem_some_iff] at member
  exact member ▸ ends

theorem moreItemsText_ends (items : List Value) (rest : List Char) : Ends (moreItemsText items ++ rest) := by
  cases items with
  | nil => exact ends_cons (by decide)
  | cons value items => exact ends_cons (by decide)

theorem moreMembersText_ends (members : List (List Char × Value)) (rest : List Char) :
    Ends (moreMembersText members ++ rest) := by
  cases members with
  | nil => exact ends_cons (by decide)
  | cons member members => exact ends_cons (by decide)

theorem numeral_append_inj {text text' rest rest' : List Char} (numeral : ∀ c ∈ text, isNumeral c = true)
    (numeral' : ∀ c ∈ text', isNumeral c = true) (ends : Ends rest) (ends' : Ends rest')
    (same : text ++ rest = text' ++ rest') : text = text' ∧ rest = rest' := by
  induction text generalizing text' with
  | nil =>
    cases text' with
    | nil => exact ⟨rfl, same⟩
    | cons c text' =>
      have head := ends c (by rw [← List.nil_append rest, same]; rfl)
      rw [numeral' c List.mem_cons_self] at head
      cases head
  | cons c text ih =>
    cases text' with
    | nil =>
      have head := ends' c (by rw [← List.nil_append rest', ← same]; rfl)
      rw [numeral c List.mem_cons_self] at head
      cases head
    | cons c' text' =>
      rw [List.cons_append, List.cons_append, List.cons.injEq] at same
      obtain ⟨alike, follows⟩ := ih (fun d member => numeral d (List.mem_cons_of_mem _ member))
        (fun d member => numeral' d (List.mem_cons_of_mem _ member)) same.2
      exact ⟨by rw [same.1, alike], follows⟩

mutual

theorem stringify_append_inj (a b : Value) {rest rest' : List Char} (ends : Ends rest) (ends' : Ends rest')
    (same : stringify a ++ rest = stringify b ++ rest') : a = b ∧ rest = rest' := by
  have kinds := kind_eq same
  match a, b with
  | .null, .null =>
    rw [stringify] at same
    exact ⟨rfl, List.append_cancel_left same⟩
  | .bool true, .bool true =>
    rw [stringify] at same
    exact ⟨rfl, List.append_cancel_left same⟩
  | .bool false, .bool false =>
    rw [stringify] at same
    exact ⟨rfl, List.append_cancel_left same⟩
  | .number value, .number value' =>
    rw [stringify, stringify] at same
    obtain ⟨alike, follows⟩ := numeral_append_inj value.numeral value'.numeral ends ends' same
    cases value
    cases value'
    cases alike
    exact ⟨rfl, follows⟩
  | .string value, .string value' =>
    rw [stringify, stringify] at same
    obtain ⟨alike, follows⟩ := quote_append_inj same
    exact ⟨by rw [alike], follows⟩
  | .array items, .array items' =>
    rw [stringify, stringify, List.cons_append, List.cons_append, List.cons.injEq] at same
    obtain ⟨alike, follows⟩ := itemsText_append_inj items items' same.2
    exact ⟨by rw [alike], follows⟩
  | .object members, .object members' =>
    rw [stringify, stringify, List.cons_append, List.cons_append, List.cons.injEq] at same
    obtain ⟨alike, follows⟩ := membersText_append_inj members members' same.2
    exact ⟨by rw [alike], follows⟩

theorem itemsText_append_inj (items items' : List Value) {rest rest' : List Char}
    (same : itemsText items ++ rest = itemsText items' ++ rest') : items = items' ∧ rest = rest' := by
  match items, items' with
  | [], [] => exact ⟨rfl, List.append_cancel_left same⟩
  | [], value :: items' =>
    rw [itemsText, itemsText, List.append_assoc] at same
    exact absurd same.symm stringify_not_closing
  | value :: items, [] =>
    rw [itemsText, itemsText, List.append_assoc] at same
    exact absurd same stringify_not_closing
  | value :: items, value' :: items' =>
    rw [itemsText, itemsText, List.append_assoc, List.append_assoc] at same
    obtain ⟨alike, follows⟩ := stringify_append_inj value value' (moreItemsText_ends items rest)
      (moreItemsText_ends items' rest') same
    obtain ⟨alike', follows'⟩ := moreItemsText_append_inj items items' follows
    exact ⟨by rw [alike, alike'], follows'⟩

theorem moreItemsText_append_inj (items items' : List Value) {rest rest' : List Char}
    (same : moreItemsText items ++ rest = moreItemsText items' ++ rest') : items = items' ∧ rest = rest' := by
  match items, items' with
  | [], [] => exact ⟨rfl, List.append_cancel_left same⟩
  | value :: items, value' :: items' =>
    rw [moreItemsText, moreItemsText, List.cons_append, List.cons_append, List.cons.injEq, List.append_assoc,
      List.append_assoc] at same
    obtain ⟨alike, follows⟩ := stringify_append_inj value value' (moreItemsText_ends items rest)
      (moreItemsText_ends items' rest') same.2
    obtain ⟨alike', follows'⟩ := moreItemsText_append_inj items items' follows
    exact ⟨by rw [alike, alike'], follows'⟩

theorem membersText_append_inj (members members' : List (List Char × Value)) {rest rest' : List Char}
    (same : membersText members ++ rest = membersText members' ++ rest') : members = members' ∧ rest = rest' := by
  match members, members' with
  | [], [] => exact ⟨rfl, List.append_cancel_left same⟩
  | (key, value) :: members, (key', value') :: members' =>
    rw [membersText, membersText, List.append_assoc, List.append_assoc] at same
    obtain ⟨key_eq, body⟩ := quote_append_inj same
    rw [List.cons_append, List.cons_append, List.cons.injEq, List.append_assoc, List.append_assoc] at body
    obtain ⟨alike, follows⟩ := stringify_append_inj value value' (moreMembersText_ends members rest)
      (moreMembersText_ends members' rest') body.2
    obtain ⟨alike', follows'⟩ := moreMembersText_append_inj members members' follows
    exact ⟨by rw [key_eq, alike, alike'], follows'⟩

theorem moreMembersText_append_inj (members members' : List (List Char × Value)) {rest rest' : List Char}
    (same : moreMembersText members ++ rest = moreMembersText members' ++ rest') :
    members = members' ∧ rest = rest' := by
  match members, members' with
  | [], [] => exact ⟨rfl, List.append_cancel_left same⟩
  | (key, value) :: members, (key', value') :: members' =>
    rw [moreMembersText, moreMembersText, List.cons_append, List.cons_append, List.cons.injEq, List.append_assoc,
      List.append_assoc] at same
    obtain ⟨key_eq, body⟩ := quote_append_inj same.2
    rw [List.cons_append, List.cons_append, List.cons.injEq, List.append_assoc, List.append_assoc] at body
    obtain ⟨alike, follows⟩ := stringify_append_inj value value' (moreMembersText_ends members rest)
      (moreMembersText_ends members' rest') body.2
    obtain ⟨alike', follows'⟩ := moreMembersText_append_inj members members' follows
    exact ⟨by rw [key_eq, alike, alike'], follows'⟩

end

theorem stringify_injective : Function.Injective stringify := by
  intro a b same
  exact (stringify_append_inj a b ends_nil ends_nil (by rw [same])).1

end LetterIRL.Lib.Json
