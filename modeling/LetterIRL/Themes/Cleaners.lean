import Mathlib.Data.List.DropRight
import LetterIRL.Themes.Marks

namespace LetterIRL.Themes
open Lib

/-! `slotText` and `designNameOf`: a slot's text as it prints, and a design's name as it is kept. -/

/-- The cancel tag and the tags before it. -/
def isTag (c : Nat) : Bool := 0xE0020 ≤ c && c ≤ 0xE007F

def BLACK_FLAG : Nat := 0x1F3F4

/-- The flags of England, Scotland and Wales. -/
def TAG_FLAGS : List Text :=
  [[BLACK_FLAG, 0xE0067, 0xE0062, 0xE0065, 0xE006E, 0xE0067, 0xE007F],
   [BLACK_FLAG, 0xE0067, 0xE0062, 0xE0073, 0xE0063, 0xE0074, 0xE007F],
   [BLACK_FLAG, 0xE0067, 0xE0062, 0xE0077, 0xE006C, 0xE0073, 0xE007F]]

/-- The properties the cleaners read, with what their tables keep of a space and of the tags. -/
structure Classes extends Characters where
  /-- `\p{Zl}\p{Zp}`. -/
  separator : Nat → Bool
  /-- `\p{Cc}\p{Cs}\p{Cn}\p{Co}`. -/
  nonsense : Nat → Bool
  /-- `\p{Cf}` without the joiners and the components of emoji. -/
  formatting : Nat → Bool
  /-- `NAME_VISIBLE`. -/
  visible : Nat → Bool
  blank : space 0x20 = true ∧ separator 0x20 = false ∧ nonsense 0x20 = false ∧ formatting 0x20 = false
  tag_plain : ∀ c, isTag c = true ∨ c = BLACK_FLAG → mark c = false ∧ space c = false

variable (u : Classes)

/-- Each run of blanks one space. -/
def squash (blank : Nat → Bool) : Text → Text
  | [] => []
  | c :: rest =>
    if blank c && rest.head?.any blank then squash blank rest
    else (if blank c then 0x20 else c) :: squash blank rest

/-- `.trim()`. -/
def trim (text : Text) : Text := (text.dropWhile u.space).rdropWhile u.space

/-- The line breaks and tabs of a slot. -/
def SLOT_BREAKS : List Nat := [0x09, 0x0A, 0x0B, 0x0C, 0x0D, 0x85, 0x2028, 0x2029]

def spaced (broken : Nat → Bool) (c : Nat) : Nat := if broken c then 0x20 else c

/-- A slot's text on one line, before its marks are clamped. -/
def slotLine (text : Text) : Text :=
  trim u (squash (· == 0x20) (text.map (spaced fun c => decide (c ∈ SLOT_BREAKS))))

def slotText (text : Text) : Text := clampMarks u.toCharacters (slotLine u text)

def STATIONERY_DESIGN_NAME_MAX_LENGTH : Nat := 40

/-- `NAME_BREAKS`. -/
def nameBreak (c : Nat) : Bool := decide (c ∈ [0x09, 0x0A, 0x0B, 0x0C, 0x0D]) || u.separator c

def flagAt (text : Text) : Bool := TAG_FLAGS.any fun flag => flag.isPrefixOf text

/-- `NAME_TAGS`: tags that are no flag's are taken out; so many characters of a flag are still to come. -/
def dropTags : Nat → Text → Text
  | _, [] => []
  | 0, c :: rest =>
    if flagAt (c :: rest) then c :: dropTags 6 rest else if isTag c then dropTags 0 rest else c :: dropTags 0 rest
  | more + 1, c :: rest => c :: dropTags more rest

/-- A name without what is taken out of it, before its marks are clamped. -/
def nameStripped (text : Text) : Text :=
  dropTags 0 (((text.map (spaced (nameBreak u))).filter fun c => !u.nonsense c).filter fun c => !u.formatting c)

def nameOf (text : Text) : Text := trim u (squash u.space (clampMarks u.toCharacters (nameStripped u text)))

/-- `designNameOf`, of a string. -/
def designNameOf (text : Text) : Option Text :=
  let name := nameOf u text
  if name.length ≤ STATIONERY_DESIGN_NAME_MAX_LENGTH ∧ name.any u.visible = true then some name else none

/-! What squashing and trimming leave. -/

variable {u} {blank : Nat → Bool} {text rest : Text} {c : Nat}

/-- No two blanks in a row, and none but a space. -/
structure Squashed (blank : Nat → Bool) (text : Text) : Prop where
  apart : text.IsChain fun a b => ¬(blank a = true ∧ blank b = true)
  plain : ∀ c ∈ text, blank c = true → c = 0x20

theorem squash_head (spaces : blank 0x20 = true) (text : Text) :
    (squash blank text).head?.any blank = text.head?.any blank := by
  induction text with
  | nil => rfl
  | cons c rest ih =>
    unfold squash
    cases here : blank c with
    | false => simp [here]
    | true =>
      cases next : rest.head?.any blank with
      | true => simp [ih, next, here]
      | false => simp [here, spaces]

theorem squash_squashed (spaces : blank 0x20 = true) (text : Text) : Squashed blank (squash blank text) := by
  induction text with
  | nil => exact ⟨.nil, fun _ none => nomatch none⟩
  | cons c rest ih =>
    have head := squash_head spaces rest
    unfold squash
    cases here : blank c with
    | false =>
      simp only [Bool.false_and, Bool.false_eq_true, if_false]
      refine ⟨?_, fun d member isBlank => ?_⟩
      · cases tail : squash blank rest with
        | nil => exact .singleton _
        | cons d others =>
          refine List.isChain_cons_cons.mpr ⟨fun both => ?_, tail ▸ ih.apart⟩
          rw [here] at both
          cases both.1
      · rcases List.mem_cons.mp member with rfl | later
        · rw [here] at isBlank
          cases isBlank
        · exact ih.plain d later isBlank
    | true =>
      cases next : rest.head?.any blank with
      | true => simpa using ih
      | false =>
        rw [next] at head
        simp only [Bool.and_false, Bool.false_eq_true, if_false, if_true]
        refine ⟨?_, fun d member isBlank => ?_⟩
        · cases tail : squash blank rest with
          | nil => exact .singleton _
          | cons d others =>
            rw [tail] at head
            refine List.isChain_cons_cons.mpr ⟨fun both => ?_, tail ▸ ih.apart⟩
            have none : blank d = false := by simpa using head
            rw [none] at both
            cases both.2
        · rcases List.mem_cons.mp member with rfl | later
          · rfl
          · exact ih.plain d later isBlank

theorem squash_of_squashed (squashed : Squashed blank text) : squash blank text = text := by
  induction text with
  | nil => rfl
  | cons c rest ih =>
    have tail : Squashed blank rest :=
      ⟨squashed.apart.tail, fun d member => squashed.plain d (List.mem_cons_of_mem _ member)⟩
    have alone : (blank c && rest.head?.any blank) = false := by
      cases rest with
      | nil => simp
      | cons d others =>
        have apart := (List.isChain_cons_cons.mp squashed.apart).1
        simpa using apart
    have same : (if blank c then 0x20 else c) = c := by
      split
      · exact (squashed.plain c List.mem_cons_self ‹_›).symm
      · rfl
    rw [squash, alone, if_neg (by decide), same, ih tail]

theorem squash_length (text : Text) : (squash blank text).length ≤ text.length := by
  induction text with
  | nil => exact le_rfl
  | cons c rest ih =>
    unfold squash
    split
    · exact ih.trans (Nat.le_succ _)
    · exact Nat.succ_le_succ ih

theorem mem_squash (member : c ∈ squash blank text) : c = 0x20 ∨ c ∈ text := by
  induction text with
  | nil => cases member
  | cons first rest ih =>
    unfold squash at member
    split at member
    · exact (ih member).imp_right (List.mem_cons_of_mem _)
    · rcases List.mem_cons.mp member with rfl | later
      · split
        · exact .inl rfl
        · exact .inr List.mem_cons_self
      · exact (ih later).imp_right (List.mem_cons_of_mem _)

/-- Neither the first character nor the last is white space. -/
structure Trimmed (u : Classes) (text : Text) : Prop where
  head : ∀ c ∈ text.head?, u.space c = false
  last : ∀ c ∈ text.getLast?, u.space c = false

theorem trim_of_trimmed (trimmed : Trimmed u text) : trim u text = text := by
  unfold trim
  have front : text.dropWhile u.space = text := by
    cases text with
    | nil => rfl
    | cons c rest => rw [List.dropWhile_cons, trimmed.head c rfl, if_neg (by decide)]
  rw [front]
  refine List.rdropWhile_eq_self_iff.mpr fun some_ => ?_
  rw [trimmed.last _ (List.getLast?_eq_getLast_of_ne_nil some_)]
  decide

theorem trim_within (text : Text) : trim u text <:+: text := by
  have front : text.dropWhile u.space <:+ text := List.dropWhile_suffix _
  have back : trim u text <+: text.dropWhile u.space := List.rdropWhile_prefix _ _
  exact back.isInfix.trans front.isInfix

theorem trim_trimmed (text : Text) : Trimmed u (trim u text) where
  head c first := by
    have back : trim u text <+: text.dropWhile u.space := List.rdropWhile_prefix _ _
    obtain ⟨rest, same⟩ := back
    cases trimmed : trim u text with
    | nil =>
      rw [trimmed] at first
      cases first
    | cons d others =>
      rw [trimmed] at first same
      cases first
      have head : (text.dropWhile u.space).head? = some c := by
        rw [← same]
        rfl
      have := List.head?_dropWhile_not u.space text
      rw [head] at this
      simpa using this
  last c final := by
    cases text' : trim u text with
    | nil =>
      rw [text'] at final
      cases final
    | cons d others =>
      have some_ : trim u text ≠ [] := by simp [text']
      have spaceless := List.rdropWhile_last_not u.space (text.dropWhile u.space) some_
      have same : c = (trim u text).getLast some_ := by
        rw [List.getLast?_eq_getLast_of_ne_nil some_] at final
        exact (Option.some.inj final).symm
      rw [same]
      exact Bool.not_eq_true _ ▸ spaceless

/-! A slot's line, with marks left out. -/

/-- What follows a mark in its letter is not white space. -/
def AfterMark (edge : Edge) (marks : Nat) : Prop := 0 < marks → Characters.Settled edge

theorem space_unmarked (white : u.space c = true) : u.mark c = false := (u.space_plain c white).2.1

theorem space_parted {edge : Edge} (settled : Characters.Settled edge) (white : u.space c = true) :
    u.joins edge c = false := by
  obtain ⟨hard, -, notPictograph, none⟩ := u.space_plain c white
  cases joined : u.joins edge c with
  | false => rfl
  | true =>
    exfalso
    rcases settled.joins_iff.mp joined with attached | ⟨-, consonant⟩ | ⟨-, pictograph⟩
    · rcases hard with same | same | same | same <;> rw [same] at attached <;> cases attached
    · rw [none] at consonant
      cases consonant
    · rw [notPictograph] at pictograph
      cases pictograph

theorem AfterMark.next {edge : Edge} {marks : Nat} (behind : AfterMark edge marks) (c : Nat) :
    AfterMark (u.after edge c) (counted u.toCharacters edge marks c) := by
  intro some_
  cases marked : u.mark c with
  | true => exact Characters.after_settled (Characters.mark_soft marked)
  | false =>
    cases joined : u.joins edge c with
    | false =>
      rw [counted_parted joined, marked] at some_
      exact absurd some_ (by decide)
    | true =>
      rw [counted_joined joined, marked] at some_
      have settled := behind (by simpa using some_)
      unfold Characters.after
      rw [if_pos joined]
      exact settled.grow joined

/-- A character with marks before it in its letter, or that is one, is not white space. -/
theorem AfterMark.visible {edge : Edge} {marks : Nat} (behind : AfterMark edge marks)
    (some_ : 0 < counted u.toCharacters edge marks c) : u.space c = false := by
  cases white : u.space c with
  | false => rfl
  | true =>
    cases joined : u.joins edge c with
    | false =>
      rw [counted_parted joined, space_unmarked white] at some_
      exact absurd some_ (by decide)
    | true =>
      rw [counted_joined joined, space_unmarked white] at some_
      rw [space_parted (behind (by simpa using some_)) white] at joined
      cases joined

/-- After what was kept last, `shown`, and read last, `read`: a line stays one. -/
theorem clampFrom_line {edge : Edge} {marks : Nat} (rest : Text) : ∀ {shown read : Nat},
    (shown = read ∨ u.space shown = false) → (0 < marks → u.space shown = false) → AfterMark edge marks →
    (read :: rest).IsChain (fun a b => ¬(a = 0x20 ∧ b = 0x20)) →
    (∀ c ∈ (read :: rest).getLast?, u.space c = false) →
    (shown :: clampFrom u.toCharacters edge marks rest).IsChain (fun a b => ¬(a = 0x20 ∧ b = 0x20)) ∧
      ∀ c ∈ (shown :: clampFrom u.toCharacters edge marks rest).getLast?, u.space c = false := by
  induction rest generalizing edge marks with
  | nil =>
    intro shown read same _ _ _ last
    refine ⟨.singleton _, fun c final => ?_⟩
    cases final
    rcases same with rfl | clear
    · exact last shown rfl
    · exact clear
  | cons c rest ih =>
    intro shown read same clear behind chain last
    have later : ∀ d ∈ (c :: rest).getLast?, u.space d = false := fun d final =>
      last d (by rwa [List.getLast?_cons_cons])
    obtain ⟨apart, chain⟩ := List.isChain_cons_cons.mp chain
    have counts : 0 < counted u.toCharacters edge marks c → u.space c = false := behind.visible
    unfold clampFrom
    cases past : surplus u.toCharacters edge marks c with
    | true =>
      rw [if_pos rfl]
      unfold surplus at past
      rw [Bool.and_eq_true, decide_eq_true_eq] at past
      have some_ : 0 < marks := by
        obtain ⟨marked, past⟩ := past
        unfold counted at past
        rw [marked] at past
        have past : 4 < (if u.joins edge c = true then marks else 0) + 1 := past
        split at past <;> omega
      exact ih (.inr (clear some_)) (fun _ => clear some_) (behind.next c) chain later
    | false =>
      rw [if_neg (by decide)]
      obtain ⟨chained, final⟩ := ih (.inl rfl) counts (behind.next c) chain later
      refine ⟨List.isChain_cons_cons.mpr ⟨?_, chained⟩, fun d member => ?_⟩
      · rcases same with rfl | white
        · exact apart
        · rintro ⟨rfl, -⟩
          rw [u.blank.1] at white
          cases white
      · rw [List.getLast?_cons_cons] at member
        exact final d member

theorem clampFrom_sublist (edge : Edge) (marks : Nat) (text : Text) :
    (clampFrom u.toCharacters edge marks text).Sublist text := by
  induction text generalizing edge marks with
  | nil => exact .slnil
  | cons c rest ih =>
    unfold clampFrom
    split
    · exact (ih _ _).cons _
    · exact (ih _ _).cons_cons _

theorem clampMarks_sublist (text : Text) : (clampMarks u.toCharacters text).Sublist text := by
  rw [clampMarks_eq]
  exact clampFrom_sublist ..

theorem clampMarks_head (text : Text) : (clampMarks u.toCharacters text).head? = text.head? := by
  rw [clampMarks_eq]
  cases text with
  | nil => rfl
  | cons c rest =>
    rw [clampFrom, surplus_parted (Characters.joins_start c)]
    rfl

theorem clampMarks_line (squashed : Squashed (· == 0x20) text) (trimmed : Trimmed u text) :
    Squashed (· == 0x20) (clampMarks u.toCharacters text) ∧ Trimmed u (clampMarks u.toCharacters text) := by
  have chain : text.IsChain fun a b => ¬(a = 0x20 ∧ b = 0x20) := by simpa using squashed.apart
  have kept : (clampMarks u.toCharacters text).IsChain (fun a b => ¬(a = 0x20 ∧ b = 0x20)) ∧
      ∀ c ∈ (clampMarks u.toCharacters text).getLast?, u.space c = false := by
    rw [clampMarks_eq]
    cases text with
    | nil => exact ⟨.nil, fun _ none => nomatch none⟩
    | cons c rest =>
      rw [clampFrom, surplus_parted (Characters.joins_start c), if_neg (by decide), Characters.after_start,
        counted_parted (Characters.joins_start c)]
      have white := trimmed.head c rfl
      refine clampFrom_line rest (.inl rfl) (fun _ => white) (fun some_ => ?_) chain trimmed.last
      cases marked : u.mark c with
      | true => exact Characters.fresh_settled (Characters.mark_soft marked)
      | false =>
        rw [marked] at some_
        exact absurd some_ (by decide)
  refine ⟨⟨by simpa using kept.1, fun c _ same => by simpa using same⟩, ⟨fun c first => ?_, kept.2⟩⟩
  rw [clampMarks_head] at first
  exact trimmed.head c first

theorem Squashed.part {some_ : Text} (squashed : Squashed blank text) (within : some_ <:+: text) :
    Squashed blank some_ where
  apart := by
    obtain ⟨before, behind, rfl⟩ := within
    exact squashed.apart.left_of_append.right_of_append
  plain c member := squashed.plain c (within.subset member)

theorem slotLine_line (text : Text) : Squashed (· == 0x20) (slotLine u text) ∧ Trimmed u (slotLine u text) :=
  ⟨(squash_squashed (by decide) _).part (trim_within _), trim_trimmed _⟩

theorem not_break_of_mem_slotLine (member : c ∈ slotLine u text) : c ∉ SLOT_BREAKS := by
  have inSquashed := (trim_within _).subset member
  rcases mem_squash inSquashed with rfl | inSpaced
  · decide
  · obtain ⟨d, -, same⟩ := List.mem_map.mp inSpaced
    unfold spaced at same
    split at same
    · subst same
      decide
    · rename_i unbroken
      subst same
      simpa using unbroken

theorem map_spaced {broken : Nat → Bool} (unbroken : ∀ c ∈ text, broken c = false) :
    text.map (spaced broken) = text := by
  rw [List.map_congr_left (g := id), List.map_id]
  intro c member
  unfold spaced
  rw [unbroken c member]
  rfl

/-- A slot's text is its own line. -/
theorem slotLine_slotText (text : Text) : slotLine u (slotText u text) = slotText u text := by
  obtain ⟨squashed, trimmed⟩ := slotLine_line (u := u) text
  obtain ⟨squashed, trimmed⟩ := clampMarks_line squashed trimmed
  have unbroken : (slotText u text).map (spaced fun c => decide (c ∈ SLOT_BREAKS)) = slotText u text := by
    refine map_spaced fun c member => decide_eq_false ?_
    exact not_break_of_mem_slotLine ((clampMarks_sublist _).subset member)
  unfold slotLine
  rw [unbroken]
  unfold slotText
  rw [squash_of_squashed squashed, trim_of_trimmed trimmed]

/-- Made a slot's text once more, it stays as it is exactly when its line is parted. -/
theorem slotText_slotText (text : Text) :
    slotText u (slotText u text) = slotText u text ↔ Parted u.toCharacters (slotLine u text) := by
  rw [← clampMarks_clampMarks]
  show clampMarks _ (slotLine u (slotText u text)) = _ ↔ _
  rw [slotLine_slotText]
  rfl

/-! The tags of a name. -/

/-- A text of flags, and of characters that are no tags. -/
def Flagged (text : Text) : Prop :=
  ∃ tokens : List Text, (∀ token ∈ tokens, token ∈ TAG_FLAGS ∨ ∃ c, token = [c] ∧ isTag c = false) ∧
    tokens.flatten = text

theorem flagged_nil : Flagged [] := ⟨[], by simp, rfl⟩

theorem Flagged.plain (flagged : Flagged rest) (plain : isTag c = false) : Flagged (c :: rest) := by
  obtain ⟨tokens, all, rfl⟩ := flagged
  refine ⟨[c] :: tokens, fun token member => ?_, rfl⟩
  rcases List.mem_cons.mp member with rfl | later
  · exact .inr ⟨c, rfl, plain⟩
  · exact all token later

theorem Flagged.flag {flag : Text} (flagged : Flagged rest) (member : flag ∈ TAG_FLAGS) : Flagged (flag ++ rest) := by
  obtain ⟨tokens, all, rfl⟩ := flagged
  refine ⟨flag :: tokens, fun token inTokens => ?_, rfl⟩
  rcases List.mem_cons.mp inTokens with rfl | later
  · exact .inl member
  · exact all token later

/-- Cases and induction on the flags and characters of a text. -/
theorem Flagged.rec_ {P : Text → Prop} (flagged : Flagged text) (nil : P [])
    (flag : ∀ flag rest, flag ∈ TAG_FLAGS → Flagged rest → P rest → P (flag ++ rest))
    (plain : ∀ c rest, isTag c = false → Flagged rest → P rest → P (c :: rest)) : P text := by
  obtain ⟨tokens, all, rfl⟩ := flagged
  induction tokens with
  | nil => exact nil
  | cons token tokens ih =>
    have later : ∀ token ∈ tokens, token ∈ TAG_FLAGS ∨ ∃ c, token = [c] ∧ isTag c = false :=
      fun token member => all token (List.mem_cons_of_mem _ member)
    rw [List.flatten_cons]
    rcases all token List.mem_cons_self with member | ⟨c, rfl, untagged⟩
    · exact flag token _ member ⟨tokens, later, rfl⟩ (ih later)
    · exact plain c _ untagged ⟨tokens, later, rfl⟩ (ih later)

theorem flag_shape {flag : Text} (member : flag ∈ TAG_FLAGS) :
    ∃ tail, flag = BLACK_FLAG :: tail ∧ tail.length = 6 ∧ (∀ c ∈ tail, isTag c = true) := by
  simp only [TAG_FLAGS, List.mem_cons, List.not_mem_nil, or_false] at member
  rcases member with rfl | rfl | rfl <;> exact ⟨_, rfl, rfl, by decide⟩

theorem flag_plain {flag : Text} (member : flag ∈ TAG_FLAGS) (inFlag : c ∈ flag) :
    u.mark c = false ∧ u.space c = false := by
  obtain ⟨tail, rfl, -, tags⟩ := flag_shape member
  rcases List.mem_cons.mp inFlag with rfl | inTail
  · exact u.tag_plain _ (.inr rfl)
  · exact u.tag_plain _ (.inl (tags c inTail))

theorem flagAt_iff {text : Text} : flagAt text = true ↔ ∃ flag ∈ TAG_FLAGS, flag <+: text := by
  simp [flagAt]

theorem dropTags_more (flag rest : Text) : dropTags flag.length (flag ++ rest) = flag ++ dropTags 0 rest := by
  induction flag with
  | nil => rfl
  | cons c flag ih =>
    show c :: dropTags flag.length (flag ++ rest) = _
    rw [ih]
    rfl

theorem dropTags_flag {flag : Text} (member : flag ∈ TAG_FLAGS) (rest : Text) :
    dropTags 0 (flag ++ rest) = flag ++ dropTags 0 rest := by
  obtain ⟨tail, same, length, -⟩ := flag_shape member
  have here : flagAt (flag ++ rest) = true := flagAt_iff.mpr ⟨flag, member, List.prefix_append ..⟩
  rw [same, List.cons_append] at here ⊢
  rw [dropTags, if_pos here, ← length, dropTags_more]
  rfl

theorem dropTags_flagged : ∀ (size : Nat) (text : Text), text.length ≤ size → Flagged (dropTags 0 text)
  | _, [], _ => flagged_nil
  | 0, _ :: _, small => absurd small (by simp)
  | size + 1, c :: rest, small => by
    rw [List.length_cons] at small
    cases here : flagAt (c :: rest) with
    | true =>
      obtain ⟨flag, member, more, same⟩ := flagAt_iff.mp here
      obtain ⟨tail, shape, length, -⟩ := flag_shape member
      have shorter := congrArg List.length same
      rw [List.length_append, shape, List.length_cons, List.length_cons, length] at shorter
      rw [← same, dropTags_flag member]
      exact (dropTags_flagged size more (by omega)).flag member
    | false =>
      have later := dropTags_flagged size rest (by omega)
      rw [dropTags, here, if_neg (by decide)]
      split
      · exact later
      · rename_i untagged
        exact later.plain (by simpa using untagged)

theorem dropTags_sublist (more : Nat) (text : Text) : (dropTags more text).Sublist text := by
  induction text generalizing more with
  | nil => cases more <;> exact .slnil
  | cons c rest ih =>
    cases more with
    | zero =>
      rw [dropTags]
      split
      · exact (ih 6).cons_cons _
      · split
        · exact (ih 0).cons _
        · exact (ih 0).cons_cons _
    | succ more => exact (ih more).cons_cons _

theorem Flagged.head (flagged : Flagged (c :: rest)) : isTag c = false := by
  obtain ⟨tokens, all, same⟩ := flagged
  cases tokens with
  | nil => cases same
  | cons token tokens =>
    rcases all token List.mem_cons_self with member | ⟨d, rfl, untagged⟩
    · obtain ⟨tail, rfl, -, -⟩ := flag_shape member
      cases same
      decide
    · cases same
      exact untagged

/-- Of flags and characters that are no tags, none is taken out. -/
theorem dropTags_of_flagged (flagged : Flagged text) : dropTags 0 text = text := by
  refine flagged.rec_ (P := fun text => dropTags 0 text = text) rfl
    (fun flag rest member _ same => ?_) fun c rest untagged flagged same => ?_
  · rw [dropTags_flag member, same]
  · have notFlag : flagAt (c :: rest) = false := by
      rw [Bool.eq_false_iff]
      intro here
      obtain ⟨flag, member, more, begun⟩ := flagAt_iff.mp here
      obtain ⟨tail, rfl, length, tags⟩ := flag_shape member
      cases tail with
      | nil => cases length
      | cons tag tail =>
        cases begun
        have head := flagged.head
        rw [tags tag List.mem_cons_self] at head
        cases head
    rw [dropTags, notFlag, untagged, same]
    rfl

/-! Each step after the tags leaves them in their flags. -/

theorem clampFrom_flag {flag : Text} (edge : Edge) (marks : Nat) (plain : ∀ c ∈ flag, u.mark c = false)
    (rest : Text) :
    ∃ edge' marks', clampFrom u.toCharacters edge marks (flag ++ rest) =
      flag ++ clampFrom u.toCharacters edge' marks' rest := by
  induction flag generalizing edge marks with
  | nil => exact ⟨edge, marks, rfl⟩
  | cons c flag ih =>
    obtain ⟨edge', marks', same⟩ := ih (u.after edge c) (counted u.toCharacters edge marks c)
      fun d member => plain d (List.mem_cons_of_mem _ member)
    refine ⟨edge', marks', ?_⟩
    rw [List.cons_append, clampFrom, surplus_unmarked (plain c List.mem_cons_self), if_neg (by decide), same]
    rfl

theorem Flagged.clampFrom (flagged : Flagged text) :
    ∀ edge marks, Flagged (Themes.clampFrom u.toCharacters edge marks text) := by
  refine flagged.rec_ (P := fun text => ∀ edge marks, Flagged (Themes.clampFrom u.toCharacters edge marks text))
    (fun _ _ => flagged_nil) (fun flag rest member _ later edge marks => ?_)
    fun c rest untagged _ later edge marks => ?_
  · obtain ⟨edge', marks', same⟩ :=
      clampFrom_flag (u := u) edge marks (fun c inFlag => (flag_plain member inFlag).1) rest
    rw [same]
    exact (later edge' marks').flag member
  · unfold Themes.clampFrom
    split
    · exact later _ _
    · exact (later _ _).plain untagged

theorem squash_plain {first rest : Text} (plain : ∀ c ∈ first, blank c = false) :
    squash blank (first ++ rest) = first ++ squash blank rest := by
  induction first with
  | nil => rfl
  | cons c first ih =>
    rw [List.cons_append, squash, plain c List.mem_cons_self]
    simp only [Bool.false_and, Bool.false_eq_true, if_false]
    rw [ih fun d member => plain d (List.mem_cons_of_mem _ member)]
    rfl

theorem Flagged.squash (flagged : Flagged text) : Flagged (Themes.squash u.space text) := by
  refine flagged.rec_ (P := fun text => Flagged (Themes.squash u.space text)) flagged_nil
    (fun flag rest member _ later => ?_) fun c rest untagged _ later => ?_
  · rw [squash_plain fun c inFlag => (flag_plain member inFlag).2]
    exact later.flag member
  · unfold Themes.squash
    split
    · exact later
    · refine later.plain ?_
      split
      · decide
      · exact untagged

theorem Flagged.dropWhile (flagged : Flagged text) : Flagged (text.dropWhile u.space) := by
  refine flagged.rec_ (P := fun text => Flagged (text.dropWhile u.space)) flagged_nil
    (fun flag rest member flagged _ => ?_) fun c rest untagged flagged later => ?_
  · obtain ⟨tail, same, -, -⟩ := flag_shape member
    have head := (flag_plain (u := u) member (same ▸ List.mem_cons_self)).2
    have kept := flagged.flag member
    rw [same] at kept ⊢
    rw [List.cons_append, List.dropWhile_cons, head, if_neg (by decide)]
    exact kept
  · rw [List.dropWhile_cons]
    split
    · exact later
    · exact flagged.plain untagged

theorem Flagged.rdropWhile (flagged : Flagged text) : Flagged (text.rdropWhile u.space) := by
  obtain ⟨tokens, all, rfl⟩ := flagged
  induction tokens using List.reverseRecOn with
  | nil => exact flagged_nil
  | append_singleton tokens token ih =>
    have whole : Flagged (tokens ++ [token]).flatten := ⟨_, all, rfl⟩
    have earlier := ih fun token member => all token (List.mem_append_left _ member)
    rw [List.flatten_append, List.flatten_singleton] at whole ⊢
    have ended : ∀ c ∈ token.getLast?, u.space c = false →
        Flagged ((tokens.flatten ++ token).rdropWhile u.space) := by
      intro c final clear
      obtain ⟨first, rfl⟩ := List.getLast?_eq_some_iff.mp final
      rw [← List.append_assoc, List.rdropWhile_concat_neg _ _ _ (by simp [clear]), List.append_assoc]
      exact whole
    rcases all token (List.mem_append_right _ List.mem_cons_self) with member | ⟨c, rfl, untagged⟩
    · obtain ⟨tail, same, -, -⟩ := flag_shape member
      have some_ : token ≠ [] := by simp [same]
      refine ended (token.getLast some_) (List.getLast?_eq_getLast_of_ne_nil some_) ?_
      exact (flag_plain member (List.getLast_mem some_)).2
    · cases white : u.space c with
      | false => exact ended c rfl white
      | true =>
        rw [List.rdropWhile_concat_pos _ _ _ white]
        exact earlier

theorem nameOf_flagged (text : Text) : Flagged (nameOf u text) := by
  have stripped : Flagged (nameStripped u text) := dropTags_flagged _ _ le_rfl
  unfold nameOf trim
  rw [clampMarks_eq]
  exact ((stripped.clampFrom _ _).squash.dropWhile).rdropWhile

/-- What a name holds is no break, and is not taken out. -/
theorem mem_nameOf (member : c ∈ nameOf u text) :
    nameBreak u c = false ∧ u.nonsense c = false ∧ u.formatting c = false := by
  obtain ⟨-, notSeparator, notNonsense, notFormatting⟩ := u.blank
  have space : nameBreak u 0x20 = false := by
    unfold nameBreak
    rw [notSeparator]
    rfl
  rcases mem_squash ((trim_within _).subset member) with rfl | inClamped
  · exact ⟨space, notNonsense, notFormatting⟩
  · have inStripped := (clampMarks_sublist _).subset inClamped
    have inFiltered := (dropTags_sublist _ _).subset inStripped
    simp only [List.mem_filter, List.mem_map, Bool.not_eq_true'] at inFiltered
    obtain ⟨⟨⟨d, -, same⟩, nonsense⟩, formatting⟩ := inFiltered
    refine ⟨?_, nonsense, formatting⟩
    unfold spaced at same
    split at same
    · rw [← same]
      exact space
    · rename_i unbroken
      rw [← same]
      simpa using unbroken

/-! White space put together changes no letter's marks. -/

/-- Nothing of the edge but its last character bears on what comes. -/
structure Idle (edge : Edge) : Prop where
  emoji : edge.emoji = .none
  conjunct : edge.conjunct = .none
  even : edge.odd = false

theorem start_idle : Idle .start := ⟨rfl, rfl, rfl⟩

theorem Idle.after {edge : Edge} (idle : Idle edge) (c : Nat) : u.after edge c = u.fresh c := by
  unfold Characters.after
  rw [Characters.grow_blank idle.emoji idle.conjunct idle.even, ite_self]

theorem idle_counted {edge : Edge} (c : Nat) : counted u.toCharacters edge 0 c = (u.mark c).toNat := by
  unfold counted
  rw [ite_self, Nat.zero_add]

theorem idle_surplus {edge : Edge} (c : Nat) : surplus u.toCharacters edge 0 c = false := by
  unfold surplus
  rw [idle_counted]
  cases u.mark c <;> rfl

/-- Behind white space the edge is idle, and no mark is counted. -/
theorem space_step {edge : Edge} {marks : Nat} (behind : AfterMark edge marks) (white : u.space c = true) :
    Idle (u.after edge c) ∧ counted u.toCharacters edge marks c = 0 ∧
      surplus u.toCharacters edge marks c = false := by
  obtain ⟨hard, unmarked, notPictograph, none⟩ := u.space_plain c white
  refine ⟨?_, ?_, surplus_unmarked unmarked⟩
  · have even : (u.clusterBreak c == .regional) = false := by
      rcases hard with same | same | same | same <;> rw [same] <;> rfl
    unfold Characters.after
    split
    · refine ⟨?_, ?_, ?_⟩
      · show u.growEmoji edge.emoji c = .none
        unfold Characters.growEmoji
        rw [notPictograph]
        rcases hard with same | same | same | same <;> rw [same] <;> cases edge.emoji <;> rfl
      · show u.growConjunct edge.conjunct c = .none
        unfold Characters.growConjunct
        rw [none]
        cases edge.conjunct <;> rfl
      · show (u.clusterBreak c == .regional && !edge.odd) = false
        rw [even]
        rfl
    · exact ⟨by simp [Characters.fresh, notPictograph], by simp [Characters.fresh, none], even⟩
  · cases joined : u.joins edge c with
    | false => rw [counted_parted joined, unmarked]; rfl
    | true =>
      rw [counted_joined joined, unmarked]
      by_cases some_ : 0 < marks
      · rw [space_parted (behind some_) white] at joined
        cases joined
      · simpa using some_

/-- Two passes, of a text and of it squashed. -/
theorem squash_calm (text : Text) : ∀ (edge edge' : Edge) (marks marks' : Nat),
    AfterMark edge marks → AfterMark edge' marks' →
    ((edge = edge' ∧ marks = marks') ∨ (Idle edge ∧ Idle edge' ∧ marks = 0 ∧ marks' = 0) ∨
      text.head?.any u.space = true) →
    (Calm u.toCharacters edge' marks' (squash u.space text) ↔ Calm u.toCharacters edge marks text) := by
  induction text with
  | nil => exact fun _ _ _ _ _ _ _ => ⟨fun _ => calm_nil, fun _ => calm_nil⟩
  | cons c rest ih =>
    intro edge edge' marks marks' behind behind' alike
    cases white : u.space c with
    | true =>
      obtain ⟨idle, none, kept⟩ := space_step behind white
      have later : AfterMark (u.after edge c) 0 := fun some_ => absurd some_ (by decide)
      rw [calm_cons, kept, none]
      unfold squash
      cases next : rest.head?.any u.space with
      | true =>
        rw [white]
        simp only [Bool.and_self, if_true, true_and]
        exact ih _ _ _ _ later behind' (.inr (.inr next))
      | false =>
        obtain ⟨idle', none', kept'⟩ := space_step behind' u.blank.1
        rw [white]
        simp only [Bool.and_false, Bool.false_eq_true, if_false, if_true]
        rw [calm_cons, kept', none']
        simp only [true_and]
        have later' : AfterMark (u.after edge' 0x20) 0 := fun some_ => absurd some_ (by decide)
        exact ih _ _ _ _ later later' (.inr (.inl ⟨idle, idle', rfl, rfl⟩))
    | false =>
      have whole : squash u.space (c :: rest) = c :: squash u.space rest := by
        rw [squash, white]
        rfl
      rw [whole, calm_cons, calm_cons]
      rcases alike with ⟨rfl, rfl⟩ | ⟨idle, idle', rfl, rfl⟩ | head
      · exact and_congr_right fun _ => ih _ _ _ _ (behind.next c) (behind'.next c) (.inl ⟨rfl, rfl⟩)
      · rw [idle_surplus, idle_surplus, idle_counted, idle_counted, idle.after, idle'.after]
        have next := behind.next (u := u) c
        rw [idle_counted, idle.after] at next
        exact and_congr_right fun _ => ih _ _ _ _ next next (.inl ⟨rfl, rfl⟩)
      · rw [List.head?_cons, Option.any_some, white] at head
        cases head

/-- White space at the front changes nothing. -/
theorem dropWhile_calm (text : Text) : ∀ edge, Idle edge →
    (Calm u.toCharacters .start 0 (text.dropWhile u.space) ↔ Calm u.toCharacters edge 0 text) := by
  induction text with
  | nil => exact fun _ _ => ⟨fun _ => calm_nil, fun _ => calm_nil⟩
  | cons c rest ih =>
    intro edge idle
    rw [List.dropWhile_cons]
    split
    · rename_i white
      have none : AfterMark edge 0 := fun some_ => absurd some_ (by decide)
      obtain ⟨idle', count, kept⟩ := space_step none white
      rw [calm_cons, kept, count]
      simp only [true_and]
      exact ih _ idle'
    · rw [calm_cons, calm_cons, idle_surplus, idle_surplus, idle_counted, idle_counted, idle.after, start_idle.after]

/-- Nor does white space at the end. -/
theorem append_calm (spaces : Text) (white : ∀ c ∈ spaces, u.space c = true) (text : Text) : ∀ edge marks,
    (Calm u.toCharacters edge marks (text ++ spaces) ↔ Calm u.toCharacters edge marks text) := by
  induction text with
  | nil =>
    intro edge marks
    refine ⟨fun _ => calm_nil, fun _ => clampFrom_of_no_mark ?_⟩
    rw [List.nil_append, List.any_eq_false]
    intro c member
    rw [space_unmarked (white c member)]
    decide
  | cons c rest ih =>
    intro edge marks
    rw [List.cons_append, calm_cons, calm_cons, ih]

theorem nameOf_calm (text : Text) : Calm u.toCharacters .start 0 (nameOf u text) ↔
    Calm u.toCharacters .start 0 (clampMarks u.toCharacters (nameStripped u text)) := by
  have none : AfterMark Edge.start 0 := fun some_ => absurd some_ (by decide)
  unfold nameOf trim
  generalize clampMarks u.toCharacters (nameStripped u text) = clamped
  generalize squashed : squash u.space clamped = line
  have back := append_calm (u := u) ((line.dropWhile u.space).rtakeWhile u.space)
    (fun c member => List.mem_rtakeWhile_imp member) ((line.dropWhile u.space).rdropWhile u.space) .start 0
  rw [List.rdropWhile_append_rtakeWhile] at back
  rw [← back, dropWhile_calm _ _ start_idle, ← squashed]
  exact squash_calm clamped .start .start 0 0 none none (.inl ⟨rfl, rfl⟩)

theorem clampMarks_eq_iff (text : Text) :
    clampMarks u.toCharacters text = text ↔ Calm u.toCharacters .start 0 text := by
  rw [clampMarks_eq]
  rfl

/-- A name is stripped of nothing more. -/
theorem nameStripped_nameOf (text : Text) : nameStripped u (nameOf u text) = nameOf u text := by
  unfold nameStripped
  rw [map_spaced fun c member => (mem_nameOf member).1]
  have kept : ((nameOf u text).filter fun c => !u.nonsense c).filter (fun c => !u.formatting c) = nameOf u text := by
    have sensible : (nameOf u text).filter (fun c => !u.nonsense c) = nameOf u text :=
      List.filter_eq_self.mpr fun c member => by simp [(mem_nameOf member).2.1]
    rw [sensible]
    exact List.filter_eq_self.mpr fun c member => by simp [(mem_nameOf member).2.2]
  rw [kept, dropTags_of_flagged (nameOf_flagged text)]

theorem trim_length (text : Text) : (trim u text).length ≤ text.length := (trim_within text).length_le

/-- A name kept once more stays as it is exactly when the text, stripped, is parted. -/
theorem nameOf_nameOf (text : Text) :
    nameOf u (nameOf u text) = nameOf u text ↔ Parted u.toCharacters (nameStripped u text) := by
  have squashed : Squashed u.space (nameOf u text) := (squash_squashed u.blank.1 _).part (trim_within _)
  have trimmed : Trimmed u (nameOf u text) := trim_trimmed _
  have again : nameOf u (nameOf u text) = trim u (squash u.space (clampMarks u.toCharacters (nameOf u text))) := by
    show trim u (squash u.space (clampMarks u.toCharacters (nameStripped u (nameOf u text)))) = _
    rw [nameStripped_nameOf]
  rw [again, ← clampMarks_clampMarks, clampMarks_eq_iff, ← nameOf_calm, ← clampMarks_eq_iff]
  constructor
  · intro same
    have long := congrArg List.length same
    have first := trim_length (u := u) (squash u.space (clampMarks u.toCharacters (nameOf u text)))
    have second : (squash u.space (clampMarks u.toCharacters (nameOf u text))).length ≤ _ := squash_length _
    exact (clampMarks_sublist _).eq_of_length_le (by omega)
  · intro same
    rw [same, squash_of_squashed squashed, trim_of_trimmed trimmed]

/-- A name kept is kept again exactly when the text it was made of, stripped, is parted. -/
theorem designNameOf_designNameOf {name : Text} (kept : designNameOf u text = some name) :
    designNameOf u name = some name ↔ Parted u.toCharacters (nameStripped u text) := by
  rw [← nameOf_nameOf]
  unfold designNameOf at kept ⊢
  simp only at kept ⊢
  split at kept
  · rename_i fits
    cases kept
    constructor
    · intro again
      split at again
      · exact Option.some.inj again
      · cases again
    · intro same
      rw [same, if_pos fits]
  · cases kept

end LetterIRL.Themes
