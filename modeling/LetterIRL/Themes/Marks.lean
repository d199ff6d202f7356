import LetterIRL.Lib.Graphemes

namespace LetterIRL.Themes
open Lib

/-! `clampMarks`: at most four combining marks on a letter. -/

abbrev Text := List Nat

def MAX_MARKS_PER_LETTER : Nat := 4

variable (u : Characters)

/-- The characters of a letter that are kept, after so many of its marks. -/
def keepFrom (marks : Nat) : Text → Text
  | [] => []
  | c :: rest =>
    if u.mark c then
      if MAX_MARKS_PER_LETTER < marks + 1 then keepFrom (marks + 1) rest else c :: keepFrom (marks + 1) rest
    else c :: keepFrom marks rest

def clampMarks (text : Text) : Text :=
  if text.any u.mark then (u.clusters text).flatMap (keepFrom u 0) else text

/-- A letter that loses marks runs, once they are gone, into the next, and that has a mark. -/
def Rejoin (letter next : Text) : Prop :=
  MAX_MARKS_PER_LETTER < letter.countP u.mark ∧
    (∃ c ∈ next.head?, u.joins (u.edgeOf (keepFrom u 0 letter)) c = true) ∧ 0 < next.countP u.mark

/-- No letter of the text runs, once its marks past the fourth are gone, into a next one with a mark. -/
def Parted (text : Text) : Prop := (u.clusters text).IsChain fun letter next => ¬Rejoin u letter next

/-- The marks of its letter up to a character, after so many of them before it. -/
def counted (edge : Edge) (marks c : Nat) : Nat := (if u.joins edge c then marks else 0) + (u.mark c).toNat

def surplus (edge : Edge) (marks c : Nat) : Bool := u.mark c && MAX_MARKS_PER_LETTER < counted u edge marks c

/-- The text from an edge on, after so many marks of the letter before it. -/
def clampFrom (edge : Edge) (marks : Nat) : Text → Text
  | [] => []
  | c :: rest =>
    if surplus u edge marks c then clampFrom (u.after edge c) (counted u edge marks c) rest
    else c :: clampFrom (u.after edge c) (counted u edge marks c) rest

variable {u} {edge other : Edge} {marks : Nat} {letter rest text : Text} {c : Nat}

theorem keepFrom_append (marks : Nat) (letter : Text) (c : Nat) :
    keepFrom u marks (letter ++ [c]) = keepFrom u marks letter ++
      if u.mark c && MAX_MARKS_PER_LETTER < marks + letter.countP u.mark + 1 then [] else [c] := by
  induction letter generalizing marks with
  | nil =>
    simp only [List.nil_append, keepFrom, List.countP_nil, Nat.add_zero]
    cases u.mark c <;> simp
  | cons first letter ih =>
    simp only [List.cons_append, keepFrom, List.countP_cons]
    cases marked : u.mark first with
    | false => simp [ih]
    | true =>
      simp only [if_true]
      rw [ih, show marks + 1 + letter.countP u.mark + 1 = marks + (letter.countP u.mark + 1) + 1 by omega]
      split
      · rfl
      · rfl

theorem keepFrom_of_no_mark (marks : Nat) (letter : Text) (plain : letter.countP u.mark = 0) :
    keepFrom u marks letter = letter := by
  induction letter generalizing marks with
  | nil => rfl
  | cons first letter ih =>
    rw [List.countP_cons] at plain
    have unmarked : u.mark first = false := by
      cases marked : u.mark first with
      | false => rfl
      | true => simp [marked] at plain
    rw [keepFrom, if_neg (by simp [unmarked]), ih marks (by omega)]

theorem counted_joined (joined : u.joins edge c = true) : counted u edge marks c = marks + (u.mark c).toNat := by
  unfold counted
  rw [if_pos joined]

theorem counted_parted (parted : u.joins edge c = false) : counted u edge marks c = (u.mark c).toNat := by
  unfold counted
  rw [parted]
  exact Nat.zero_add _

/-- The first marks of a letter stay. -/
theorem surplus_parted (parted : u.joins edge c = false) : surplus u edge marks c = false := by
  unfold surplus
  rw [counted_parted parted]
  cases u.mark c <;> rfl

theorem surplus_unmarked (unmarked : u.mark c = false) : surplus u edge marks c = false := by
  unfold surplus
  rw [unmarked]
  rfl

/-- Letter by letter, and character by character. -/
theorem clusters_keep (edge : Edge) (letter rest : Text) :
    (u.clustersFrom edge letter rest).flatMap (keepFrom u 0) =
      keepFrom u 0 letter ++ clampFrom u edge (letter.countP u.mark) rest := by
  induction rest generalizing edge letter with
  | nil => simp [Characters.clustersFrom, clampFrom]
  | cons c rest ih =>
    have one : [c].countP u.mark = (u.mark c).toNat := by cases marked : u.mark c <;> simp [marked]
    unfold Characters.clustersFrom clampFrom
    cases joined : u.joins edge c with
    | true =>
      rw [if_pos rfl, ih, keepFrom_append, Nat.zero_add, List.countP_append, one, counted_joined joined]
      unfold surplus
      rw [counted_joined joined]
      cases marked : u.mark c with
      | false => simp
      | true =>
        simp only [Bool.toNat_true, Bool.true_and, decide_eq_true_eq]
        split <;> simp
    | false =>
      have kept : keepFrom u 0 [c] = [c] := by
        unfold keepFrom
        cases u.mark c <;> rfl
      rw [if_neg (by simp), List.flatMap_cons, ih, kept, one, surplus_parted joined, counted_parted joined]
      simp

theorem clampFrom_of_no_mark (plain : text.any u.mark = false) : clampFrom u edge marks text = text := by
  induction text generalizing edge marks with
  | nil => rfl
  | cons c rest ih =>
    rw [List.any_cons, Bool.or_eq_false_iff] at plain
    rw [clampFrom, surplus_unmarked plain.1, ih plain.2]
    simp

/-- `clampMarks` in one pass. -/
theorem clampMarks_eq (text : Text) : clampMarks u text = clampFrom u .start 0 text := by
  unfold clampMarks
  split
  · cases text with
    | nil => rfl
    | cons c rest =>
      have kept : keepFrom u 0 [c] = [c] := by
        unfold keepFrom
        cases u.mark c <;> rfl
      have one : [c].countP u.mark = (u.mark c).toNat := by cases marked : u.mark c <;> simp [marked]
      have parted := Characters.joins_start (u := u) c
      rw [Characters.clusters, clusters_keep, kept, one, clampFrom, surplus_parted parted, counted_parted parted,
        Characters.after_start]
      simp
  · rename_i plain
    exact (clampFrom_of_no_mark (by simpa using plain)).symm

theorem clampFrom_length (edge : Edge) (marks : Nat) (text : Text) :
    (clampFrom u edge marks text).length ≤ text.length := by
  induction text generalizing edge marks with
  | nil => exact le_rfl
  | cons c rest ih =>
    have later := ih (u.after edge c) (counted u edge marks c)
    unfold clampFrom
    split
    · exact later.trans (Nat.le_succ _)
    · exact Nat.succ_le_succ later

variable (u) in
/-- The pass takes nothing out of the text. -/
def Calm (edge : Edge) (marks : Nat) (text : Text) : Prop := clampFrom u edge marks text = text

theorem calm_nil : Calm u edge marks [] := rfl

theorem calm_cons : Calm u edge marks (c :: rest) ↔
    surplus u edge marks c = false ∧ Calm u (u.after edge c) (counted u edge marks c) rest := by
  unfold Calm
  rw [clampFrom]
  cases past : surplus u edge marks c with
  | false => simp
  | true =>
    have short := clampFrom_length (u := u) (u.after edge c) (counted u edge marks c) rest
    constructor
    · intro same
      have length := congrArg List.length same
      rw [if_pos rfl, List.length_cons] at length
      omega
    · exact fun both => absurd both.1 (by decide)

/-! A second pass, beside the first. -/

/-- Where the second pass is when the first has left out marks of a letter: it has seen all that was kept. -/
structure Behind (edge edge' : Edge) (marks' : Nat) : Prop where
  first : Characters.Settled edge
  second : Characters.Settled edge'
  emoji : edge.emoji ≠ .none → edge'.emoji = edge.emoji
  /-- It has counted four marks, or has parted the letter at a consonant whose linker was left out. -/
  count : marks' = MAX_MARKS_PER_LETTER ∨ (marks' = 0 ∧ edge'.emoji = .none ∧ edge'.conjunct ≠ .linked)

variable {edge' : Edge} {marks' : Nat}

theorem growEmoji_mark {emoji : EmojiEdge} (marked : u.mark c = true) (some_ : u.growEmoji emoji c ≠ .none) :
    u.growEmoji emoji c = emoji := by
  have plain : u.pictographic c = false := by
    cases pictograph : u.pictographic c with
    | false => rfl
    | true => exact absurd marked (by rw [(u.pictographic_plain c pictograph).2.1]; decide)
  unfold Characters.growEmoji at some_ ⊢
  rw [plain] at some_ ⊢
  rcases u.mark_break c marked with same | same | same <;> rw [same] at some_ ⊢ <;> cases emoji <;> simp_all

theorem growEmoji_same {emoji emoji' : EmojiEdge} (known : emoji ≠ .none → emoji' = emoji)
    (some_ : u.growEmoji emoji c ≠ .none) : u.growEmoji emoji' c = u.growEmoji emoji c := by
  cases emoji with
  | none =>
    unfold Characters.growEmoji at some_ ⊢
    split
    · rfl
    · rename_i plain
      simp [plain] at some_
  | pictograph => rw [known (by decide)]
  | joiner => rw [known (by decide)]

/-- The first mark left out of a letter. -/
theorem behind_first (settled : Characters.Settled edge) (marked : u.mark c = true) (joined : u.joins edge c = true) :
    Behind (u.grow edge c) edge MAX_MARKS_PER_LETTER where
  first := settled.grow joined
  second := settled
  emoji some_ := (growEmoji_mark marked some_).symm
  count := .inl rfl

/-- One more mark left out. -/
theorem Behind.marked (behind : Behind edge edge' marks') (marked : u.mark c = true)
    (joined : u.joins edge c = true) :
    Behind (u.grow edge c) edge' marks' where
  first := behind.first.grow joined
  second := behind.second
  emoji some_ := by
    have same : u.growEmoji edge.emoji c = edge.emoji := growEmoji_mark marked some_
    have some_ : edge.emoji ≠ .none := fun none => some_ (same.trans none)
    exact (behind.emoji some_).trans same.symm
  count := behind.count

/-- A character that is kept behind a mark left out. -/
theorem Behind.kept (behind : Behind edge edge' marks') (unmarked : u.mark c = false)
    (joined : u.joins edge c = true) :
    Behind (u.grow edge c) (u.after edge' c) (counted u edge' marks' c) := by
  have count : counted u edge' marks' c = if u.joins edge' c then marks' else 0 := by
    unfold counted
    rw [unmarked]
    rfl
  rw [count]
  rcases behind.first.joins_iff.mp joined with attached | ⟨linked, consonant⟩ | ⟨joiner, pictograph⟩
  · have joined' : u.joins edge' c = true := behind.second.joins_iff.mpr (.inl attached)
    unfold Characters.after
    rw [joined']
    refine ⟨behind.first.grow joined, behind.second.grow joined', fun some_ => growEmoji_same behind.emoji some_, ?_⟩
    rcases behind.count with four | ⟨none, emoji, conjunct⟩
    · exact .inl four
    · have plain : u.pictographic c = false := by
        cases pictograph : u.pictographic c with
        | false => rfl
        | true =>
          rw [(u.pictographic_plain c pictograph).1] at attached
          cases attached
      refine .inr ⟨none, ?_, ?_⟩
      · show u.growEmoji edge'.emoji c = .none
        unfold Characters.growEmoji
        rw [plain, emoji]
        rfl
      · show u.growConjunct edge'.conjunct c ≠ .linked
        have notLinker : u.conjunctBreak c ≠ .linker := fun linker =>
          absurd (u.linker_mark c linker) (by rw [unmarked]; decide)
        unfold Characters.growConjunct
        revert conjunct notLinker
        cases edge'.conjunct <;> cases u.conjunctBreak c <;> simp
  · obtain ⟨plain, -⟩ := u.consonant_plain c consonant
    have settled : Characters.Settled (u.fresh c) := Characters.fresh_settled (.inr (.inr (.inr plain)))
    have after : u.after edge' c = u.fresh c := by
      unfold Characters.after
      rw [Characters.grow_base (.inl consonant), ite_self]
    rw [after, Characters.grow_base (.inl consonant)]
    refine ⟨settled, settled, fun _ => rfl, ?_⟩
    cases joined' : u.joins edge' c with
    | true =>
      rcases behind.count with four | ⟨-, emoji, conjunct⟩
      · exact .inl four
      · rcases behind.second.joins_iff.mp joined' with attached | ⟨linked, -⟩ | ⟨joiner, -⟩
        · rw [plain] at attached
          cases attached
        · exact absurd linked conjunct
        · rw [emoji] at joiner
          cases joiner
    | false =>
      refine .inr ⟨rfl, ?_, ?_⟩
      · have notPictograph : u.pictographic c = false := by
          cases pictograph : u.pictographic c with
          | false => rfl
          | true =>
            rw [(u.pictographic_plain c pictograph).2.2] at consonant
            cases consonant
        simp [Characters.fresh, notPictograph]
      · simp [Characters.fresh, consonant]
  · have same : edge'.emoji = .joiner := (behind.emoji (by rw [joiner]; decide)).trans joiner
    have joined' : u.joins edge' c = true := behind.second.joins_iff.mpr (.inr (.inr ⟨same, pictograph⟩))
    obtain ⟨plain, -, -⟩ := u.pictographic_plain c pictograph
    have settled : Characters.Settled (u.fresh c) := Characters.fresh_settled (.inr (.inr (.inr plain)))
    unfold Characters.after
    rw [joined', if_pos rfl, if_pos rfl, Characters.grow_base (.inr pictograph),
      Characters.grow_base (.inr pictograph)]
    refine ⟨settled, settled, fun _ => rfl, ?_⟩
    rcases behind.count with four | ⟨-, emoji, -⟩
    · exact .inl four
    · rw [emoji] at same
      cases same

/-- What follows a letter that lost marks, and runs into it once they are gone. -/
theorem Behind.rejoined (behind : Behind edge edge' marks') (parted : u.joins edge c = false)
    (joined : u.joins edge' c = true) :
    marks' = MAX_MARKS_PER_LETTER ∧ u.mark c = false ∧ u.after edge' c = u.fresh c := by
  have base : u.conjunctBreak c = .consonant ∨ u.pictographic c = true := by
    rcases behind.second.joins_iff.mp joined with attached | ⟨-, consonant⟩ | ⟨-, pictograph⟩
    · rw [behind.first.joins_iff.mpr (.inl attached)] at parted
      cases parted
    · exact .inl consonant
    · exact .inr pictograph
  refine ⟨?_, ?_, ?_⟩
  · rcases behind.count with four | ⟨-, emoji, conjunct⟩
    · exact four
    · rcases behind.second.joins_iff.mp joined with attached | ⟨linked, -⟩ | ⟨joiner, -⟩
      · rw [behind.first.joins_iff.mpr (.inl attached)] at parted
        cases parted
      · exact absurd linked conjunct
      · rw [emoji] at joiner
        cases joiner
  · rcases base with consonant | pictograph
    · exact (u.consonant_plain c consonant).2
    · exact (u.pictographic_plain c pictograph).2.1
  · unfold Characters.after
    rw [Characters.grow_base base, ite_self]

/-- The second pass has entered a letter by a boundary, and seen what is kept of it so far. -/
structure Entered (u : Characters) (edge : Edge) (letter : Text) (edge' : Edge) (marks' : Nat) : Prop where
  seen : edge' = u.edgeOf (keepFrom u 0 letter)
  pace : (letter.countP u.mark ≤ MAX_MARKS_PER_LETTER ∧ edge' = edge ∧ marks' = letter.countP u.mark ∧
      (0 < letter.countP u.mark → Characters.Settled edge)) ∨
    (MAX_MARKS_PER_LETTER < letter.countP u.mark ∧ Behind edge edge' marks')

theorem count_append (letter : Text) (c : Nat) :
    (letter ++ [c]).countP u.mark = letter.countP u.mark + (u.mark c).toNat := by
  rw [List.countP_append]
  cases marked : u.mark c <;> simp [marked]

theorem edgeOf_append (letter : Text) (c : Nat) : u.edgeOf (letter ++ [c]) = u.after (u.edgeOf letter) c := by
  unfold Characters.edgeOf
  rw [List.foldl_append]
  rfl

/-- A new letter. -/
theorem entered_fresh (c : Nat) : Entered u (u.fresh c) [c] (u.fresh c) (u.mark c).toNat := by
  have kept : keepFrom u 0 [c] = [c] := by
    unfold keepFrom
    cases u.mark c <;> rfl
  have one : [c].countP u.mark = (u.mark c).toNat := by cases marked : u.mark c <;> simp [marked]
  refine ⟨?_, .inl ⟨?_, rfl, one.symm, fun some_ => ?_⟩⟩
  · rw [kept]
    exact (Characters.after_start c).symm
  · rw [one]
    cases u.mark c <;> decide
  · rw [one] at some_
    refine Characters.fresh_settled (Characters.mark_soft ?_)
    cases marked : u.mark c with
    | true => rfl
    | false =>
      rw [marked] at some_
      exact absurd some_ (by decide)

/-- A character of the letter that is kept: the second pass keeps it too. -/
theorem Entered.kept (entered : Entered u edge letter edge' marks') (joined : u.joins edge c = true)
    (kept : surplus u edge (letter.countP u.mark) c = false) :
    surplus u edge' marks' c = false ∧
      Entered u (u.grow edge c) (letter ++ [c]) (u.after edge' c) (counted u edge' marks' c) := by
  have count := count_append (u := u) letter c
  have here : surplus u edge (letter.countP u.mark) c = (u.mark c && decide (MAX_MARKS_PER_LETTER <
      letter.countP u.mark + (u.mark c).toNat)) := by
    unfold surplus
    rw [counted_joined joined]
  have seen : u.after edge' c = u.edgeOf (keepFrom u 0 (letter ++ [c])) := by
    rw [keepFrom_append, Nat.zero_add]
    have stays : (u.mark c && decide (MAX_MARKS_PER_LETTER < letter.countP u.mark + 1)) = false := by
      rw [here] at kept
      cases marked : u.mark c with
      | false => rfl
      | true => simpa [marked] using kept
    rw [stays, if_neg (by decide), edgeOf_append, entered.seen]
  rcases entered.pace with ⟨few, rfl, rfl, settled⟩ | ⟨past, behind⟩
  · have after : u.after edge' c = u.grow edge' c := by
      unfold Characters.after
      rw [if_pos joined]
    refine ⟨kept, seen, .inl ⟨?_, after, ?_, fun some_ => ?_⟩⟩
    · rw [count]
      rw [here] at kept
      cases marked : u.mark c with
      | false => simpa [marked] using few
      | true => simpa [marked] using kept
    · rw [count, counted_joined joined]
    · rw [count] at some_
      cases marked : u.mark c with
      | true => exact Characters.grow_settled (Characters.mark_soft marked)
      | false =>
        rw [marked] at some_
        exact (settled (by simpa using some_)).grow joined
  · have unmarked : u.mark c = false := by
      rw [here] at kept
      cases marked : u.mark c with
      | false => rfl
      | true =>
        rw [marked] at kept
        simp only [Bool.toNat_true, Bool.true_and, decide_eq_false_iff_not] at kept
        omega
    refine ⟨surplus_unmarked unmarked, seen, .inr ⟨?_, behind.kept unmarked joined⟩⟩
    rw [count]
    omega

/-- A mark of the letter that is left out. -/
theorem Entered.dropped (entered : Entered u edge letter edge' marks') (joined : u.joins edge c = true)
    (dropped : surplus u edge (letter.countP u.mark) c = true) :
    Entered u (u.grow edge c) (letter ++ [c]) edge' marks' := by
  have count := count_append (u := u) letter c
  unfold surplus at dropped
  rw [counted_joined joined, Bool.and_eq_true, decide_eq_true_eq] at dropped
  obtain ⟨marked, past⟩ := dropped
  rw [marked] at count past
  refine ⟨?_, .inr ⟨by rw [count]; exact past, ?_⟩⟩
  · rw [keepFrom_append, marked, Nat.zero_add]
    have gone : decide (MAX_MARKS_PER_LETTER < letter.countP u.mark + 1) = true := decide_eq_true past
    rw [gone]
    simpa using entered.seen
  · rcases entered.pace with ⟨few, rfl, rfl, settled⟩ | ⟨-, behind⟩
    · have four : letter.countP u.mark = MAX_MARKS_PER_LETTER := by
        have past : MAX_MARKS_PER_LETTER < letter.countP u.mark + 1 := past
        omega
      rw [four]
      exact behind_first (settled (by rw [four]; decide)) marked joined
    · exact behind.marked marked joined

variable (u) in
/-- No letter of these runs into the next. -/
abbrev Chained (letters : List Text) : Prop := letters.IsChain fun letter next => ¬Rejoin u letter next

/-- A letter that loses no marks runs into none. -/
theorem chained_few {next : Text} {others : List Text} (few : letter.countP u.mark ≤ MAX_MARKS_PER_LETTER) :
    Chained u (letter :: next :: others) ↔ Chained u (next :: others) := by
  unfold Chained
  rw [List.isChain_cons_cons]
  have fine : ¬Rejoin u letter next := fun rejoin => Nat.not_le.mpr rejoin.1 few
  exact ⟨fun both => both.2, fun chained => ⟨fine, chained⟩⟩

/-- The second pass takes nothing out exactly when no letter runs into the next; and, when one has run into the
letter it is in, when that letter has no mark either. -/
theorem second_pass (rest : Text) : ∀ edge letter,
    (∀ edge' marks', Entered u edge letter edge' marks' →
      (Calm u edge' marks' (clampFrom u edge (letter.countP u.mark) rest) ↔
        Chained u (u.clustersFrom edge letter rest))) ∧
    (letter.countP u.mark = 0 → (Calm u edge MAX_MARKS_PER_LETTER (clampFrom u edge 0 rest) ↔
      (∀ first ∈ (u.clustersFrom edge letter rest).head?, first.countP u.mark = 0) ∧
        Chained u (u.clustersFrom edge letter rest))) := by
  induction rest with
  | nil =>
    intro edge letter
    refine ⟨fun edge' marks' _ => ?_, fun plain => ?_⟩
    · exact ⟨fun _ => .singleton _, fun _ => calm_nil⟩
    · refine ⟨fun _ => ⟨fun first member => ?_, .singleton _⟩, fun _ => calm_nil⟩
      cases member
      exact plain
  | cons c rest ih =>
    intro edge letter
    cases joined : u.joins edge c with
    | true =>
      have after : u.after edge c = u.grow edge c := if_pos joined
      have clusters : u.clustersFrom edge letter (c :: rest) =
          u.clustersFrom (u.grow edge c) (letter ++ [c]) rest := by
        rw [Characters.clustersFrom, if_pos joined, after]
      have count := count_append (u := u) letter c
      rw [clusters]
      refine ⟨fun edge' marks' entered => ?_, fun plain => ?_⟩
      · rw [clampFrom, after, counted_joined joined, ← count]
        cases past : surplus u edge (letter.countP u.mark) c with
        | true =>
          rw [if_pos rfl]
          exact (ih _ _).1 _ _ (entered.dropped joined past)
        | false =>
          obtain ⟨kept, later⟩ := entered.kept joined past
          rw [if_neg (by decide), calm_cons, kept]
          simp only [true_and]
          exact (ih _ _).1 _ _ later
      · rw [clampFrom, after, counted_joined joined, Nat.zero_add]
        cases marked : u.mark c with
        | true =>
          have one : surplus u edge 0 c = false := by
            unfold surplus
            rw [counted_joined joined, marked]
            rfl
          have five : surplus u edge MAX_MARKS_PER_LETTER c = true := by
            unfold surplus
            rw [counted_joined joined, marked]
            rfl
          rw [one, if_neg (by decide), calm_cons, five]
          refine ⟨fun both => absurd both.1 (by decide), fun both => ?_⟩
          obtain ⟨more, others, same⟩ := u.clustersFrom_head (u.grow edge c) (letter ++ [c]) rest
          have none := both.1 (letter ++ [c] ++ more) (by rw [same]; rfl)
          rw [List.countP_append, count, marked] at none
          exact absurd none (by simp)
        | false =>
          rw [surplus_unmarked marked, if_neg (by decide), calm_cons, surplus_unmarked marked, after,
            counted_joined joined, marked]
          simp only [true_and]
          exact (ih _ _).2 (by rw [count, marked, plain]; rfl)
    | false =>
      have after : u.after edge c = u.fresh c := by
        unfold Characters.after
        rw [joined]
        rfl
      have clusters : u.clustersFrom edge letter (c :: rest) = letter :: u.clustersFrom (u.fresh c) [c] rest := by
        rw [Characters.clustersFrom, joined, after]
        rfl
      obtain ⟨more, others, same⟩ := u.clustersFrom_head (u.fresh c) [c] rest
      have one : [c].countP u.mark = (u.mark c).toNat := by cases marked : u.mark c <;> simp [marked]
      have begun := (ih (u.fresh c) [c]).1 _ _ (entered_fresh c)
      rw [one] at begun
      rw [clusters]
      refine ⟨fun edge' marks' entered => ?_, fun plain => ?_⟩
      · rw [clampFrom, surplus_parted joined, after, counted_parted joined, if_neg (by decide), calm_cons]
        rcases entered.pace with ⟨few, rfl, -, -⟩ | ⟨past, behind⟩
        · rw [surplus_parted joined, after, counted_parted joined, same, chained_few few, ← same]
          simpa using begun
        · cases joined' : u.joins edge' c with
          | false =>
            have after' : u.after edge' c = u.fresh c := by
              unfold Characters.after
              rw [joined']
              rfl
            have fine : ¬Rejoin u letter ([c] ++ more) := by
              rintro ⟨-, ⟨first, head, joins⟩, -⟩
              cases head
              rw [← entered.seen, joined'] at joins
              cases joins
            rw [surplus_parted joined', after', counted_parted joined', same]
            unfold Chained
            rw [List.isChain_cons_cons, ← same]
            simp only [true_and, fine, not_false_eq_true]
            exact begun
          | true =>
            obtain ⟨rfl, unmarked, after'⟩ := behind.rejoined joined joined'
            have rejoin : Rejoin u letter ([c] ++ more) ↔ 0 < ([c] ++ more).countP u.mark :=
              ⟨fun rejoin => rejoin.2.2, fun some_ => ⟨past, ⟨c, rfl, entered.seen ▸ joined'⟩, some_⟩⟩
            have into := (ih (u.fresh c) [c]).2 (by rw [one, unmarked]; rfl)
            rw [surplus_unmarked unmarked, after', counted_joined joined', unmarked]
            simp only [true_and]
            refine into.trans ?_
            rw [same]
            unfold Chained
            rw [List.isChain_cons_cons, rejoin]
            simp only [List.head?_cons, Option.mem_def, Option.some.injEq, forall_eq', Nat.not_lt, Nat.le_zero]
      · have few : letter.countP u.mark ≤ MAX_MARKS_PER_LETTER := by
          rw [plain]
          decide
        rw [clampFrom, surplus_parted joined, after, counted_parted joined, if_neg (by decide), calm_cons,
          surplus_parted joined, after, counted_parted joined, same, chained_few few, ← same]
        simp only [true_and, List.head?_cons, Option.mem_def, Option.some.injEq, forall_eq', plain]
        exact begun

/-- Clamped once more, a text stays as it is exactly when none of its letters, rid of the marks past the fourth, runs
into a next one with a mark. -/
theorem clampMarks_clampMarks (text : Text) :
    clampMarks u (clampMarks u text) = clampMarks u text ↔ Parted u text := by
  rw [clampMarks_eq, clampMarks_eq]
  unfold Parted
  cases text with
  | nil => exact ⟨fun _ => .nil, fun _ => rfl⟩
  | cons c rest =>
    have parted := Characters.joins_start (u := u) c
    have begun := (second_pass (u := u) rest (u.fresh c) [c]).1 _ _ (entered_fresh c)
    have one : [c].countP u.mark = (u.mark c).toNat := by cases marked : u.mark c <;> simp [marked]
    rw [one] at begun
    rw [clampFrom, surplus_parted parted, Characters.after_start, counted_parted parted, if_neg (by decide)]
    show Calm u .start 0 _ ↔ _
    rw [calm_cons, surplus_parted parted, Characters.after_start, counted_parted parted]
    simp only [true_and]
    exact begun

end LetterIRL.Themes
