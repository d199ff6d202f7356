import Mathlib.Tactic

namespace LetterIRL.Lib

/-! Extended grapheme clusters, over any tables of character properties. A text is a list of code points. -/

/-- `Grapheme_Cluster_Break`. -/
inductive ClusterBreak
  | cr
  | lf
  | control
  | extend
  | zwj
  | regional
  | prepend_
  | spacingMark
  | l
  | v
  | t
  | lv
  | lvt
  | other
  deriving DecidableEq

/-- `Indic_Conjunct_Break`. -/
inductive ConjunctBreak
  | consonant
  | linker
  | extend
  | none
  deriving DecidableEq

/-- The properties of characters, with what every version of their tables keeps. -/
structure Characters where
  clusterBreak : Nat → ClusterBreak
  conjunctBreak : Nat → ConjunctBreak
  /-- `Extended_Pictographic`. -/
  pictographic : Nat → Bool
  /-- A combining mark. -/
  mark : Nat → Bool
  space : Nat → Bool
  mark_break : ∀ c, mark c = true →
    clusterBreak c = .extend ∨ clusterBreak c = .spacingMark ∨ clusterBreak c = .other
  linker_mark : ∀ c, conjunctBreak c = .linker → mark c = true
  pictographic_plain : ∀ c, pictographic c = true →
    clusterBreak c = .other ∧ mark c = false ∧ conjunctBreak c = .none
  consonant_plain : ∀ c, conjunctBreak c = .consonant → clusterBreak c = .other ∧ mark c = false
  space_plain : ∀ c, space c = true →
    (clusterBreak c = .other ∨ clusterBreak c = .control ∨ clusterBreak c = .cr ∨ clusterBreak c = .lf) ∧
      mark c = false ∧ pictographic c = false ∧ conjunctBreak c = .none

/-- A pictograph at the end of a text, then also its joiner. -/
inductive EmojiEdge
  | none
  | pictograph
  | joiner
  deriving DecidableEq

/-- A consonant at the end of a text, then also a linker after it. -/
inductive ConjunctEdge
  | none
  | consonant
  | linked
  deriving DecidableEq

/-- What the end of a cluster says of whether the next character joins it. -/
structure Edge where
  last : ClusterBreak
  emoji : EmojiEdge
  conjunct : ConjunctEdge
  /-- It ends in an odd number of regional indicators. -/
  odd : Bool
  deriving DecidableEq

/-- Before a text, where nothing joins. -/
def Edge.start : Edge := ⟨.control, .none, .none, false⟩

def ClusterBreak.hard (b : ClusterBreak) : Bool := b == .control || b == .cr || b == .lf

/-- Characters that join whatever is before them. -/
def ClusterBreak.attaches (b : ClusterBreak) : Bool := b == .extend || b == .zwj || b == .spacingMark

/-- The syllables of Hangul. -/
def ClusterBreak.syllable : ClusterBreak → ClusterBreak → Bool
  | .l, next => next == .l || next == .v || next == .lv || next == .lvt
  | .v, next | .lv, next => next == .v || next == .t
  | .t, next | .lvt, next => next == .t
  | _, _ => false

namespace Characters
variable (u : Characters)

/-- There is no boundary before the character. -/
def joins (edge : Edge) (c : Nat) : Bool :=
  let next := u.clusterBreak c
  (edge.last == .cr && next == .lf) ||
    (!edge.last.hard && !next.hard &&
      (edge.last.syllable next || next.attaches || edge.last == .prepend_ ||
        (edge.conjunct == .linked && u.conjunctBreak c == .consonant) ||
        (edge.emoji == .joiner && u.pictographic c) || (edge.odd && next == .regional)))

/-- The edge of a character that begins a cluster. -/
def fresh (c : Nat) : Edge where
  last := u.clusterBreak c
  emoji := if u.pictographic c then .pictograph else .none
  conjunct := if u.conjunctBreak c = .consonant then .consonant else .none
  odd := u.clusterBreak c == .regional

def growEmoji (emoji : EmojiEdge) (c : Nat) : EmojiEdge :=
  if u.pictographic c then .pictograph
  else match emoji, u.clusterBreak c with
    | .pictograph, .extend => .pictograph
    | .pictograph, .zwj => .joiner
    | _, _ => .none

def growConjunct (conjunct : ConjunctEdge) (c : Nat) : ConjunctEdge :=
  match conjunct, u.conjunctBreak c with
  | _, .consonant => .consonant
  | .none, _ => .none
  | _, .linker => .linked
  | conjunct, .extend => conjunct
  | _, .none => .none

/-- The edge of a cluster with a character more. -/
def grow (edge : Edge) (c : Nat) : Edge where
  last := u.clusterBreak c
  emoji := u.growEmoji edge.emoji c
  conjunct := u.growConjunct edge.conjunct c
  odd := u.clusterBreak c == .regional && !edge.odd

def after (edge : Edge) (c : Nat) : Edge := if u.joins edge c then u.grow edge c else u.fresh c

def edgeOf (text : List Nat) : Edge := text.foldl u.after .start

/-- The clusters of a text whose first has begun. -/
def clustersFrom (edge : Edge) (cluster : List Nat) : List Nat → List (List Nat)
  | [] => [cluster]
  | c :: rest =>
    if u.joins edge c then clustersFrom (u.after edge c) (cluster ++ [c]) rest
    else cluster :: clustersFrom (u.after edge c) [c] rest

/-- `segment(text)`. -/
def clusters : List Nat → List (List Nat)
  | [] => []
  | c :: rest => u.clustersFrom (u.fresh c) [c] rest

variable {u : Characters} {edge other : Edge} {c : Nat}

theorem joins_start (c : Nat) : u.joins .start c = false := by simp [joins, Edge.start, ClusterBreak.hard]

theorem after_start (c : Nat) : u.after .start c = u.fresh c := by
  unfold after
  rw [joins_start]
  rfl

theorem clustersFrom_flatten (edge : Edge) (cluster rest : List Nat) :
    (u.clustersFrom edge cluster rest).flatten = cluster ++ rest := by
  induction rest generalizing edge cluster with
  | nil => simp [clustersFrom]
  | cons c rest ih =>
    unfold clustersFrom
    split
    · rw [ih]
      simp
    · rw [List.flatten_cons, ih]
      simp

/-- The clusters make up the text. -/
theorem clusters_flatten (text : List Nat) : (u.clusters text).flatten = text := by
  cases text with
  | nil => rfl
  | cons c rest => exact clustersFrom_flatten ..

/-- The first of the clusters goes on from the one that has begun. -/
theorem clustersFrom_head (edge : Edge) (cluster rest : List Nat) :
    ∃ more others, u.clustersFrom edge cluster rest = (cluster ++ more) :: others := by
  induction rest generalizing edge cluster with
  | nil => exact ⟨[], [], by simp [clustersFrom]⟩
  | cons c rest ih =>
    unfold clustersFrom
    split
    · obtain ⟨more, others, same⟩ := ih (u.after edge c) (cluster ++ [c])
      exact ⟨c :: more, others, by rw [same]; simp⟩
    · exact ⟨[], _, by rw [List.append_nil]⟩

/-- An edge behind a mark, or behind what joined one. -/
structure Settled (edge : Edge) : Prop where
  soft : edge.last = .extend ∨ edge.last = .zwj ∨ edge.last = .spacingMark ∨ edge.last = .other
  even : edge.odd = false

/-- What joins such an edge. -/
theorem Settled.joins_iff (settled : Settled edge) : u.joins edge c = true ↔
    (u.clusterBreak c).attaches = true ∨ (edge.conjunct = .linked ∧ u.conjunctBreak c = .consonant) ∨
      (edge.emoji = .joiner ∧ u.pictographic c = true) := by
  have softly : edge.last ≠ .cr ∧ edge.last.hard = false ∧ edge.last ≠ .prepend_ ∧
      edge.last.syllable (u.clusterBreak c) = false := by
    rcases settled.soft with same | same | same | same <;> rw [same] <;>
      simp [ClusterBreak.hard, ClusterBreak.syllable]
  obtain ⟨notCr, notHard, notPrepend, notSyllable⟩ := softly
  unfold joins
  simp only [settled.even, notHard, notSyllable, beq_eq_false_iff_ne.mpr notCr, beq_eq_false_iff_ne.mpr notPrepend,
    Bool.false_and, Bool.false_or, Bool.not_false, Bool.true_and, Bool.or_false, Bool.and_eq_true, Bool.or_eq_true,
    beq_iff_eq, Bool.not_eq_true']
  constructor
  · rintro ⟨-, (attached | linked) | joined⟩
    · exact .inl attached
    · exact .inr (.inl linked)
    · exact .inr (.inr joined)
  · rintro (attached | linked | joined)
    · refine ⟨?_, .inl (.inl attached)⟩
      revert attached
      cases u.clusterBreak c <;> decide
    · exact ⟨by rw [(u.consonant_plain c linked.2).1]; rfl, .inl (.inr linked)⟩
    · exact ⟨by rw [(u.pictographic_plain c joined.2).1]; rfl, .inr joined⟩

theorem fresh_settled (soft : u.clusterBreak c = .extend ∨ u.clusterBreak c = .zwj ∨ u.clusterBreak c = .spacingMark ∨
    u.clusterBreak c = .other) : Settled (u.fresh c) := by
  refine ⟨soft, ?_⟩
  show (u.clusterBreak c == .regional) = false
  rcases soft with same | same | same | same <;> rw [same] <;> rfl

theorem grow_settled (soft : u.clusterBreak c = .extend ∨ u.clusterBreak c = .zwj ∨ u.clusterBreak c = .spacingMark ∨
    u.clusterBreak c = .other) : Settled (u.grow edge c) := by
  refine ⟨soft, ?_⟩
  show (u.clusterBreak c == .regional && !edge.odd) = false
  rcases soft with same | same | same | same <;> rw [same] <;> rfl

theorem after_settled (soft : u.clusterBreak c = .extend ∨ u.clusterBreak c = .zwj ∨ u.clusterBreak c = .spacingMark ∨
    u.clusterBreak c = .other) : Settled (u.after edge c) := by
  unfold after
  split
  · exact grow_settled soft
  · exact fresh_settled soft

theorem mark_soft (marked : u.mark c = true) : u.clusterBreak c = .extend ∨ u.clusterBreak c = .zwj ∨
    u.clusterBreak c = .spacingMark ∨ u.clusterBreak c = .other := by
  rcases u.mark_break c marked with same | same | same
  · exact .inl same
  · exact .inr (.inr (.inl same))
  · exact .inr (.inr (.inr same))

/-- What joins a settled edge leaves one. -/
theorem Settled.joined_soft (settled : Settled edge) (joined : u.joins edge c = true) : u.clusterBreak c = .extend ∨
    u.clusterBreak c = .zwj ∨ u.clusterBreak c = .spacingMark ∨ u.clusterBreak c = .other := by
  rcases settled.joins_iff.mp joined with attached | ⟨-, consonant⟩ | ⟨-, pictograph⟩
  · revert attached
    cases u.clusterBreak c <;> simp [ClusterBreak.attaches]
  · exact .inr (.inr (.inr (u.consonant_plain c consonant).1))
  · exact .inr (.inr (.inr (u.pictographic_plain c pictograph).1))

theorem Settled.grow (settled : Settled edge) (joined : u.joins edge c = true) : Settled (u.grow edge c) :=
  grow_settled (settled.joined_soft joined)

/-- A consonant or a pictograph begins anew what the edge knows. -/
theorem grow_base (base : u.conjunctBreak c = .consonant ∨ u.pictographic c = true) : u.grow edge c = u.fresh c := by
  unfold Characters.grow fresh growEmoji growConjunct
  rcases base with consonant | pictograph
  · obtain ⟨plain, -⟩ := u.consonant_plain c consonant
    rw [plain, consonant]
    cases edge.emoji <;> simp
  · obtain ⟨plain, -, none⟩ := u.pictographic_plain c pictograph
    rw [plain, none, pictograph]
    cases edge.conjunct <;> simp

/-- Nothing of an edge without a pictograph, a consonant or an odd indicator reaches the next. -/
theorem grow_blank (emoji : edge.emoji = .none) (conjunct : edge.conjunct = .none) (even : edge.odd = false) :
    u.grow edge c = u.fresh c := by
  unfold Characters.grow fresh growEmoji growConjunct
  rw [emoji, conjunct, even]
  cases u.conjunctBreak c <;> simp

end Characters
end LetterIRL.Lib
