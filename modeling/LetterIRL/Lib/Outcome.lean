import LetterIRL.Lib.Runs
import Mathlib.Logic.Relation

namespace LetterIRL.Lib
open Relation
variable {σ β ε : Type} {writes : σ → σ → Prop} {fails : ε → Prop} {s s' : σ}

/-- What a transaction from `s` comes to: a chain of writes that commits, or an
abort of the kind `fails` describes. -/
def Outcome (writes : σ → σ → Prop) (fails : ε → Prop) (s : σ) : Except ε σ → Prop
  | .ok after => ReflTransGen writes s after
  | .error abort => fails abort

namespace Outcome

theorem skip : Outcome writes fails s (.ok s) := ReflTransGen.refl

theorem write (one : writes s s') : Outcome writes fails s (.ok s') := ReflTransGen.single one

theorem abort {reason : ε} (allowed : fails reason) : Outcome writes fails s (.error reason) := allowed

/-- Writes made before the rest of a transaction belong to it. -/
theorem after {result : Except ε σ} (steps : ReflTransGen writes s s')
    (rest : Outcome writes fails s' result) : Outcome writes fails s result := by
  cases result with
  | ok last => exact steps.trans rest
  | error reason => exact rest

/-- A transaction in two parts: the second starts where the first ended. -/
theorem bind {first : Except ε σ} {next : σ → Except ε σ} (start : Outcome writes fails s first)
    (rest : ∀ s', first = .ok s' → Outcome writes fails s' (next s')) :
    Outcome writes fails s (first >>= next) := by
  cases first with
  | ok middle => exact after start (rest middle rfl)
  | error reason => exact start

/-- A part that computes a value and writes nothing. -/
theorem compute {first : Except ε β} {next : β → Except ε σ}
    (aborts : ∀ reason, first = .error reason → fails reason)
    (rest : ∀ value, first = .ok value → Outcome writes fails s (next value)) :
    Outcome writes fails s (first >>= next) := by
  cases first with
  | ok value => exact rest value rfl
  | error reason => exact aborts reason rfl

theorem committed (outcome : Outcome writes fails s (.ok s')) : ReflTransGen writes s s' := outcome

end Outcome

/-- A test of what was committed, and one of why it was not. -/
def commits (test : σ → Bool) (result : Except ε σ) : Bool := result.toOption.any test

def refuses (test : ε → Bool) : Except ε σ → Bool
  | .ok _ => false
  | .error reason => test reason

theorem commits_iff {test : σ → Bool} {result : Except ε σ} :
    commits test result = true ↔ ∃ after, result = .ok after ∧ test after = true := by
  cases result with
  | ok after => simp [commits, Except.toOption]
  | error reason => simp [commits, Except.toOption]

theorem refuses_iff {test : ε → Bool} {result : Except ε σ} :
    refuses test result = true ↔ ∃ reason, result = .error reason ∧ test reason = true := by
  cases result with
  | ok after => simp [refuses]
  | error reason => simp [refuses]

/-- What every write preserves, a chain of writes preserves. -/
theorem invariant_writes {I : σ → Prop} (steps : ReflTransGen writes s s') (holds : I s)
    (preserved : ∀ before after, I before → writes before after → I after) : I s' := by
  induction steps with
  | refl => exact holds
  | tail _ write ih => exact preserved _ _ ih write

end LetterIRL.Lib
