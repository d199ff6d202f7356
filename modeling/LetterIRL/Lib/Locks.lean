import LetterIRL.Lib.Table

namespace LetterIRL.Lib
variable {κ τ : Type}

/-- Exclusive locks by their keys, each with the transaction that holds it. -/
abbrev Locks (κ τ : Type) := Table (Prod.fst : κ × τ → κ)

namespace Locks
variable [DecidableEq κ] [DecidableEq τ] {locks after : Locks κ τ} {tx other : τ} {key : κ}

def Holds (locks : Locks κ τ) (tx : τ) (key : κ) : Prop := locks.find key = some (key, tx)

/-- `none` while another transaction holds the lock. -/
def acquire (locks : Locks κ τ) (tx : τ) (key : κ) : Option (Locks κ τ) :=
  match locks.find key with
  | none => some (locks.set (key, tx))
  | some held => if held.2 = tx then some locks else none

/-- Each of the keys in turn: `none` while another transaction holds one of them. -/
def acquireAll (locks : Locks κ τ) (tx : τ) : List κ → Option (Locks κ τ)
  | [] => some locks
  | key :: keys => (locks.acquire tx key).bind fun next => acquireAll next tx keys

/-- A transaction that ends lets go of every lock it holds. -/
def release (locks : Locks κ τ) (tx : τ) : Locks κ τ := locks.filter fun held => held.2 ≠ tx

omit [DecidableEq τ] in
theorem Holds.unique (first : Holds locks tx key) (second : Holds locks other key) : tx = other := by
  unfold Holds at first second
  rw [first] at second
  cases second
  rfl

theorem acquire_holds (acquired : acquire locks tx key = some after) : Holds after tx key := by
  unfold acquire at acquired
  split at acquired
  · cases acquired
    exact Table.find_set_self _ _
  · rename_i held found
    split at acquired
    · rename_i mine
      cases acquired
      have at_ := Table.find_key found
      rw [Holds, found, ← at_, ← mine]
    · cases acquired

theorem acquire_kept (acquired : acquire locks tx key = some after) {k : κ} (holds : Holds locks other k) :
    Holds after other k := by
  unfold acquire at acquired
  split at acquired
  · rename_i free
    cases acquired
    have differ : k ≠ key := by
      rintro rfl
      rw [Holds, free] at holds
      cases holds
    rw [Holds, Table.find_set, if_neg differ]
    exact holds
  · split at acquired
    · cases acquired
      exact holds
    · cases acquired

theorem acquireAll_kept {keys : List κ} (acquired : acquireAll locks tx keys = some after) {k : κ}
    (holds : Holds locks other k) : Holds after other k := by
  induction keys generalizing locks with
  | nil =>
    cases acquired
    exact holds
  | cons first keys ih =>
    obtain ⟨next, here, later⟩ := Option.bind_eq_some_iff.mp acquired
    exact ih later (acquire_kept here holds)

theorem Holds.release (holds : Holds locks other key) (apart : other ≠ tx) : Holds (locks.release tx) other key := by
  rw [Holds, Locks.release, Table.find_filter, holds, Option.filter_some, if_pos (by simpa using apart)]

end Locks
end LetterIRL.Lib
