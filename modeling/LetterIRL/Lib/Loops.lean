import Mathlib.Tactic

namespace LetterIRL.Lib

/-! Loops as functions: `while`, and the two binary searches of a half-open and a closed range. -/

/-- `while (!done) body`, for at most so many turns. -/
def whileLoop {σ : Type} (done : σ → Bool) (body : σ → σ) : Nat → σ → σ
  | 0, s => s
  | fuel + 1, s => if done s then s else whileLoop done body fuel (body s)

section While
variable {σ : Type} {done : σ → Bool} {body : σ → σ} {I : σ → Prop} {fuel : Nat} {s : σ}

theorem whileLoop_invariant (start : I s) (kept : ∀ s, done s = false → I s → I (body s)) :
    I (whileLoop done body fuel s) := by
  induction fuel generalizing s with
  | zero => exact start
  | succ fuel ih =>
    unfold whileLoop
    split
    · exact start
    · rename_i going
      exact ih (kept s (by simpa using going) start)

/-- A loop whose measure falls at every turn ends within as many turns. -/
theorem whileLoop_ends (measure : σ → Nat) (start : I s) (kept : ∀ s, done s = false → I s → I (body s))
    (falls : ∀ s, done s = false → I s → measure (body s) < measure s) (enough : measure s < fuel) :
    done (whileLoop done body fuel s) = true := by
  induction fuel generalizing s with
  | zero => omega
  | succ fuel ih =>
    unfold whileLoop
    split
    · assumption
    · rename_i going
      have going : done s = false := by simpa using going
      have less := falls s going start
      exact ih (kept s going start) (by omega)

theorem whileLoop_stop (stopped : done s = true) : whileLoop done body fuel s = s := by
  cases fuel with
  | zero => rfl
  | succ fuel =>
    unfold whileLoop
    rw [if_pos stopped]

theorem whileLoop_turn (going : done s = false) :
    whileLoop done body (fuel + 1) s = whileLoop done body fuel (body s) := by
  rw [whileLoop, if_neg (by simp [going])]

/-- Fuel past the end of the loop changes nothing. -/
theorem whileLoop_enough {more : Nat} (ended : done (whileLoop done body fuel s) = true) (least : fuel ≤ more) :
    whileLoop done body more s = whileLoop done body fuel s := by
  induction fuel generalizing s more with
  | zero => exact whileLoop_stop ended
  | succ fuel ih =>
    obtain ⟨rest, rfl⟩ : ∃ rest, more = rest + 1 := ⟨more - 1, by omega⟩
    by_cases stopped : done s = true
    · rw [whileLoop_stop stopped, whileLoop_stop stopped]
    · have going : done s = false := by simpa using stopped
      rw [whileLoop_turn going] at ended ⊢
      rw [whileLoop_turn going]
      exact ih ended (by omega)

/-- Two loops in step, by a relation their turns keep. -/
theorem whileLoop_simulates {τ : Type} {done' : τ → Bool} {body' : τ → τ} {R : σ → τ → Prop} {t : τ} (start : R s t)
    (agree : ∀ s t, R s t → done s = done' t) (kept : ∀ s t, done s = false → R s t → R (body s) (body' t)) :
    R (whileLoop done body fuel s) (whileLoop done' body' fuel t) := by
  induction fuel generalizing s t with
  | zero => exact start
  | succ fuel ih =>
    unfold whileLoop
    rw [← agree s t start]
    split
    · exact start
    · rename_i going
      exact ih (kept s t (by simpa using going) start)

end While

/-- The first index of `[first, past)` past the last one found `ok`, by halving. -/
def searchFirst (ok : Nat → Bool) : Nat → Nat → Nat → Nat
  | 0, first, _ => first
  | fuel + 1, first, past =>
    if first < past then
      let middle := (first + past) / 2
      if ok middle then searchFirst ok fuel (middle + 1) past else searchFirst ok fuel first middle
    else first

/-- The last index of `[low, high]` found `ok`, or `best`, by halving. -/
def searchLast (ok : Nat → Bool) : Nat → Nat → Nat → Nat → Nat
  | 0, _, _, best => best
  | fuel + 1, low, high, best =>
    if low ≤ high then
      let middle := (low + high) / 2
      if ok middle then searchLast ok fuel (middle + 1) high middle else searchLast ok fuel low (middle - 1) best
    else best

variable {ok : Nat → Bool} {fuel first past low high best : Nat}

/-- Where the search ends: the index before was found, and the one there was not, if they are in range. -/
theorem searchFirst_spec (ok : Nat → Bool) (ordered : first ≤ past) (enough : past - first ≤ fuel) :
    first ≤ searchFirst ok fuel first past ∧ searchFirst ok fuel first past ≤ past ∧
      (searchFirst ok fuel first past = first ∨ ok (searchFirst ok fuel first past - 1) = true) ∧
      (searchFirst ok fuel first past = past ∨ ok (searchFirst ok fuel first past) = false) := by
  induction fuel generalizing first past with
  | zero =>
    have same : first = past := by omega
    exact ⟨le_rfl, ordered, .inl rfl, .inl same⟩
  | succ fuel ih =>
    unfold searchFirst
    split
    · rename_i open_
      by_cases found : ok ((first + past) / 2) = true
      · obtain ⟨above, below, before, after⟩ := ih (by omega : (first + past) / 2 + 1 ≤ past) (by omega)
        simp only [found, if_true]
        refine ⟨by omega, below, .inr ?_, after⟩
        rcases before with same | before
        · rw [same]
          exact found
        · exact before
      · obtain ⟨above, below, before, after⟩ := ih (by omega : first ≤ (first + past) / 2) (by omega)
        simp only [found, if_false, Bool.false_eq_true]
        refine ⟨above, by omega, before, .inr ?_⟩
        rcases after with same | after
        · rw [same]
          simpa using found
        · exact after
    · exact ⟨le_rfl, ordered, .inl rfl, .inl (by omega)⟩

/-- Where what is found is found from the start on, the search ends at the first index not found. -/
theorem searchFirst_found (ok : Nat → Bool) (ordered : first ≤ past) (enough : past - first ≤ fuel)
    (closed : ∀ i j, first ≤ i → i < j → j < past → ok j = true → ok i = true) {i : Nat} (above : first ≤ i)
    (below : i < searchFirst ok fuel first past) : ok i = true := by
  obtain ⟨-, atMost, before, -⟩ := searchFirst_spec ok ordered enough
  rcases before with same | found
  · omega
  · by_cases last : i = searchFirst ok fuel first past - 1
    · rw [last]
      exact found
    · exact closed i _ above (by omega) (by omega) found

theorem searchLast_spec (ok : Nat → Bool) (fuel low high best : Nat) : searchLast ok fuel low high best = best ∨
    low ≤ searchLast ok fuel low high best ∧ searchLast ok fuel low high best ≤ high ∧
      ok (searchLast ok fuel low high best) = true := by
  induction fuel generalizing low high best with
  | zero => exact .inl rfl
  | succ fuel ih =>
    unfold searchLast
    split
    · rename_i open_
      by_cases found : ok ((low + high) / 2) = true
      · simp only [found, if_true]
        refine .inr ?_
        rcases ih ((low + high) / 2 + 1) high ((low + high) / 2) with same | ⟨above, below, last⟩
        · rw [same]
          exact ⟨by omega, by omega, found⟩
        · exact ⟨by omega, below, last⟩
      · simp only [found, if_false, Bool.false_eq_true]
        rcases ih low ((low + high) / 2 - 1) best with same | ⟨above, below, last⟩
        · exact .inl same
        · exact .inr ⟨above, by omega, last⟩
    · exact .inl rfl

theorem takeWhile_stops {α : Type} {p : α → Bool} {list : List α} (within : (list.takeWhile p).length < list.length) :
    p list[(list.takeWhile p).length] = false := by
  induction list with
  | nil => simp at within
  | cons first rest ih =>
    by_cases taken : p first = true
    · simp only [List.takeWhile_cons, taken, if_true, List.length_cons] at within ⊢
      exact ih (by omega)
    · simp only [List.takeWhile_cons, taken, if_false, List.length_nil, Bool.false_eq_true] at within ⊢
      simpa using taken

/-- The first of the first numbers that fails a test, or how many there are. -/
theorem takeWhile_range (p : Nat → Bool) (count : Nat) : ((List.range count).takeWhile p).length ≤ count ∧
    (∀ i < ((List.range count).takeWhile p).length, p i = true) ∧
      (((List.range count).takeWhile p).length < count → p ((List.range count).takeWhile p).length = false) := by
  have atMost : ((List.range count).takeWhile p).length ≤ count := by
    have least := (List.takeWhile_sublist p (l := List.range count)).length_le
    rwa [List.length_range] at least
  refine ⟨atMost, fun i taken => ?_, fun less => ?_⟩
  · have here : ((List.range count).takeWhile p)[i] = i := by
      rw [(List.takeWhile_prefix p (l := List.range count)).getElem taken, List.getElem_range]
    have passes := List.all_eq_true.mp (List.all_takeWhile (l := List.range count) (p := p)) _ (List.getElem_mem taken)
    rwa [here] at passes
  · have stops := takeWhile_stops (p := p) (show ((List.range count).takeWhile p).length < (List.range count).length by
      rwa [List.length_range])
    rwa [List.getElem_range] at stops

/-- As many from the start as are `ok`: what a scan counts. -/
theorem takeWhile_length_of {α : Type} {p : α → Bool} {list : List α} {n : Nat} (within : n ≤ list.length)
    (before : ∀ i (inList : i < list.length), i < n → p list[i] = true)
    (after : ∀ inList : n < list.length, p list[n] = false) : (list.takeWhile p).length = n := by
  induction list generalizing n with
  | nil =>
    simp only [List.length_nil, Nat.le_zero] at within
    simp [within]
  | cons head rest ih =>
    cases n with
    | zero =>
      have none := after (by simp)
      simp only [List.getElem_cons_zero] at none
      simp [none]
    | succ n =>
      have hit := before 0 (by simp) (by omega)
      simp only [List.getElem_cons_zero] at hit
      rw [List.takeWhile_cons, hit]
      have rest' := ih (n := n) (by simpa using within)
        (fun i inRest below => before (i + 1) (Nat.succ_lt_succ inRest) (Nat.succ_lt_succ below))
        (fun inRest => after (Nat.succ_lt_succ inRest))
      simp [rest']

end LetterIRL.Lib
