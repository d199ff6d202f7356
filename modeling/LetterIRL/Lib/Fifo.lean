import LetterIRL.Lib.Rows

namespace LetterIRL.Lib
variable {α κ : Type}

/-- Take `needed` units off the rows in order, as much from each as it has,
and stop once nothing is needed: the rows touched, with what each gave. -/
def takeFifo (amount : α → Nat) : Nat → List α → List (α × Nat)
  | _, [] => []
  | needed, row :: rows =>
    if needed = 0 then []
    else (row, min needed (amount row)) :: takeFifo amount (needed - min needed (amount row)) rows

@[simp] theorem takeFifo_nil (amount : α → Nat) (needed : Nat) : takeFifo amount needed [] = [] := by
  simp [takeFifo]

theorem takeFifo_cons {amount : α → Nat} {needed : Nat} {row : α} {rows : List α}
    (some : needed ≠ 0) :
    takeFifo amount needed (row :: rows) =
      (row, min needed (amount row)) :: takeFifo amount (needed - min needed (amount row)) rows := by
  simp [takeFifo, some]

@[simp] theorem takeFifo_zero (amount : α → Nat) (rows : List α) : takeFifo amount 0 rows = [] := by
  cases rows <;> simp [takeFifo]

/-- What is taken is what was needed, or everything there was. -/
theorem takeFifo_total (amount : α → Nat) (needed : Nat) (rows : List α) :
    total Prod.snd (takeFifo amount needed rows) = min needed (total amount rows) := by
  induction rows generalizing needed with
  | nil => simp
  | cons row rows ih =>
    by_cases enough : needed = 0
    · simp [enough]
    · rw [takeFifo_cons enough, total_cons, ih, total_cons]
      omega

/-- The touched rows are a subsequence of the rows offered, so each is touched
once. -/
theorem takeFifo_sublist (amount : α → Nat) (needed : Nat) (rows : List α) :
    ((takeFifo amount needed rows).map Prod.fst).Sublist rows := by
  induction rows generalizing needed with
  | nil => simp
  | cons row rows ih =>
    by_cases enough : needed = 0
    · simp [enough]
    · rw [takeFifo_cons enough, List.map_cons]
      exact (ih _).cons_cons row

/-- They are the first of the rows offered. -/
theorem takeFifo_prefix (amount : α → Nat) (needed : Nat) (rows : List α) :
    (takeFifo amount needed rows).map Prod.fst <+: rows := by
  induction rows generalizing needed with
  | nil => simp
  | cons row rows ih =>
    by_cases enough : needed = 0
    · simp [enough]
    · rw [takeFifo_cons enough, List.map_cons]
      exact List.prefix_cons_inj row |>.mpr (ih _)

/-- Every row touched but the last gives all it has. -/
theorem takeFifo_drained {amount : α → Nat} {needed : Nat} {rows : List α} {take : α × Nat}
    (member : take ∈ (takeFifo amount needed rows).dropLast) : take.2 = amount take.1 := by
  induction rows generalizing needed with
  | nil => simp at member
  | cons row rows ih =>
    by_cases enough : needed = 0
    · simp [enough] at member
    rw [takeFifo_cons enough] at member
    by_cases last : takeFifo amount (needed - min needed (amount row)) rows = []
    · simp [last] at member
    · rw [List.dropLast_cons_of_ne_nil last, List.mem_cons] at member
      rcases member with rfl | later
      · -- Something is taken after this row, so this row did not cover what was needed.
        have short : needed - min needed (amount row) ≠ 0 := fun done => last (by rw [done, takeFifo_zero])
        show min needed (amount row) = amount row
        omega
      · exact ih later

theorem takeFifo_mem {amount : α → Nat} {needed : Nat} {rows : List α} {take : α × Nat}
    (member : take ∈ takeFifo amount needed rows) : take.1 ∈ rows :=
  (takeFifo_sublist amount needed rows).subset (List.mem_map_of_mem member)

theorem takeFifo_le {amount : α → Nat} {needed : Nat} {rows : List α} {take : α × Nat}
    (member : take ∈ takeFifo amount needed rows) : take.2 ≤ amount take.1 := by
  induction rows generalizing needed with
  | nil => simp at member
  | cons row rows ih =>
    by_cases enough : needed = 0
    · simp [enough] at member
    · rw [takeFifo_cons enough, List.mem_cons] at member
      rcases member with rfl | later
      · exact Nat.min_le_right _ _
      · exact ih later

/-- Where every row offered has something, every row touched gives something. -/
theorem takeFifo_pos {amount : α → Nat} {needed : Nat} {rows : List α} {take : α × Nat}
    (stocked : ∀ row ∈ rows, 0 < amount row) (member : take ∈ takeFifo amount needed rows) :
    0 < take.2 := by
  induction rows generalizing needed with
  | nil => simp at member
  | cons row rows ih =>
    by_cases enough : needed = 0
    · simp [enough] at member
    · rw [takeFifo_cons enough, List.mem_cons] at member
      have head := stocked row List.mem_cons_self
      rcases member with rfl | later
      · simp only
        omega
      · exact ih (fun r hr => stocked r (List.mem_cons_of_mem _ hr)) later

variable [DecidableEq κ]

/-- One `UPDATE … WHERE key = …` for each row taken from. -/
def applyTakes (key : α → κ) (change : Nat → α → α) (takes : List (α × Nat)) (rows : List α) :
    List α :=
  takes.foldl (fun rs take => updateWhere (fun r => key r == key take.1) (change take.2) rs) rows

theorem map_applyTakes {key : α → κ} {β : Type} (f : α → β) {change : Nat → α → α}
    (kept : ∀ n r, f (change n r) = f r) (takes : List (α × Nat)) (rows : List α) :
    (applyTakes key change takes rows).map f = rows.map f := by
  unfold applyTakes
  induction takes generalizing rows with
  | nil => rfl
  | cons take takes ih => rw [List.foldl_cons, ih, map_updateWhere _ (kept take.2)]

/-- The updates of distinct rows account for themselves exactly: a sum over the
table changes by what it changes on the rows taken from. -/
theorem total_applyTakes {key : α → κ} {change : Nat → α → α} (f : α → Nat)
    {takes : List (α × Nat)} {rows : List α} (unique : (rows.map key).Nodup)
    (kept : ∀ n r, key (change n r) = key r) (offered : ∀ take ∈ takes, take.1 ∈ rows)
    (once : (takes.map fun take => key take.1).Nodup) :
    total f (applyTakes key change takes rows) + total (fun take => f take.1) takes =
      total f rows + total (fun take => f (change take.2 take.1)) takes := by
  induction takes generalizing rows with
  | nil => rfl
  | cons take takes ih =>
    simp only [List.map_cons, List.nodup_cons] at once
    have here := offered take List.mem_cons_self
    have step := total_updateKey f (change take.2) unique here
    -- The other rows taken from are untouched by this update, so they are still there.
    have still : ∀ later ∈ takes,
        later.1 ∈ updateWhere (fun r => key r == key take.1) (change take.2) rows := by
      intro later inTakes
      refine mem_updateWhere.mpr (.inl ⟨offered later (List.mem_cons_of_mem _ inTakes), ?_⟩)
      have differ : key later.1 ≠ key take.1 := by
        intro same
        exact once.1 (same ▸ List.mem_map_of_mem inTakes)
      simpa using differ
    have rest := ih (by rwa [map_updateWhere _ (kept take.2)]) still once.2
    simp only [applyTakes, List.foldl_cons, total_cons] at rest ⊢
    omega

/-- A row the updates did not name is still in the table, unchanged. -/
theorem mem_applyTakes_of_not_taken {key : α → κ} {change : Nat → α → α} {takes : List (α × Nat)}
    {rows : List α} {row : α} (member : row ∈ rows) (spared : ∀ take ∈ takes, key take.1 ≠ key row) :
    row ∈ applyTakes key change takes rows := by
  unfold applyTakes
  induction takes generalizing rows with
  | nil => exact member
  | cons take takes ih =>
    rw [List.foldl_cons]
    apply ih
    · refine mem_updateWhere.mpr (.inl ⟨member, ?_⟩)
      simpa using (spared take List.mem_cons_self).symm
    · exact fun later inTakes => spared later (List.mem_cons_of_mem _ inTakes)

/-- A row taken from, once, is in the table as its update left it. -/
theorem mem_applyTakes_of_taken {key : α → κ} {change : Nat → α → α} {takes : List (α × Nat)}
    {rows : List α} (kept : ∀ n r, key (change n r) = key r) (offered : ∀ take ∈ takes, take.1 ∈ rows)
    (once : (takes.map fun take => key take.1).Nodup) {take : α × Nat} (member : take ∈ takes) :
    change take.2 take.1 ∈ applyTakes key change takes rows := by
  induction takes generalizing rows with
  | nil => cases member
  | cons first takes ih =>
    simp only [List.map_cons, List.nodup_cons] at once
    have apart : ∀ later ∈ takes, key first.1 ≠ key later.1 := fun later inTakes same =>
      once.1 (same ▸ List.mem_map_of_mem inTakes)
    simp only [applyTakes, List.foldl_cons] at ih ⊢
    rcases List.mem_cons.mp member with rfl | later
    · have written : change take.2 take.1 ∈
          updateWhere (fun r => key r == key take.1) (change take.2) rows :=
        mem_updateWhere.mpr (.inr ⟨take.1, offered take List.mem_cons_self, by simp, rfl⟩)
      exact mem_applyTakes_of_not_taken written fun other inTakes same =>
        apart other inTakes ((kept _ _).symm.trans same.symm)
    · refine ih (fun other inTakes => ?_) once.2 later
      refine mem_updateWhere.mpr (.inl ⟨offered other (List.mem_cons_of_mem _ inTakes), ?_⟩)
      simpa using (apart other inTakes).symm

/-- Every row after the updates is an old row or what an update made of one. -/
theorem applyTakes_forall {key : α → κ} {change : Nat → α → α} {P : α → Prop}
    {takes : List (α × Nat)} {rows : List α} (all : ∀ row ∈ rows, P row)
    (kept : ∀ take ∈ takes, ∀ row, key row = key take.1 → P row → P (change take.2 row)) :
    ∀ row ∈ applyTakes key change takes rows, P row := by
  unfold applyTakes
  induction takes generalizing rows with
  | nil => exact all
  | cons take takes ih =>
    rw [List.foldl_cons]
    apply ih
    · intro row member
      rcases mem_updateWhere.mp member with ⟨old, -⟩ | ⟨old, before, hit, rfl⟩
      · exact all row old
      · exact kept take List.mem_cons_self old (by simpa using hit) (all old before)
    · exact fun later inTakes => kept later (List.mem_cons_of_mem _ inTakes)

end LetterIRL.Lib
