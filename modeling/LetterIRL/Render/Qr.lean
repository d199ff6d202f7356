import LetterIRL.Lib.Loops
import LetterIRL.Lib.Runs

namespace LetterIRL.Render

open Lib

/-! A QR symbol drawn as one rectangle for each run of dark modules in a row. -/

def QUIET_ZONE_MODULES : Nat := 4

/-- A QR symbol's dark modules, without the quiet zone. -/
structure QrMatrix where
  count : Nat
  isDark : Nat → Nat → Bool

/-- A horizontal run of dark modules, in module units with the quiet zone added. -/
structure QrRun where
  x : Nat
  y : Nat
  width : Nat
  deriving DecidableEq

/-- A row as it is scanned: the next column, and the runs pushed so far. -/
structure RowScan where
  col : Nat
  runs : List QrRun

namespace QrMatrix

/-- The inner loop: the first column from here on that is not dark, or the end of the row. -/
def runEnd (matrix : QrMatrix) (row col : Nat) : Nat :=
  whileLoop (fun col => !(decide (col < matrix.count) && matrix.isDark row col)) (· + 1) (matrix.count + 1) col

def scanTurn (matrix : QrMatrix) (row : Nat) (scan : RowScan) : RowScan :=
  if matrix.isDark row scan.col then
    let start := scan.col
    let col := matrix.runEnd row start
    { col, runs := scan.runs ++ [{ x := start + QUIET_ZONE_MODULES, y := row + QUIET_ZONE_MODULES, width := col - start }] }
  else { scan with col := scan.col + 1 }

def scanRow (matrix : QrMatrix) (runs : List QrRun) (row : Nat) : List QrRun :=
  (whileLoop (fun scan => decide (matrix.count ≤ scan.col)) (matrix.scanTurn row) (matrix.count + 1)
    { col := 0, runs }).runs

/-- A dark module of the symbol. -/
def Dark (matrix : QrMatrix) (row col : Nat) : Prop :=
  row < matrix.count ∧ col < matrix.count ∧ matrix.isDark row col = true

end QrMatrix

/-- The dark modules as one rectangle for each horizontal run. -/
def qrRuns (matrix : QrMatrix) : List QrRun := (List.range matrix.count).foldl matrix.scanRow []

namespace QrRun

/-- The module of a row and a column of the symbol is one of the run's. -/
def Holds (run : QrRun) (row col : Nat) : Prop :=
  run.y = row + QUIET_ZONE_MODULES ∧ run.x ≤ col + QUIET_ZONE_MODULES ∧ col + QUIET_ZONE_MODULES < run.x + run.width

/-- Within the symbol, which the quiet zone shifts. -/
def InSymbol (matrix : QrMatrix) (run : QrRun) : Prop :=
  0 < run.width ∧ QUIET_ZONE_MODULES ≤ run.x ∧ run.x + run.width ≤ matrix.count + QUIET_ZONE_MODULES ∧
    QUIET_ZONE_MODULES ≤ run.y ∧ run.y < matrix.count + QUIET_ZONE_MODULES

/-- In one row, a module at least stands between the two. -/
def Apart (before after : QrRun) : Prop := before.y = after.y → before.x + before.width < after.x

/-- A run over the columns from `start` to `stop` of a row, as long as it can be. -/
structure Spans (matrix : QrMatrix) (run : QrRun) (row start stop : Nat) : Prop where
  y : run.y = row + QUIET_ZONE_MODULES
  x : run.x = start + QUIET_ZONE_MODULES
  right : run.x + run.width = stop + QUIET_ZONE_MODULES
  some_ : start < stop
  inRow : row < matrix.count
  within : stop ≤ matrix.count
  dark : ∀ col, start ≤ col → col < stop → matrix.isDark row col = true
  ended : stop < matrix.count → matrix.isDark row stop = false

end QrRun

variable {matrix : QrMatrix} {row col : Nat} {runs : List QrRun} {run : QrRun}

theorem runEnd_spec (inside : col < matrix.count) (dark : matrix.isDark row col = true) :
    col < matrix.runEnd row col ∧ matrix.runEnd row col ≤ matrix.count ∧
      (∀ other, col ≤ other → other < matrix.runEnd row col → matrix.isDark row other = true) ∧
      (matrix.runEnd row col < matrix.count → matrix.isDark row (matrix.runEnd row col) = false) := by
  let done (at_ : Nat) : Bool := !(decide (at_ < matrix.count) && matrix.isDark row at_)
  have going {at_ : Nat} (more : done at_ = false) : at_ < matrix.count ∧ matrix.isDark row at_ = true := by
    simpa [done] using more
  have kept : ∀ at_, done at_ = false →
      (col ≤ at_ ∧ at_ ≤ matrix.count ∧ ∀ other, col ≤ other → other < at_ → matrix.isDark row other = true) →
      col ≤ at_ + 1 ∧ at_ + 1 ≤ matrix.count ∧ ∀ other, col ≤ other → other < at_ + 1 → matrix.isDark row other = true := by
    intro at_ more before
    obtain ⟨less, darkHere⟩ := going more
    refine ⟨by omega, less, fun other after inRun => ?_⟩
    by_cases last : other = at_
    · rw [last]
      exact darkHere
    · exact before.2.2 other after (by omega)
  have first : col ≤ col ∧ col ≤ matrix.count ∧ ∀ other, col ≤ other → other < col → matrix.isDark row other = true :=
    ⟨le_rfl, inside.le, fun other after before => absurd before (by omega)⟩
  let I (at_ : Nat) : Prop :=
    col ≤ at_ ∧ at_ ≤ matrix.count ∧ ∀ other, col ≤ other → other < at_ → matrix.isDark row other = true
  have reached : I (matrix.runEnd row col) := whileLoop_invariant first kept
  obtain ⟨above, within, all⟩ := reached
  have ended : done (matrix.runEnd row col) = true :=
    whileLoop_ends (I := I) (fun at_ => matrix.count - at_) first kept
      (fun at_ more _ => by have := (going more).1; omega) (by omega)
  have stopped : matrix.runEnd row col < matrix.count → matrix.isDark row (matrix.runEnd row col) = false := by
    intro less
    simpa [done, less] using ended
  refine ⟨?_, within, all, stopped⟩
  have apart : matrix.runEnd row col ≠ col := by
    intro same
    have light := stopped (by omega)
    rw [same, dark] at light
    cases light
  exact lt_of_le_of_ne above apart.symm

/-- The runs pushed when the scan has come to a column of a row. -/
structure Scanned (matrix : QrMatrix) (row col : Nat) (runs : List QrRun) : Prop where
  within : col ≤ matrix.count
  spans : ∀ run ∈ runs, ∃ at_ start stop, run.Spans matrix at_ start stop ∧ (at_ < row ∨ at_ = row ∧ stop ≤ col)
  covered : ∀ at_ other, matrix.Dark at_ other → (at_ < row ∨ at_ = row ∧ other < col) → ∃ run ∈ runs, run.Holds at_ other
  apart : runs.Pairwise QrRun.Apart

theorem Scanned.skip (scanned : Scanned matrix row col runs) (inside : col < matrix.count)
    (light : matrix.isDark row col = false) : Scanned matrix row (col + 1) runs where
  within := inside
  spans := fun run member => by
    obtain ⟨at_, start, stop, spans, passed⟩ := scanned.spans run member
    exact ⟨at_, start, stop, spans, by omega⟩
  covered := fun at_ other dark passed => by
    by_cases here : at_ = row ∧ other = col
    · obtain ⟨rfl, rfl⟩ := here
      have darkHere := dark.2.2
      rw [light] at darkHere
      cases darkHere
    · exact scanned.covered at_ other dark (by omega)
  apart := scanned.apart

theorem Scanned.push (scanned : Scanned matrix row col runs) (inRow : row < matrix.count) (inside : col < matrix.count)
    (dark : matrix.isDark row col = true) : Scanned matrix row (matrix.runEnd row col) (runs ++ [{
      x := col + QUIET_ZONE_MODULES, y := row + QUIET_ZONE_MODULES, width := matrix.runEnd row col - col }]) := by
  obtain ⟨more, within, all, ended⟩ := runEnd_spec inside dark
  have right : col + QUIET_ZONE_MODULES + (matrix.runEnd row col - col) = matrix.runEnd row col + QUIET_ZONE_MODULES := by
    omega
  have new : QrRun.Spans matrix { x := col + QUIET_ZONE_MODULES, y := row + QUIET_ZONE_MODULES, width := matrix.runEnd row col - col }
      row col (matrix.runEnd row col) :=
    { y := rfl, x := rfl, right, some_ := more, inRow, within, dark := all, ended }
  refine ⟨within, fun run member => ?_, fun at_ other darkThere passed => ?_, ?_⟩
  · rcases List.mem_append.mp member with old | pushed
    · obtain ⟨at_, start, stop, spans, before⟩ := scanned.spans run old
      exact ⟨at_, start, stop, spans, by omega⟩
    · rw [List.mem_singleton.mp pushed]
      exact ⟨row, col, _, new, .inr ⟨rfl, le_rfl⟩⟩
  · by_cases here : at_ = row ∧ col ≤ other
    · obtain ⟨rfl, after⟩ := here
      refine ⟨_, List.mem_append_right _ (List.mem_singleton.mpr rfl), rfl, ?_, ?_⟩
      · show col + _ ≤ other + _
        omega
      · have right := new.right
        omega
    · obtain ⟨run, member, holds⟩ := scanned.covered at_ other darkThere (by omega)
      exact ⟨run, List.mem_append_left _ member, holds⟩
  · refine List.pairwise_append.mpr ⟨scanned.apart, List.pairwise_singleton _ _, fun before old after pushed same => ?_⟩
    rw [List.mem_singleton.mp pushed] at same ⊢
    obtain ⟨at_, start, stop, spans, passed⟩ := scanned.spans before old
    have sameRow : before.y = row + QUIET_ZONE_MODULES := same
    have y := spans.y
    have right := spans.right
    have atRow : at_ = row := by omega
    subst atRow
    -- The run before ends at a light module, so not at this dark one.
    have other : stop ≠ col := by
      rintro rfl
      have light := spans.ended inside
      rw [dark] at light
      cases light
    show before.x + before.width < col + QUIET_ZONE_MODULES
    omega

theorem Scanned.nextRow (scanned : Scanned matrix row 0 runs) (inRow : row < matrix.count) :
    Scanned matrix (row + 1) 0 (matrix.scanRow runs row) := by
  let done (scan : RowScan) : Bool := decide (matrix.count ≤ scan.col)
  have going {scan : RowScan} (more : done scan = false) : scan.col < matrix.count := by
    simpa [done] using more
  have kept : ∀ scan : RowScan, done scan = false → Scanned matrix row scan.col scan.runs →
      Scanned matrix row (matrix.scanTurn row scan).col (matrix.scanTurn row scan).runs := by
    intro scan more before
    unfold QrMatrix.scanTurn
    split
    · rename_i dark
      exact before.push inRow (going more) dark
    · rename_i light
      exact before.skip (going more) (by simpa using light)
  have onward : ∀ scan : RowScan, done scan = false → Scanned matrix row scan.col scan.runs →
      matrix.count - (matrix.scanTurn row scan).col < matrix.count - scan.col := by
    intro scan more before
    have inside := going more
    unfold QrMatrix.scanTurn
    split
    · rename_i dark
      have far := (runEnd_spec inside dark).1
      show matrix.count - matrix.runEnd row scan.col < _
      omega
    · show matrix.count - (scan.col + 1) < _
      omega
  let I (scan : RowScan) : Prop := Scanned matrix row scan.col scan.runs
  have first : I { col := 0, runs } := scanned
  let last := whileLoop done (matrix.scanTurn row) (matrix.count + 1) { col := 0, runs }
  have all : I last := whileLoop_invariant first kept
  have ended : done last = true := whileLoop_ends (I := I) (fun scan => matrix.count - scan.col) first kept onward
    (Nat.lt_succ_of_le (Nat.sub_le _ _))
  have past := of_decide_eq_true ended
  refine ⟨Nat.zero_le _, fun run member => ?_, fun at_ other dark passed => ?_, all.apart⟩
  · obtain ⟨at_, start, stop, spans, before⟩ := all.spans run member
    exact ⟨at_, start, stop, spans, by omega⟩
  · have inside := dark.2.1
    exact all.covered at_ other dark (by omega)

theorem qrRuns_scanned (matrix : QrMatrix) : Scanned matrix matrix.count 0 (qrRuns matrix) := by
  have rows : ∀ count ≤ matrix.count, Scanned matrix count 0 ((List.range count).foldl matrix.scanRow []) := by
    intro count
    induction count with
    | zero =>
      intro _
      exact ⟨Nat.zero_le _, fun _ member => (nomatch member), fun _ _ _ passed => absurd passed (by omega), .nil⟩
    | succ count ih =>
      intro within
      rw [List.range_succ, List.foldl_append]
      exact (ih (by omega)).nextRow within
  exact rows matrix.count le_rfl

theorem QrRun.Spans.holds {at_ start stop : Nat} (spans : run.Spans matrix at_ start stop) :
    run.Holds row col ↔ row = at_ ∧ start ≤ col ∧ col < stop := by
  have y := spans.y
  have x := spans.x
  have right := spans.right
  unfold QrRun.Holds
  omega

theorem qrRuns_inSymbol (member : run ∈ qrRuns matrix) : run.InSymbol matrix := by
  obtain ⟨at_, start, stop, spans, _⟩ := (qrRuns_scanned matrix).spans run member
  have y := spans.y
  have x := spans.x
  have right := spans.right
  have some_ := spans.some_
  have inRow := spans.inRow
  have within := spans.within
  refine ⟨?_, ?_, ?_, ?_, ?_⟩ <;> omega

/-- Every dark module is in a run, and no light one. -/
theorem qrRuns_holds (row col : Nat) : (∃ run ∈ qrRuns matrix, run.Holds row col) ↔ matrix.Dark row col := by
  constructor
  · rintro ⟨run, member, holds⟩
    obtain ⟨at_, start, stop, spans, _⟩ := (qrRuns_scanned matrix).spans run member
    obtain ⟨rfl, after, before⟩ := spans.holds.mp holds
    exact ⟨spans.inRow, lt_of_lt_of_le before spans.within, spans.dark col after before⟩
  · intro dark
    exact (qrRuns_scanned matrix).covered row col dark (.inl dark.1)

/-- A run goes on for as long as its row stays dark. -/
theorem qrRuns_next (member : run ∈ qrRuns matrix) (holds : run.Holds row col) (dark : matrix.Dark row (col + 1)) :
    run.Holds row (col + 1) := by
  obtain ⟨at_, start, stop, spans, _⟩ := (qrRuns_scanned matrix).spans run member
  obtain ⟨rfl, after, before⟩ := spans.holds.mp holds
  refine spans.holds.mpr ⟨rfl, by omega, ?_⟩
  by_contra past
  have last : stop = col + 1 := by omega
  have light := spans.ended (by have inside := dark.2.1; omega)
  rw [last, dark.2.2] at light
  cases light

end LetterIRL.Render
