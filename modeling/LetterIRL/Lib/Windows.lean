import Mathlib.Data.Finset.Lattice.Prod
import Mathlib.Data.Fintype.Basic
import Mathlib.Order.GaloisConnection.Defs
import Mathlib.Order.Interval.Finset.Nat
import Mathlib.Tactic

namespace LetterIRL.Lib.Windows

/-! A pick over a window at every place of a line, three picks a place: runs forward and backward over blocks as long
as the window. -/

section
variable {α : Type} (pick : α → α → α) (size padded : Nat) (value : Nat → α)

/-- The pick of a value and of `count` after it. -/
def forwardRun (start : Nat) : Nat → α
  | 0 => value start
  | count + 1 => pick (forwardRun start count) (value (start + (count + 1)))

/-- The pick of a value and of `count` before it. -/
def backwardRun (last : Nat) : Nat → α
  | 0 => value last
  | count + 1 => pick (backwardRun last count) (value (last - (count + 1)))

/-- From the start of its block to a place. -/
def forward (place : Nat) : α := forwardRun pick value (place - place % size) (place % size)

/-- From a place to the end of its block, or of the line. -/
def backward (place : Nat) : α :=
  let last := min (place - place % size + size) padded - 1
  backwardRun pick value last (last - place)

/-- The window that starts at a place. -/
def windowed (place : Nat) : α :=
  let last := place + size - 1
  if last < padded then pick (backward pick size padded value place) (forward pick size value last)
  else backward pick size padded value place

end

section
variable {α : Type} [SemilatticeSup α] [OrderBot α] {value : Nat → α} {start last count size padded place : Nat}

theorem forwardRun_sup : forwardRun (· ⊔ ·) value start count = (Finset.Icc start (start + count)).sup value := by
  induction count with
  | zero => simp [forwardRun]
  | succ count ih =>
    have split : Finset.Icc start (start + (count + 1)) = insert (start + (count + 1)) (Finset.Icc start (start + count)) := by
      ext place
      simp only [Finset.mem_Icc, Finset.mem_insert]
      omega
    rw [forwardRun, ih, split, Finset.sup_insert, sup_comm]

theorem backwardRun_sup (within : count ≤ last) :
    backwardRun (· ⊔ ·) value last count = (Finset.Icc (last - count) last).sup value := by
  induction count with
  | zero => simp [backwardRun]
  | succ count ih =>
    have split : Finset.Icc (last - (count + 1)) last = insert (last - (count + 1)) (Finset.Icc (last - count) last) := by
      ext place
      simp only [Finset.mem_Icc, Finset.mem_insert]
      omega
    rw [backwardRun, ih (by omega), split, Finset.sup_insert, sup_comm]

/-- The two runs that meet in a window cover it, at most one block apart. -/
theorem windowed_sup (some_ : 0 < size) (inside : place + size ≤ padded) :
    windowed (· ⊔ ·) size padded value place = (Finset.Icc place (place + size - 1)).sup value := by
  have parts := Nat.div_add_mod place size
  have less := Nat.mod_lt place some_
  have stop : min (place - place % size + size) padded = place - place % size + size := by omega
  have back : backward (· ⊔ ·) size padded value place =
      (Finset.Icc place (place - place % size + size - 1)).sup value := by
    unfold backward
    simp only [stop]
    rw [backwardRun_sup (Nat.sub_le _ _)]
    congr 2
    omega
  unfold windowed
  simp only
  rw [if_pos (by omega), back]
  unfold forward
  rw [forwardRun_sup]
  by_cases first : place % size = 0
  · -- The window is a block.
    have rest : (place + size - 1) % size = size - 1 := by
      rw [show place + size - 1 = size * (place / size) + (size - 1) by omega, Nat.mul_add_mod]
      exact Nat.mod_eq_of_lt (by omega)
    rw [rest, ← Finset.sup_union]
    congr 1
    ext i
    simp only [Finset.mem_union, Finset.mem_Icc]
    omega
  · have rest : (place + size - 1) % size = place % size - 1 := by
      rw [show place + size - 1 = size * (place / size) + size * 1 + (place % size - 1) by omega, ← Nat.mul_add,
        Nat.mul_add_mod]
      exact Nat.mod_eq_of_lt (by omega)
    rw [rest, ← Finset.sup_union]
    congr 1
    ext i
    simp only [Finset.mem_union, Finset.mem_Icc]
    omega

end

/-! The largest and the smallest value near a place, and the closing of the two. -/

section
variable {ι : Type} [Fintype ι] {α : Type} [Lattice α] [BoundedOrder α]

def dilate (near : ι → ι → Prop) [DecidableRel near] (f : ι → α) (i : ι) : α := (Finset.univ.filter (near i)).sup f

def erode (near : ι → ι → Prop) [DecidableRel near] (f : ι → α) (i : ι) : α := (Finset.univ.filter (near i)).inf f

variable {near other : ι → ι → Prop} [DecidableRel near] [DecidableRel other]

theorem dilate_mono : Monotone (dilate near : (ι → α) → ι → α) := fun _ _ le _ =>
  Finset.sup_mono_fun fun j _ => le j

theorem erode_mono : Monotone (erode near : (ι → α) → ι → α) := fun _ _ le _ =>
  Finset.inf_mono_fun fun j _ => le j

/-- Where nearness is symmetric, the two are adjoint. -/
theorem dilate_erode (symmetric : ∀ i j, near i j → near j i) :
    GaloisConnection (dilate near : (ι → α) → ι → α) (erode near) := by
  intro f g
  constructor
  · intro below i
    refine Finset.le_inf fun j member => ?_
    have back := symmetric i j (Finset.mem_filter.mp member).2
    exact (Finset.le_sup (f := f) (Finset.mem_filter.mpr ⟨Finset.mem_univ i, back⟩)).trans (below j)
  · intro below i
    refine Finset.sup_le fun j member => ?_
    have back := symmetric i j (Finset.mem_filter.mp member).2
    exact (below j).trans (Finset.inf_le (f := g) (Finset.mem_filter.mpr ⟨Finset.mem_univ i, back⟩))

theorem erode_le_erode (swap : ∀ i j k, other i j → near j k → ∃ m, near i m ∧ other m k) (f : ι → α) :
    erode near (erode other f) ≤ erode other (erode near f) := by
  intro i
  refine Finset.le_inf fun j first => Finset.le_inf fun k second => ?_
  obtain ⟨m, toward, back⟩ := swap i j k (Finset.mem_filter.mp first).2 (Finset.mem_filter.mp second).2
  exact (Finset.inf_le (Finset.mem_filter.mpr ⟨Finset.mem_univ m, toward⟩)).trans
    (Finset.inf_le (Finset.mem_filter.mpr ⟨Finset.mem_univ k, back⟩))

/-- Two kinds of nearness that may be taken in either order. -/
def Commutes (near other : ι → ι → Prop) : Prop :=
  ∀ i k, (∃ j, near i j ∧ other j k) ↔ ∃ j, other i j ∧ near j k

theorem erode_comm (commutes : Commutes near other) (f : ι → α) :
    erode near (erode other f) = erode other (erode near f) :=
  le_antisymm (erode_le_erode (fun i j k first second => (commutes i k).mpr ⟨j, first, second⟩) f)
    (erode_le_erode (fun i j k first second => (commutes i k).mp ⟨j, first, second⟩) f)

/-- Dilated one way and the other, then eroded in the same order. -/
def closing (near other : ι → ι → Prop) [DecidableRel near] [DecidableRel other] (f : ι → α) : ι → α :=
  erode other (erode near (dilate other (dilate near f)))

theorem closing_mono : Monotone (closing near other : (ι → α) → ι → α) := fun _ _ le =>
  erode_mono (erode_mono (dilate_mono (dilate_mono le)))

variable (symmetric : ∀ i j, near i j → near j i) (symmetric' : ∀ i j, other i j → other j i)
  (commutes : Commutes near other)
include symmetric symmetric' commutes

theorem closing_adjoint : GaloisConnection (fun f : ι → α => dilate other (dilate near f))
    fun f => erode other (erode near f) := by
  have both := (dilate_erode (α := α) symmetric).compose (dilate_erode symmetric')
  intro f g
  refine (both f g).trans ?_
  show f ≤ erode near (erode other g) ↔ f ≤ erode other (erode near g)
  rw [erode_comm commutes]

theorem le_closing (f : ι → α) : f ≤ closing near other f := (closing_adjoint symmetric symmetric' commutes).le_u_l f

theorem closing_closing (f : ι → α) : closing near other (closing near other f) = closing near other f := by
  have same := (closing_adjoint (α := α) symmetric symmetric' commutes).u_l_u_eq_u (dilate other (dilate near f))
  exact same

end

end LetterIRL.Lib.Windows
