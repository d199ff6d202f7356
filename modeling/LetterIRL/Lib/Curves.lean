import Mathlib.Tactic

namespace LetterIRL.Lib

/-! Lines and Bézier curves in the plane over a field, as functions of their parameter. -/

/-- A curve by the points that control it, from its first to its last. -/
inductive Curve (K : Type*)
  | line (first last : K × K)
  | quadratic (first control last : K × K)
  | cubic (first control control' last : K × K)
  deriving DecidableEq

namespace Curve

section Points
variable {K : Type*} [Field K]

/-- The point at a parameter. -/
def pointAt (t : K) : Curve K → K × K
  | line p q => (1 - t) • p + t • q
  | quadratic p c q => (1 - t) ^ 2 • p + (2 * (1 - t) * t) • c + t ^ 2 • q
  | cubic p c c' q => (1 - t) ^ 3 • p + (3 * (1 - t) ^ 2 * t) • c + (3 * (1 - t) * t ^ 2) • c' + t ^ 3 • q

/-- Two thirds of the way from one number to another. -/
def twoThirds (start finish : K) : K := start + 2 / 3 * (finish - start)

def toward (p c : K × K) : K × K := (twoThirds p.1 c.1, twoThirds p.2 c.2)

/-- The cubic controlled from two thirds of the way to a quadratic's control point is that quadratic. -/
theorem pointAt_elevated (three : (3 : K) ≠ 0) (p c q : K × K) (t : K) :
    (cubic p (toward p c) (toward q c) q).pointAt t = (quadratic p c q).pointAt t := by
  ext <;> simp only [pointAt, toward, twoThirds, Prod.fst_add, Prod.snd_add, Prod.smul_fst, Prod.smul_snd, smul_eq_mul] <;>
    field_simp <;> ring

end Points

/-- A curve with its coordinates taken elsewhere. -/
def map {K L : Type*} (f : K → L) : Curve K → Curve L
  | line p q => line (Prod.map f f p) (Prod.map f f q)
  | quadratic p c q => quadratic (Prod.map f f p) (Prod.map f f c) (Prod.map f f q)
  | cubic p c c' q => cubic (Prod.map f f p) (Prod.map f f c) (Prod.map f f c') (Prod.map f f q)

/-- The same point at every real parameter. -/
def Same (one two : Curve ℚ) : Prop := ∀ t : ℝ, (one.map (Rat.cast : ℚ → ℝ)).pointAt t = (two.map (Rat.cast : ℚ → ℝ)).pointAt t

theorem Same.refl (curve : Curve ℚ) : curve.Same curve := fun _ => rfl

theorem elevated_same (p c q : ℚ × ℚ) : (quadratic p c q).Same (cubic p (toward p c) (toward q c) q) := by
  intro t
  have cast (start finish : ℚ) : ((twoThirds start finish : ℚ) : ℝ) = twoThirds (start : ℝ) (finish : ℝ) := by
    unfold twoThirds
    push_cast
    rfl
  have controls (start finish : ℚ × ℚ) : Prod.map (Rat.cast : ℚ → ℝ) Rat.cast (toward start finish) =
      toward (Prod.map Rat.cast Rat.cast start) (Prod.map Rat.cast Rat.cast finish) :=
    Prod.ext (cast _ _) (cast _ _)
  simp only [map, controls]
  exact (pointAt_elevated three_ne_zero _ _ _ t).symm

end Curve

end LetterIRL.Lib
