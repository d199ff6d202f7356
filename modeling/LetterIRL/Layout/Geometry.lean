import Mathlib.Tactic

namespace LetterIRL.Layout

/-! The page's geometry, in points from its top left corner: exact rationals for the code's floating point. -/

def inch (inches : ℚ) : ℚ := inches * 72

def PAGE_WIDTH : ℚ := inch 8.5
def PAGE_HEIGHT : ℚ := inch 11
def SIDE_MARGIN : ℚ := inch 1
def CONTENT_WIDTH : ℚ := PAGE_WIDTH - 2 * SIDE_MARGIN
def BODY_TOP : ℚ := inch 3
def BODY_BOTTOM : ℚ := PAGE_HEIGHT - inch 1
def CONTINUATION_TOP : ℚ := inch 1
def MAX_LETTER_PAGES : Nat := 3
def LINE_PITCH : ℚ := 19.2
def HEADER_IMAGE_MAX_HEIGHT : ℚ := inch 2
def INLINE_IMAGE_MAX_HEIGHT : ℚ := inch 3
def IMAGE_GAP : ℚ := inch 0.5
def SIGNATURE_LINES : Nat := 3
def SIGNATURE_MAX_WIDTH : ℚ := inch 2.5
def SIGNATURE_PADDING : ℚ := 3
def HEADLINE_LINES : Nat := 3
def POINTS_PER_CSS_PIXEL : ℚ := 72 / 96
def MAX_PIXELS : Nat := 50000000

section Values

theorem SIDE_MARGIN_eq : SIDE_MARGIN = 72 := by norm_num [SIDE_MARGIN, inch]
theorem CONTENT_WIDTH_eq : CONTENT_WIDTH = 468 := by norm_num [CONTENT_WIDTH, PAGE_WIDTH, SIDE_MARGIN, inch]
theorem BODY_TOP_eq : BODY_TOP = 216 := by norm_num [BODY_TOP, inch]
theorem BODY_BOTTOM_eq : BODY_BOTTOM = 720 := by norm_num [BODY_BOTTOM, PAGE_HEIGHT, inch]
theorem CONTINUATION_TOP_eq : CONTINUATION_TOP = 72 := by norm_num [CONTINUATION_TOP, inch]
theorem HEADER_IMAGE_MAX_HEIGHT_eq : HEADER_IMAGE_MAX_HEIGHT = 144 := by norm_num [HEADER_IMAGE_MAX_HEIGHT, inch]
theorem INLINE_IMAGE_MAX_HEIGHT_eq : INLINE_IMAGE_MAX_HEIGHT = 216 := by norm_num [INLINE_IMAGE_MAX_HEIGHT, inch]
theorem IMAGE_GAP_eq : IMAGE_GAP = 36 := by norm_num [IMAGE_GAP, inch]
theorem SIGNATURE_MAX_WIDTH_eq : SIGNATURE_MAX_WIDTH = 180 := by norm_num [SIGNATURE_MAX_WIDTH, inch]

end Values

/-- What heights are compared with room for: floating point's error. -/
def hair : ℚ := 1e-6

/-- A photo by its size in pixels, as `sized` lets it through. -/
structure RenderImage where
  width : Nat
  height : Nat
  wide : 1 ≤ width
  tall : 1 ≤ height
  pixels : width * height ≤ MAX_PIXELS
  deriving DecidableEq

structure Box where
  width : ℚ
  height : ℚ
  deriving DecidableEq

/-- As large as fits, never past its CSS pixel size. -/
def fitWithin (image : RenderImage) (maxWidth maxHeight : ℚ) : Box :=
  let scale := min (maxWidth / image.width) (min (maxHeight / image.height) POINTS_PER_CSS_PIXEL)
  { width := image.width * scale, height := image.height * scale }

def fitImage (image : RenderImage) (maxHeight : ℚ) : Box := fitWithin image CONTENT_WIDTH maxHeight

/-- A signature's box inside its band. -/
def fitSignature (image : RenderImage) : Box :=
  fitWithin image SIGNATURE_MAX_WIDTH (SIGNATURE_LINES * LINE_PITCH - 2 * SIGNATURE_PADDING)

/-- How many whole lines fit between two heights on a page. -/
def linesBetween (top bottom : ℚ) : Nat := ⌊(bottom - top + hair) / LINE_PITCH⌋₊

def LINE_BUDGET_PER_PAGE : Nat := 2 * linesBetween CONTINUATION_TOP BODY_BOTTOM

theorem le_linesBetween {top bottom : ℚ} {count : Nat} (some : 0 < count) :
    count ≤ linesBetween top bottom ↔ top + count * LINE_PITCH ≤ bottom + hair := by
  unfold linesBetween
  rw [Nat.le_floor_iff' (by omega), le_div_iff₀ (by norm_num [LINE_PITCH])]
  constructor <;> intro fits <;> linarith

theorem linesBetween_lt {top bottom : ℚ} {count : Nat} (past : bottom + hair < top + count * LINE_PITCH)
    (some : 0 < count) : linesBetween top bottom < count := by
  by_contra within
  have fits := (le_linesBetween some).mp (not_lt.mp within)
  linarith

theorem fitWithin_spec (image : RenderImage) (maxWidth maxHeight : ℚ) (wide : 0 < maxWidth) (tall : 0 < maxHeight) :
    0 < (fitWithin image maxWidth maxHeight).width ∧ (fitWithin image maxWidth maxHeight).width ≤ maxWidth ∧
      0 < (fitWithin image maxWidth maxHeight).height ∧ (fitWithin image maxWidth maxHeight).height ≤ maxHeight := by
  have width : (0 : ℚ) < image.width := by exact_mod_cast image.wide
  have height : (0 : ℚ) < image.height := by exact_mod_cast image.tall
  have scaled : 0 < min (maxWidth / image.width) (min (maxHeight / image.height) POINTS_PER_CSS_PIXEL) := by
    refine lt_min (div_pos wide width) (lt_min (div_pos tall height) ?_)
    norm_num [POINTS_PER_CSS_PIXEL]
  have byWidth := min_le_left (maxWidth / image.width) (min (maxHeight / image.height) POINTS_PER_CSS_PIXEL)
  have byHeight := (min_le_right (maxWidth / (image.width : ℚ)) _).trans
    (min_le_left (maxHeight / image.height) POINTS_PER_CSS_PIXEL)
  refine ⟨mul_pos width scaled, ?_, mul_pos height scaled, ?_⟩
  · calc image.width * min (maxWidth / image.width) (min (maxHeight / image.height) POINTS_PER_CSS_PIXEL)
        ≤ image.width * (maxWidth / image.width) := by gcongr
      _ = maxWidth := by field_simp
  · calc image.height * min (maxWidth / image.width) (min (maxHeight / image.height) POINTS_PER_CSS_PIXEL)
        ≤ image.height * (maxHeight / image.height) := by gcongr
      _ = maxHeight := by field_simp

/-- Which of the three bounds a fitted image's height comes from. -/
theorem fitWithin_height (image : RenderImage) (maxWidth maxHeight : ℚ) :
    (fitWithin image maxWidth maxHeight).height * image.width = maxWidth * image.height ∨
    (fitWithin image maxWidth maxHeight).height = maxHeight ∨
    (fitWithin image maxWidth maxHeight).height = image.height * POINTS_PER_CSS_PIXEL := by
  have width : (image.width : ℚ) ≠ 0 := by exact_mod_cast (show image.width ≠ 0 from by have := image.wide; omega)
  have height : (image.height : ℚ) ≠ 0 := by exact_mod_cast (show image.height ≠ 0 from by have := image.tall; omega)
  unfold fitWithin
  simp only
  rcases min_choice (maxWidth / (image.width : ℚ)) (min (maxHeight / image.height) POINTS_PER_CSS_PIXEL) with same | same
  · refine .inl ?_
    rw [same]
    field_simp
  · rw [same]
    rcases min_choice (maxHeight / (image.height : ℚ)) POINTS_PER_CSS_PIXEL with same | same
    · refine .inr (.inl ?_)
      rw [same]
      field_simp
    · refine .inr (.inr ?_)
      rw [same]

/-- Over so wide a picture that a hair could matter, its height is less than a point. -/
theorem hair_free {room count wide tall : ℤ} (grid : room = 2340 ∨ room = 2052 ∨ room = 3060) (width : 1 ≤ wide)
    (height : 1 ≤ tall) (pixels : wide * tall ≤ 50000000)
    (fits : 1000000 * (2340 * tall) ≤ (1000000 * (room - 96 * count) + 5) * wide) :
    2340 * tall ≤ (room - 96 * count) * wide := by
  obtain ⟨k, left⟩ : ∃ k, k = room - 96 * count := ⟨_, rfl⟩
  rw [← left] at fits ⊢
  by_contra exceeds
  have past : 1 ≤ 2340 * tall - k * wide := by omega
  have wider : 200000 ≤ wide := by nlinarith
  have short : tall ≤ 250 := by nlinarith
  have least : 1 ≤ k := by
    by_contra below
    have none : k * wide ≤ 0 := mul_nonpos_of_nonpos_of_nonneg (by omega) (by omega)
    nlinarith
  have most : k ≤ 2 := by
    by_contra above
    have much : 3 * wide ≤ k * wide := mul_le_mul_of_nonneg_right (by omega) (by omega)
    omega
  omega

/-- Twentieths of a point are further apart than a hair. -/
theorem twentieths_exact (left right : ℤ) (fits : (left / 20 : ℚ) ≤ right / 20 + hair) : (left / 20 : ℚ) ≤ right / 20 := by
  have whole : left ≤ right := by
    by_contra exceeds
    have past : (right : ℚ) + 1 ≤ left := by exact_mod_cast (not_le.mp exceeds)
    unfold hair at fits
    linarith
  have whole : (left : ℚ) ≤ right := by exact_mod_cast whole
  linarith

/-- Where a picture's height is added to whole lines on a page, a hair too much is none too much. -/
theorem fits_exactly (image : RenderImage) {maxHeight : ℚ} (room : ℚ) (count : Nat)
    (tall : maxHeight = HEADER_IMAGE_MAX_HEIGHT ∨ maxHeight = INLINE_IMAGE_MAX_HEIGHT)
    (grid : room = 468 ∨ room = 410.4 ∨ room = 612)
    (fits : count * LINE_PITCH + (fitImage image maxHeight).height ≤ room + hair) :
    count * LINE_PITCH + (fitImage image maxHeight).height ≤ room := by
  obtain ⟨fifths, grid, whole⟩ : ∃ fifths : ℤ, (fifths = 2340 ∨ fifths = 2052 ∨ fifths = 3060) ∧ room = fifths / 5 := by
    rcases grid with rfl | rfl | rfl
    · exact ⟨2340, by simp, by norm_num⟩
    · exact ⟨2052, by simp, by norm_num⟩
    · exact ⟨3060, by simp, by norm_num⟩
  -- A height in twentieths of a point keeps to the grid of the lines.
  have even (twentieths : ℤ) (same : (fitImage image maxHeight).height = twentieths / 20) :
      count * LINE_PITCH + (fitImage image maxHeight).height ≤ room := by
    have lines : (count * LINE_PITCH + (fitImage image maxHeight).height : ℚ) =
        ((384 * count + twentieths : ℤ) : ℚ) / 20 := by
      rw [same]
      simp only [LINE_PITCH]
      push_cast
      ring
    have bottom : room = ((4 * fifths : ℤ) : ℚ) / 20 := by
      rw [whole]
      push_cast
      ring
    rw [lines, bottom] at fits ⊢
    exact twentieths_exact _ _ fits
  rcases fitWithin_height image CONTENT_WIDTH maxHeight with byWidth | same | same
  · have width : (1 : ℤ) ≤ image.width := by exact_mod_cast image.wide
    have height : (1 : ℤ) ≤ image.height := by exact_mod_cast image.tall
    have pixels : (image.width : ℤ) * image.height ≤ 50000000 := by exact_mod_cast image.pixels
    have some : (0 : ℚ) < image.width := by exact_mod_cast image.wide
    have scaled : (fitImage image maxHeight).height * image.width = 468 * image.height := CONTENT_WIDTH_eq ▸ byWidth
    have cleared : 1000000 * (2340 * (image.height : ℤ)) ≤ (1000000 * (fifths - 96 * count) + 5) * image.width := by
      have rational : 1000000 * (2340 * (image.height : ℚ)) ≤ (1000000 * (fifths - 96 * count) + 5) * image.width := by
        have times := mul_le_mul_of_nonneg_right fits some.le
        rw [add_mul, scaled, whole] at times
        simp only [LINE_PITCH, hair] at times
        linarith
      exact_mod_cast rational
    have free := hair_free grid width height pixels cleared
    have rational : 2340 * (image.height : ℚ) ≤ (fifths - 96 * count) * image.width := by exact_mod_cast free
    refine le_of_mul_le_mul_right ?_ some
    rw [add_mul, scaled, whole]
    simp only [LINE_PITCH]
    linarith
  · have same : (fitImage image maxHeight).height = maxHeight := same
    rcases tall with rfl | rfl
    · exact even 2880 (by rw [same, HEADER_IMAGE_MAX_HEIGHT_eq]; norm_num)
    · exact even 4320 (by rw [same, INLINE_IMAGE_MAX_HEIGHT_eq]; norm_num)
  · have same : (fitImage image maxHeight).height = image.height * POINTS_PER_CSS_PIXEL := same
    refine even (15 * image.height) ?_
    rw [same]
    simp only [POINTS_PER_CSS_PIXEL]
    push_cast
    ring

end LetterIRL.Layout
