import LetterIRL.Lib.Curves
import LetterIRL.Render.Canonical

namespace LetterIRL.Render

open Lib Lib.Json

/-! A glyph's outline written as SVG path data, its quadratic curves as cubics. -/

/-- A command of a font's outline. -/
inductive OutlineCommand
  | moveTo (x y : ℚ)
  | lineTo (x y : ℚ)
  | quadraticCurveTo (qx qy endX endY : ℚ)
  | bezierCurveTo (x1 y1 x2 y2 x y : ℚ)
  | closePath
  deriving DecidableEq

/-- The current point, and where the subpath began. -/
structure Pen where
  x : ℚ := 0
  y : ℚ := 0
  startX : ℚ := 0
  startY : ℚ := 0
  deriving DecidableEq

def Pen.at_ (pen : Pen) : ℚ × ℚ := (pen.x, pen.y)

def Pen.start (pen : Pen) : ℚ × ℚ := (pen.startX, pen.startY)

/-- A command of SVG path data: one letter, and numbers after it. -/
inductive PathCommand
  | M (x y : ℚ)
  | L (x y : ℚ)
  | C (x1 y1 x2 y2 x y : ℚ)
  | Z
  deriving DecidableEq

namespace PathCommand

def letter : PathCommand → Char
  | M .. => 'M'
  | L .. => 'L'
  | C .. => 'C'
  | Z => 'Z'

def numbers : PathCommand → List ℚ
  | M x y | L x y => [x, y]
  | C x1 y1 x2 y2 x y => [x1, y1, x2, y2, x, y]
  | Z => []

end PathCommand

/-- `Math.round(value * 100)` -/
def hundredths (value : ℚ) : ℤ := ⌊value * 100 + 1 / 2⌋

/-- `fixed`: a number to a hundredth, as JavaScript writes it. -/
def fixed (value : ℚ) : List Char := decimalText (hundredths value * 10)

/-- One turn of the loop: where the pen goes, and what is written. -/
def cubicCommand (pen : Pen) : OutlineCommand → Pen × PathCommand
  | .moveTo x y => ({ x, y, startX := x, startY := y }, .M x y)
  | .lineTo x y => ({ pen with x, y }, .L x y)
  | .quadraticCurveTo qx qy endX endY =>
    ({ pen with x := endX, y := endY },
      .C (pen.x + 2 / 3 * (qx - pen.x)) (pen.y + 2 / 3 * (qy - pen.y)) (endX + 2 / 3 * (qx - endX))
        (endY + 2 / 3 * (qy - endY)) endX endY)
  | .bezierCurveTo x1 y1 x2 y2 x y => ({ pen with x, y }, .C x1 y1 x2 y2 x y)
  | .closePath => ({ pen with x := pen.startX, y := pen.startY }, .Z)

/-- The commands written for an outline, their numbers exact. -/
def cubicCommands : Pen → List OutlineCommand → List PathCommand
  | _, [] => []
  | pen, command :: rest => (cubicCommand pen command).2 :: cubicCommands (cubicCommand pen command).1 rest

def PathCommand.written (command : PathCommand) : List Char :=
  command.letter :: [' '].intercalate (command.numbers.map fixed)

/-- SVG path data for an outline. -/
def cubicOutline (path : List OutlineCommand) : List Char := (cubicCommands {} path).flatMap PathCommand.written

/-! What an outline draws, and what its path data draws. -/

/-- Where a command of an outline takes the pen, and the curve it draws. -/
def OutlineCommand.draw (pen : Pen) : OutlineCommand → Pen × Option (Curve ℚ)
  | moveTo x y => ({ x, y, startX := x, startY := y }, none)
  | lineTo x y => ({ pen with x, y }, some (.line pen.at_ (x, y)))
  | quadraticCurveTo qx qy endX endY =>
    ({ pen with x := endX, y := endY }, some (.quadratic pen.at_ (qx, qy) (endX, endY)))
  | bezierCurveTo x1 y1 x2 y2 x y => ({ pen with x, y }, some (.cubic pen.at_ (x1, y1) (x2, y2) (x, y)))
  | closePath => ({ pen with x := pen.startX, y := pen.startY }, some (.line pen.at_ pen.start))

/-- The same of a command of path data. -/
def PathCommand.draw (pen : Pen) : PathCommand → Pen × Option (Curve ℚ)
  | M x y => ({ x, y, startX := x, startY := y }, none)
  | L x y => ({ pen with x, y }, some (.line pen.at_ (x, y)))
  | C x1 y1 x2 y2 x y => ({ pen with x, y }, some (.cubic pen.at_ (x1, y1) (x2, y2) (x, y)))
  | Z => ({ pen with x := pen.startX, y := pen.startY }, some (.line pen.at_ pen.start))

/-- The curves drawn one after another from a pen; a command that draws none keeps its place. -/
def trace {α : Type} (draw : Pen → α → Pen × Option (Curve ℚ)) : Pen → List α → List (Option (Curve ℚ))
  | _, [] => []
  | pen, command :: rest => (draw pen command).2 :: trace draw (draw pen command).1 rest

/-- Both draw nothing, or the same curve. -/
def SameDrawing : Option (Curve ℚ) → Option (Curve ℚ) → Prop
  | none, none => True
  | some one, some two => one.Same two
  | _, _ => False

/-- What is written for a command moves the pen as the command does, and draws its curve. -/
theorem cubicCommand_draws (pen : Pen) (command : OutlineCommand) :
    ((cubicCommand pen command).2.draw pen).1 = (command.draw pen).1 ∧ (cubicCommand pen command).1 = (command.draw pen).1 ∧
      SameDrawing (command.draw pen).2 ((cubicCommand pen command).2.draw pen).2 := by
  cases command with
  | moveTo x y => exact ⟨rfl, rfl, trivial⟩
  | lineTo x y => exact ⟨rfl, rfl, Curve.Same.refl _⟩
  | quadraticCurveTo qx qy endX endY => exact ⟨rfl, rfl, Curve.elevated_same pen.at_ (qx, qy) (endX, endY)⟩
  | bezierCurveTo x1 y1 x2 y2 x y => exact ⟨rfl, rfl, Curve.Same.refl _⟩
  | closePath => exact ⟨rfl, rfl, Curve.Same.refl _⟩

theorem cubicCommands_trace (pen : Pen) (path : List OutlineCommand) :
    List.Forall₂ SameDrawing (trace OutlineCommand.draw pen path) (trace PathCommand.draw pen (cubicCommands pen path)) := by
  induction path generalizing pen with
  | nil => exact .nil
  | cons command rest ih =>
    obtain ⟨drawn, kept, same⟩ := cubicCommand_draws pen command
    refine .cons same ?_
    rw [drawn, kept]
    exact ih _

/-- The digits of a whole number. -/
def readWhole (text : List Char) : Nat := Nat.ofDigitChars 10 text 0

/-- The number a decimal text of up to three decimals stands for. -/
def readDecimal : List Char → ℚ
  | '-' :: text =>
    -((readWhole (text.takeWhile Char.isDigit) * 1000 + readFraction (text.dropWhile Char.isDigit) : ℕ) : ℚ) / 1000
  | text => ((readWhole (text.takeWhile Char.isDigit) * 1000 + readFraction (text.dropWhile Char.isDigit) : ℕ) : ℚ) / 1000

theorem fraction_takeWhile {n : Nat} (small : n < 1000) : (fraction n).takeWhile Char.isDigit = [] := by
  cases shown : fraction n with
  | nil => rfl
  | cons c rest =>
    have dot := fraction_head small c (by rw [shown]; rfl)
    rw [dot]
    rfl

theorem unsigned_parts {n : Nat} (whole : Nat) (small : n < 1000) :
    (Nat.toDigits 10 whole ++ fraction n).takeWhile Char.isDigit = Nat.toDigits 10 whole ∧
      (Nat.toDigits 10 whole ++ fraction n).dropWhile Char.isDigit = fraction n := by
  have digits : ∀ c ∈ Nat.toDigits 10 whole, Char.isDigit c = true := fun c member => digits_isDigit member
  constructor
  · rw [List.takeWhile_append_of_pos digits, fraction_takeWhile small, List.append_nil]
  · rw [List.dropWhile_append_of_pos digits]
    cases shown : fraction n with
    | nil => rfl
    | cons c rest =>
      have dot := fraction_head small c (by rw [shown]; rfl)
      rw [dot]
      rfl

theorem unsigned_read {n : Nat} (whole : Nat) (small : n < 1000) :
    readWhole ((Nat.toDigits 10 whole ++ fraction n).takeWhile Char.isDigit) * 1000 +
      readFraction ((Nat.toDigits 10 whole ++ fraction n).dropWhile Char.isDigit) = whole * 1000 + n := by
  obtain ⟨digits, part⟩ := unsigned_parts whole small
  rw [digits, part, readFraction_fraction small, readWhole, Nat.ofDigitChars_ten_toDigits]

theorem readDecimal_unsigned {text : List Char} (plain : text.head? ≠ some '-') : readDecimal text =
    ((readWhole (text.takeWhile Char.isDigit) * 1000 + readFraction (text.dropWhile Char.isDigit) : ℕ) : ℚ) / 1000 := by
  unfold readDecimal
  split
  · exact absurd rfl plain
  · rfl

theorem readDecimal_minus (text : List Char) : readDecimal ('-' :: text) =
    -((readWhole (text.takeWhile Char.isDigit) * 1000 + readFraction (text.dropWhile Char.isDigit) : ℕ) : ℚ) / 1000 := rfl

theorem unsigned_head (whole : Nat) (rest : List Char) : (Nat.toDigits 10 whole ++ rest).head? ≠ some '-' := by
  intro minus
  cases digits : Nat.toDigits 10 whole with
  | nil => exact Nat.toDigits_ne_nil digits
  | cons c others =>
    have digit : c.isDigit = true := digits_isDigit (by rw [digits]; exact List.mem_cons_self)
    rw [digits, List.cons_append, List.head?_cons] at minus
    rw [Option.some.inj minus] at digit
    exact absurd digit (by decide)

/-- A text of thousandths reads back as their number. -/
theorem readDecimal_decimalText (thousandths : ℤ) : readDecimal (decimalText thousandths) = thousandths / 1000 := by
  have small : thousandths.natAbs % 1000 < 1000 := by omega
  have whole : thousandths.natAbs / 1000 * 1000 + thousandths.natAbs % 1000 = thousandths.natAbs := by omega
  have read := (unsigned_read (thousandths.natAbs / 1000) small).trans whole
  have cast : ((thousandths.natAbs : ℕ) : ℚ) = ((|thousandths| : ℤ) : ℚ) := Nat.cast_natAbs _
  unfold decimalText
  by_cases negative : thousandths < 0
  · have value : -((thousandths.natAbs : ℕ) : ℚ) = thousandths := by
      rw [cast, abs_of_neg negative, Int.cast_neg, neg_neg]
    rw [if_pos negative, List.append_assoc, List.singleton_append, readDecimal_minus, read, value]
  · have value : ((thousandths.natAbs : ℕ) : ℚ) = thousandths := by
      rw [cast, abs_of_nonneg (not_lt.mp negative)]
    rw [if_neg negative, List.nil_append, readDecimal_unsigned (unsigned_head _ _), read, value]

/-- A number written is within half a hundredth of the exact one. -/
theorem fixed_near (value : ℚ) : |readDecimal (fixed value) - value| ≤ 5 / 1000 := by
  have below := Int.floor_le (value * 100 + 1 / 2)
  have above := Int.lt_floor_add_one (value * 100 + 1 / 2)
  rw [fixed, readDecimal_decimalText]
  unfold hundredths
  push_cast
  rw [abs_le]
  constructor <;> linarith

/-- Path data taken apart: what stands before the first letter, and each letter with what follows it. -/
def lettered : List Char → List Char × List (Char × List Char)
  | [] => ([], [])
  | c :: rest =>
    if c.isUpper then ([], (c, (lettered rest).1) :: (lettered rest).2) else (c :: (lettered rest).1, (lettered rest).2)

def readNumbers (text : List Char) : List ℚ := if text = [] then [] else (text.splitOn ' ').map readDecimal

/-- The letters of path data, each with the numbers written after it. -/
def readPath (text : List Char) : List (Char × List ℚ) := (lettered text).2.map fun piece => (piece.1, readNumbers piece.2)

theorem lettered_plain {body : List Char} (plain : ∀ c ∈ body, c.isUpper = false) (rest : List Char) :
    lettered (body ++ rest) = (body ++ (lettered rest).1, (lettered rest).2) := by
  induction body with
  | nil => rfl
  | cons c body ih =>
    have later := ih fun other member => plain other (List.mem_cons_of_mem _ member)
    rw [List.cons_append, lettered, if_neg (by simp [plain c List.mem_cons_self]), later]
    rfl

theorem numeral_plain {c : Char} (numeral : isNumeral c = true) : c.isUpper = false ∧ c ≠ ' ' := by
  simp only [isNumeral, Bool.or_eq_true, beq_iff_eq] at numeral
  rcases numeral with (((digit | rfl) | rfl) | rfl) | rfl
  · refine ⟨?_, ?_⟩
    · by_contra upper
      rw [Bool.not_eq_false] at upper
      have capital : c.val ≥ 65 ∧ c.val ≤ 90 := of_decide_eq_true upper
      simp only [Char.isDigit, Bool.and_eq_true, decide_eq_true_eq] at digit
      have low : c.val.toNat ≤ 57 := UInt32.le_iff_toNat_le.mp digit.2
      have high : 65 ≤ c.val.toNat := UInt32.le_iff_toNat_le.mp capital.1
      omega
    · rintro rfl
      exact absurd digit (by decide)
  all_goals exact ⟨by decide, by decide⟩

theorem fixed_numeral {value : ℚ} {c : Char} (member : c ∈ fixed value) : isNumeral c = true :=
  (decimal (hundredths value * 10)).numeral c member

theorem fixed_ne_nil (value : ℚ) : fixed value ≠ [] := (decimal (hundredths value * 10)).written

/-- What a command writes after its letter. -/
def PathCommand.body (command : PathCommand) : List Char := [' '].intercalate (command.numbers.map fixed)

theorem joined_char (values : List ℚ) : ∀ c ∈ [' '].intercalate (values.map fixed), isNumeral c = true ∨ c = ' ' := by
  intro c member
  induction values with
  | nil => nomatch member
  | cons value rest ih =>
    cases rest with
    | nil =>
      have inside : c ∈ fixed value ++ [] := member
      rw [List.append_nil] at inside
      exact .inl (fixed_numeral inside)
    | cons next rest =>
      have inside : c ∈ fixed value ++ ([' '] ++ [' '].intercalate ((next :: rest).map fixed)) := member
      rcases List.mem_append.mp inside with here | later
      · exact .inl (fixed_numeral here)
      · rcases List.mem_append.mp later with space | further
        · exact .inr (List.mem_singleton.mp space)
        · exact ih further

theorem PathCommand.body_char (command : PathCommand) : ∀ c ∈ command.body, isNumeral c = true ∨ c = ' ' :=
  joined_char command.numbers

theorem PathCommand.read_body (command : PathCommand) : readNumbers command.body =
    command.numbers.map fun value => readDecimal (fixed value) := by
  cases none_ : command.numbers with
  | nil => simp [readNumbers, body, none_, List.intercalate]
  | cons first rest =>
    have parts : command.body.splitOn ' ' = command.numbers.map fixed := by
      refine List.splitOn_intercalate ' ' (fun part member inside => ?_) (by rw [none_]; exact List.cons_ne_nil _ _)
      obtain ⟨value, _, rfl⟩ := List.mem_map.mp member
      exact (numeral_plain (fixed_numeral inside)).2 rfl
    have some_ : command.body ≠ [] := by
      intro empty
      rw [empty, none_] at parts
      exact fixed_ne_nil first (List.cons.inj parts).1.symm
    rw [readNumbers, if_neg some_, parts, none_, List.map_map]
    rfl

theorem PathCommand.letter_used (command : PathCommand) : command.letter ∈ ['M', 'L', 'C', 'Z'] := by
  cases command with
  | M => exact List.mem_cons_self
  | L => exact List.mem_cons_of_mem _ List.mem_cons_self
  | C => exact List.mem_cons_of_mem _ (List.mem_cons_of_mem _ List.mem_cons_self)
  | Z => exact List.mem_cons_of_mem _ (List.mem_cons_of_mem _ (List.mem_cons_of_mem _ List.mem_cons_self))

theorem PathCommand.letter_upper (command : PathCommand) : command.letter.isUpper = true := by
  cases command <;> rfl

theorem lettered_written (commands : List PathCommand) : lettered (commands.flatMap PathCommand.written) =
    ([], commands.map fun command => (command.letter, command.body)) := by
  induction commands with
  | nil => rfl
  | cons command commands ih =>
    have plain : ∀ c ∈ command.body, c.isUpper = false := by
      intro c member
      rcases command.body_char c member with numeral | rfl
      · exact (numeral_plain numeral).1
      · rfl
    rw [List.flatMap_cons, show command.written = command.letter :: command.body from rfl, List.cons_append, lettered,
      if_pos command.letter_upper, lettered_plain plain, ih, List.append_nil]
    rfl

/-- A command read off path data has the letter of one written, and its numbers to within half a hundredth. -/
structure PathCommand.ReadAs (command : PathCommand) (piece : Char × List ℚ) : Prop where
  letter : piece.1 = command.letter
  used : piece.1 ∈ ['M', 'L', 'C', 'Z']
  numbers : List.Forall₂ (fun exact written => |written - exact| ≤ 5 / 1000) command.numbers piece.2

/-- The path data written for an outline draws its curves, and is written in four letters and rounded numbers. -/
theorem cubicOutline_draws (path : List OutlineCommand) :
    List.Forall₂ SameDrawing (trace OutlineCommand.draw {} path) (trace PathCommand.draw {} (cubicCommands {} path)) ∧
      List.Forall₂ PathCommand.ReadAs (cubicCommands {} path) (readPath (cubicOutline path)) ∧
      ∀ c ∈ cubicOutline path, c ∈ ['M', 'L', 'C', 'Z'] ∨ isNumeral c = true ∨ c = ' ' := by
  refine ⟨cubicCommands_trace {} path, ?_, fun c member => ?_⟩
  · rw [readPath, cubicOutline, lettered_written, List.map_map]
    refine List.forall₂_map_right_iff.mpr (List.forall₂_same.mpr fun command _ => ?_)
    refine ⟨rfl, command.letter_used, ?_⟩
    show List.Forall₂ _ command.numbers (readNumbers command.body)
    rw [command.read_body]
    exact List.forall₂_map_right_iff.mpr (List.forall₂_same.mpr fun value _ => fixed_near value)
  · obtain ⟨command, _, inside⟩ := List.mem_flatMap.mp member
    rcases List.mem_cons.mp inside with rfl | body
    · exact .inl command.letter_used
    · exact .inr (command.body_char c body)

/-- A quadratic after a closed subpath begins where the subpath did. -/
theorem reopened_draws : let path := [.moveTo 1 2, .lineTo 4 2, .closePath, .quadraticCurveTo 4 8 7 2]
    cubicOutline path = "M1 2L4 2ZC3 6 5 6 7 2".toList ∧
      List.Forall₂ SameDrawing (trace OutlineCommand.draw {} path) (trace PathCommand.draw {} (cubicCommands {} path)) ∧
      ('Z' ∈ ['M', 'L', 'C', 'Z'] ∨ isNumeral 'Z' = true ∨ 'Z' = ' ') := by
  intro path
  have drawn := cubicOutline_draws path
  have text : cubicOutline path = "M1 2L4 2ZC3 6 5 6 7 2".toList := by decide +kernel
  exact ⟨text, drawn.1, drawn.2.2 'Z' (by rw [text]; decide)⟩

end LetterIRL.Render
