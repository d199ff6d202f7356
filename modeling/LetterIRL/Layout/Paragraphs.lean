import LetterIRL.Layout.Geometry
import LetterIRL.Layout.Bidi

namespace LetterIRL.Layout

/-! `wrapParagraphs`: a letter's text, paragraph by paragraph, within a budget of lines. -/

def MAX_MARKS_PER_LETTER : Nat := 4

/-- A face at its size, with what breaks, orders, draws and measures text in it. -/
structure Face where
  bidi : BidiJs
  graphemes : Segmenter
  /-- `LineBreaker`'s positions. -/
  breaks : Text → List Nat
  increasing : ∀ text, (breaks text).Pairwise (· < ·)
  last : ∀ text, text ≠ [] → (breaks text).getLast? = some text.length
  /-- `\p{M}`, of a code point. -/
  isMark : Nat → Bool
  /-- What the face draws a code unit as. -/
  lookAlike : Nat → Nat
  /-- A code point's own advance. -/
  advanceOf : Nat → ℚ
  /-- How wide a text is, shaped. -/
  advanceWidth : Text → ℚ
  ascent : ℚ
  descent : ℚ

/-- The characters of a text, each a unit or a surrogate pair. -/
def characters : Text → List Text
  | [] => []
  | [unit] => [[unit]]
  | first :: second :: rest =>
    if 0xd800 ≤ first && first ≤ 0xdbff && 0xdc00 ≤ second && second ≤ 0xdfff then [first, second] :: characters rest
    else [first] :: characters (second :: rest)

def codePointOf : Text → Nat
  | [] => 0
  | [unit] => unit
  | high :: low :: _ => 0x10000 + (high - 0xd800) * 0x400 + (low - 0xdc00)

namespace Face

/-- A letter's marks past the fourth, dropped. -/
def clampLetter (face : Face) : Nat → List Text → Text
  | _, [] => []
  | marks, character :: rest =>
    if face.isMark (codePointOf character) then
      if MAX_MARKS_PER_LETTER < marks + 1 then face.clampLetter (marks + 1) rest
      else character ++ face.clampLetter (marks + 1) rest
    else character ++ face.clampLetter marks rest

def clampMarks (face : Face) (text : Text) : Text :=
  if (characters text).any fun character => face.isMark (codePointOf character) then
    ((face.graphemes.segment text).map fun segment => face.clampLetter 0 (characters segment)).flatten
  else text

def inFace (face : Face) (text : Text) : Text := text.map face.lookAlike

/-- A line as it is drawn. -/
def visual (face : Face) (paragraph : Text) (start stop : Nat) : Text :=
  face.inFace ({ bidi := face.bidi, graphemes := face.graphemes, paragraph : ParagraphBidi }.lineVisual start stop)

/-- Where the advances of the characters from an index on pass a width. -/
def limitFrom (face : Face) (width : ℚ) : ℚ → Nat → List Text → Nat
  | _, index, [] => index
  | total, index, character :: rest =>
    let code := codePointOf character
    let total := if !isInvisible code && !face.isMark code then total + face.advanceOf code else total
    let index := index + character.length
    if width * 1.5 < total then index else face.limitFrom width total index rest

def advanceLimit (face : Face) (paragraph : Text) (width : ℚ) (start : Nat) : Nat :=
  face.limitFrom width 0 start (characters (paragraph.drop start))

/-- How a paragraph is measured as it will be drawn. -/
def paragraphMeasure (face : Face) (paragraph : Text) : Wrapping ℚ where
  paragraph
  breaks := face.breaks paragraph
  increasing := face.increasing paragraph
  last := face.last paragraph
  graphemes := face.graphemes
  measure := fun start stop => face.advanceWidth (face.visual paragraph start stop)
  width := CONTENT_WIDTH
  fitLimit := face.advanceLimit (face.inFace paragraph) CONTENT_WIDTH

/-- Where a baseline sits in a line. -/
def baselineOffset (face : Face) (pitch : ℚ) : ℚ := (pitch - (face.ascent - face.descent)) / 2 + face.ascent

end Face

/-- `\r\n?` as `\n`. -/
def normalizeBreaks : Text → Text
  | [] => []
  | [unit] => if unit = 13 then [10] else [unit]
  | first :: second :: rest =>
    if first = 13 then
      if second = 10 then 10 :: normalizeBreaks rest else 10 :: normalizeBreaks (second :: rest)
    else first :: normalizeBreaks (second :: rest)

/-- A tab as four spaces. -/
def expandTabs (text : Text) : Text := text.flatMap fun unit => if unit = 9 then [32, 32, 32, 32] else [unit]

def paragraphsOf (face : Face) (text : Text) : List Text :=
  (expandTabs (normalizeBreaks (face.clampMarks text))).splitOn 10

/-- One wrapped line: as written, and as drawn. -/
structure WrappedLine where
  source : Text
  drawn : Text
  deriving DecidableEq

/-- The line draws something. -/
def WrappedLine.written (line : WrappedLine) : Bool := !isBlank line.drawn

def lineOf (face : Face) (paragraph : Text) (range : LineRange) : WrappedLine where
  source := slice paragraph range.start range.stop
  drawn := face.visual paragraph range.start range.stop

structure WrappedParagraphs where
  paragraphs : List (List WrappedLine)
  truncated : Bool
  deriving DecidableEq

/-- The paragraphs from here on, with so many lines written before them. No limit is `Infinity`. -/
def wrapFrom (face : Face) (maxLines : Option Nat) : Nat → List Text → WrappedParagraphs
  | _, [] => { paragraphs := [], truncated := false }
  | written, paragraph :: rest =>
    if maxLines.any (· ≤ written) && (paragraph :: rest).any (!isBlank ·) then
      -- Out of lines with text left.
      { paragraphs := [], truncated := true }
    else
      let ranges := (face.paragraphMeasure paragraph).wrapParagraph (maxLines.map (· - written))
      let lines := ranges.map (lineOf face paragraph)
      if ranges.getLast?.any fun last => !isBlank (paragraph.drop last.stop) then
        -- Stopped before the paragraph's end: its budget ran out.
        { paragraphs := [lines], truncated := true }
      else
        let later := wrapFrom face maxLines (written + lines.countP WrappedLine.written) rest
        { later with paragraphs := lines :: later.paragraphs }

def wrapParagraphs (face : Face) (text : Text) (maxLines : Option Nat) : WrappedParagraphs :=
  wrapFrom face maxLines 0 (paragraphsOf face text)

end LetterIRL.Layout
