import LetterIRL.Lib.Loops

namespace LetterIRL.Layout
open Lib

/-! `wrapParagraph`: one paragraph broken into lines no wider than a width. -/

/-- A string, by its UTF-16 code units. -/
abbrev Text := List Nat

/-- `\s`, which is also what `trim` trims. -/
def isWhitespace (unit : Nat) : Bool :=
  (9 ≤ unit && unit ≤ 13) || unit == 32 || unit == 160 || unit == 5760 || (8192 ≤ unit && unit ≤ 8202) ||
    unit == 8232 || unit == 8233 || unit == 8239 || unit == 8287 || unit == 12288 || unit == 65279

/-- `text.trim() === ''`. -/
def isBlank (text : Text) : Bool := text.all isWhitespace

/-- `Intl.Segmenter` by grapheme: the clusters of a text, in order. -/
structure Segmenter where
  segment : Text → List Text
  joins : ∀ text, (segment text).flatten = text
  visible : ∀ text, ∀ cluster ∈ segment text, cluster ≠ []

/-- A line of a paragraph: code units from `start` up to `stop`, trailing spaces excluded. -/
structure LineRange where
  start : Nat
  stop : Nat
  deriving DecidableEq

/-- A paragraph with what its wrapping asks: its break positions, its clusters, and how wide a stretch is drawn. -/
structure Wrapping (K : Type) where
  paragraph : Text
  /-- `LineBreaker`'s positions. -/
  breaks : List Nat
  increasing : breaks.Pairwise (· < ·)
  last : paragraph ≠ [] → breaks.getLast? = some paragraph.length
  graphemes : Segmenter
  measure : Nat → Nat → K
  width : K
  fitLimit : Nat → Nat

structure WrapState where
  start : Nat := 0
  index : Nat := 0
  lines : List LineRange := []
  deriving DecidableEq

/-- The end of a stretch without its trailing spaces. -/
def trimmedEnd (paragraph : Text) (start : Nat) : Nat → Nat
  | 0 => 0
  | stop + 1 =>
    if start < stop + 1 && (paragraph[stop]?).any isWhitespace then trimmedEnd paragraph start stop else stop + 1

/-- The ends of clusters laid from a start. -/
def endsFrom (start : Nat) : List Text → List Nat
  | [] => []
  | cluster :: rest => (start + cluster.length) :: endsFrom (start + cluster.length) rest

/-- Its first end, and those after it up to a stop. -/
def endsUpTo (stop : Nat) : List Nat → List Nat
  | [] => []
  | first :: rest => first :: rest.takeWhile (· ≤ stop)

def slice (text : Text) (start stop : Nat) : Text := (text.drop start).take (stop - start)

namespace Wrapping
variable {K : Type} [LE K] [DecidableLE K]

/-- Hanging spaces never count, so the limit applies to the trimmed end too. -/
def fits (w : Wrapping K) (start stop limit : Nat) : Bool :=
  let trimmed := trimmedEnd w.paragraph start stop
  decide (trimmed ≤ limit) && decide (w.measure start trimmed ≤ w.width)

/-- Spaces before a break hang: a stretch of only spaces is not a line. -/
def push (w : Wrapping K) (start stop : Nat) (lines : List LineRange) : List LineRange :=
  let trimmed := trimmedEnd w.paragraph start stop
  if start < trimmed then lines ++ [{ start, stop := trimmed }] else lines

def breakAt (w : Wrapping K) (index : Nat) : Nat := w.breaks[index]?.getD w.paragraph.length

/-- Past the breaks at or before the start. -/
def skip (w : Wrapping K) (start index : Nat) : Nat :=
  index + ((w.breaks.drop index).takeWhile (· ≤ start)).length

/-- The clusters of the next piece, which alone is wider than the line. -/
def pieceEnds (w : Wrapping K) (start pieceEnd limit : Nat) : List Nat :=
  endsUpTo (min pieceEnd limit) (endsFrom start (w.graphemes.segment (slice w.paragraph start pieceEnd)))

/-- As many whole clusters of the piece as fit, and at least one. -/
def pieceCut (w : Wrapping K) (start pieceEnd limit : Nat) : Nat :=
  let ends := w.pieceEnds start pieceEnd limit
  let endAt := fun index => ends[index]?.getD pieceEnd
  endAt (searchLast (fun middle => w.fits start (endAt middle) limit) ends.length 1 (ends.length - 1) 0)

/-- One line, given the first break from `index` on that does not fit. -/
def line (w : Wrapping K) (s : WrapState) (index first : Nat) : WrapState :=
  let stop := if index < first then w.breakAt (first - 1)
    else w.pieceCut s.start (w.breakAt first) (w.fitLimit s.start)
  { start := stop, index := first, lines := w.push s.start stop s.lines }

/-- The first break from here that does not fit: one past the last that does. -/
def firstUnfit (w : Wrapping K) (start index : Nat) : Nat :=
  searchFirst (fun middle => w.fits start (w.breakAt middle) (w.fitLimit start)) (w.breaks.length - index) index
    w.breaks.length

def wrapLine (w : Wrapping K) (s : WrapState) : WrapState :=
  let index := w.skip s.start s.index
  w.line s index (w.firstUnfit s.start index)

/-- The loop goes on while text is left and lines may be made; no limit is `Infinity`. -/
def done (w : Wrapping K) (maxLines : Option Nat) (s : WrapState) : Bool :=
  !(s.start < w.paragraph.length && maxLines.all fun limit => s.lines.length < limit)

def wrapLines (w : Wrapping K) (maxLines : Option Nat) : WrapState :=
  whileLoop (w.done maxLines) w.wrapLine (w.paragraph.length + 1) {}

/-- What `wrapParagraph` returns of the lines it made. -/
def orEmpty (lines : List LineRange) : List LineRange := if lines.isEmpty then [{ start := 0, stop := 0 }] else lines

def wrapParagraph (w : Wrapping K) (maxLines : Option Nat) : List LineRange :=
  if isBlank w.paragraph then [{ start := 0, stop := 0 }] else orEmpty (w.wrapLines maxLines).lines

end Wrapping

end LetterIRL.Layout
