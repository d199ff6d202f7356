import LetterIRL.Layout.Wrap

namespace LetterIRL.Layout
open Lib

/-! `paragraphBidi`: a line's clusters in the order they are drawn, left to right. -/

def inRanges (ranges : List (Nat × Nat)) (unit : Nat) : Bool :=
  ranges.any fun range => range.1 ≤ unit && unit ≤ range.2

/-- Characters that print nothing. -/
def invisibleRanges : List (Nat × Nat) :=
  [(0x00ad, 0x00ad), (0x061c, 0x061c), (0x200b, 0x200f), (0x202a, 0x202e), (0x2060, 0x2064), (0x2066, 0x2069),
    (0xfe00, 0xfe0f), (0xfeff, 0xfeff)]

/-- The invisible characters that are not direction controls. -/
def notForBidi : List (Nat × Nat) :=
  [(0x00ad, 0x00ad), (0x200b, 0x200d), (0x2060, 0x2064), (0xfe00, 0xfe0f), (0xfeff, 0xfeff)]

def rightToLeft : List (Nat × Nat) :=
  [(0x0590, 0x08ff), (0xfb1d, 0xfdff), (0xfe70, 0xfefc), (0x200f, 0x200f), (0x202b, 0x202b), (0x202e, 0x202e),
    (0x2067, 0x2067)]

def isInvisible (unit : Nat) : Bool := inRanges invisibleRanges unit

def withoutInvisible (text : Text) : Text := text.filter fun unit => !isInvisible unit

/-- What is asked of `bidi-js`: levels and line segments of a text, and a character's mirror image. -/
structure BidiJs where
  levels : Text → List Nat
  /-- The segments a line is reversed by, from its first unit to its last. -/
  segments : Text → Nat → Nat → List (Nat × Nat)
  inLine : ∀ text first last, ∀ segment ∈ segments text first last,
    first ≤ segment.1 ∧ segment.1 ≤ last ∧ first ≤ segment.2 ∧ segment.2 ≤ last
  mirror : Nat → Option Nat
  drawn : ∀ unit image, mirror unit = some image →
    image ≠ unit ∧ isInvisible unit = false ∧ isInvisible image = false

/-- A paragraph with the levels and the clusters its lines are drawn by. -/
structure ParagraphBidi where
  bidi : BidiJs
  graphemes : Segmenter
  paragraph : Text

/-- The cluster of each unit, clusters counted from `count`. -/
def clusterOf : Nat → List Text → List Nat
  | _, [] => []
  | count, segment :: rest => List.replicate segment.length count ++ clusterOf (count + 1) rest

/-- Where each cluster starts, and where the last ends. -/
def clusterStart : Nat → List Text → List Nat
  | index, [] => [index]
  | index, segment :: rest => index :: clusterStart (index + segment.length) rest

/-- The segment from `low` to `high` reversed in place. -/
def reverseSegment (order : Array Nat) (low high : Nat) : Array Nat :=
  (whileLoop (fun s => !decide (s.1 < s.2.1)) (fun s => (s.1 + 1, s.2.1 - 1, s.2.2.swapIfInBounds s.1 s.2.1)) high
    (low, high, order)).2.2

namespace ParagraphBidi

/-- Whether any character can make a run right to left. -/
def resolved (p : ParagraphBidi) : Bool := p.paragraph.any (inRanges rightToLeft)

def unitAt (p : ParagraphBidi) (index : Nat) : Nat := p.paragraph.getD index 0

def isKept (p : ParagraphBidi) (index : Nat) : Bool := !inRanges notForBidi (p.unitAt index)

/-- The paragraph's units that levels are resolved on. -/
def kept (p : ParagraphBidi) : List Nat := (List.range p.paragraph.length).filter p.isKept

/-- How many of them stand before an index. -/
def keptBefore (p : ParagraphBidi) (index : Nat) : Nat := ((List.range index).filter p.isKept).length

def bidiText (p : ParagraphBidi) : Text := p.kept.map p.unitAt

def level (p : ParagraphBidi) (index : Nat) : Nat := (p.bidi.levels p.bidiText).getD index 0

/-- The paragraph's units at odd levels that have a mirror image, with that image. -/
def mirrored (p : ParagraphBidi) : List (Nat × Nat) :=
  (List.range p.bidiText.length).filterMap fun index =>
    if p.level index % 2 = 1 then
      (p.bidi.mirror (p.bidiText.getD index 0)).map fun image => (p.kept.getD index 0, image)
    else none

def clusters (p : ParagraphBidi) : List Text := p.graphemes.segment p.paragraph

def clusterAt (p : ParagraphBidi) (unit : Nat) : Nat := (clusterOf 0 p.clusters).getD unit 0

def startOf (p : ParagraphBidi) (cluster : Nat) : Nat := (clusterStart 0 p.clusters).getD cluster 0

/-- The line's kept units in the order they are drawn. -/
def order (p : ParagraphBidi) (start stop : Nat) : List Nat :=
  let bidiStart := p.keptBefore start
  let bidiEnd := p.keptBefore stop
  let line := (List.range' bidiStart (bidiEnd - bidiStart)).toArray
  let reversed := (p.bidi.segments p.bidiText bidiStart (bidiEnd - 1)).foldl
    (fun line segment => reverseSegment line (segment.1 - bidiStart) (segment.2 - bidiStart)) line
  reversed.toList.map fun index => p.kept.getD index 0

/-- A cluster's text, a mirrored character drawn as its mirror image. -/
def piece (p : ParagraphBidi) (start stop cluster : Nat) : Text :=
  let from_ := max (p.startOf cluster) start
  let text := slice p.paragraph from_ (min (p.startOf (cluster + 1)) stop)
  match p.mirrored.lookup from_ with
  | some image => image :: text.drop 1
  | none => text

/-- Each cluster once, where its first unit is drawn. -/
def drawClusters (p : ParagraphBidi) (start stop : Nat) : List Nat → List Nat → List Text
  | _, [] => []
  | emitted, unit :: rest =>
    let cluster := p.clusterAt unit
    if cluster ∈ emitted then p.drawClusters start stop emitted rest
    else p.piece start stop cluster :: p.drawClusters start stop (cluster :: emitted) rest

def lineVisual (p : ParagraphBidi) (start stop : Nat) : Text :=
  if !p.resolved then withoutInvisible (slice p.paragraph start stop)
  else if p.keptBefore stop ≤ p.keptBefore start then []
  else withoutInvisible (p.drawClusters start stop [] (p.order start stop)).flatten

end ParagraphBidi

end LetterIRL.Layout
