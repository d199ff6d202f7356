import LetterIRL.Photos.Headers
import LetterIRL.Render.Tags

namespace LetterIRL.Render

open Photos

/-! A layout: the items of each page, as the print and the preview draw them. -/

/-- A JavaScript number, its arithmetic exact; `-0` is `0`. -/
inductive Number
  | finite (value : ℚ)
  | nan
  | infinite (positive : Bool)
  deriving DecidableEq

namespace Number

def neg : Number → Number
  | finite value => finite (-value)
  | nan => nan
  | infinite positive => infinite !positive

def add : Number → Number → Number
  | nan, _ | _, nan => nan
  | finite a, finite b => finite (a + b)
  | finite _, infinite positive => infinite positive
  | infinite positive, finite _ => infinite positive
  | infinite positive, infinite other => if positive = other then infinite positive else nan

def sub (a b : Number) : Number := a.add b.neg

/-- `Math.round(value * parts) / parts` -/
def rounded (parts : ℚ) : Number → Number
  | finite value => finite ((⌊value * parts + 1 / 2⌋ : ℤ) / parts)
  | nan => nan
  | infinite positive => infinite positive

end Number

/-- Text written into the markup as it is: a hex colour, path data, an id, a number. None of them holds a `<`. -/
structure Markup where
  text : Text
  plain : 60 ∉ text
  deriving DecidableEq

inductive FontName
  | tinosRegular
  | cousineRegular
  | caveatRegular
  deriving DecidableEq

structure TextRun where
  font : FontName
  size : Number
  x : Number
  baseline : Number
  text : Text
  source : Text
  /-- Black when left out. -/
  fill : Option Markup := none
  deriving DecidableEq

structure Rect where
  x : Number
  top : Number
  width : Number
  height : Number
  deriving DecidableEq

inductive Role
  | signature
  deriving DecidableEq

structure ImageBox where
  x : Number
  top : Number
  width : Number
  height : Number
  image : RenderImage
  clip : Option Rect := none
  role : Option Role := none
  deriving DecidableEq

structure BoxItem where
  x : Number
  top : Number
  width : Number
  height : Number
  radius : Number
  stroke : Markup
  strokeWidth : Number
  deriving DecidableEq

structure RectsItem where
  fill : Markup
  rects : List Rect
  deriving DecidableEq

structure PathItem where
  d : Markup
  fill : Markup
  stroke : Option Markup := none
  strokeWidth : Option Number := none
  deriving DecidableEq

inductive LayoutItem
  | text (run : TextRun)
  | image (box : ImageBox)
  | box (box : BoxItem)
  | rects (item : RectsItem)
  | path (item : PathItem)
  deriving DecidableEq

structure LayoutPage where
  items : List LayoutItem
  title : Option Text := none
  deriving DecidableEq

structure Layout where
  width : Number
  height : Number
  pages : List LayoutPage
  title : Option Text := none
  deriving DecidableEq

def RENDERER_VERSION : Text := units "pdf-1"

def STATIONERY_RENDERER_VERSION : Text := units "pdf-2"

def POSTCARD_FRONT_RENDERER_VERSION : Text := units "pdf-3"

def SIGNATURE_RENDERER_VERSION : Text := units "pdf-4"

def PRINTABLE_RENDERER_VERSIONS : List Text :=
  [RENDERER_VERSION, STATIONERY_RENDERER_VERSION, POSTCARD_FRONT_RENDERER_VERSION, SIGNATURE_RENDERER_VERSION]

/-- The version a letter's preview records, by the theme of its stationery. -/
def rendererVersionFor (theme : Option Text) (signed : Bool) : Text :=
  if signed then SIGNATURE_RENDERER_VERSION
  else if theme.any (· != units "classic") then STATIONERY_RENDERER_VERSION
  else RENDERER_VERSION

theorem rendererVersionFor_printable (theme : Option Text) (signed : Bool) :
    rendererVersionFor theme signed ∈ PRINTABLE_RENDERER_VERSIONS := by
  unfold rendererVersionFor
  split_ifs <;> decide

theorem printable_plain {version : Text} (printable : version ∈ PRINTABLE_RENDERER_VERSIONS) : 60 ∉ version := by
  revert version
  decide

end LetterIRL.Render
