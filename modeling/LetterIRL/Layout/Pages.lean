import LetterIRL.Layout.Paragraphs
import LetterIRL.Lib.Paging

namespace LetterIRL.Layout
open Lib

/-! `layoutLetter`: a letter's lines, its photo and its signature over its pages. -/

/-- How far below its baseline a line is ruled. -/
def RULE_DROP : ℚ := 1.5

inductive LetterLayoutType
  | textOnly
  | headerImage
  | inlineImage
  deriving DecidableEq

/-- A letter's face, what its theme draws, whether a headline stands above its body, and whether its lines are ruled. -/
structure Stationery (Art : Type) where
  face : Face
  items : List Art
  headline : Bool
  ruled : Bool

/-- How far below `BODY_TOP` the body starts. -/
def Stationery.bodyOffset {Art : Type} (stationery : Stationery Art) : ℚ :=
  if stationery.headline then HEADLINE_LINES * LINE_PITCH else 0

structure Signature where
  image : RenderImage
  closingParagraph : Int

structure LetterContent (Art : Type) where
  text : Text
  layoutType : LetterLayoutType
  image : Option RenderImage
  stationery : Stationery Art
  signature : Option Signature

inductive LayoutItem (Art : Type)
  | art (item : Art)
  | rules (heights : List ℚ)
  | text (x baseline : ℚ) (text source : Text)
  | image (x top width height : ℚ) (image : RenderImage) (signature : Bool)
  deriving DecidableEq

structure LayoutPage (Art : Type) where
  items : List (LayoutItem Art)
  linesUsed : Nat
  linesAvailable : Nat
  deriving DecidableEq

structure LetterLayout (Art : Type) where
  width : ℚ
  height : ℚ
  pages : List (LayoutPage Art)
  overflowLines : Nat
  truncated : Bool
  deriving DecidableEq

/-- A wrapped line, or one of the lines a signature's band takes. -/
structure LetterLine extends WrappedLine where
  signature : Bool
  deriving DecidableEq

def WrappedLine.inLetter (line : WrappedLine) : LetterLine := { line with signature := false }

def bandLine : LetterLine where
  source := []
  drawn := []
  signature := true

/-- What the layout of a letter starts from. -/
structure PreparedLetter (Art : Type) where
  stationery : Stationery Art
  firstPageItems : List (LayoutItem Art)
  textTop : ℚ
  image : Option RenderImage
  inlineBox : Option Box
  lines : List LetterLine
  signature : Option (RenderImage × Box)
  truncated : Bool

/-- A stretch of a page an image covers. -/
structure Band where
  top : ℚ
  bottom : ℚ

section
variable {Art : Type}

def LetterContent.bodyTop (content : LetterContent Art) : ℚ := BODY_TOP + content.stationery.bodyOffset

def LetterContent.headerBox (content : LetterContent Art) : Option (RenderImage × Box) :=
  if content.layoutType = .headerImage then
    content.image.map fun image => (image, fitImage image HEADER_IMAGE_MAX_HEIGHT)
  else none

def LetterContent.inlineBox (content : LetterContent Art) : Option Box :=
  if content.layoutType = .inlineImage then content.image.map (fitImage · INLINE_IMAGE_MAX_HEIGHT) else none

def centred (box : Box) : ℚ := SIDE_MARGIN + (CONTENT_WIDTH - box.width) / 2

def LetterContent.firstPageItems (content : LetterContent Art) : List (LayoutItem Art) :=
  content.stationery.items.map .art ++ match content.headerBox with
    | none => []
    | some (image, box) => [.image (centred box) content.bodyTop box.width box.height image false]

def LetterContent.textTop (content : LetterContent Art) : ℚ :=
  match content.headerBox with
  | none => content.bodyTop
  | some (_, box) => content.bodyTop + box.height + IMAGE_GAP

/-- How many lines stand before a signature's band: every line through the closing's paragraph. -/
def bandAfter (signature : Signature) (paragraphs : List (List WrappedLine)) : Nat :=
  (paragraphs.take (signature.closingParagraph.toNat + 1)).flatten.length

/-- The lines with the band after the first `after` of them. -/
def withBand (lines : List LetterLine) (after : Nat) : List LetterLine :=
  lines.take after ++ List.replicate SIGNATURE_LINES bandLine ++ lines.drop after

def letterLines (signature : Option Signature) (paragraphs : List (List WrappedLine)) : List LetterLine :=
  let lines := paragraphs.flatten.map WrappedLine.inLetter
  match signature with
  | none => lines
  | some signature => withBand lines (bandAfter signature paragraphs)

def prepareLetter (content : LetterContent Art) (maxLines : Option Nat) : PreparedLetter Art :=
  let wrapped := wrapParagraphs content.stationery.face content.text maxLines
  { stationery := content.stationery
    firstPageItems := content.firstPageItems
    textTop := content.textTop
    image := content.image
    inlineBox := content.inlineBox
    lines := letterLines content.signature wrapped.paragraphs
    signature := content.signature.map fun signature => (signature.image, fitSignature signature.image)
    truncated := wrapped.truncated }

/-- How many of a page's lines stay on it, so that no break parts a signature from the closing it is under. -/
def keepSignatureWithClosing (lines : List LetterLine) (start count : Nat) : Nat :=
  match lines.findIdx? LetterLine.signature with
  | none => count
  | some 0 => count
  | some (closing + 1) =>
    let stop := start + count
    if start < closing ∧ closing < stop ∧ stop < closing + 1 + SIGNATURE_LINES then closing - start else count

/-- The rules under the lines a page has room for, where nothing covers them. -/
def ruledLines (top bottom baseline : ℚ) (covered : List Band) : List ℚ :=
  let tops := (List.range (linesBetween top bottom)).map fun index => top + index * LINE_PITCH
  (tops.filter fun lineTop =>
    !covered.any fun band => decide (band.top < lineTop + LINE_PITCH) && decide (lineTop < band.bottom)).map fun lineTop =>
      lineTop + baseline + RULE_DROP

namespace PreparedLetter

def baseline (letter : PreparedLetter Art) : ℚ := letter.stationery.face.baselineOffset LINE_PITCH

/-- Where the signature's band starts among a page's lines, when it is on this page. -/
def band (letter : PreparedLetter Art) (lines : List LetterLine) : Option Nat :=
  if letter.signature.isSome then lines.findIdx? LetterLine.signature else none

/-- Each line of a page that draws something, at its own height. -/
def textItems (letter : PreparedLetter Art) (top : ℚ) (lines : List LetterLine) : List (LayoutItem Art) :=
  lines.zipIdx.filterMap fun (line, index) =>
    if isBlank line.drawn then none
    else some (.text SIDE_MARGIN (top + index * LINE_PITCH + letter.baseline) line.drawn line.source)

def covered (letter : PreparedLetter Art) (top : ℚ) (lines : List LetterLine) (inlineTop : Option ℚ) : List Band :=
  (match letter.inlineBox, inlineTop with
    | some box, some inlineTop => [{ top := inlineTop, bottom := inlineTop + box.height }]
    | _, _ => []) ++
  match letter.band lines with
  | none => []
  | some band =>
    let bandTop := top + band * LINE_PITCH
    [{ top := bandTop + hair, bottom := bandTop + SIGNATURE_LINES * LINE_PITCH - hair }]

def ruleItems (letter : PreparedLetter Art) (top : ℚ) (lines : List LetterLine) (inlineTop : Option ℚ) :
    List (LayoutItem Art) :=
  let rules := ruledLines top BODY_BOTTOM letter.baseline (letter.covered top lines inlineTop)
  if letter.stationery.ruled && !rules.isEmpty then [.rules rules] else []

def signatureItems (letter : PreparedLetter Art) (top : ℚ) (lines : List LetterLine) : List (LayoutItem Art) :=
  match letter.signature, letter.band lines with
  | some (image, box), some band =>
    [.image SIDE_MARGIN (top + band * LINE_PITCH + SIGNATURE_PADDING) box.width box.height image true]
  | _, _ => []

def inlineItems (letter : PreparedLetter Art) (inlineTop : Option ℚ) : List (LayoutItem Art) :=
  match letter.inlineBox, letter.image, inlineTop with
  | some box, some image, some inlineTop => [.image (centred box) inlineTop box.width box.height image false]
  | _, _, _ => []

/-- One page's items. -/
def pageItems (letter : PreparedLetter Art) (start : List (LayoutItem Art)) (top : ℚ) (lines : List LetterLine)
    (inlineTop : Option ℚ) : List (LayoutItem Art) :=
  start ++ letter.ruleItems top lines inlineTop ++ letter.textItems top lines ++ letter.signatureItems top lines ++
    letter.inlineItems inlineTop

/-- The room kept for the enclosed image and the gap above it. -/
def reserved (letter : PreparedLetter Art) : ℚ := (letter.inlineBox.map fun box => IMAGE_GAP + box.height).getD 0

def layoutOnePage (letter : PreparedLetter Art) : LetterLayout Art :=
  let inlineTop := letter.inlineBox.map fun _ => letter.textTop + letter.lines.length * LINE_PITCH + IMAGE_GAP
  let linesAvailable := ⌊(BODY_BOTTOM - letter.textTop - letter.reserved + hair) / LINE_PITCH⌋₊
  { width := PAGE_WIDTH
    height := PAGE_HEIGHT
    pages := [{
      items := letter.pageItems letter.firstPageItems letter.textTop letter.lines inlineTop
      linesUsed := letter.lines.length
      linesAvailable }]
    overflowLines := letter.lines.length - linesAvailable
    truncated := false }

/-- The lines of one page, and where they start. -/
structure Placed where
  top : ℚ
  lines : List LetterLine

def pageTop (letter : PreparedLetter Art) (index : Nat) : ℚ := if index = 0 then letter.textTop else CONTINUATION_TOP

/-- The lines a flowing letter lays over its pages: a later page never starts with the blank lines between paragraphs. -/
def galley (letter : PreparedLetter Art) : Galley LetterLine where
  lines := letter.lines
  dropped := fun line => isBlank line.drawn && !line.signature
  room := fun index => linesBetween (letter.pageTop index) BODY_BOTTOM
  keep := keepSignatureWithClosing letter.lines

def placedOf (letter : PreparedLetter Art) (spans : List Span) : List Placed :=
  spans.mapIdx fun index span =>
    { top := letter.pageTop index, lines := (letter.lines.drop span.start).take (span.stop - span.start) }

/-- The pages with the enclosed image on one of them, and how many lines the letter is over by. -/
structure Flowed where
  placed : List Placed
  image : Option (Nat × ℚ)
  overflowLines : Nat

/-- The enclosed image: after the last line, at the top of a page of its own, or past the page. -/
def placeImage (box : Box) (maxPages : Nat) (placed : List Placed) (overflowLines : Nat) : Flowed :=
  let ending := placed.getLast?.getD { top := 0, lines := [] }
  let after := ending.top + ending.lines.length * LINE_PITCH + IMAGE_GAP
  if overflowLines = 0 ∧ after + box.height ≤ BODY_BOTTOM + hair then
    { placed, image := some (placed.length - 1, after), overflowLines }
  else if overflowLines = 0 ∧ placed.length < maxPages then
    { placed := placed ++ [{ top := CONTINUATION_TOP, lines := [] }]
      image := some (placed.length, CONTINUATION_TOP)
      overflowLines }
  else
    { placed
      image := some (placed.length - 1, after)
      overflowLines := ending.lines.length - linesBetween ending.top (BODY_BOTTOM - (IMAGE_GAP + box.height)) }

def flow (letter : PreparedLetter Art) (maxPages : Nat) : Flowed :=
  let laid := letter.galley.lay maxPages 0 0
  let placed := letter.placedOf laid.1
  match letter.inlineBox with
  | none => { placed, image := none, overflowLines := laid.2 }
  | some box => placeImage box maxPages placed laid.2

def flowedPage (letter : PreparedLetter Art) (image : Option (Nat × ℚ)) (index : Nat) (page : Placed) : LayoutPage Art :=
  let inlineTop := (image.filter fun image => image.1 = index).map (·.2)
  let kept := if inlineTop.isSome then letter.reserved else 0
  { items := letter.pageItems (if index = 0 then letter.firstPageItems else []) page.top page.lines inlineTop
    linesUsed := page.lines.length
    linesAvailable := linesBetween page.top (BODY_BOTTOM - kept) }

/-- A letter too long for one page, over up to `maxPages` pages. -/
def flowPages (letter : PreparedLetter Art) (maxPages : Nat) : LetterLayout Art :=
  let flowed := letter.flow maxPages
  { width := PAGE_WIDTH
    height := PAGE_HEIGHT
    pages := flowed.placed.mapIdx (letter.flowedPage flowed.image)
    overflowLines := flowed.overflowLines
    truncated := false }

end PreparedLetter

/-- The layout of a letter on at most `maxPages` pages, its text wrapped to so many lines. -/
def layoutWithin (content : LetterContent Art) (maxLines : Option Nat) (maxPages : Nat) : LetterLayout Art :=
  let letter := prepareLetter content maxLines
  let single := letter.layoutOnePage
  let layout := if maxPages = 1 ∨ single.overflowLines = 0 then single else letter.flowPages maxPages
  if letter.truncated then { layout with overflowLines := max 1 layout.overflowLines, truncated := true } else layout

/-- `layoutLetter`; none where it throws its range error. -/
def layoutLetter (content : LetterContent Art) (maxPages : Nat) : Option (LetterLayout Art) :=
  if maxPages < 1 ∨ MAX_LETTER_PAGES < maxPages then none
  else some (layoutWithin content (some (LINE_BUDGET_PER_PAGE * maxPages)) maxPages)

end

end LetterIRL.Layout
