import LetterIRL.Layout.Paragraphs
import LetterIRL.Render.Items
import LetterIRL.Render.Qr

namespace LetterIRL.Render

open LetterIRL.Layout (inch WrappedLine)

/-! The strip at the foot of a gift postcard: its words, and its QR as rectangles. -/

/-- Where a postcard's message is drawn. -/
structure MessageBox where
  left : ℚ
  top : ℚ
  width : ℚ
  height : ℚ

def POSTCARD_BLEED : ℚ := inch 0.125

def POSTCARD_MESSAGE : MessageBox where
  left := POSTCARD_BLEED + inch 0.4
  top := POSTCARD_BLEED + inch 0.4
  width := inch (4.5 - 2 * 0.4)
  height := inch (6 - 2 * 0.4)

structure StripGeometry where
  height : ℚ
  rule : ℚ
  padTop : ℚ
  qr : ℚ
  gap : ℚ

def POSTCARD_STRIP : StripGeometry where
  height := inch 1.75
  rule := 1
  padTop := inch 0.14
  qr := inch 0.95
  gap := inch 0.18

structure StripStyle where
  size : ℚ
  pitch : ℚ

inductive StripKind
  | lead
  | plain
  | code
  deriving DecidableEq

def STRIP_STYLE : StripKind → StripStyle
  | .lead => { size := 10, pitch := 13.5 }
  | .plain => { size := 9, pitch := 12.15 }
  | .code => { size := 12, pitch := 16.2 }

structure StripLine where
  text : Text
  kind : StripKind

structure GiftStripCopy where
  lead : Text
  lines : List StripLine
  qrUrl : Text

structure GiftStripOverflow where
  overflow : ℚ

/-- What wraps the strip's words and encodes its address. -/
structure StripTools where
  wrapText : Text → ℚ → ℚ → List WrappedLine
  baselineOffset : ℚ → ℚ → ℚ
  qrMatrix : Text → QrMatrix

structure StripBlock where
  style : StripStyle
  wrapped : List WrappedLine

/-- An edge, rounded to a hundredth of a point. -/
def edge (value : ℚ) : ℚ := (⌊value * 100 + 1 / 2⌋ : ℤ) / 100

/-- A run's rectangle, its width and height taken back from its rounded edges. -/
def qrRect (left qrTop module : ℚ) (run : QrRun) : Rect :=
  let right := edge (left + (run.x + run.width) * module)
  let runTop := edge (qrTop + run.y * module)
  let bottom := edge (qrTop + (run.y + 1) * module)
  let left := edge (left + run.x * module)
  { x := .finite left, top := .finite runTop, width := .finite (edge (right - left)),
    height := .finite (edge (bottom - runTop)) }

def qrRects (left qrTop module : ℚ) (matrix : QrMatrix) : List Rect :=
  (qrRuns matrix).map (qrRect left qrTop module)

/-- The lines of a block, from where it begins; a blank one draws nothing. -/
def blockItems (tools : StripTools) (textLeft y : ℚ) (block : StripBlock) : List LayoutItem :=
  (block.wrapped.mapIdx fun index line =>
    if line.written then
      some (LayoutItem.text {
        font := .tinosRegular
        size := .finite block.style.size
        x := .finite textLeft
        baseline := .finite (y + index * block.style.pitch + tools.baselineOffset block.style.size block.style.pitch)
        text := line.drawn
        source := line.source })
    else none).reduceOption

def StripBlock.height (block : StripBlock) : ℚ := block.wrapped.length * block.style.pitch

/-- The blocks one under another. -/
def stripWords (tools : StripTools) (textLeft : ℚ) : ℚ → List StripBlock → List LayoutItem
  | _, [] => []
  | y, block :: rest => blockItems tools textLeft y block ++ stripWords tools textLeft (y + block.height) rest

/-- `layoutStrip` -/
def layoutStrip (tools : StripTools) (strip : GiftStripCopy) : Except GiftStripOverflow (List LayoutItem) :=
  let top := POSTCARD_MESSAGE.top + POSTCARD_MESSAGE.height - POSTCARD_STRIP.height
  let rowTop := top + POSTCARD_STRIP.rule + POSTCARD_STRIP.padTop
  let room := POSTCARD_STRIP.height - POSTCARD_STRIP.rule - POSTCARD_STRIP.padTop
  let textLeft := POSTCARD_MESSAGE.left + POSTCARD_STRIP.qr + POSTCARD_STRIP.gap
  let textWidth := POSTCARD_MESSAGE.width - POSTCARD_STRIP.qr - POSTCARD_STRIP.gap
  let lines : List StripLine := { text := strip.lead, kind := .lead } :: strip.lines
  let blocks := lines.map fun line =>
    { style := STRIP_STYLE line.kind, wrapped := tools.wrapText line.text (STRIP_STYLE line.kind).size textWidth : StripBlock }
  let textHeight := (blocks.map StripBlock.height).sum
  let row := max POSTCARD_STRIP.qr textHeight
  if room + 1 / 1000000 < row then .error { overflow := row - room }
  else
    let rule : Rect :=
      { x := .finite POSTCARD_MESSAGE.left, top := .finite top, width := .finite POSTCARD_MESSAGE.width,
        height := .finite POSTCARD_STRIP.rule }
    let matrix := tools.qrMatrix strip.qrUrl
    let module := POSTCARD_STRIP.qr / (matrix.count + 2 * QUIET_ZONE_MODULES)
    let qrTop := rowTop + (row - POSTCARD_STRIP.qr) / 2
    .ok ([.rects { fill := ⟨units "#b9ad99", by decide⟩, rects := [rule] },
        .rects { fill := ⟨units "#000", by decide⟩, rects := qrRects POSTCARD_MESSAGE.left qrTop module matrix }] ++
      stripWords tools textLeft (rowTop + (row - textHeight) / 2) blocks)

theorem edge_mono {a b : ℚ} (below : a ≤ b) : edge a ≤ edge b := by
  have floors : ⌊a * 100 + 1 / 2⌋ ≤ ⌊b * 100 + 1 / 2⌋ := Int.floor_le_floor (by linarith)
  have cast : ((⌊a * 100 + 1 / 2⌋ : ℤ) : ℚ) ≤ (⌊b * 100 + 1 / 2⌋ : ℤ) := by exact_mod_cast floors
  unfold edge
  linarith

/-- An edge is moved by half a hundredth of a point at most. -/
theorem edge_near (value : ℚ) : value - 1 / 200 ≤ edge value ∧ edge value ≤ value + 1 / 200 := by
  have below := Int.floor_le (value * 100 + 1 / 2)
  have above := Int.lt_floor_add_one (value * 100 + 1 / 2)
  unfold edge
  constructor <;> linarith

/-- The width between two rounded edges is itself a number of hundredths. -/
theorem edge_sub (a b : ℚ) : edge (edge a - edge b) = edge a - edge b := by
  have whole : (edge a - edge b) * 100 + 1 / 2 = ((⌊a * 100 + 1 / 2⌋ - ⌊b * 100 + 1 / 2⌋ : ℤ) : ℚ) + 1 / 2 := by
    unfold edge
    push_cast
    ring
  have half : ⌊(1 : ℚ) / 2⌋ = 0 := by norm_num
  rw [edge, whole, Int.floor_intCast_add, half, add_zero]
  unfold edge
  push_cast
  ring

/-- The sides of a rectangle as it is drawn: where it begins, and where its width and height end it. -/
structure Rect.Sides (rect : Rect) (left right top bottom : ℚ) : Prop where
  left : rect.x = .finite left
  right : rect.x.add rect.width = .finite right
  top : rect.top = .finite top
  bottom : rect.top.add rect.height = .finite bottom

/-- A point is drawn on by a rectangle. -/
def Rect.Covers (rect : Rect) (x y : ℚ) : Prop :=
  ∃ left right top bottom, rect.Sides left right top bottom ∧ left ≤ x ∧ x ≤ right ∧ top ≤ y ∧ y ≤ bottom

/-- Two rectangles share no more than an edge. -/
def Rect.Clear (one two : Rect) : Prop :=
  ∃ left right top bottom left' right' top' bottom', one.Sides left right top bottom ∧
    two.Sides left' right' top' bottom' ∧ (right ≤ left' ∨ right' ≤ left ∨ bottom ≤ top' ∨ bottom' ≤ top)

section Printed

variable (left qrTop module : ℚ)

/-- The rounded edge before a column of the symbol, and before a row of it. -/
def columnEdge (col : Nat) : ℚ := edge (left + (col + QUIET_ZONE_MODULES : Nat) * module)

def rowEdge (row : Nat) : ℚ := edge (qrTop + (row + QUIET_ZONE_MODULES : Nat) * module)

/-- The symbol as it is drawn: the rounded squares of its dark modules, meeting at their edges, and nothing else. -/
structure PrintsModules (matrix : QrMatrix) (rects : List Rect) : Prop where
  /-- The part drawn on is that of the dark modules. -/
  area : ∀ x y, (∃ rect ∈ rects, rect.Covers x y) ↔ ∃ row col, matrix.Dark row col ∧ columnEdge left module col ≤ x ∧
    x ≤ columnEdge left module (col + 1) ∧ rowEdge qrTop module row ≤ y ∧ y ≤ rowEdge qrTop module (row + 1)
  clear : rects.Pairwise Rect.Clear
  quiet : ∀ rect ∈ rects, ∃ l r t b, rect.Sides l r t b ∧ left + QUIET_ZONE_MODULES * module - 1 / 200 ≤ l ∧
    r ≤ left + (matrix.count + QUIET_ZONE_MODULES) * module + 1 / 200 ∧ qrTop + QUIET_ZONE_MODULES * module - 1 / 200 ≤ t ∧
    b ≤ qrTop + (matrix.count + QUIET_ZONE_MODULES) * module + 1 / 200

end Printed

variable {left qrTop module : ℚ} {matrix : QrMatrix} {run above below : QrRun} {row col : Nat}

theorem columnEdge_mono (left : ℚ) (positive : 0 < module) {a b : Nat} (ordered : a ≤ b) :
    columnEdge left module a ≤ columnEdge left module b := by
  have cast : ((a + QUIET_ZONE_MODULES : Nat) : ℚ) ≤ (b + QUIET_ZONE_MODULES : Nat) := by
    exact_mod_cast Nat.add_le_add_right ordered _
  have scaled := mul_le_mul_of_nonneg_right cast positive.le
  exact edge_mono (by linarith)

theorem rowEdge_mono (positive : 0 < module) {a b : Nat} (ordered : a ≤ b) :
    rowEdge qrTop module a ≤ rowEdge qrTop module b := columnEdge_mono _ positive ordered

/-- A run is drawn between the rounded edges of its modules. -/
theorem qrRect_sides {at_ start stop : Nat} (spans : run.Spans matrix at_ start stop) :
    (qrRect left qrTop module run).Sides (columnEdge left module start) (columnEdge left module stop)
      (rowEdge qrTop module at_) (rowEdge qrTop module (at_ + 1)) := by
  have right : ((run.x : ℚ) + run.width) = (stop + QUIET_ZONE_MODULES : Nat) := by exact_mod_cast spans.right
  have bottom : ((run.y : ℚ) + 1) = (at_ + 1 + QUIET_ZONE_MODULES : Nat) := by
    rw [spans.y]
    push_cast
    ring
  refine ⟨?_, ?_, ?_, ?_⟩
  · simp only [qrRect, columnEdge, spans.x]
  · simp only [qrRect, columnEdge, Number.add, edge_sub, right]
    rw [add_sub_cancel]
  · simp only [qrRect, rowEdge, spans.y]
  · simp only [qrRect, rowEdge, Number.add, edge_sub, bottom]
    rw [add_sub_cancel]

theorem Rect.Sides.unique {rect : Rect} {l r t b l' r' t' b' : ℚ} (one : rect.Sides l r t b) (two : rect.Sides l' r' t' b') :
    l = l' ∧ r = r' ∧ t = t' ∧ b = b' :=
  ⟨Number.finite.inj (one.left.symm.trans two.left), Number.finite.inj (one.right.symm.trans two.right),
    Number.finite.inj (one.top.symm.trans two.top), Number.finite.inj (one.bottom.symm.trans two.bottom)⟩

theorem qrRect_spans (member : run ∈ qrRuns matrix) : ∃ at_ start stop, run.Spans matrix at_ start stop := by
  obtain ⟨at_, start, stop, spans, _⟩ := (qrRuns_scanned matrix).spans run member
  exact ⟨at_, start, stop, spans⟩

/-- A point between two edges is between the edges of one column. -/
theorem column_between {start stop : Nat} {x : ℚ} (some_ : start < stop) (after : columnEdge left module start ≤ x)
    (before : x ≤ columnEdge left module stop) : ∃ col, start ≤ col ∧ col < stop ∧ columnEdge left module col ≤ x ∧
      x ≤ columnEdge left module (col + 1) := by
  induction stop with
  | zero => omega
  | succ stop ih =>
    by_cases last : columnEdge left module stop ≤ x
    · exact ⟨stop, by omega, by omega, last, before⟩
    · have more : start < stop := by
        by_contra none_
        have same : stop = start := by omega
        rw [same] at last
        exact last after
      obtain ⟨col, least, most, found⟩ := ih more (not_le.mp last).le
      exact ⟨col, least, by omega, found⟩

theorem qrRects_area (positive : 0 < module) (x y : ℚ) :
    (∃ rect ∈ qrRects left qrTop module matrix, rect.Covers x y) ↔ ∃ row col, matrix.Dark row col ∧
      columnEdge left module col ≤ x ∧ x ≤ columnEdge left module (col + 1) ∧ rowEdge qrTop module row ≤ y ∧
      y ≤ rowEdge qrTop module (row + 1) := by
  constructor
  · rintro ⟨rect, member, l, r, t, b, sides, afterLeft, beforeRight, afterTop, beforeBottom⟩
    obtain ⟨run, inRuns, rfl⟩ := List.mem_map.mp member
    obtain ⟨at_, start, stop, spans⟩ := qrRect_spans inRuns
    obtain ⟨rfl, rfl, rfl, rfl⟩ := sides.unique (qrRect_sides spans)
    obtain ⟨col, least, most, afterCol, beforeCol⟩ := column_between spans.some_ afterLeft beforeRight
    exact ⟨at_, col, (qrRuns_holds at_ col).mp ⟨run, inRuns, spans.holds.mpr ⟨rfl, least, most⟩⟩, afterCol, beforeCol,
      afterTop, beforeBottom⟩
  · rintro ⟨row, col, dark, afterLeft, beforeRight, afterTop, beforeBottom⟩
    obtain ⟨run, inRuns, holds⟩ := (qrRuns_holds row col).mpr dark
    obtain ⟨at_, start, stop, spans⟩ := qrRect_spans inRuns
    obtain ⟨rfl, least, most⟩ := spans.holds.mp holds
    exact ⟨_, List.mem_map_of_mem inRuns, _, _, _, _, qrRect_sides spans,
      (columnEdge_mono _ positive least).trans afterLeft, beforeRight.trans (columnEdge_mono _ positive most), afterTop,
      beforeBottom⟩

theorem qrRect_clear (positive : 0 < module) {one two : QrRun} (inOne : one ∈ qrRuns matrix) (inTwo : two ∈ qrRuns matrix)
    (apart : one.Apart two) : (qrRect left qrTop module one).Clear (qrRect left qrTop module two) := by
  obtain ⟨at_, start, stop, spans⟩ := qrRect_spans inOne
  obtain ⟨at', start', stop', spans'⟩ := qrRect_spans inTwo
  refine ⟨_, _, _, _, _, _, _, _, qrRect_sides spans, qrRect_sides spans', ?_⟩
  rcases lt_trichotomy at_ at' with higher | same | lower
  · exact .inr (.inr (.inl (rowEdge_mono positive higher)))
  · have row_ : one.y = two.y := by rw [spans.y, spans'.y, same]
    have gap := apart row_
    have right := spans.right
    have x := spans'.x
    exact .inl (columnEdge_mono _ positive (by omega))
  · exact .inr (.inr (.inr (rowEdge_mono positive lower)))

theorem qrRect_quiet (positive : 0 < module) (inRuns : run ∈ qrRuns matrix) :
    ∃ l r t b, (qrRect left qrTop module run).Sides l r t b ∧ left + QUIET_ZONE_MODULES * module - 1 / 200 ≤ l ∧
      r ≤ left + (matrix.count + QUIET_ZONE_MODULES) * module + 1 / 200 ∧
      qrTop + QUIET_ZONE_MODULES * module - 1 / 200 ≤ t ∧
      b ≤ qrTop + (matrix.count + QUIET_ZONE_MODULES) * module + 1 / 200 := by
  obtain ⟨at_, start, stop, spans⟩ := qrRect_spans inRuns
  have low (origin : ℚ) (index : Nat) : origin + QUIET_ZONE_MODULES * module - 1 / 200 ≤ columnEdge origin module index := by
    have first := (edge_near (origin + (0 + QUIET_ZONE_MODULES : Nat) * module)).1
    have more := columnEdge_mono origin positive (Nat.zero_le index)
    rw [Nat.zero_add] at first
    have base : columnEdge origin module 0 = edge (origin + (QUIET_ZONE_MODULES : Nat) * module) := by
      rw [columnEdge, Nat.zero_add]
    linarith
  have high (origin : ℚ) {index : Nat} (within : index ≤ matrix.count) :
      columnEdge origin module index ≤ origin + (matrix.count + QUIET_ZONE_MODULES) * module + 1 / 200 := by
    have last := (edge_near (origin + (matrix.count + QUIET_ZONE_MODULES : Nat) * module)).2
    have less := columnEdge_mono origin positive within
    have base : columnEdge origin module matrix.count = edge (origin + (matrix.count + QUIET_ZONE_MODULES : Nat) * module) := rfl
    push_cast at last base
    linarith
  exact ⟨_, _, _, _, qrRect_sides spans, low left start, high left spans.within, low qrTop at_,
    high qrTop (Nat.succ_le_of_lt spans.inRow)⟩

theorem qrRects_print (positive : 0 < module) : PrintsModules left qrTop module matrix (qrRects left qrTop module matrix) where
  area := qrRects_area positive
  clear := by
    refine List.pairwise_map.mpr ?_
    exact (qrRuns_scanned matrix).apart.imp_of_mem fun inOne inTwo apart => qrRect_clear positive inOne inTwo apart
  quiet := fun rect member => by
    obtain ⟨run, inRuns, rfl⟩ := List.mem_map.mp member
    exact qrRect_quiet positive inRuns

/-- The rectangle of the run over a module, and that of the run over the one below it, meet at one edge. -/
theorem qrRect_meets (inAbove : above ∈ qrRuns matrix) (inBelow : below ∈ qrRuns matrix) (holds : above.Holds row col)
    (holds' : below.Holds (row + 1) col) : ∃ bottom, (qrRect left qrTop module below).top = .finite bottom ∧
      (qrRect left qrTop module above).top.add (qrRect left qrTop module above).height = .finite bottom := by
  obtain ⟨at_, start, stop, spans⟩ := qrRect_spans inAbove
  obtain ⟨at', start', stop', spans'⟩ := qrRect_spans inBelow
  obtain ⟨rfl, _⟩ := spans.holds.mp holds
  obtain ⟨rfl, _⟩ := spans'.holds.mp holds'
  exact ⟨_, (qrRect_sides spans').top, (qrRect_sides spans).bottom⟩

theorem QrRun.Apart.disjoint {one two : QrRun} (apart : one.Apart two) (row col : Nat) :
    ¬ (one.Holds row col ∧ two.Holds row col) := by
  rintro ⟨⟨y, _, right⟩, y', left', _⟩
  have gap := apart (y.trans y'.symm)
  omega

/-- A strip's QR is its rectangles, at the size that fits it and the place its words leave it. -/
theorem layoutStrip_rects {tools : StripTools} {strip : GiftStripCopy} {items : List LayoutItem}
    (laid : layoutStrip tools strip = .ok items) : ∃ qrTop module fill, 0 < module ∧
      module * ((tools.qrMatrix strip.qrUrl).count + 2 * QUIET_ZONE_MODULES) = POSTCARD_STRIP.qr ∧
      items[1]? = some (.rects { fill, rects := qrRects POSTCARD_MESSAGE.left qrTop module (tools.qrMatrix strip.qrUrl) }) := by
  simp only [layoutStrip] at laid
  split at laid
  · nomatch laid
  · obtain rfl := Except.ok.inj laid
    have sides : (0 : ℚ) < (tools.qrMatrix strip.qrUrl).count + 2 * QUIET_ZONE_MODULES := by
      have quiet : (QUIET_ZONE_MODULES : ℚ) = 4 := by norm_num [QUIET_ZONE_MODULES]
      have count : (0 : ℚ) ≤ (tools.qrMatrix strip.qrUrl).count := Nat.cast_nonneg _
      linarith
    have room : (0 : ℚ) < POSTCARD_STRIP.qr := by norm_num [POSTCARD_STRIP, inch]
    exact ⟨_, _, _, div_pos room sides, div_mul_cancel₀ _ sides.ne', rfl⟩

/-- Whatever the symbol, its size and its place: the runs are its dark modules, and what is drawn of them meets at
every edge two of them share. -/
theorem qr_printed (matrix : QrMatrix) (left qrTop module : ℚ) (positive : 0 < module) :
    (∀ run ∈ qrRuns matrix, run.InSymbol matrix) ∧
      (∀ row col, (∃ run ∈ qrRuns matrix, run.Holds row col) ↔ matrix.Dark row col) ∧
      (qrRuns matrix).Pairwise QrRun.Apart ∧
      (qrRuns matrix).Pairwise (fun one two => ∀ row col, ¬ (one.Holds row col ∧ two.Holds row col)) ∧
      PrintsModules left qrTop module matrix (qrRects left qrTop module matrix) ∧
      (∀ run ∈ qrRuns matrix, ∀ row col, run.Holds row col → matrix.Dark row (col + 1) → run.Holds row (col + 1)) ∧
      (∀ above ∈ qrRuns matrix, ∀ below ∈ qrRuns matrix, ∀ row col, above.Holds row col → below.Holds (row + 1) col →
        ∃ bottom, (qrRect left qrTop module below).top = .finite bottom ∧
          (qrRect left qrTop module above).top.add (qrRect left qrTop module above).height = .finite bottom) ∧
      ∀ tools strip items, layoutStrip tools strip = .ok items → ∃ qrTop module fill, 0 < module ∧
        module * ((tools.qrMatrix strip.qrUrl).count + 2 * QUIET_ZONE_MODULES) = POSTCARD_STRIP.qr ∧
        items[1]? = some (.rects { fill, rects := qrRects POSTCARD_MESSAGE.left qrTop module (tools.qrMatrix strip.qrUrl) }) := by
  have apart := (qrRuns_scanned matrix).apart
  refine ⟨fun run member => qrRuns_inSymbol member, qrRuns_holds, apart, apart.imp QrRun.Apart.disjoint,
    qrRects_print positive, fun run member row col holds dark => qrRuns_next member holds dark, ?_, ?_⟩
  · intro above inAbove below inBelow row col holds holds'
    exact qrRect_meets inAbove inBelow holds holds'
  · intro tools strip items laid
    exact layoutStrip_rects laid

/-- A symbol with a module alone and a run of two, drawn a third of a point to the module. -/
theorem bar_printed : let matrix : QrMatrix := { count := 3, isDark := fun row col => row == col || row == 0 && col == 1 }
    (0 : ℚ) < 1 / 3 ∧ qrRuns matrix = [⟨4, 4, 2⟩, ⟨5, 5, 1⟩, ⟨6, 6, 1⟩] ∧
      PrintsModules 0 0 (1 / 3) matrix (qrRects 0 0 (1 / 3) matrix) := by
  intro matrix
  have positive : (0 : ℚ) < 1 / 3 := by norm_num
  obtain ⟨_, _, _, _, printed, _⟩ := qr_printed matrix 0 0 (1 / 3) positive
  exact ⟨positive, by decide, printed⟩

end LetterIRL.Render
