import LetterIRL.Render.Canonical

namespace LetterIRL.Render

open Lib.Json Photos

/-! A layout's fingerprint, and what of the layout it settles. -/

def LAYOUT_ENGINE_VERSION : List Char := "layout-1".toList

def LAYOUT_FINGERPRINT_SCHEME : List Char := "fp1".toList

def FontName.text : FontName → String
  | .tinosRegular => "Tinos-Regular"
  | .cousineRegular => "Cousine-Regular"
  | .caveatRegular => "Caveat-Regular"

def utf8 (text : List Char) : Buffer := (String.ofList text).toUTF8.data.toList

section

variable (sha256 : Buffer → List Char) (fontBytes : FontName → Buffer)

/-- `fontDigests()` -/
def fontDigests : Js :=
  .object ([FontName.tinosRegular, .cousineRegular, .caveatRegular].map fun name =>
    (name.text.toList, .string (sha256 (fontBytes name))))

/-- `layout.pages.map((page) => page.items)` -/
def drawnPages (layout : Js) : Js :=
  match layout.get "pages" with
  | .array pages => .array (pages.map (·.get "items"))
  | _ => .undefined

/-- The `drawn` of `layoutFingerprint`. -/
def drawn (layout : Js) (rendererVersion : List Char) : Js :=
  .object [("rendererVersion".toList, .string rendererVersion), ("engine".toList, .string LAYOUT_ENGINE_VERSION),
    ("fonts".toList, fontDigests sha256 fontBytes), ("width".toList, layout.get "width"),
    ("height".toList, layout.get "height"), ("pages".toList, drawnPages layout)]

def layoutFingerprint (layout : Js) (rendererVersion : List Char) : List Char :=
  LAYOUT_FINGERPRINT_SCHEME ++ ':' ::
    sha256 (utf8 (stringify ((canonical sha256 (drawn sha256 fontBytes layout rendererVersion)).getD .null)))

end

/-! A JavaScript value of a layout's type, as the layout it is. -/

def readNumber : Js → Option Number
  | .number value => some value
  | _ => none

def readNat : Js → Option Nat
  | .number (.finite value) => if value.den = 1 ∧ 0 ≤ value.num then some value.num.toNat else none
  | _ => none

def readText : Js → Option Text
  | .string text => some (utf16 text)
  | _ => none

def readMarkup : Js → Option Markup
  | .string text => if plain : 60 ∉ utf16 text then some ⟨utf16 text, plain⟩ else none
  | _ => none

def readBytes : Js → Option Buffer
  | .bytes bytes => some bytes
  | _ => none

/-- One of some values, by its name. -/
def readNamed {α : Type} (names : List (String × α)) : Js → Option α
  | .string text => (names.find? fun named => decide (named.1.toList = text)).map (·.2)
  | _ => none

def readFont : Js → Option FontName :=
  readNamed [("Tinos-Regular", .tinosRegular), ("Cousine-Regular", .cousineRegular), ("Caveat-Regular", .caveatRegular)]

def readMime : Js → Option ImageMime := readNamed [("image/jpeg", .jpeg), ("image/png", .png)]

def readRole : Js → Option Role := readNamed [("signature", .signature)]

/-- A field that may be left out. -/
def optional {α : Type} (read : Js → Option α) : Js → Option (Option α)
  | .undefined => some none
  | value => (read value).map some

def readList {α : Type} (read : Js → Option α) : Js → Option (List α)
  | .array items => items.mapM read
  | _ => none

def readRecord {α : Type} (read : Js → Option α) (value : Js) : Option α := if value.isRecord then read value else none

def readRect : Js → Option Rect :=
  readRecord fun value => do
    let x ← readNumber (value.get "x")
    let top ← readNumber (value.get "top")
    let width ← readNumber (value.get "width")
    let height ← readNumber (value.get "height")
    return ⟨x, top, width, height⟩

def readRenderImage : Js → Option RenderImage :=
  readRecord fun value => do
    let bytes ← readBytes (value.get "bytes")
    let mime ← readMime (value.get "mime")
    let width ← readNat (value.get "width")
    let height ← readNat (value.get "height")
    return ⟨bytes, mime, width, height⟩

def readTextRun (value : Js) : Option TextRun := do
  let font ← readFont (value.get "font")
  let size ← readNumber (value.get "size")
  let x ← readNumber (value.get "x")
  let baseline ← readNumber (value.get "baseline")
  let text ← readText (value.get "text")
  let source ← readText (value.get "source")
  let fill ← optional readMarkup (value.get "fill")
  return ⟨font, size, x, baseline, text, source, fill⟩

def readImageBox (value : Js) : Option ImageBox := do
  let x ← readNumber (value.get "x")
  let top ← readNumber (value.get "top")
  let width ← readNumber (value.get "width")
  let height ← readNumber (value.get "height")
  let image ← readRenderImage (value.get "image")
  let clip ← optional readRect (value.get "clip")
  let role ← optional readRole (value.get "role")
  return ⟨x, top, width, height, image, clip, role⟩

def readBoxItem (value : Js) : Option BoxItem := do
  let x ← readNumber (value.get "x")
  let top ← readNumber (value.get "top")
  let width ← readNumber (value.get "width")
  let height ← readNumber (value.get "height")
  let radius ← readNumber (value.get "radius")
  let stroke ← readMarkup (value.get "stroke")
  let strokeWidth ← readNumber (value.get "strokeWidth")
  return ⟨x, top, width, height, radius, stroke, strokeWidth⟩

def readRectsItem (value : Js) : Option RectsItem := do
  let fill ← readMarkup (value.get "fill")
  let rects ← readList readRect (value.get "rects")
  return ⟨fill, rects⟩

def readPathItem (value : Js) : Option PathItem := do
  let d ← readMarkup (value.get "d")
  let fill ← readMarkup (value.get "fill")
  let stroke ← optional readMarkup (value.get "stroke")
  let strokeWidth ← optional readNumber (value.get "strokeWidth")
  return ⟨d, fill, stroke, strokeWidth⟩

inductive ItemKind
  | text
  | image
  | box
  | rects
  | path
  deriving DecidableEq

def readKind : Js → Option ItemKind :=
  readNamed [("text", .text), ("image", .image), ("box", .box), ("rects", .rects), ("path", .path)]

def readItem : Js → Option LayoutItem :=
  readRecord fun value => do
    match ← readKind (value.get "kind") with
    | .text => (readTextRun value).map .text
    | .image => (readImageBox value).map .image
    | .box => (readBoxItem value).map .box
    | .rects => (readRectsItem value).map .rects
    | .path => (readPathItem value).map .path

def readPage : Js → Option LayoutPage :=
  readRecord fun value => do
    let items ← readList readItem (value.get "items")
    let title ← optional readText (value.get "title")
    return ⟨items, title⟩

/-- The layout a value of its type is. -/
def layoutOf : Js → Option Layout :=
  readRecord fun value => do
    let width ← readNumber (value.get "width")
    let height ← readNumber (value.get "height")
    let pages ← readList readPage (value.get "pages")
    let title ← optional readText (value.get "title")
    return ⟨width, height, pages, title⟩

/-! The same to a thousandth of a point. -/

def Number.toThousandth (value : Number) : Number := value.rounded 1000

def Rect.toThousandth (rect : Rect) : Rect :=
  ⟨rect.x.toThousandth, rect.top.toThousandth, rect.width.toThousandth, rect.height.toThousandth⟩

def LayoutItem.toThousandth : LayoutItem → LayoutItem
  | .text run =>
    .text { run with size := run.size.toThousandth, x := run.x.toThousandth, baseline := run.baseline.toThousandth }
  | .image item =>
    .image { item with
      x := item.x.toThousandth, top := item.top.toThousandth, width := item.width.toThousandth,
      height := item.height.toThousandth, clip := item.clip.map Rect.toThousandth }
  | .box item =>
    .box { item with
      x := item.x.toThousandth, top := item.top.toThousandth, width := item.width.toThousandth,
      height := item.height.toThousandth, radius := item.radius.toThousandth,
      strokeWidth := item.strokeWidth.toThousandth }
  | .rects item => .rects { item with rects := item.rects.map Rect.toThousandth }
  | .path item => .path { item with strokeWidth := item.strokeWidth.map Number.toThousandth }

def LayoutPage.toThousandth (page : LayoutPage) : LayoutPage := { page with items := page.items.map LayoutItem.toThousandth }

def Layout.toThousandth (layout : Layout) : Layout :=
  { layout with
    width := layout.width.toThousandth, height := layout.height.toThousandth,
    pages := layout.pages.map LayoutPage.toThousandth }

variable {sha256 : Buffer → List Char} {fontBytes : FontName → Buffer} {α β : Type}

/-- Values that are read and have one canonical form are read as the same, up to `shown`. -/
def Reads (sha256 : Buffer → List Char) (read : Js → Option α) (shown : α → β) : Prop :=
  ∀ a b x y, read a = some x → read b = some y → canonical sha256 a = canonical sha256 b → shown x = shown y

/-- A reader of values that are there. -/
def Present (read : Js → Option α) : Prop := read .undefined = none

theorem canonical_none {value : Js} : canonical sha256 value = none ↔ value = .undefined := by
  cases value <;> simp [canonical]

theorem present_ne {read : Js → Option α} (present : Present read) {value : Js} {x : α} (found : read value = some x) :
    canonical sha256 value ≠ none := by
  intro absent
  rw [canonical_none.mp absent, present] at found
  nomatch found

theorem reads_number : Reads sha256 readNumber Number.toThousandth := by
  intro a b x y one two same
  cases a with
  | number value =>
    cases b with
    | number value' =>
      rw [← Option.some.inj one, ← Option.some.inj two]
      rw [canonical, canonical, Option.some.injEq] at same
      cases value with
      | finite q =>
        cases value' with
        | finite r =>
          have floor := decimal_injective (Value.number.inj same)
          simp only [Number.toThousandth, Number.rounded, floor]
        | nan => cases same
        | infinite positive => cases positive <;> cases same
      | nan =>
        cases value' with
        | finite r => cases same
        | nan => rfl
        | infinite positive => cases positive <;> exact absurd (Value.string.inj same) (by decide)
      | infinite positive =>
        cases value' with
        | finite r => cases positive <;> cases same
        | nan => cases positive <;> exact absurd (Value.string.inj same) (by decide)
        | infinite positive' =>
          cases positive <;> cases positive' <;> first | rfl | exact absurd (Value.string.inj same) (by decide)
    | _ => cases two
  | _ => cases one

theorem reads_nat : Reads sha256 readNat id := by
  intro a b x y one two same
  cases a with
  | number value =>
    cases b with
    | number value' =>
      cases value with
      | finite q =>
        cases value' with
        | finite r =>
          simp only [readNat] at one two
          split at one
          · rename_i whole
            split at two
            · rename_i whole'
              rw [canonical, canonical, Option.some.injEq] at same
              have floor := decimal_injective (Value.number.inj same)
              have exact_ (s : ℚ) (whole : s.den = 1) : ⌊s * 1000 + 1 / 2⌋ = s.num * 1000 := by
                have integer : s = (s.num : ℚ) := ((Rat.den_eq_one_iff s).mp whole).symm
                rw [Int.floor_eq_iff]
                rw [integer]
                push_cast
                constructor <;> norm_num
              rw [exact_ q whole.1, exact_ r whole'.1] at floor
              rw [← Option.some.inj one, ← Option.some.inj two]
              exact congrArg Int.toNat (by omega)
            · cases two
          · cases one
        | _ => cases two
      | _ => cases one
    | _ => cases two
  | _ => cases one

/-- A reader of strings reads one value of two with one canonical form. -/
theorem reads_strings {read : Js → Option α} (strings : ∀ value x, read value = some x → ∃ text, value = .string text) :
    Reads sha256 read id := by
  intro a b x y one two same
  obtain ⟨text, rfl⟩ := strings a x one
  obtain ⟨text', rfl⟩ := strings b y two
  rw [canonical, canonical, Option.some.injEq] at same
  rw [Value.string.inj same] at one
  exact Option.some.inj (one.symm.trans two)

theorem reads_text : Reads sha256 readText id := reads_strings fun value x read => by
  cases value with
  | string text => exact ⟨text, rfl⟩
  | _ => nomatch read

theorem reads_markup : Reads sha256 readMarkup id := reads_strings fun value x read => by
  cases value with
  | string text => exact ⟨text, rfl⟩
  | _ => nomatch read

theorem reads_named (names : List (String × α)) : Reads sha256 (readNamed names) id := reads_strings fun value x read => by
  cases value with
  | string text => exact ⟨text, rfl⟩
  | _ => nomatch read

theorem reads_bytes (injective : Function.Injective sha256) : Reads sha256 readBytes id := by
  intro a b x y one two same
  cases a with
  | bytes bytes =>
    cases b with
    | bytes bytes' =>
      rw [canonical, canonical, Option.some.injEq] at same
      have digest := Value.string.inj (Prod.mk.inj (List.cons.inj (Value.object.inj same)).1).2
      rw [← Option.some.inj one, ← Option.some.inj two]
      exact injective digest
    | _ => cases two
  | _ => cases one

theorem optional_cases {read : Js → Option α} {value : Js} {x : Option α} (found : optional read value = some x) :
    (value = .undefined ∧ x = none) ∨ (value ≠ .undefined ∧ ∃ y, read value = some y ∧ x = some y) := by
  cases value with
  | undefined => exact Or.inl ⟨rfl, (Option.some.inj found).symm⟩
  | _ =>
    obtain ⟨y, was, rfl⟩ := Option.map_eq_some_iff.mp found
    exact Or.inr ⟨Js.noConfusion, y, was, rfl⟩

theorem reads_optional {read : Js → Option α} {shown : α → β} (reads : Reads sha256 read shown) :
    Reads sha256 (optional read) (Option.map shown) := by
  intro a b x y one two same
  rcases optional_cases one with ⟨rfl, rfl⟩ | ⟨some_, x, was, rfl⟩
  · rcases optional_cases two with ⟨rfl, rfl⟩ | ⟨some_, _, _, rfl⟩
    · rfl
    · exact absurd (canonical_none.mp (same.symm.trans (canonical_none.mpr rfl))) some_
  · rcases optional_cases two with ⟨rfl, rfl⟩ | ⟨_, y, was', rfl⟩
    · exact absurd (canonical_none.mp (same.trans (canonical_none.mpr rfl))) some_
    · exact congrArg some (reads a b x y was was' same)

theorem getD_inj {a b : Option Value} (one : a ≠ none) (two : b ≠ none) (same : a.getD .null = b.getD .null) : a = b := by
  obtain ⟨x, rfl⟩ := Option.ne_none_iff_exists'.mp one
  obtain ⟨y, rfl⟩ := Option.ne_none_iff_exists'.mp two
  exact congrArg some same

theorem reads_list {read : Js → Option α} {shown : α → β} (reads : Reads sha256 read shown) (present : Present read) :
    Reads sha256 (readList read) (List.map shown) := by
  intro a b x y one two same
  cases a with
  | array items =>
    cases b with
    | array items' =>
      rw [canonical, canonical, Option.some.injEq] at same
      have each := Value.array.inj same
      clear same
      rw [readList] at one two
      induction items generalizing items' x y with
      | nil =>
        cases items' with
        | nil =>
          rw [← Option.some.inj one, ← Option.some.inj two]
        | cons item items' => cases each
      | cons item items ih =>
        cases items' with
        | nil => cases each
        | cons item' items' =>
          obtain ⟨head, tail⟩ := List.cons.inj each
          rw [List.mapM_cons] at one two
          obtain ⟨p, first, one⟩ := Option.bind_eq_some_iff.mp one
          obtain ⟨ps, rest, one⟩ := Option.bind_eq_some_iff.mp one
          obtain ⟨q, first', two⟩ := Option.bind_eq_some_iff.mp two
          obtain ⟨qs, rest', two⟩ := Option.bind_eq_some_iff.mp two
          rw [← Option.some.inj one, ← Option.some.inj two, List.map_cons, List.map_cons]
          have mine := reads item item' p q first first' (getD_inj (present_ne present first) (present_ne present first') head)
          rw [mine, ih ps qs rest items' rest' tail]
    | _ => cases two
  | _ => cases one

theorem readRecord_cases {read : Js → Option α} {value : Js} {x : α} (found : readRecord read value = some x) :
    value.isRecord = true ∧ read value = some x := by
  unfold readRecord at found
  split at found
  · exact ⟨‹_›, found⟩
  · nomatch found

/-- Two objects with one canonical form. -/
structure SameRecord (sha256 : Buffer → List Char) (a b : Js) : Prop where
  first : a.isRecord = true
  second : b.isRecord = true
  same : canonical sha256 a = canonical sha256 b

/-- A field is read alike of two objects with one canonical form. -/
theorem SameRecord.field {a b : Js} (record : SameRecord sha256 a b) {read : Js → Option α} {shown : α → β}
    (reads : Reads sha256 read shown) {name : String} {x y : α} (one : read (a.get name) = some x)
    (two : read (b.get name) = some y) : shown x = shown y := by
  refine reads _ _ x y one two ?_
  rw [canonical_get record.first, canonical_get record.second, record.same]

theorem SameRecord.named {a b : Js} (record : SameRecord sha256 a b) (name : String) {read : Js → Option α} {shown : α → β}
    (reads : Reads sha256 read shown) {x y : α} (one : read (a.get name) = some x) (two : read (b.get name) = some y) :
    shown x = shown y := record.field reads one two

theorem reads_record {read : Js → Option α} {shown : α → β}
    (alike : ∀ a b x y, SameRecord sha256 a b → read a = some x → read b = some y → shown x = shown y) :
    Reads sha256 (readRecord read) shown := by
  intro a b x y one two same
  obtain ⟨first, one⟩ := readRecord_cases one
  obtain ⟨second, two⟩ := readRecord_cases two
  exact alike a b x y ⟨first, second, same⟩ one two

theorem reads_rect : Reads sha256 readRect Rect.toThousandth := by
  refine reads_record fun a b p q record one two => ?_
  simp only [Option.bind_eq_bind, Option.bind_eq_some_iff, Option.pure_def, Option.some.injEq] at one two
  obtain ⟨x, hx, top, hTop, width, hWidth, height, hHeight, rfl⟩ := one
  obtain ⟨x', hx', top', hTop', width', hWidth', height', hHeight', rfl⟩ := two
  simp only [Rect.toThousandth, record.field reads_number hx hx', record.field reads_number hTop hTop',
    record.field reads_number hWidth hWidth', record.field reads_number hHeight hHeight']

theorem reads_renderImage (injective : Function.Injective sha256) : Reads sha256 readRenderImage id := by
  refine reads_record fun a b p q record one two => ?_
  simp only [Option.bind_eq_bind, Option.bind_eq_some_iff, Option.pure_def, Option.some.injEq] at one two
  obtain ⟨bytes, hBytes, mime, hMime, width, hWidth, height, hHeight, rfl⟩ := one
  obtain ⟨bytes', hBytes', mime', hMime', width', hWidth', height', hHeight', rfl⟩ := two
  have one := record.field (reads_bytes injective) hBytes hBytes'
  have two := record.field (reads_named _) hMime hMime'
  have three := record.field reads_nat hWidth hWidth'
  have four := record.field reads_nat hHeight hHeight'
  simp only [id_eq] at one two three four ⊢
  rw [one, two, three, four]

section

variable {a b : Js} (record : SameRecord sha256 a b)

include record

theorem textRun_alike {p q : TextRun} (one : readTextRun a = some p) (two : readTextRun b = some q) :
    (LayoutItem.text p).toThousandth = (LayoutItem.text q).toThousandth := by
  simp only [readTextRun, Option.bind_eq_bind, Option.bind_eq_some_iff, Option.pure_def, Option.some.injEq] at one two
  obtain ⟨font, hFont, size, hSize, x, hx, baseline, hBase, text, hText, source, hSource, fill, hFill, rfl⟩ := one
  obtain ⟨font', hFont', size', hSize', x', hx', baseline', hBase', text', hText', source', hSource', fill', hFill', rfl⟩ := two
  have fonts := record.field (reads_named _) hFont hFont'
  have texts := record.field reads_text hText hText'
  have sources := record.field reads_text hSource hSource'
  have fills := record.field (reads_optional reads_markup) hFill hFill'
  simp only [id_eq, Option.map_id] at fonts texts sources fills
  simp only [LayoutItem.toThousandth, fonts, texts, sources, fills, record.field reads_number hSize hSize',
    record.field reads_number hx hx', record.field reads_number hBase hBase']

theorem imageBox_alike (injective : Function.Injective sha256) {p q : ImageBox} (one : readImageBox a = some p)
    (two : readImageBox b = some q) : (LayoutItem.image p).toThousandth = (LayoutItem.image q).toThousandth := by
  simp only [readImageBox, Option.bind_eq_bind, Option.bind_eq_some_iff, Option.pure_def, Option.some.injEq] at one two
  obtain ⟨x, hx, top, hTop, width, hWidth, height, hHeight, image, hImage, clip, hClip, role, hRole, rfl⟩ := one
  obtain ⟨x', hx', top', hTop', width', hWidth', height', hHeight', image', hImage', clip', hClip', role', hRole', rfl⟩ := two
  have images := record.field (reads_renderImage injective) hImage hImage'
  have roles := record.field (reads_optional (reads_named _)) hRole hRole'
  have clips := record.field (reads_optional reads_rect) hClip hClip'
  simp only [id_eq, Option.map_id] at images roles
  simp only [LayoutItem.toThousandth, images, roles, clips, record.field reads_number hx hx',
    record.field reads_number hTop hTop', record.field reads_number hWidth hWidth',
    record.field reads_number hHeight hHeight']

theorem boxItem_alike {p q : BoxItem} (one : readBoxItem a = some p) (two : readBoxItem b = some q) :
    (LayoutItem.box p).toThousandth = (LayoutItem.box q).toThousandth := by
  simp only [readBoxItem, Option.bind_eq_bind, Option.bind_eq_some_iff, Option.pure_def, Option.some.injEq] at one two
  obtain ⟨x, hx, top, hTop, width, hWidth, height, hHeight, radius, hRadius, stroke, hStroke, line, hLine, rfl⟩ := one
  obtain ⟨x', hx', top', hTop', width', hWidth', height', hHeight', radius', hRadius', stroke', hStroke', line', hLine', rfl⟩ := two
  have strokes := record.field reads_markup hStroke hStroke'
  simp only [id_eq] at strokes
  simp only [LayoutItem.toThousandth, strokes, record.field reads_number hx hx', record.field reads_number hTop hTop',
    record.field reads_number hWidth hWidth', record.field reads_number hHeight hHeight',
    record.field reads_number hRadius hRadius', record.field reads_number hLine hLine']

theorem rectsItem_alike {p q : RectsItem} (one : readRectsItem a = some p) (two : readRectsItem b = some q) :
    (LayoutItem.rects p).toThousandth = (LayoutItem.rects q).toThousandth := by
  simp only [readRectsItem, Option.bind_eq_bind, Option.bind_eq_some_iff, Option.pure_def, Option.some.injEq] at one two
  obtain ⟨fill, hFill, rects, hRects, rfl⟩ := one
  obtain ⟨fill', hFill', rects', hRects', rfl⟩ := two
  have fills := record.field reads_markup hFill hFill'
  have shapes := record.field (reads_list reads_rect rfl) hRects hRects'
  simp only [id_eq] at fills
  simp only [LayoutItem.toThousandth, fills, shapes]

theorem pathItem_alike {p q : PathItem} (one : readPathItem a = some p) (two : readPathItem b = some q) :
    (LayoutItem.path p).toThousandth = (LayoutItem.path q).toThousandth := by
  simp only [readPathItem, Option.bind_eq_bind, Option.bind_eq_some_iff, Option.pure_def, Option.some.injEq] at one two
  obtain ⟨d, hd, fill, hFill, stroke, hStroke, line, hLine, rfl⟩ := one
  obtain ⟨d', hd', fill', hFill', stroke', hStroke', line', hLine', rfl⟩ := two
  have paths := record.field reads_markup hd hd'
  have fills := record.field reads_markup hFill hFill'
  have strokes := record.field (reads_optional reads_markup) hStroke hStroke'
  have lines := record.field (reads_optional reads_number) hLine hLine'
  simp only [id_eq, Option.map_id] at paths fills strokes
  simp only [LayoutItem.toThousandth, paths, fills, strokes, lines]

end

theorem reads_item (injective : Function.Injective sha256) : Reads sha256 readItem LayoutItem.toThousandth := by
  refine reads_record fun a b p q record one two => ?_
  simp only [Option.bind_eq_bind, Option.bind_eq_some_iff] at one two
  obtain ⟨kind, hKind, one⟩ := one
  obtain ⟨kind', hKind', two⟩ := two
  have kinds : kind = kind' := record.field (reads_named _) hKind hKind'
  subst kinds
  cases kind with
  | text =>
    obtain ⟨x, was, rfl⟩ := Option.map_eq_some_iff.mp one
    obtain ⟨y, was', rfl⟩ := Option.map_eq_some_iff.mp two
    exact textRun_alike record was was'
  | image =>
    obtain ⟨x, was, rfl⟩ := Option.map_eq_some_iff.mp one
    obtain ⟨y, was', rfl⟩ := Option.map_eq_some_iff.mp two
    exact imageBox_alike record injective was was'
  | box =>
    obtain ⟨x, was, rfl⟩ := Option.map_eq_some_iff.mp one
    obtain ⟨y, was', rfl⟩ := Option.map_eq_some_iff.mp two
    exact boxItem_alike record was was'
  | rects =>
    obtain ⟨x, was, rfl⟩ := Option.map_eq_some_iff.mp one
    obtain ⟨y, was', rfl⟩ := Option.map_eq_some_iff.mp two
    exact rectsItem_alike record was was'
  | path =>
    obtain ⟨x, was, rfl⟩ := Option.map_eq_some_iff.mp one
    obtain ⟨y, was', rfl⟩ := Option.map_eq_some_iff.mp two
    exact pathItem_alike record was was'

/-- The items of a page, read of the value the fingerprint takes of it. -/
def readItems : Js → Option (List LayoutItem) := readList readItem

theorem reads_pages (injective : Function.Injective sha256) :
    Reads sha256 (readList readItems) (List.map (List.map LayoutItem.toThousandth)) :=
  reads_list (reads_list (reads_item injective) rfl) rfl

theorem utf8_injective : Function.Injective utf8 := by
  intro a b same
  have bytes : (String.ofList a).toUTF8 = (String.ofList b).toUTF8 := by
    apply ByteArray.ext
    exact Array.toList_inj.mp same
  exact String.ofList_injective (String.toByteArray_inj.mp bytes)

/-- What is read of a layout for its pages, of the value `drawn` holds for them. -/
theorem drawnPages_read {value : Js} {layout : Layout} (found : layoutOf value = some layout) :
    readNumber (value.get "width") = some layout.width ∧ readNumber (value.get "height") = some layout.height ∧
      readList readItems (drawnPages value) = some (layout.pages.map (·.items)) := by
  obtain ⟨_, read⟩ := readRecord_cases found
  simp only [Option.bind_eq_bind, Option.bind_eq_some_iff, Option.pure_def, Option.some.injEq] at read
  obtain ⟨width, hWidth, height, hHeight, pages, hPages, title, _, rfl⟩ := read
  refine ⟨hWidth, hHeight, ?_⟩
  unfold drawnPages
  cases there : value.get "pages" with
  | array items =>
    rw [there, readList] at hPages
    show (items.map (·.get "items")).mapM readItems = some (pages.map (·.items))
    clear there found
    induction items generalizing pages with
    | nil =>
      rw [← Option.some.inj hPages]
      rfl
    | cons item items ih =>
      rw [List.mapM_cons] at hPages
      obtain ⟨page, first, hPages⟩ := Option.bind_eq_some_iff.mp hPages
      obtain ⟨rest, later, hPages⟩ := Option.bind_eq_some_iff.mp hPages
      obtain ⟨_, read⟩ := readRecord_cases first
      simp only [Option.bind_eq_bind, Option.bind_eq_some_iff, Option.pure_def, Option.some.injEq] at read
      obtain ⟨shown, hItems, _, _, rfl⟩ := read
      rw [← Option.some.inj hPages, List.map_cons, List.mapM_cons,
        show readItems (item.get "items") = some shown from hItems, ih rest later]
      rfl
  | _ => rw [there] at hPages; nomatch hPages

theorem drawn_record (value : Js) (version : List Char) : (drawn sha256 fontBytes value version).isRecord = true := by
  have once : (["rendererVersion".toList, "engine".toList, "fonts".toList, "width".toList, "height".toList,
      "pages".toList]).Nodup := by decide
  exact decide_eq_true once

end LetterIRL.Render
