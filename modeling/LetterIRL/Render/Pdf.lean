import LetterIRL.Render.Fingerprint
import LetterIRL.Render.Preview

namespace LetterIRL.Render

open Lib.Json Photos

/-! A layout drawn as a PDF, and what its fingerprint settles of it. -/

/-- A call on the document being drawn. -/
inductive Call
  | save
  | restore
  | rect (rect : Rect)
  | clip
  | image (bytes : Buffer) (x top width height : Number)
  | roundedRect (x top width height radius : Number)
  | lineWidth (width : Number)
  | miterLimit (limit : Nat)
  | strokeColor (colour : Markup)
  | fillColor (colour : Markup)
  | path (d : Markup)
  | translate (x y : Number)
  | fill (colour : Option Markup)
  | stroke (colour : Option Markup)
  | fillAndStroke
  deriving DecidableEq

structure PdfPage where
  width : Number
  height : Number
  calls : List Call
  deriving DecidableEq

/-- A PDF as it is drawn; its creator and its date are the same for all. -/
structure Pdf where
  title : Text
  producer : List Char
  pages : List PdfPage
  deriving DecidableEq

def BLACK : Markup := ⟨units "black", by decide⟩

def imageCalls (item : ImageBox) : List Call :=
  let image := Call.image item.image.bytes item.x item.top item.width item.height
  match item.clip with
  | some clip => [.save, .rect clip, .clip, image, .restore]
  | none => [image]

def boxCalls (item : BoxItem) : List Call :=
  [.save, .roundedRect item.x item.top item.width item.height item.radius, .lineWidth item.strokeWidth,
    .stroke (some item.stroke), .restore]

def rectsCalls (item : RectsItem) : List Call := .save :: item.rects.map .rect ++ [.fill (some item.fill), .restore]

def pathCalls (item : PathItem) : List Call :=
  let fill := if item.fill.text = units "none" then none else some item.fill
  let line := match item.stroke with
    | some stroke => [Call.lineWidth (item.strokeWidth.getD (.finite 1)), .miterLimit 4, .strokeColor stroke]
    | none => []
  match fill, item.stroke with
  | none, none => []
  | some fill, some _ => .save :: line ++ [.fillColor fill, .path item.d, .fillAndStroke, .restore]
  | some fill, none => [.save, .fillColor fill, .path item.d, .fill none, .restore]
  | none, some _ => .save :: line ++ [.path item.d, .stroke none, .restore]

def textCalls (placeGlyphs : TextRun → List PlacedGlyph) (run : TextRun) : List Call :=
  (placeGlyphs run).flatMap fun glyph =>
    [.save, .translate glyph.x glyph.y, .path glyph.outline, .fill (some (run.fill.getD BLACK)), .restore]

def itemCalls (placeGlyphs : TextRun → List PlacedGlyph) : LayoutItem → List Call
  | .image item => imageCalls item
  | .box item => boxCalls item
  | .rects item => rectsCalls item
  | .path item => pathCalls item
  | .text run => textCalls placeGlyphs run

def renderPdf (placeGlyphs : TextRun → List PlacedGlyph) (layout : Layout) (version : List Char) : Pdf where
  title := layout.title.getD (units "Letter")
  producer := "Letter IRL renderer ".toList ++ version
  pages := layout.pages.map fun page =>
    { width := layout.width, height := layout.height, calls := page.items.flatMap (itemCalls placeGlyphs) }

inductive RenderRefusal
  /-- "This build cannot compare the letter's recorded layout." -/
  | unknownVersion
  /-- "The letter lays out differently from when it was sent." -/
  | layoutChanged
  deriving DecidableEq

/-- `/^fp[1-9][0-9]{0,3}:[0-9a-f]{64}$/` -/
def isLayoutFingerprint (value : List Char) : Bool :=
  let scheme := (value.drop 2).takeWhile (· != ':')
  let digest := value.drop (3 + scheme.length)
  value.take 2 == "fp".toList && scheme.all Char.isDigit && scheme.head?.any (· != '0') && decide (scheme.length ≤ 4) &&
    value[2 + scheme.length]? == some ':' && decide (digest.length = 64) &&
    digest.all fun c => c.isDigit || ('a' ≤ c && c ≤ 'f')

def fingerprintScheme (fingerprint : List Char) : List Char :=
  if ':' ∈ fingerprint then fingerprint.takeWhile (· != ':') else []

section

variable (sha256 : Buffer → List Char) (fontBytes : FontName → Buffer)

def assertLayoutAsRecorded (layout : Js) (rendererVersion : List Char) : Option (List Char) → Except RenderRefusal Unit
  | none => .ok ()
  | some recorded =>
    if isLayoutFingerprint recorded = false ∨ fingerprintScheme recorded ≠ LAYOUT_FINGERPRINT_SCHEME then
      .error .unknownVersion
    else if layoutFingerprint sha256 fontBytes layout rendererVersion ≠ recorded then .error .layoutChanged
    else .ok ()

end

variable {sha256 : Buffer → List Char} {fontBytes : FontName → Buffer} {placeGlyphs : TextRun → List PlacedGlyph}

/-- Two layouts in which the same things are drawn, every number the same to a thousandth. -/
structure DrawsAlike (one two : Layout) : Prop where
  width : one.width.toThousandth = two.width.toThousandth
  height : one.height.toThousandth = two.height.toThousandth
  items : one.pages.map (·.items.map LayoutItem.toThousandth) = two.pages.map (·.items.map LayoutItem.toThousandth)

/-- What `renderPdf` reads when it draws: the size, the items of the pages and the version. -/
theorem renderPdf_reads {one two : Layout} (width : one.width = two.width) (height : one.height = two.height)
    (items : one.pages.map (·.items) = two.pages.map (·.items)) (version : List Char) :
    (renderPdf placeGlyphs one version).pages = (renderPdf placeGlyphs two version).pages := by
  have drawn (layout : Layout) : (renderPdf placeGlyphs layout version).pages =
      (layout.pages.map (·.items)).map fun items =>
        { width := layout.width, height := layout.height, calls := items.flatMap (itemCalls placeGlyphs) } := by
    rw [List.map_map]
    rfl
  rw [drawn, drawn, items, width, height]

theorem DrawsAlike.toThousandth {one two : Layout} (alike : DrawsAlike one two) :
    one.toThousandth.width = two.toThousandth.width ∧ one.toThousandth.height = two.toThousandth.height ∧
      one.toThousandth.pages.map (·.items) = two.toThousandth.pages.map (·.items) := by
  refine ⟨alike.width, alike.height, ?_⟩
  simp only [Layout.toThousandth, List.map_map]
  exact alike.items

theorem stringify_canonical {a b : Js} (first : a ≠ .undefined) (second : b ≠ .undefined)
    (injective : Function.Injective sha256)
    (same : sha256 (utf8 (stringify ((canonical sha256 a).getD .null))) =
      sha256 (utf8 (stringify ((canonical sha256 b).getD .null)))) : canonical sha256 a = canonical sha256 b := by
  have values := stringify_injective (utf8_injective (injective same))
  exact getD_inj (fun none_ => first (canonical_none.mp none_)) (fun none_ => second (canonical_none.mp none_)) values

def readString : Js → Option (List Char)
  | .string text => some text
  | _ => none

/-- Layouts with one fingerprint draw alike, in one renderer version. -/
theorem alike_of_fingerprint (injective : Function.Injective sha256) {one two : Js} {layout layout' : Layout}
    {version version' : List Char} (found : layoutOf one = some layout) (found' : layoutOf two = some layout')
    (same : layoutFingerprint sha256 fontBytes one version = layoutFingerprint sha256 fontBytes two version') :
    version = version' ∧ DrawsAlike layout layout' := by
  have digest := (List.cons.inj (List.append_cancel_left same)).2
  have record : SameRecord sha256 (drawn sha256 fontBytes one version) (drawn sha256 fontBytes two version') :=
    ⟨drawn_record one version, drawn_record two version', stringify_canonical Js.noConfusion Js.noConfusion injective digest⟩
  obtain ⟨width, height, pages⟩ := drawnPages_read found
  obtain ⟨width', height', pages'⟩ := drawnPages_read found'
  have strings : Reads sha256 readString id := reads_strings fun value x read => by
    cases value with
    | string text => exact ⟨text, rfl⟩
    | _ => cases read
  have versions : version = version' := record.named "rendererVersion" strings rfl rfl
  have items := record.named "pages" (reads_pages injective) pages pages'
  refine ⟨versions, record.named "width" reads_number width width', record.named "height" reads_number height height', ?_⟩
  rw [List.map_map, List.map_map] at items
  exact items

theorem pageItems_canonical {pages pages' : List Js} {read read' : List LayoutPage} (found : pages.mapM readPage = some read)
    (found' : pages'.mapM readPage = some read') (same : canonicalItems sha256 pages = canonicalItems sha256 pages') :
    canonicalItems sha256 (pages.map (·.get "items")) = canonicalItems sha256 (pages'.map (·.get "items")) := by
  induction pages generalizing pages' read read' with
  | nil =>
    cases pages' with
    | nil => rfl
    | cons _ _ => nomatch same
  | cons page pages ih =>
    cases pages' with
    | nil => nomatch same
    | cons page' pages' =>
      obtain ⟨head, tail⟩ := List.cons.inj same
      rw [List.mapM_cons] at found found'
      obtain ⟨_, first, found⟩ := Option.bind_eq_some_iff.mp found
      obtain ⟨_, rest, _⟩ := Option.bind_eq_some_iff.mp found
      obtain ⟨_, first', found'⟩ := Option.bind_eq_some_iff.mp found'
      obtain ⟨_, rest', _⟩ := Option.bind_eq_some_iff.mp found'
      have there : Present readPage := rfl
      have page_ := getD_inj (present_ne there first) (present_ne there first') head
      have items : canonical sha256 (page.get "items") = canonical sha256 (page'.get "items") := by
        rw [canonical_get (readRecord_cases first).1, canonical_get (readRecord_cases first').1, page_]
      rw [List.map_cons, List.map_cons, canonicalItems, canonicalItems, items, ih rest rest' tail]

/-- Layouts with one canonical form have one fingerprint. -/
theorem fingerprint_of_canonical {one two : Js} {layout layout' : Layout} (found : layoutOf one = some layout)
    (found' : layoutOf two = some layout') (same : canonical sha256 one = canonical sha256 two) (version : List Char) :
    layoutFingerprint sha256 fontBytes one version = layoutFingerprint sha256 fontBytes two version := by
  obtain ⟨record, read⟩ := readRecord_cases found
  obtain ⟨record', read'⟩ := readRecord_cases found'
  have field (name : String) : canonical sha256 (one.get name) = canonical sha256 (two.get name) := by
    rw [canonical_get record, canonical_get record', same]
  have pages : canonical sha256 (drawnPages one) = canonical sha256 (drawnPages two) := by
    simp only [Option.bind_eq_bind, Option.bind_eq_some_iff] at read read'
    obtain ⟨_, _, _, _, pages, hPages, _⟩ := read
    obtain ⟨_, _, _, _, pages', hPages', _⟩ := read'
    have alike := field "pages"
    unfold drawnPages
    cases there : one.get "pages" with
    | array items =>
      cases there' : two.get "pages" with
      | array items' =>
        rw [there, there', canonical, canonical, Option.some.injEq] at alike
        rw [there] at hPages
        rw [there'] at hPages'
        show canonical sha256 (.array (items.map (·.get "items"))) = canonical sha256 (.array (items'.map (·.get "items")))
        rw [canonical, canonical, pageItems_canonical hPages hPages' (Value.array.inj alike)]
      | _ => rw [there'] at hPages'; cases hPages'
    | _ => rw [there] at hPages; cases hPages
  have alike : canonical sha256 (drawn sha256 fontBytes one version) = canonical sha256 (drawn sha256 fontBytes two version) := by
    unfold drawn
    simp only [canonical, canonicalFields, field "width", field "height", pages]
  unfold layoutFingerprint
  rw [alike]

/-- A print that passes the check against a recorded fingerprint has it. -/
theorem assertLayoutAsRecorded_ok {layout : Js} {version recorded : List Char}
    (passed : assertLayoutAsRecorded sha256 fontBytes layout version (some recorded) = .ok ()) :
    layoutFingerprint sha256 fontBytes layout version = recorded := by
  rw [assertLayoutAsRecorded] at passed
  split_ifs at passed with _ different
  exact not_not.mp different

/-- Layouts with one fingerprint are drawn alike: the same version, page size and items in their order, the same image
bytes, fonts, texts and colours, and every number the same to a thousandth; nothing that is drawn depends on more of a
layout; and neither the order of an object's fields nor an undefined field changes the fingerprint. -/
theorem fingerprint_settles (sha256 : Buffer → List Char) (injective : Function.Injective sha256)
    (fontBytes : FontName → Buffer) (placeGlyphs : TextRun → List PlacedGlyph) :
    (∀ one two layout layout' version version', layoutOf one = some layout → layoutOf two = some layout' →
      layoutFingerprint sha256 fontBytes one version = layoutFingerprint sha256 fontBytes two version' →
      version = version' ∧ DrawsAlike layout layout' ∧
        (renderPdf placeGlyphs layout.toThousandth version).producer =
          (renderPdf placeGlyphs layout'.toThousandth version').producer ∧
        (renderPdf placeGlyphs layout.toThousandth version).pages =
          (renderPdf placeGlyphs layout'.toThousandth version').pages) ∧
    (∀ layout layout' : Layout, ∀ version, layout.width = layout'.width → layout.height = layout'.height →
      layout.pages.map (·.items) = layout'.pages.map (·.items) →
      (renderPdf placeGlyphs layout version).pages = (renderPdf placeGlyphs layout' version).pages) ∧
    (∀ one two layout layout' version, layoutOf one = some layout → layoutOf two = some layout' → Alike one two →
      layoutFingerprint sha256 fontBytes one version = layoutFingerprint sha256 fontBytes two version) ∧
    (∀ one two layout layout' version version', layoutOf one = some layout → layoutOf two = some layout' →
      assertLayoutAsRecorded sha256 fontBytes two version' (some (layoutFingerprint sha256 fontBytes one version)) = .ok () →
      version' = version ∧ DrawsAlike layout' layout) := by
  refine ⟨fun one two layout layout' version version' found found' same => ?_, fun layout layout' version width height items =>
    renderPdf_reads width height items version, fun one two layout layout' version found found' alike =>
    fingerprint_of_canonical found found' (canonical_alike alike) version, fun one two layout layout' version version' found
    found' passed => ?_⟩
  · obtain ⟨versions, alike⟩ := alike_of_fingerprint injective found found' same
    obtain ⟨width, height, items⟩ := alike.toThousandth
    refine ⟨versions, alike, ?_, ?_⟩
    · rw [versions]
      rfl
    · rw [versions]
      exact renderPdf_reads width height items version'
  · exact alike_of_fingerprint injective found' found (assertLayoutAsRecorded_ok passed)

/-- Bytes by the characters of their numbers, each given one. -/
def spelled (bytes : Buffer) : List Char := bytes.map fun byte => Char.ofNat byte.toNat

theorem spelled_injective : Function.Injective spelled := by
  have one : Function.Injective fun byte : UInt8 => Char.ofNat byte.toNat := by
    intro a b same
    have valid : ∀ n < 256, (Char.ofNat n).toNat = n := by decide +kernel
    have numbers : a.toNat = b.toNat := by
      rw [← valid a.toNat a.toNat_lt, ← valid b.toNat b.toNat_lt]
      exact congrArg Char.toNat same
    exact UInt8.toNat_inj.mp numbers
  exact List.map_injective_iff.mpr one

def noFont (_ : FontName) : Buffer := []

def noGlyphs (_ : TextRun) : List PlacedGlyph := []

/-- A letter-size page with nothing on it. -/
def blankPages : Js := .array [.object [("items".toList, .array [])]]

def titled (title : Js) : Js :=
  .object [("title".toList, title), ("width".toList, .number (.finite 612)), ("height".toList, .number (.finite 792)),
    ("pages".toList, blankPages)]

/-- The same size and page, its fields in another order and with no title. -/
def reordered : Js :=
  .object [("height".toList, .number (.finite 792)), ("width".toList, .number (.finite 612)), ("pages".toList, blankPages)]

def blankLayout (title : Option Text) : Layout := ⟨.finite 612, .finite 792, [⟨[], none⟩], title⟩

theorem titled_layout : layoutOf (titled .undefined) = some (blankLayout none) := by decide +kernel

theorem reordered_layout : layoutOf reordered = some (blankLayout none) := by decide +kernel

theorem reordered_settled : layoutFingerprint spelled noFont (titled .undefined) "pdf-1".toList =
      layoutFingerprint spelled noFont reordered "pdf-1".toList ∧ DrawsAlike (blankLayout none) (blankLayout none) := by
  have settles := fingerprint_settles spelled spelled_injective noFont noGlyphs
  have alike : Alike (titled .undefined) reordered :=
    .trans (.drop _ _) (.reorder (List.Perm.swap _ _ _) (by decide))
  have same := settles.2.2.1 _ _ _ _ "pdf-1".toList titled_layout reordered_layout alike
  exact ⟨same, (settles.1 _ _ _ _ _ _ titled_layout reordered_layout same).2.1⟩

/-- Two layouts that differ in their titles have one fingerprint, and `renderPdf` names its files by the titles. -/
theorem titles_unrecorded : layoutFingerprint spelled noFont (titled (.string ['A'])) "pdf-1".toList =
      layoutFingerprint spelled noFont (titled (.string ['B'])) "pdf-1".toList ∧
    layoutOf (titled (.string ['A'])) = some (blankLayout (some (units "A"))) ∧
    layoutOf (titled (.string ['B'])) = some (blankLayout (some (units "B"))) ∧
    renderPdf noGlyphs (blankLayout (some (units "A"))) "pdf-1".toList ≠
      renderPdf noGlyphs (blankLayout (some (units "B"))) "pdf-1".toList := by
  refine ⟨?_, by decide +kernel, by decide +kernel, by decide +kernel⟩
  have same : drawn spelled noFont (titled (.string ['A'])) "pdf-1".toList =
      drawn spelled noFont (titled (.string ['B'])) "pdf-1".toList := rfl
  unfold layoutFingerprint
  rw [same]

end LetterIRL.Render
