import LetterIRL.Lib.Runs
import LetterIRL.Render.Pictures

namespace LetterIRL.Render

open Lib Photos

/-! The preview: a layout drawn as one SVG a page. -/

structure PlacedGlyph where
  key : Markup
  x : Number
  y : Number
  outline : Markup

/-- What the drawing takes from the platform and the fonts. -/
structure Drawing where
  /-- A number as a template string writes it. -/
  shown : Number → Markup
  placeGlyphs : TextRun → List PlacedGlyph

/-- Addresses as they are stamped, line by line. -/
structure Addresses where
  from_ : List Text
  to_ : List Text

structure StampGeometry where
  x : ℚ
  returnBaseline : ℚ
  recipientBaseline : ℚ
  pitch : ℚ
  size : ℚ

def ADDRESS_STAMP : StampGeometry where
  x := 7 / 10 * 72
  returnBaseline := 438 / 1000 * 72
  recipientBaseline := 2094 / 1000 * 72
  pitch := 177 / 1000 * 72
  size := 9

/-- The entities of `escapeXml`. -/
def entity (unit : Nat) : Text :=
  if unit = 38 then units "&amp;"
  else if unit = 60 then units "&lt;"
  else if unit = 62 then units "&gt;"
  else if unit = 34 then units "&quot;"
  else if unit = 39 then units "&apos;"
  else [unit]

def escapeXml (text : Text) : Text := text.flatMap entity

/-- An attribute and its value. -/
def valued (name : String) (value : Markup) : Text := units name ++ value.text ++ units "\""

/-- `outlines.set(key, outline)`, which keeps the place of a key it has. -/
def setOutline (outlines : List (Text × Text)) (key outline : Text) : List (Text × Text) :=
  if outlines.any (·.1 == key) then outlines.map fun entry => if entry.1 = key then (key, outline) else entry
  else outlines ++ [(key, outline)]

section

variable (drawing : Drawing)

/-- A number to a hundredth of a point, in an attribute. -/
def field (name : String) (value : Number) : Text := valued name (drawing.shown (value.rounded 100))

def place (x top width height : Number) : Text :=
  field drawing " x=\"" x ++ field drawing " y=\"" top ++ field drawing " width=\"" width ++ field drawing " height=\"" height

def drawImage (item : ImageBox) : Text :=
  match item.clip with
  | some clip =>
    units "<svg" ++ place drawing clip.x clip.top clip.width clip.height ++ units ">" ++
      units "<image href=\"" ++ dataUri item.image ++ units "\"" ++
      place drawing (item.x.sub clip.x) (item.top.sub clip.top) item.width item.height ++
      units " preserveAspectRatio=\"none\"/>" ++ CLOSING
  | none =>
    units "<image " ++ (if item.role = some .signature then units "data-role=\"signature\" " else []) ++
      units "href=\"" ++ dataUri item.image ++ units "\"" ++ place drawing item.x item.top item.width item.height ++
      units " preserveAspectRatio=\"none\"/>"

def drawBox (item : BoxItem) : Text :=
  units "<rect" ++ place drawing item.x item.top item.width item.height ++ field drawing " rx=\"" item.radius ++
    units " fill=\"none\"" ++ valued " stroke=\"" item.stroke ++ field drawing " stroke-width=\"" item.strokeWidth ++
    units "/>"

def drawRects (item : RectsItem) : Text :=
  units "<g" ++ valued " fill=\"" item.fill ++ units ">" ++
    (item.rects.map fun rect => units "<rect" ++ place drawing rect.x rect.top rect.width rect.height ++ units "/>").flatten ++
    units "</g>"

def drawPath (item : PathItem) : Text :=
  let stroke := match item.stroke with
    | some stroke =>
      valued " stroke=\"" stroke ++ field drawing " stroke-width=\"" (item.strokeWidth.getD (.finite 1))
    | none => []
  units "<path" ++ valued " d=\"" item.d ++ valued " fill=\"" item.fill ++ stroke ++ units "/>"

def drawUse (glyph : PlacedGlyph) : Text :=
  units "<use" ++ valued " href=\"#" glyph.key ++ field drawing " x=\"" glyph.x ++ field drawing " y=\"" glyph.y ++
    units "/>"

def drawText (run : TextRun) : Text :=
  let uses := ((drawing.placeGlyphs run).map (drawUse drawing)).flatten
  match run.fill with
  | some fill => units "<g" ++ valued " fill=\"" fill ++ units ">" ++ uses ++ units "</g>"
  | none => uses

def drawItem : LayoutItem → Text
  | .text run => drawText drawing run
  | .image box => drawImage drawing box
  | .box box => drawBox drawing box
  | .rects item => drawRects drawing item
  | .path item => drawPath drawing item

/-- `outlines`, once the items are drawn. -/
def outlinesOf (items : List LayoutItem) : List (Text × Text) :=
  items.foldl (fun outlines item =>
    match item with
    | .text run => (drawing.placeGlyphs run).foldl (fun outlines glyph =>
        setOutline outlines glyph.key.text glyph.outline.text) outlines
    | _ => outlines) []

def defs (items : List LayoutItem) : Text :=
  ((outlinesOf drawing items).map fun outline =>
    units "<path id=\"" ++ outline.1 ++ units "\" d=\"" ++ outline.2 ++ units "\"/>").flatten

/-- `spoken.filter(Boolean)` -/
def spoken (items : List LayoutItem) : List Text :=
  (items.filterMap fun item => match item with
    | .text run => some run.source
    | _ => none).filter (· != [])

def titleOf (page : LayoutPage) : Text :=
  let words := join (units "\n") (spoken page.items)
  if words = [] then page.title.getD [] else words

def stampLines (geometry : StampGeometry) (texts : List Text) (baseline : ℚ) : Text :=
  (texts.mapIdx fun index text =>
    units "<text" ++ field drawing " x=\"" (.finite geometry.x) ++
      field drawing " y=\"" (.finite (baseline + index * geometry.pitch)) ++ units ">" ++ escapeXml text ++ units "</text>").flatten

def addressStamp (addresses : Addresses) (geometry : StampGeometry) : Text :=
  units "<g font-family=\"'Open Sans', Arial, Helvetica, sans-serif\"" ++
    valued " font-size=\"" (drawing.shown (.finite geometry.size)) ++ units " fill=\"#000\">" ++
    stampLines drawing geometry addresses.from_ geometry.returnBaseline ++
    stampLines drawing geometry addresses.to_ geometry.recipientBaseline ++ units "</g>"

/-- What a page draws before its items. -/
def pageHead (layout : Layout) (page : LayoutPage) : Text :=
  units "xmlns=\"http://www.w3.org/2000/svg\"" ++ units " viewBox=\"0 0 " ++ (drawing.shown layout.width).text ++ units " " ++
    (drawing.shown layout.height).text ++ units "\" role=\"img\">" ++
    units "<title>" ++ escapeXml (titleOf page) ++ units "</title>" ++
    units "<defs>" ++ defs drawing page.items ++ units "</defs>" ++
    units "<rect" ++ valued " width=\"" (drawing.shown layout.width) ++ valued " height=\"" (drawing.shown layout.height) ++
    units " fill=\"#fff\"/>"

def renderPage (layout : Layout) (page : LayoutPage) (stamp : Option (Addresses × StampGeometry)) : Text :=
  units "<svg " ++ pageHead drawing layout page ++ (page.items.map (drawItem drawing)).flatten ++
    (match stamp with
      | some (addresses, geometry) => addressStamp drawing addresses geometry
      | none => []) ++ CLOSING

structure PreviewOptions where
  addresses : Option Addresses := none
  stampPage : Nat := 0
  geometry : StampGeometry := ADDRESS_STAMP

def renderPreviewSvg (layout : Layout) (options : PreviewOptions) : List Text :=
  layout.pages.mapIdx fun index page =>
    renderPage drawing layout page
      (if index = options.stampPage then options.addresses.map (·, options.geometry) else none)

end

variable {drawing : Drawing} {text before after : Text}

theorem escapeXml_plain (text : Text) : 60 ∉ escapeXml text := by
  intro member
  obtain ⟨unit, _, shown⟩ := List.mem_flatMap.mp member
  unfold entity at shown
  split_ifs at shown with amp less
  · exact absurd shown (by decide)
  · exact absurd shown (by decide)
  · exact absurd shown (by decide)
  · exact absurd shown (by decide)
  · exact absurd shown (by decide)
  · exact less (List.mem_singleton.mp shown).symm

theorem dataUri_plain (image : RenderImage) : 60 ∉ dataUri image := by
  have lead : 60 ∉ uriLead image.mime := by cases image.mime <;> decide
  rw [dataUri, List.mem_append, not_or]
  refine ⟨lead, fun member => ?_⟩
  exact absurd (toBase64_class image.bytes 60 member) (by decide)

theorem escapeXml_inert (text : Text) : inert (escapeXml text) = true := inert_plain (escapeXml_plain text)

theorem markup_inert (value : Markup) : inert value.text = true := inert_plain value.plain

theorem literal_inert (written : String) (quiet : inert (units written) = true) : inert (units written) = true := quiet

theorem valued_inert (name : String) (plain : 60 ∉ units name) (value : Markup) : inert (valued name value) = true :=
  inert_append (inert_append (inert_plain plain) (markup_inert value)) (by decide)

theorem field_inert (drawing : Drawing) (name : String) (plain : 60 ∉ units name) (value : Number) :
    inert (field drawing name value) = true :=
  valued_inert name plain _

theorem place_inert (drawing : Drawing) (x top width height : Number) :
    inert (place drawing x top width height) = true :=
  inert_append (inert_append (inert_append (field_inert _ _ (by decide) x) (field_inert _ _ (by decide) top))
    (field_inert _ _ (by decide) width)) (field_inert _ _ (by decide) height)

theorem drawBox_inert (item : BoxItem) : inert (drawBox drawing item) = true := by
  have rect := inert_append (literal_inert "<rect" (by decide))
    (place_inert drawing item.x item.top item.width item.height)
  have round := inert_append rect (field_inert drawing " rx=\"" (by decide) item.radius)
  have line := inert_append (inert_append round (literal_inert " fill=\"none\"" (by decide)))
    (valued_inert " stroke=\"" (by decide) item.stroke)
  exact inert_append (inert_append line (field_inert _ _ (by decide) item.strokeWidth)) (by decide)

theorem drawRects_inert (item : RectsItem) : inert (drawRects drawing item) = true := by
  have group := inert_append (inert_append (literal_inert "<g" (by decide))
    (valued_inert " fill=\"" (by decide) item.fill)) (literal_inert ">" (by decide))
  refine inert_append (inert_append group (inert_flatten fun piece member => ?_)) (by decide)
  obtain ⟨rect, _, rfl⟩ := List.mem_map.mp member
  exact inert_append (inert_append (by decide) (place_inert _ _ _ _ _)) (by decide)

theorem drawPath_inert (item : PathItem) : inert (drawPath drawing item) = true := by
  have shape := inert_append (inert_append (literal_inert "<path" (by decide))
    (valued_inert " d=\"" (by decide) item.d)) (valued_inert " fill=\"" (by decide) item.fill)
  refine inert_append (inert_append shape ?_) (by decide)
  cases item.stroke with
  | none => rfl
  | some stroke => exact inert_append (valued_inert _ (by decide) stroke) (field_inert _ _ (by decide) _)

theorem drawText_inert (run : TextRun) : inert (drawText drawing run) = true := by
  have uses : inert ((drawing.placeGlyphs run).map (drawUse drawing)).flatten = true := by
    refine inert_flatten fun piece member => ?_
    obtain ⟨glyph, _, rfl⟩ := List.mem_map.mp member
    have key := inert_append (literal_inert "<use" (by decide)) (valued_inert " href=\"#" (by decide) glyph.key)
    exact inert_append (inert_append (inert_append key (field_inert _ _ (by decide) glyph.x))
      (field_inert _ _ (by decide) glyph.y)) (by decide)
  unfold drawText
  cases run.fill with
  | none => exact uses
  | some fill =>
    have group := inert_append (inert_append (literal_inert "<g" (by decide))
      (valued_inert " fill=\"" (by decide) fill)) (literal_inert ">" (by decide))
    exact inert_append (inert_append group uses) (by decide)

/-- An outline and its key hold no `<`. -/
def PlainOutlines (outlines : List (Text × Text)) : Prop := ∀ outline ∈ outlines, 60 ∉ outline.1 ∧ 60 ∉ outline.2

theorem setOutline_plain {outlines : List (Text × Text)} (plain : PlainOutlines outlines) (key outline : Markup) :
    PlainOutlines (setOutline outlines key.text outline.text) := by
  intro entry member
  unfold setOutline at member
  split at member
  · obtain ⟨old, was, rfl⟩ := List.mem_map.mp member
    split
    · exact ⟨key.plain, outline.plain⟩
    · exact plain old was
  · rcases List.mem_append.mp member with old | new
    · exact plain entry old
    · rw [List.mem_singleton.mp new]
      exact ⟨key.plain, outline.plain⟩

theorem outlinesOf_plain (items : List LayoutItem) : PlainOutlines (outlinesOf drawing items) := by
  have start : PlainOutlines [] := fun _ member => (nomatch member)
  refine foldl_invariant (I := fun _ outlines => PlainOutlines outlines) start ?_ items
  intro _ outlines item plain
  cases item with
  | text run =>
    exact foldl_invariant (I := fun _ outlines => PlainOutlines outlines) plain
      (fun _ _ glyph plain => setOutline_plain plain glyph.key glyph.outline) (drawing.placeGlyphs run)
  | image _ => exact plain
  | box _ => exact plain
  | rects _ => exact plain
  | path _ => exact plain

theorem defs_inert (drawing : Drawing) (items : List LayoutItem) : inert (defs drawing items) = true := by
  refine inert_flatten fun piece member => ?_
  obtain ⟨outline, found, rfl⟩ := List.mem_map.mp member
  obtain ⟨key, path⟩ := outlinesOf_plain items outline found
  exact inert_append (inert_append (inert_append (inert_append (by decide) (inert_plain key)) (by decide))
    (inert_plain path)) (by decide)

theorem pageHead_inert (drawing : Drawing) (layout : Layout) (page : LayoutPage) :
    inert (pageHead drawing layout page) = true := by
  have box := inert_append (inert_append (inert_append (inert_append (inert_append
    (literal_inert "xmlns=\"http://www.w3.org/2000/svg\"" (by decide)) (literal_inert " viewBox=\"0 0 " (by decide)))
    (markup_inert (drawing.shown layout.width))) (literal_inert " " (by decide)))
    (markup_inert (drawing.shown layout.height))) (literal_inert "\" role=\"img\">" (by decide))
  have title := inert_append (inert_append (inert_append box (literal_inert "<title>" (by decide)))
    (escapeXml_inert (titleOf page))) (literal_inert "</title>" (by decide))
  have outlines := inert_append (inert_append (inert_append title (literal_inert "<defs>" (by decide)))
    (defs_inert drawing page.items)) (literal_inert "</defs>" (by decide))
  exact inert_append (inert_append (inert_append (inert_append outlines (by decide)) (valued_inert _ (by decide) _))
    (valued_inert _ (by decide) _)) (by decide)

theorem stampLines_inert (geometry : StampGeometry) (texts : List Text) (baseline : ℚ) :
    inert (stampLines drawing geometry texts baseline) = true := by
  refine inert_flatten fun piece member => ?_
  obtain ⟨index, _, rfl⟩ := List.mem_mapIdx.mp member
  exact inert_append (inert_append (inert_append (inert_append (inert_append (by decide) (field_inert _ _ (by decide) _))
    (field_inert _ _ (by decide) _)) (by decide)) (escapeXml_inert _)) (by decide)

theorem addressStamp_inert (addresses : Addresses) (geometry : StampGeometry) :
    inert (addressStamp drawing addresses geometry) = true := by
  have group := inert_append (inert_append (literal_inert "<g font-family=\"'Open Sans', Arial, Helvetica, sans-serif\"" (by decide)) (valued_inert " font-size=\"" (by decide) (drawing.shown (.finite geometry.size))))
    (literal_inert " fill=\"#000\">" (by decide))
  exact inert_append (inert_append (inert_append group (stampLines_inert _ _ _)) (stampLines_inert _ _ _)) (by decide)

/-- An image's tags are closed again within it. -/
theorem closes_drawImage (item : ImageBox) (depth : Nat) :
    closes (depth + 1) (drawImage drawing item ++ after) = closes (depth + 1) after := by
  have href := silent_plain (dataUri_plain item.image)
  have placed (x top width height : Number) := inert_silent (place_inert drawing x top width height)
  unfold drawImage
  cases item.clip with
  | some clip =>
    obtain ⟨rest, whole⟩ : ∃ rest, place drawing clip.x clip.top clip.width clip.height = 32 :: rest := ⟨_, rfl⟩
    have view := placed clip.x clip.top clip.width clip.height
    rw [whole] at view
    simp only [List.append_assoc]
    rw [whole, List.cons_append, closes_opening (by decide), closes_silent (silent_tail view), closes_silent (by decide),
      closes_silent (by decide), closes_silent href, closes_silent (by decide), closes_silent (placed _ _ _ _),
      closes_silent (by decide), closes_closing]
  | none =>
    have role : silent (if item.role = some .signature then units "data-role=\"signature\" " else []) = true := by
      split <;> decide
    simp only [List.append_assoc]
    rw [closes_silent (by decide), closes_silent role, closes_silent (by decide), closes_silent href,
      closes_silent (by decide), closes_silent (placed _ _ _ _), closes_silent (by decide)]

theorem closes_drawItem (item : LayoutItem) (depth : Nat) :
    closes (depth + 1) (drawItem drawing item ++ after) = closes (depth + 1) after := by
  cases item with
  | text run => exact closes_silent (inert_silent (drawText_inert run))
  | image box => exact closes_drawImage box depth
  | box box => exact closes_silent (inert_silent (drawBox_inert box))
  | rects item => exact closes_silent (inert_silent (drawRects_inert item))
  | path item => exact closes_silent (inert_silent (drawPath_inert item))

theorem closes_drawItems (items : List LayoutItem) (depth : Nat) :
    closes (depth + 1) ((items.map (drawItem drawing)).flatten ++ after) = closes (depth + 1) after := by
  induction items with
  | nil => rfl
  | cons item items ih => rw [List.map_cons, List.flatten_cons, List.append_assoc, closes_drawItem, ih]

/-- A page as drawn is one `<svg>` element. -/
theorem renderPage_balanced (layout : Layout) (page : LayoutPage) (stamp : Option (Addresses × StampGeometry)) :
    Balanced (renderPage drawing layout page stamp) := by
  have head := inert_silent (pageHead_inert drawing layout page)
  have stamped : silent (match stamp with
      | some (addresses, geometry) => addressStamp drawing addresses geometry
      | none => []) = true := by
    cases stamp with
    | none => rfl
    | some stamp => exact inert_silent (addressStamp_inert stamp.1 stamp.2)
  unfold renderPage
  simp only [List.append_assoc]
  refine ⟨tagAt_opening.mpr ⟨32, _, by decide, rfl⟩, ?_⟩
  show closes 1 (units "svg " ++ _) = true
  rw [closes_silent (by decide), closes_silent head, closes_drawItems page.items 0, closes_silent stamped]
  decide

theorem renderPreviewSvg_balanced (layout : Layout) (options : PreviewOptions) :
    ∀ page ∈ renderPreviewSvg drawing layout options, Balanced page := by
  intro page member
  obtain ⟨index, _, rfl⟩ := List.mem_mapIdx.mp member
  exact renderPage_balanced _ _ _

/-- An image that is the letter's own picture, not its signature. -/
def LayoutItem.picture : LayoutItem → Option ImageBox
  | .image item => if item.role = some .signature then none else some item
  | _ => none

/-- A signature that no clip takes the mark off. -/
def LayoutItem.Marked : LayoutItem → Prop
  | .image item => item.role = some .signature → item.clip = none
  | _ => True

theorem drawImage_picture {item : ImageBox} (picture : item.role ≠ some .signature) (some_ : item.image.bytes ≠ []) :
    renderedPageImage (drawImage drawing item ++ after) = some (dataUri item.image) := by
  have found (rest : Text) : renderedPageImage (units "<image href=\"" ++ dataUri item.image ++ 34 :: rest) =
      some (dataUri item.image) := by
    have at_ := pictureAt_dataUri some_ rest
    show renderedPageImage (60 :: (units "image href=\"" ++ dataUri item.image ++ 34 :: rest)) = _
    rw [renderedPageImage, show pictureAt (60 :: (units "image href=\"" ++ dataUri item.image ++ 34 :: rest)) = _ from at_]
  unfold drawImage
  cases item.clip with
  | some clip =>
    have view := inert_unpictured (place_inert drawing clip.x clip.top clip.width clip.height)
    have shown := found (place drawing (item.x.sub clip.x) (item.top.sub clip.top) item.width item.height ++
      (units " preserveAspectRatio=\"none\"/>" ++ (CLOSING ++ after)))
    simp only [List.append_assoc] at shown ⊢
    rw [renderedPageImage_unpictured (by decide), renderedPageImage_unpictured view, renderedPageImage_unpictured (by decide)]
    exact shown
  | none =>
    have shown := found (place drawing item.x item.top item.width item.height ++
      (units " preserveAspectRatio=\"none\"/>" ++ after))
    simp only [List.append_assoc, if_neg picture, List.nil_append] at shown ⊢
    exact shown

theorem drawItem_picture {item : LayoutItem} (marked : item.Marked)
    (some_ : ∀ box, item.picture = some box → box.image.bytes ≠ []) :
    renderedPageImage (drawItem drawing item ++ after) =
      (item.picture.map (dataUri ·.image)).orElse fun _ => renderedPageImage after := by
  cases item with
  | text run => exact renderedPageImage_unpictured (inert_unpictured (drawText_inert run))
  | box box => exact renderedPageImage_unpictured (inert_unpictured (drawBox_inert box))
  | rects item => exact renderedPageImage_unpictured (inert_unpictured (drawRects_inert item))
  | path item => exact renderedPageImage_unpictured (inert_unpictured (drawPath_inert item))
  | image item =>
    by_cases signature : item.role = some .signature
    · have href : without 60 (units "image h") (dataUri item.image) = true :=
        without_of_not_mem (dataUri_plain item.image)
      have placed := inert_unpictured (place_inert drawing item.x item.top item.width item.height)
      have unclipped : item.clip = none := marked signature
      simp only [LayoutItem.picture, if_pos signature, drawItem, drawImage, unclipped, List.append_assoc]
      rw [← List.append_assoc (units "<image "), renderedPageImage_unpictured (by decide),
        renderedPageImage_unpictured (by decide), renderedPageImage_unpictured href, renderedPageImage_unpictured (by decide),
        renderedPageImage_unpictured placed, renderedPageImage_unpictured (by decide)]
      rfl
    · simp only [LayoutItem.picture, if_neg signature] at some_ ⊢
      exact drawImage_picture signature (some_ item rfl)

/-- The picture found in a page is the one its layout shows there. -/
theorem renderedPageImage_page {layout : Layout} {page : LayoutPage} {stamp : Option (Addresses × StampGeometry)}
    (marked : ∀ item ∈ page.items, item.Marked)
    (some_ : ∀ item ∈ page.items, ∀ box, item.picture = some box → box.image.bytes ≠ []) :
    renderedPageImage (renderPage drawing layout page stamp) =
      (page.items.filterMap LayoutItem.picture).head?.map (dataUri ·.image) := by
  have head := inert_unpictured (pageHead_inert drawing layout page)
  have stamped : without 60 (units "image h") (match stamp with
      | some (addresses, geometry) => addressStamp drawing addresses geometry
      | none => []) = true := by
    cases stamp with
    | none => rfl
    | some stamp => exact inert_unpictured (addressStamp_inert stamp.1 stamp.2)
  have drawn (items : List LayoutItem) (marked : ∀ item ∈ items, item.Marked)
      (some_ : ∀ item ∈ items, ∀ box, item.picture = some box → box.image.bytes ≠ []) (after : Text) :
      renderedPageImage ((items.map (drawItem drawing)).flatten ++ after) =
        ((items.filterMap LayoutItem.picture).head?.map (dataUri ·.image)).orElse fun _ => renderedPageImage after := by
    induction items with
    | nil => rfl
    | cons item items ih =>
      have rest := ih (fun other member => marked other (List.mem_cons_of_mem _ member))
        (fun other member => some_ other (List.mem_cons_of_mem _ member))
      rw [List.map_cons, List.flatten_cons, List.append_assoc,
        drawItem_picture (marked item List.mem_cons_self) (some_ item List.mem_cons_self), rest, List.filterMap_cons]
      cases item.picture <;> rfl
  unfold renderPage
  simp only [List.append_assoc]
  rw [renderedPageImage_unpictured (by decide), renderedPageImage_unpictured head, drawn _ marked some_,
    renderedPageImage_unpictured stamped]
  cases (page.items.filterMap LayoutItem.picture).head? <;> rfl

end LetterIRL.Render
