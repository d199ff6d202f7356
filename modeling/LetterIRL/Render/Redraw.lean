import LetterIRL.Render.Preview

namespace LetterIRL.Render

open Photos

/-! A letter draft's preview drawn again, in place. -/

structure Address where
  name : Text
  addressLine1 : Text
  addressLine2 : Option Text
  city : Text
  state : Text
  postalCode : Text

/-- `line.trim()` -/
def trim (line : Text) : Text := ((line.dropWhile isSpace).reverse.dropWhile isSpace).reverse

def stampedAddressLines (toUpperCase : Text → Text) (address : Address) : List Text :=
  ([some address.name, some address.addressLine1, address.addressLine2,
    some (address.city ++ units ", " ++ address.state ++ units " " ++ address.postalCode)].filterMap id).filter
      (trim · != []) |>.map fun line => toUpperCase (trim line)

def withPicture (image : RenderImage) : LayoutItem → LayoutItem
  | .image item => if item.role = some .signature then .image item else .image { item with image := image }
  | item => item

/-- The layout with one image for every picture of it. -/
def Layout.withPictures (layout : Layout) (image : RenderImage) : Layout :=
  { layout with pages := layout.pages.map fun page => { page with items := page.items.map (withPicture image) } }

def withDisplayImage (layout : Layout) : Option Text → Except ImageError Layout
  | none => .ok layout
  | some uri =>
    match readImageDataUri uri with
    | .error error => .error error
    | .ok image => .ok (layout.withPictures image)

structure Letter where
  sender : Address
  recipient : Address
  words : LetterWords

/-- A draft's preview as stored, and how many of its pages are the letter's. -/
structure Stored where
  previewHtml : Option Text
  pages : Nat

def isSignature : LayoutItem → Bool
  | .image item => item.role == some .signature
  | _ => false

def drawsImage (layout : Layout) : Bool := layout.pages.any fun page => page.items.any (·.picture.isSome)

def signed (layout : Layout) : Bool := layout.pages.any fun page => page.items.any isSignature

section

variable (drawing : Drawing) (toUpperCase : Text → Text)

def letterOptions (letter : Letter) : PreviewOptions where
  addresses := some ⟨stampedAddressLines toUpperCase letter.sender, stampedAddressLines toUpperCase letter.recipient⟩

/-- Null as `.ok none`; an image that cannot be read throws. -/
def redrawLetterPreview (stored : Stored) (layout : Layout) (letter : Letter) (theme : Option Text) :
    Except ImageError (Option Text) :=
  let storedPages := rendererDocumentPages stored.previewHtml
  let letterPages := storedPages.take stored.pages
  let after := storedPages.drop stored.pages
  let image := letterPages.findSome? renderedPageImage
  if letterPages.length < stored.pages ∨ letterPages = [] ∨ (drawsImage layout = true ∧ image = none) then .ok none
  else
    match withDisplayImage layout image with
    | .error error => .error error
    | .ok shown =>
      .ok (some (renderLetterPreviewDocument
        (renderPreviewSvg drawing shown (letterOptions toUpperCase letter) ++ after) letter.words
        (rendererVersionFor theme (signed layout))))

/-- A layout of a letter: its signature is in its band, where nothing cuts it. -/
structure LetterLayout where
  layout : Layout
  marked : ∀ page ∈ layout.pages, ∀ item ∈ page.items, item.Marked

/-- What a tool draws a draft again from. -/
structure Redraw where
  layout : LetterLayout
  letter : Letter
  theme : Option Text

/-- The draft after a tool has drawn it again; as it was, when the tool is refused. -/
def redrawn (stored : Stored) (call : Redraw) : Stored :=
  match redrawLetterPreview drawing toUpperCase stored call.layout.layout call.letter call.theme with
  | .ok (some html) => { previewHtml := some html, pages := call.layout.layout.pages.length }
  | _ => stored

end

/-- The pages after the letter's own: a gift letter's card. -/
def pagesAfter (stored : Stored) : List Text := (rendererDocumentPages stored.previewHtml).drop stored.pages

variable {drawing : Drawing} {toUpperCase : Text → Text} {stored : Stored} {layout shown : Layout} {letter : Letter}
  {theme : Option Text} {html : Text}

/-- What a redraw that succeeds has drawn. -/
structure Drawn (drawing : Drawing) (toUpperCase : Text → Text) (stored : Stored) (layout : Layout) (letter : Letter)
    (theme : Option Text) (html : Text) (shown : Layout) : Prop where
  enough : stored.pages ≤ (rendererDocumentPages stored.previewHtml).length
  pictured : drawsImage layout = true →
    ((rendererDocumentPages stored.previewHtml).take stored.pages).findSome? renderedPageImage ≠ none
  display : withDisplayImage layout
    (((rendererDocumentPages stored.previewHtml).take stored.pages).findSome? renderedPageImage) = .ok shown
  written : html = renderLetterPreviewDocument
    (renderPreviewSvg drawing shown (letterOptions toUpperCase letter) ++ pagesAfter stored) letter.words
    (rendererVersionFor theme (signed layout))

theorem redrawLetterPreview_cases (drew : redrawLetterPreview drawing toUpperCase stored layout letter theme = .ok (some html)) :
    ∃ shown, Drawn drawing toUpperCase stored layout letter theme html shown := by
  unfold redrawLetterPreview at drew
  dsimp only at drew
  split at drew
  · simp at drew
  · rename_i refused
    rw [not_or, not_or] at refused
    split at drew
    · simp at drew
    · rename_i shown display
      refine ⟨shown, ?_, fun draws empty => refused.2.2 ⟨draws, empty⟩, display, ?_⟩
      · have enough := refused.1
        rw [List.length_take] at enough
        omega
      · exact (Option.some.inj (Except.ok.inj drew)).symm

theorem length_renderPreviewSvg (layout : Layout) (options : PreviewOptions) :
    (renderPreviewSvg drawing layout options).length = layout.pages.length := List.length_mapIdx

theorem withDisplayImage_cases {found : Option Text} (display : withDisplayImage layout found = .ok shown) :
    (found = none ∧ shown = layout) ∨
      ∃ uri image, found = some uri ∧ readImageDataUri uri = .ok image ∧ shown = layout.withPictures image := by
  cases found with
  | none => exact Or.inl ⟨rfl, (Except.ok.inj display).symm⟩
  | some uri =>
    rw [withDisplayImage] at display
    cases read : readImageDataUri uri with
    | error _ => rw [read] at display; simp at display
    | ok image =>
      rw [read] at display
      exact Or.inr ⟨uri, image, rfl, read, (Except.ok.inj display).symm⟩

theorem withDisplayImage_pages {found : Option Text} (display : withDisplayImage layout found = .ok shown) :
    shown.pages.length = layout.pages.length := by
  rcases withDisplayImage_cases display with ⟨_, rfl⟩ | ⟨_, image, _, _, rfl⟩
  · rfl
  · exact List.length_map _

/-- The pages of a redrawn document: the letter's, as drawn now, and then those after it, as they were. -/
theorem Drawn.pages (drawn : Drawn drawing toUpperCase stored layout letter theme html shown) :
    rendererDocumentPages (some html) =
      renderPreviewSvg drawing shown (letterOptions toUpperCase letter) ++ pagesAfter stored := by
  rw [drawn.written]
  refine rendererDocumentPages_document (fun page member => ?_)
    (printable_plain (rendererVersionFor_printable theme _)) (hiddenWords_silent letter.words)
  rcases List.mem_append.mp member with new | kept
  · exact renderPreviewSvg_balanced _ _ page new
  · exact balanced_of_read (List.mem_of_mem_drop kept)

theorem Drawn.length (drawn : Drawn drawing toUpperCase stored layout letter theme html shown) :
    (renderPreviewSvg drawing shown (letterOptions toUpperCase letter)).length = layout.pages.length :=
  (length_renderPreviewSvg _ _).trans (withDisplayImage_pages drawn.display)

theorem Drawn.pagesAfter (drawn : Drawn drawing toUpperCase stored layout letter theme html shown) :
    pagesAfter { previewHtml := some html, pages := layout.pages.length } = pagesAfter stored := by
  rw [Render.pagesAfter, drawn.pages, ← drawn.length, List.drop_left]

theorem Drawn.letterPages (drawn : Drawn drawing toUpperCase stored layout letter theme html shown) :
    (rendererDocumentPages (some html)).take layout.pages.length =
      renderPreviewSvg drawing shown (letterOptions toUpperCase letter) := by
  rw [drawn.pages, ← drawn.length, List.take_left]

theorem findSome?_mapIdx {pages : List LayoutPage} {draw : Nat → LayoutPage → Text} {found : LayoutPage → Option Text}
    (same : ∀ index, ∀ page ∈ pages, renderedPageImage (draw index page) = found page) :
    (pages.mapIdx draw).findSome? renderedPageImage = pages.findSome? found := by
  induction pages generalizing draw with
  | nil => rfl
  | cons page pages ih =>
    have shifted (index : Nat) (other : LayoutPage) (member : other ∈ pages) :
        renderedPageImage (draw (index + 1) other) = found other := same (index + 1) other (List.mem_cons_of_mem _ member)
    have rest := ih shifted
    rw [List.mapIdx_cons, List.findSome?_cons, List.findSome?_cons, same 0 page List.mem_cons_self, rest]

/-- Pages whose pictures all show one image: it is found in them when they have a picture at all. -/
theorem found_picture (drawing : Drawing) (shown : Layout) {image : RenderImage} (options : PreviewOptions) (some_ : image.bytes ≠ [])
    (marked : ∀ page ∈ shown.pages, ∀ item ∈ page.items, item.Marked)
    (each : ∀ page ∈ shown.pages, ∀ item ∈ page.items, ∀ box, item.picture = some box → box.image = image) :
    (renderPreviewSvg drawing shown options).findSome? renderedPageImage =
      if drawsImage shown then some (dataUri image) else none := by
  have page_ (index : Nat) (page : LayoutPage) (member : page ∈ shown.pages) :
      renderedPageImage (renderPage drawing shown page
        (if index = options.stampPage then options.addresses.map (·, options.geometry) else none)) =
      if page.items.any (·.picture.isSome) then some (dataUri image) else none := by
    rw [renderedPageImage_page (marked page member) fun item inside box picture => by
      rw [each page member item inside box picture]
      exact some_]
    have same := each page member
    generalize page.items = items at same
    induction items with
    | nil => rfl
    | cons item items ih =>
      rw [List.filterMap_cons, List.any_cons]
      cases picture : item.picture with
      | none => exact ih fun other inside => same other (List.mem_cons_of_mem _ inside)
      | some box =>
        rw [List.head?_cons, Option.map_some, same item List.mem_cons_self box picture]
        rfl
  unfold renderPreviewSvg drawsImage
  rw [findSome?_mapIdx page_]
  generalize shown.pages = pages
  induction pages with
  | nil => rfl
  | cons page pages ih =>
    rw [List.findSome?_cons, List.any_cons, ih]
    cases page.items.any (·.picture.isSome) <;> rfl

theorem drawsImage_false (none_ : drawsImage layout = false) {page : LayoutPage} (member : page ∈ layout.pages)
    {item : LayoutItem} (inside : item ∈ page.items) : item.picture = none := by
  have quiet := List.any_eq_false.mp none_ page member
  have plain := List.any_eq_false.mp (Bool.not_eq_true _ ▸ quiet) item inside
  simpa using plain

theorem withPicture_picture (image : RenderImage) (item : LayoutItem) :
    (withPicture image item).picture = item.picture.map ({ · with image := image }) := by
  cases item with
  | image box =>
    by_cases signature : box.role = some .signature
    · simp [withPicture, LayoutItem.picture, signature]
    · simp [withPicture, LayoutItem.picture, signature]
  | text _ => rfl
  | box _ => rfl
  | rects _ => rfl
  | path _ => rfl

theorem withPicture_none {image : RenderImage} {item : LayoutItem} (none_ : item.picture = none) :
    withPicture image item = item := by
  cases item with
  | image box =>
    by_cases signature : box.role = some .signature
    · simp [withPicture, signature]
    · simp [LayoutItem.picture, signature] at none_
  | text _ => rfl
  | box _ => rfl
  | rects _ => rfl
  | path _ => rfl

theorem withPicture_marked {image : RenderImage} {item : LayoutItem} (marked : item.Marked) : (withPicture image item).Marked := by
  cases item with
  | image box =>
    by_cases signature : box.role = some .signature
    · rw [withPicture, if_pos signature]
      exact marked
    · rw [withPicture, if_neg signature]
      exact fun again => absurd again signature
  | text _ => trivial
  | box _ => trivial
  | rects _ => trivial
  | path _ => trivial

theorem withPictures_none {image : RenderImage} (none_ : drawsImage layout = false) : layout.withPictures image = layout := by
  have pages : (layout.pages.map fun page => { page with items := page.items.map (withPicture image) }) = layout.pages := by
    conv_rhs => rw [← List.map_id layout.pages]
    refine List.map_congr_left fun page member => ?_
    have items : page.items.map (withPicture image) = page.items := by
      conv_rhs => rw [← List.map_id page.items]
      exact List.map_congr_left fun item inside => withPicture_none (drawsImage_false none_ member inside)
    rw [items]
    rfl
  rw [Layout.withPictures, pages]

theorem withPictures_draws (image : RenderImage) : drawsImage (layout.withPictures image) = drawsImage layout := by
  simp only [drawsImage, Layout.withPictures, List.any_map, Function.comp_def, withPicture_picture, Option.isSome_map]

/-- The picture found in the pages just drawn is the one they were drawn with. -/
theorem Drawn.again (drawn : Drawn drawing toUpperCase stored layout letter theme html shown)
    (marked : ∀ page ∈ layout.pages, ∀ item ∈ page.items, item.Marked) :
    ∃ found, (renderPreviewSvg drawing shown (letterOptions toUpperCase letter)).findSome? renderedPageImage = found ∧
      (drawsImage layout = true → found ≠ none) ∧ withDisplayImage layout found = .ok shown := by
  rcases withDisplayImage_cases drawn.display with ⟨nothing, rfl⟩ | ⟨uri, image, _, read, rfl⟩
  · have none_ : drawsImage shown = false := by
      cases draws : drawsImage shown with
      | false => rfl
      | true => exact absurd nothing (drawn.pictured draws)
    have bare (page : LayoutPage) (member : page ∈ shown.pages) (item : LayoutItem) (inside : item ∈ page.items)
        (box : ImageBox) (picture : item.picture = some box) : box.image = ⟨[0], .png, 1, 1⟩ := by
      rw [drawsImage_false none_ member inside] at picture
      simp at picture
    have found := found_picture drawing shown (letterOptions toUpperCase letter) (List.cons_ne_nil 0 []) marked bare
    rw [none_] at found
    exact ⟨none, found, fun draws => absurd draws (by rw [none_]; decide), rfl⟩
  · obtain ⟨bytes, from_⟩ := readImageDataUri_cases read
    have found := found_picture drawing (layout.withPictures image) (letterOptions toUpperCase letter)
      (readImage_ne_nil from_)
      (fun page member item inside => by
        obtain ⟨old, was, rfl⟩ := List.mem_map.mp member
        obtain ⟨before, had, rfl⟩ := List.mem_map.mp inside
        exact withPicture_marked (marked old was before had))
      (fun page member item inside box picture => by
        obtain ⟨old, was, rfl⟩ := List.mem_map.mp member
        obtain ⟨before, had, rfl⟩ := List.mem_map.mp inside
        rw [withPicture_picture] at picture
        obtain ⟨_, _, rfl⟩ := Option.map_eq_some_iff.mp picture
        rfl)
    rw [withPictures_draws] at found
    cases draws : drawsImage layout with
    | false =>
      rw [draws] at found
      refine ⟨none, found, fun yes => absurd yes (by decide), ?_⟩
      rw [withPictures_none draws]
      rfl
    | true =>
      rw [draws] at found
      refine ⟨some (dataUri image), found, fun _ => Option.some_ne_none _, ?_⟩
      rw [withDisplayImage, readImageDataUri_dataUri from_]

/-- A layout with a page is drawn again as it was. -/
theorem redraw_again (drew : redrawLetterPreview drawing toUpperCase stored layout letter theme = .ok (some html))
    (marked : ∀ page ∈ layout.pages, ∀ item ∈ page.items, item.Marked) (paged : layout.pages ≠ []) :
    redrawLetterPreview drawing toUpperCase { previewHtml := some html, pages := layout.pages.length } layout letter theme =
      .ok (some html) := by
  obtain ⟨shown, drawn⟩ := redrawLetterPreview_cases drew
  obtain ⟨found, again, pictured, display⟩ := drawn.again marked
  have pages := drawn.letterPages
  have length := drawn.length
  have some_ : renderPreviewSvg drawing shown (letterOptions toUpperCase letter) ≠ [] := by
    intro empty
    rw [empty] at length
    exact paged (List.length_eq_zero_iff.mp length.symm)
  unfold redrawLetterPreview
  dsimp only
  rw [pages, again, length, if_neg]
  · rw [display]
    have after := drawn.pagesAfter
    unfold pagesAfter at after
    dsimp only at after ⊢
    rw [after, drawn.written]
    rfl
  · rintro (fewer | empty | ⟨draws, nothing⟩)
    · exact lt_irrefl _ fewer
    · exact some_ empty
    · exact pictured draws nothing

theorem redrawn_of_some {call : Redraw}
    (drew : redrawLetterPreview drawing toUpperCase stored call.layout.layout call.letter call.theme = .ok (some html)) :
    redrawn drawing toUpperCase stored call = { previewHtml := some html, pages := call.layout.layout.pages.length } := by
  unfold redrawn
  rw [drew]

theorem redrawn_cases (drawing : Drawing) (toUpperCase : Text → Text) (stored : Stored) (call : Redraw) :
    redrawn drawing toUpperCase stored call = stored ∨ ∃ html,
      redrawLetterPreview drawing toUpperCase stored call.layout.layout call.letter call.theme = .ok (some html) := by
  cases drew : redrawLetterPreview drawing toUpperCase stored call.layout.layout call.letter call.theme with
  | error _ =>
    left
    unfold redrawn
    rw [drew]
  | ok answer =>
    cases answer with
    | none =>
      left
      unfold redrawn
      rw [drew]
    | some html => exact Or.inr ⟨html, rfl⟩

theorem redrawn_pagesAfter (call : Redraw) : pagesAfter (redrawn drawing toUpperCase stored call) = pagesAfter stored := by
  rcases redrawn_cases drawing toUpperCase stored call with same | ⟨html, drew⟩
  · rw [same]
  · obtain ⟨shown, drawn⟩ := redrawLetterPreview_cases drew
    rw [redrawn_of_some drew]
    exact drawn.pagesAfter

theorem redraws_pagesAfter (calls : List Redraw) (stored : Stored) :
    pagesAfter (calls.foldl (redrawn drawing toUpperCase) stored) = pagesAfter stored := by
  induction calls generalizing stored with
  | nil => rfl
  | cons call calls ih => rw [List.foldl_cons, ih, redrawn_pagesAfter]

/-- A preview of no pages of the letter's own is not drawn from. -/
theorem redraw_unpaged (unpaged : stored.pages = 0) :
    redrawLetterPreview drawing toUpperCase stored layout letter theme = .ok none := by
  unfold redrawLetterPreview
  dsimp only
  rw [unpaged, if_pos]
  exact Or.inr (Or.inl rfl)

theorem redrawn_again (stored : Stored) (call : Redraw) :
    redrawn drawing toUpperCase (redrawn drawing toUpperCase stored call) call = redrawn drawing toUpperCase stored call := by
  rcases redrawn_cases drawing toUpperCase stored call with same | ⟨html, drew⟩
  · rw [same, same]
  · rw [redrawn_of_some drew]
    by_cases paged : call.layout.layout.pages = []
    · unfold redrawn
      rw [redraw_unpaged]
      exact congrArg List.length paged
    · exact redrawn_of_some (redraw_again drew call.layout.marked paged)

/-- The pages of a letter's document are read back as written, whatever its words; so however often a draft is drawn
again, the pages after the letter's own stay, and drawing it again from the same layout changes nothing. -/
theorem preview_round_trip (drawing : Drawing) (toUpperCase : Text → Text) :
    (∀ pages words, ∀ version ∈ PRINTABLE_RENDERER_VERSIONS, (∀ page ∈ pages, Balanced page) →
      rendererDocumentPages (some (renderLetterPreviewDocument pages words version)) = pages) ∧
    (∀ stored, ∀ calls : List Redraw, pagesAfter (calls.foldl (redrawn drawing toUpperCase) stored) = pagesAfter stored) ∧
    (∀ stored call, redrawn drawing toUpperCase (redrawn drawing toUpperCase stored call) call =
      redrawn drawing toUpperCase stored call) ∧
    (∀ stored html, ∀ call : Redraw, call.layout.layout.pages ≠ [] →
      redrawLetterPreview drawing toUpperCase stored call.layout.layout call.letter call.theme = .ok (some html) →
      redrawLetterPreview drawing toUpperCase (redrawn drawing toUpperCase stored call) call.layout.layout call.letter
        call.theme = .ok (some html)) := by
  refine ⟨fun pages words version printable each => ?_, fun stored calls => redraws_pagesAfter calls stored,
    redrawn_again, fun stored html call paged drew => ?_⟩
  · exact rendererDocumentPages_document each (printable_plain printable) (hiddenWords_silent words)
  · rw [redrawn_of_some drew]
    exact redraw_again drew call.layout.marked paged

def zeroMarkup : Markup := ⟨units "0", by decide⟩

/-- A layout without an image is drawn again from any document with pages enough. -/
theorem redrawLetterPreview_draws {stored : Stored} {layout shown : Layout} {letter : Letter} {theme : Option Text}
    {pages : List Text} (read : rendererDocumentPages stored.previewHtml = pages) (enough : stored.pages ≤ pages.length)
    (some_ : pages.take stored.pages ≠ []) (plain : drawsImage layout = false)
    (display : withDisplayImage layout ((pages.take stored.pages).findSome? renderedPageImage) = .ok shown) :
    ∃ html, redrawLetterPreview drawing toUpperCase stored layout letter theme = .ok (some html) := by
  have drawn : ¬((pages.take stored.pages).length < stored.pages ∨ pages.take stored.pages = [] ∨
      drawsImage layout = true ∧ (pages.take stored.pages).findSome? renderedPageImage = none) := by
    rw [List.length_take, plain]
    rintro (few | none_ | ⟨⟨⟩, -⟩)
    · omega
    · exact some_ none_
  unfold redrawLetterPreview
  dsimp only
  rw [read, if_neg drawn, display]
  exact ⟨_, rfl⟩

/-- Every number written as 0, and no glyphs. -/
def bare : Drawing where
  shown _ := zeroMarkup
  placeGlyphs _ := []

def bareAddress : Address := ⟨units "A", units "1 B St", none, units "C", units "D", units "00000"⟩

/-- A page of nothing. -/
def emptyRedraw : Redraw where
  layout := { layout := { width := .finite 612, height := .finite 792, pages := [{ items := [] }] }
              marked := fun page member item inside => by
                rw [List.mem_singleton.mp member] at inside
                nomatch inside }
  letter := ⟨bareAddress, bareAddress, ⟨units "</svg> <svg x", []⟩⟩
  theme := none

def nestedPage : Text := units "<svg a><svg b></svg></svg>"

def nestedHtml : Text := renderLetterPreviewDocument [nestedPage, nestedPage] ⟨units "<svg ", units "</svg>"⟩ RENDERER_VERSION

theorem nested_round_trip : rendererDocumentPages (some nestedHtml) = [nestedPage, nestedPage] ∧
    ∃ html, redrawLetterPreview bare id ⟨some nestedHtml, 1⟩ emptyRedraw.layout.layout emptyRedraw.letter none = .ok (some html) ∧
      redrawLetterPreview bare id (redrawn bare id ⟨some nestedHtml, 1⟩ emptyRedraw) emptyRedraw.layout.layout
        emptyRedraw.letter none = .ok (some html) := by
  have balanced : ∀ page ∈ [nestedPage, nestedPage], Balanced page := by decide
  have read := (preview_round_trip bare id).1 [nestedPage, nestedPage] ⟨units "<svg ", units "</svg>"⟩ RENDERER_VERSION
    List.mem_cons_self balanced
  have drew : ∃ html, redrawLetterPreview bare id ⟨some nestedHtml, 1⟩ emptyRedraw.layout.layout emptyRedraw.letter none =
      .ok (some html) := by
    exact redrawLetterPreview_draws read (by decide) (by decide) rfl rfl
  obtain ⟨html, drew⟩ := drew
  exact ⟨read, html, drew, (preview_round_trip bare id).2.2.2 _ html emptyRedraw (List.cons_ne_nil _ _) drew⟩

end LetterIRL.Render
