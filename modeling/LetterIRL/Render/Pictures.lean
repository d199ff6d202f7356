import LetterIRL.Lib.Encoded
import LetterIRL.Render.Document

namespace LetterIRL.Render

open Lib Photos

/-! Pictures as data URIs: written into a page, and found in it again. -/

/-- The character of six bits in the standard alphabet. -/
def base64Symbol (bits : Nat) : Nat := if bits = 62 then 43 else if bits = 63 then 47 else Base64.symbol bits

/-- The six bits of a character of either alphabet. -/
def base64Bits (unit : Nat) : Option Nat := if unit = 43 then some 62 else if unit = 47 then some 63 else Base64.bitsOf unit

/-- `bytes.toString('base64')` -/
def toBase64 (bytes : Buffer) : Text :=
  (Base64.sextets (bytes.map UInt8.toNat)).map base64Symbol ++ List.replicate ((3 - bytes.length % 3) % 3) 61

/-- `Buffer.from(text, 'base64')`, which skips what is in neither alphabet. -/
def fromBase64 (text : Text) : Buffer := (Base64.bytesOf (text.filterMap base64Bits)).map UInt8.ofNat

/-- `[A-Za-z0-9+/=]` -/
def isBase64 (unit : Nat) : Bool :=
  (65 ≤ unit && unit ≤ 90) || (97 ≤ unit && unit ≤ 122) || (48 ≤ unit && unit ≤ 57) || unit == 43 || unit == 47 || unit == 61

def mimeText : ImageMime → Text
  | .jpeg => units "image/jpeg"
  | .png => units "image/png"


inductive ImageError
  /-- "The image is not a JPEG or PNG data URI." -/
  | notDataUri
  | unread (error : ReadError)
  deriving DecidableEq

/-- What follows a lead, when it is all base 64 or white space. -/
def dataAfter (uri lead : Text) : Option Text :=
  if lead.isPrefixOf uri && uri.drop lead.length != [] &&
    (uri.drop lead.length).all (fun unit => isBase64 unit || isSpace unit)
  then some (uri.drop lead.length) else none

/-- The data of `/^data:image\/(jpeg|jpg|png);base64,([A-Za-z0-9+/=\s]+)$/`. -/
def dataOf (uri : Text) : Option Text :=
  [units "data:image/jpeg;base64,", units "data:image/jpg;base64,", units "data:image/png;base64,"].findSome? (dataAfter uri)

def readImageDataUri (uri : Text) : Except ImageError RenderImage :=
  match dataOf uri with
  | none => .error .notDataUri
  | some data =>
    match readImage (fromBase64 data) with
    | .ok image => .ok image
    | .error error => .error (.unread error)

def uriLead (mime : ImageMime) : Text := units "data:" ++ mimeText mime ++ units ";base64,"

def dataUri (image : RenderImage) : Text := uriLead image.mime ++ toBase64 image.bytes

/-- The picture of one type that a text begins with the tag of. -/
def pictureOf (text : Text) (mime : ImageMime) : Option Text :=
  let opened := units "<image href=\"" ++ uriLead mime
  let run := (text.drop opened.length).takeWhile isBase64
  if opened.isPrefixOf text && run != [] && (text.drop (opened.length + run.length)).head? == some 34
  then some (uriLead mime ++ run) else none

/-- What `/<image href="(data:image\/(?:jpeg|png);base64,[A-Za-z0-9+/=]+)"/` matches at the start of a text. -/
def pictureAt (text : Text) : Option Text := [ImageMime.jpeg, .png].findSome? (pictureOf text)

def renderedPageImage : Text → Option Text
  | [] => none
  | unit :: tail =>
    match pictureAt (unit :: tail) with
    | some uri => some uri
    | none => renderedPageImage tail

/-- Text with no tag of an `<svg>` in it and no picture. -/
def inert (text : Text) : Bool := silent text && without 60 (units "image h") text

variable {text before after : Text} {image : RenderImage}

theorem inert_silent (quiet : inert text = true) : silent text = true := (Bool.and_eq_true_iff.mp quiet).1

theorem inert_unpictured (quiet : inert text = true) : without 60 (units "image h") text = true :=
  (Bool.and_eq_true_iff.mp quiet).2

theorem inert_append (first : inert before = true) (second : inert after = true) : inert (before ++ after) = true :=
  Bool.and_eq_true_iff.mpr ⟨silent_append (inert_silent first) (inert_silent second),
    without_append (inert_unpictured first) (inert_unpictured second)⟩

theorem inert_plain (plain : 60 ∉ text) : inert text = true :=
  Bool.and_eq_true_iff.mpr ⟨silent_plain plain, without_of_not_mem plain⟩

theorem inert_flatten {pieces : List Text} (each : ∀ piece ∈ pieces, inert piece = true) : inert pieces.flatten = true := by
  induction pieces with
  | nil => rfl
  | cons piece pieces ih =>
    rw [List.flatten_cons]
    exact inert_append (each piece List.mem_cons_self) (ih fun other member => each other (List.mem_cons_of_mem _ member))

theorem pictureAt_begins {uri : Text} (found : pictureAt text = some uri) : units "<image h" <+: text := by
  obtain ⟨mime, _, shown⟩ := List.exists_of_findSome?_eq_some found
  unfold pictureOf at shown
  dsimp only at shown
  split at shown
  · rename_i matched
    simp only [Bool.and_eq_true, List.isPrefixOf_iff_prefix] at matched
    have begun : units "<image h" <+: units "<image href=\"" := by decide
    exact begun.trans ((List.prefix_append _ _).trans matched.1.1)
  · simp at shown

theorem renderedPageImage_unpictured (free : without 60 (units "image h") text = true) :
    renderedPageImage (text ++ after) = renderedPageImage after := by
  induction text with
  | nil => rfl
  | cons unit tail ih =>
    rw [List.cons_append, renderedPageImage]
    cases found : pictureAt (unit :: (tail ++ after)) with
    | none => exact ih (without_cons.mp free).2
    | some uri =>
      obtain ⟨rest, whole⟩ := pictureAt_begins found
      obtain ⟨head, tail_⟩ := List.cons.inj whole
      rw [← head] at free
      exact absurd ⟨rest, tail_⟩ (without_unmatched free after)

theorem renderedPageImage_none (free : without 60 (units "image h") text = true) : renderedPageImage text = none := by
  rw [← List.append_nil text, renderedPageImage_unpictured free]
  rfl

theorem base64Symbol_class {bits : Nat} (small : bits < 64) : isBase64 (base64Symbol bits) = true := by
  revert bits
  decide

theorem base64Bits_symbol {bits : Nat} (small : bits < 64) : base64Bits (base64Symbol bits) = some bits := by
  revert bits
  decide

theorem byte_small (bytes : Buffer) : ∀ byte ∈ bytes.map UInt8.toNat, byte < 256 := by
  intro byte member
  obtain ⟨unit, _, rfl⟩ := List.mem_map.mp member
  exact unit.toNat_lt

theorem toBase64_class (bytes : Buffer) : ∀ unit ∈ toBase64 bytes, isBase64 unit = true := by
  intro unit member
  rcases List.mem_append.mp member with symbol | padding
  · obtain ⟨bits, six, rfl⟩ := List.mem_map.mp symbol
    exact base64Symbol_class (Base64.sextets_small _ (byte_small bytes) bits six)
  · rw [List.eq_of_mem_replicate padding]
    rfl

theorem toBase64_ne_nil {bytes : Buffer} (some_ : bytes ≠ []) : toBase64 bytes ≠ [] := by
  cases bytes with
  | nil => exact absurd rfl some_
  | cons byte bytes =>
    match bytes with
    | [] => exact List.cons_ne_nil _ _
    | [_] => exact List.cons_ne_nil _ _
    | _ :: _ :: _ => exact List.cons_ne_nil _ _

theorem fromBase64_toBase64 (bytes : Buffer) : fromBase64 (toBase64 bytes) = bytes := by
  have padding (count : Nat) : (List.replicate count 61).filterMap base64Bits = [] := by
    rw [List.filterMap_eq_nil_iff]
    intro unit member
    rw [List.eq_of_mem_replicate member]
    rfl
  have bits : (Base64.sextets (bytes.map UInt8.toNat)).filterMap (base64Bits ∘ base64Symbol) =
      Base64.sextets (bytes.map UInt8.toNat) := by
    have small := Base64.sextets_small _ (byte_small bytes)
    conv_rhs => rw [← List.filterMap_some (l := Base64.sextets (bytes.map UInt8.toNat))]
    exact List.filterMap_congr fun six member => base64Bits_symbol (small six member)
  unfold fromBase64 toBase64
  rw [List.filterMap_append, List.filterMap_map, bits, padding, List.append_nil,
    Base64.bytesOf_sextets _ (byte_small bytes), List.map_map]
  conv_rhs => rw [← List.map_id bytes]
  exact List.map_congr_left fun byte _ => UInt8.ofNat_toNat

/-- Of two words that do not begin one another, a text begins with one only. -/
theorem not_prefix_of {word other : Text} (apart : ¬ word <+: other ∧ ¬ other <+: word) (begun : other <+: text) :
    ¬ word <+: text := by
  intro again
  rcases List.prefix_or_prefix_of_prefix again begun with first | second
  · exact apart.1 first
  · exact apart.2 second

theorem takeWhile_toBase64 (bytes : Buffer) : (toBase64 bytes ++ 34 :: after).takeWhile isBase64 = toBase64 bytes := by
  rw [List.takeWhile_append_of_pos (toBase64_class bytes), List.takeWhile_cons_of_neg (by decide), List.append_nil]

theorem pictureOf_other {mime : ImageMime} (apart : ¬ units "<image href=\"" ++ uriLead mime <+: text) :
    pictureOf text mime = none := by
  unfold pictureOf
  dsimp only
  rw [if_neg]
  intro matched
  simp only [Bool.and_eq_true, List.isPrefixOf_iff_prefix] at matched
  exact apart matched.1.1

/-- A picture written into a page is the one found at its tag. -/
theorem pictureAt_dataUri (some_ : image.bytes ≠ []) (after : Text) :
    pictureAt (units "<image href=\"" ++ dataUri image ++ 34 :: after) = some (dataUri image) := by
  have shown : pictureOf (units "<image href=\"" ++ dataUri image ++ 34 :: after) image.mime = some (dataUri image) := by
    have whole : units "<image href=\"" ++ dataUri image ++ 34 :: after =
        units "<image href=\"" ++ uriLead image.mime ++ (toBase64 image.bytes ++ 34 :: after) := by
      simp only [dataUri, List.append_assoc]
    unfold pictureOf
    dsimp only
    rw [whole, List.drop_left, takeWhile_toBase64, ← List.drop_drop, List.drop_left, List.drop_left, if_pos]
    · rfl
    · simp only [Bool.and_eq_true, List.isPrefixOf_iff_prefix, bne_iff_ne, List.head?_cons, beq_self_eq_true, and_true]
      exact ⟨List.prefix_append _ _, toBase64_ne_nil some_⟩
  unfold pictureAt
  rw [List.findSome?_cons]
  cases type_ : image.mime with
  | jpeg =>
    rw [type_] at shown
    rw [shown]
  | png =>
    have begun : units "<image href=\"" ++ uriLead .png <+: units "<image href=\"" ++ dataUri image ++ 34 :: after := by
      rw [dataUri, type_]
      simp only [← List.append_assoc]
      rw [List.append_assoc]
      exact List.prefix_append _ _
    rw [type_] at shown
    rw [pictureOf_other (not_prefix_of (by decide) begun)]
    simp only [List.findSome?_cons, shown]

theorem dataAfter_lead {lead data : Text} (some_ : data ≠ [])
    (classed : ∀ unit ∈ data, isBase64 unit = true) : dataAfter (lead ++ data) lead = some data := by
  unfold dataAfter
  rw [List.drop_left, if_pos]
  simp only [Bool.and_eq_true, List.isPrefixOf_iff_prefix, bne_iff_ne, List.all_eq_true]
  refine ⟨⟨List.prefix_append _ _, some_⟩, fun unit member => ?_⟩
  rw [classed unit member, Bool.true_or]

theorem dataAfter_other {uri lead : Text} (apart : ¬ lead <+: uri) : dataAfter uri lead = none := by
  unfold dataAfter
  rw [if_neg]
  intro matched
  simp only [Bool.and_eq_true, List.isPrefixOf_iff_prefix] at matched
  exact apart matched.1.1

theorem dataOf_dataUri (some_ : image.bytes ≠ []) : dataOf (dataUri image) = some (toBase64 image.bytes) := by
  have found : dataAfter (uriLead image.mime ++ toBase64 image.bytes) (uriLead image.mime) = some (toBase64 image.bytes) :=
    dataAfter_lead (toBase64_ne_nil some_) (toBase64_class image.bytes)
  have begun : uriLead image.mime <+: dataUri image := List.prefix_append _ _
  unfold dataOf
  cases type_ : image.mime with
  | jpeg =>
    rw [type_] at found
    rw [dataUri, type_, List.findSome?_cons, show units "data:image/jpeg;base64," = uriLead .jpeg by decide, found]
  | png =>
    rw [type_] at found begun
    rw [List.findSome?_cons, dataAfter_other (not_prefix_of (by decide) begun)]
    simp only
    rw [List.findSome?_cons, dataAfter_other (not_prefix_of (by decide) begun)]
    simp only
    rw [dataUri, type_, List.findSome?_cons, show units "data:image/png;base64," = uriLead .png by decide, found]

theorem readImage_ne_nil {bytes : Buffer} (read : readImage bytes = .ok image) : image.bytes ≠ [] := by
  have kept := readImage_keeps image read
  intro empty
  rw [kept] at empty
  rw [empty] at read
  exact nomatch (show Except.error ReadError.unreadable = Except.ok image from read)

/-- What was read off bytes is read again off its own data URI. -/
theorem readImageDataUri_dataUri {bytes : Buffer} (read : readImage bytes = .ok image) :
    readImageDataUri (dataUri image) = .ok image := by
  have kept := readImage_keeps image read
  unfold readImageDataUri
  rw [dataOf_dataUri (readImage_ne_nil read)]
  simp only
  rw [fromBase64_toBase64, kept, read]

theorem readImageDataUri_cases {uri : Text} (read : readImageDataUri uri = .ok image) :
    ∃ bytes, readImage bytes = .ok image := by
  unfold readImageDataUri at read
  split at read
  · simp at read
  · split at read
    · rename_i was
      rw [Except.ok.inj read] at was
      exact ⟨_, was⟩
    · simp at read

end LetterIRL.Render
