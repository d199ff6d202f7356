import Mathlib.Tactic

namespace LetterIRL.Photos

/-! The two walks over a photo's first bytes: `readImage`, for its size, and `jpegSamplesPerPixel`. -/

abbrev Buffer := List UInt8

inductive ImageMime
  | jpeg
  | png
  deriving DecidableEq

structure RenderImage where
  bytes : Buffer
  mime : ImageMime
  width : Nat
  height : Nat
  deriving DecidableEq

inductive ReadError
  /-- A read past the end of the buffer. -/
  | outOfRange
  /-- "The image is neither a JPEG nor a PNG with a readable size." -/
  | unreadable
  /-- "The image's size is empty or over 50 megapixels." -/
  | badSize (width height : Nat)
  /-- The turns allowed to a loop ran out. -/
  | endless
  deriving DecidableEq

/-- A byte of the buffer, that has to be there. -/
def byteAt (bytes : Buffer) (offset : Nat) : Except ReadError Nat :=
  match bytes[offset]? with
  | some byte => .ok byte.toNat
  | none => .error .outOfRange

def readUInt16BE (bytes : Buffer) (offset : Nat) : Except ReadError Nat := do
  let high ← byteAt bytes offset
  let low ← byteAt bytes (offset + 1)
  return high * 256 + low

def readUInt32BE (bytes : Buffer) (offset : Nat) : Except ReadError Nat := do
  let high ← readUInt16BE bytes offset
  let low ← readUInt16BE bytes (offset + 2)
  return high * 65536 + low

def START_OF_FRAME : List Nat := [0xc0, 0xc1, 0xc2, 0xc3, 0xc5, 0xc6, 0xc7, 0xc9, 0xca, 0xcb, 0xcd, 0xce, 0xcf]

def MAX_PIXELS : Nat := 50000000

def sized (image : RenderImage) : Except ReadError RenderImage :=
  if image.width < 1 ∨ image.height < 1 ∨ MAX_PIXELS < image.width * image.height then
    .error (.badSize image.width image.height)
  else .ok image

/-- The size in the frame header at an offset. -/
def frameSize (bytes : Buffer) (offset : Nat) : Except ReadError RenderImage := do
  let height ← readUInt16BE bytes (offset + 5)
  let width ← readUInt16BE bytes (offset + 7)
  sized { bytes := bytes, mime := .jpeg, width := width, height := height }

/-- The `while` of `readImage`, for so many turns. -/
def sizeWalk (bytes : Buffer) : Nat → Nat → Except ReadError RenderImage
  | 0, _ => .error .endless
  | turns + 1, offset =>
    if offset + 9 < bytes.length then do
      let first ← byteAt bytes offset
      if first ≠ 0xff then .error .unreadable
      else
        let marker ← byteAt bytes (offset + 1)
        if marker = 0xff then sizeWalk bytes turns (offset + 1)
        else
          let length ← readUInt16BE bytes (offset + 2)
          if marker ∈ START_OF_FRAME then frameSize bytes offset
          else sizeWalk bytes turns (offset + 2 + length)
    else .error .unreadable

/-- `bytes.toString('latin1', 12, 16) === 'IHDR'`. -/
def hasHeaderChunk (bytes : Buffer) : Bool := (bytes.drop 12).take 4 == [0x49, 0x48, 0x44, 0x52]

/-- The first four bytes of a buffer that is long enough for a PNG's size. -/
def pngSignature (bytes : Buffer) : Except ReadError Nat :=
  if 24 < bytes.length then readUInt32BE bytes 0 else .ok 0

def readImage (bytes : Buffer) : Except ReadError RenderImage := do
  let png ← pngSignature bytes
  if png = 0x89504e47 ∧ hasHeaderChunk bytes then
    let width ← readUInt32BE bytes 16
    let height ← readUInt32BE bytes 20
    sized { bytes := bytes, mime := .png, width := width, height := height }
  else if 4 < bytes.length ∧ bytes[0]? = some 0xff ∧ bytes[1]? = some 0xd8 then sizeWalk bytes (bytes.length + 1) 2
  else .error .unreadable

def JPEG_SOF_MARKERS : List Nat := [0xc0, 0xc1, 0xc2, 0xc3, 0xc5, 0xc6, 0xc7, 0xc9, 0xca, 0xcb, 0xcd, 0xce, 0xcf]

def JPEG_LENGTH_SKIPPED : List Nat := [0xfe, 0xdb, 0xc4, 0xdd, 0xcc, 0xdc]

def jpegSkipsByLength (marker : Nat) : Bool :=
  (0xe0 ≤ marker && marker ≤ 0xef) || decide (marker ∈ JPEG_LENGTH_SKIPPED)

/-- `buffer[offset]`, where what is past the end counts as 0. -/
def byteOrZero (bytes : Buffer) (offset : Nat) : Nat := (bytes[offset]?.map UInt8.toNat).getD 0

/-- The sampling factors the frame header at an offset names. -/
def factorsAt (bytes : Buffer) (offset components : Nat) : List (Nat × Nat) :=
  (List.range components).map fun index =>
    let sampling := byteOrZero bytes (offset + 11 + 3 * index)
    (sampling / 16, sampling % 16)

/-- `Math.max(...values)`. -/
def greatest (values : List Nat) : Nat := values.foldl max 0

/-- The samples a pixel of the frame header at an offset. -/
def frameSamples (bytes : Buffer) (offset : Nat) : Option ℚ :=
  let components := byteOrZero bytes (offset + 9)
  if components = 0 then none
  else
    let factors := factorsAt bytes offset components
    let maxH := greatest (factors.map Prod.fst)
    let maxV := greatest (factors.map Prod.snd)
    if maxH = 0 ∨ maxV = 0 ∨ factors.any fun factor => factor.1 == 0 || factor.2 == 0 then none
    else some (factors.foldl (fun sum factor => sum + (factor.1 / maxH : ℚ) * (factor.2 / maxV)) 0)

/-- The `while` of `jpegSamplesPerPixel`, for so many turns. -/
def samplesWalk (bytes : Buffer) : Nat → Nat → Except ReadError (Option ℚ)
  | 0, _ => .error .endless
  | turns + 1, offset =>
    if offset + 4 ≤ bytes.length then do
      let first ← byteAt bytes offset
      if first ≠ 0xff then .ok none
      else
        let marker ← byteAt bytes (offset + 1)
        if marker = 0xff then samplesWalk bytes turns (offset + 1)
        else if marker = 0x01 ∨ (0xd0 ≤ marker ∧ marker ≤ 0xd8) then samplesWalk bytes turns (offset + 2)
        else if marker ∉ JPEG_SOF_MARKERS ∧ jpegSkipsByLength marker = false then .ok none
        else
          let length ← readUInt16BE bytes (offset + 2)
          if marker ∈ JPEG_SOF_MARKERS then .ok (frameSamples bytes offset)
          else samplesWalk bytes turns (offset + 2 + length)
    else .ok none

def jpegSamplesPerPixel (bytes : Buffer) : Except ReadError (Option ℚ) := samplesWalk bytes (bytes.length + 1) 2

/-! Inside the buffer a read answers. -/

theorem ok_bind {α β : Type} (value : α) (next : α → Except ReadError β) :
    (Except.ok value >>= next) = next value := rfl

variable {bytes : Buffer} {offset : Nat}

theorem byteAt_inside (inside : offset < bytes.length) : byteAt bytes offset = .ok (bytes[offset].toNat) := by
  unfold byteAt
  rw [List.getElem?_eq_getElem inside]

theorem readUInt16BE_inside (inside : offset + 1 < bytes.length) :
    readUInt16BE bytes offset = .ok (bytes[offset].toNat * 256 + bytes[offset + 1].toNat) := by
  unfold readUInt16BE
  rw [byteAt_inside (by omega), byteAt_inside inside]
  rfl

theorem readUInt32BE_inside (inside : offset + 3 < bytes.length) : ∃ value, readUInt32BE bytes offset = .ok value := by
  unfold readUInt32BE
  rw [readUInt16BE_inside (by omega), readUInt16BE_inside (by omega)]
  exact ⟨_, rfl⟩

/-- What a reader may answer: a size, or that there is none. -/
def Answers (answer : Except ReadError RenderImage) : Prop := answer ≠ .error .outOfRange ∧ answer ≠ .error .endless

theorem sized_answers (image : RenderImage) : Answers (sized image) := by
  unfold sized
  split <;> exact ⟨nofun, nofun⟩

theorem frameSize_inside (inside : offset + 8 < bytes.length) : Answers (frameSize bytes offset) := by
  unfold frameSize
  rw [readUInt16BE_inside (by omega), readUInt16BE_inside (by omega)]
  exact sized_answers _

/-- What an answer holds, when it is one, is the buffer it was read from. -/
def Keeps (bytes : Buffer) (answer : Except ReadError RenderImage) : Prop := ∀ image, answer = .ok image → image.bytes = bytes

theorem keeps_bind {α : Type} {read : Except ReadError α} {next : α → Except ReadError RenderImage}
    (each : ∀ value, Keeps bytes (next value)) : Keeps bytes (read >>= next) := by
  cases read with
  | error _ => exact fun _ answer => nomatch answer
  | ok value => exact each value

theorem keeps_error (error : ReadError) : Keeps bytes (.error error) := fun _ answer => nomatch answer

theorem sized_keeps {image : RenderImage} (kept : image.bytes = bytes) : Keeps bytes (sized image) := by
  unfold sized
  split
  · exact keeps_error _
  · intro answered same
    rw [← Except.ok.inj same]
    exact kept

theorem sizeWalk_keeps (turns offset : Nat) : Keeps bytes (sizeWalk bytes turns offset) := by
  induction turns generalizing offset with
  | zero => exact keeps_error _
  | succ turns ih =>
    unfold sizeWalk
    split
    · refine keeps_bind fun first => ?_
      split
      · exact keeps_error _
      · refine keeps_bind fun marker => ?_
        split
        · exact ih _
        · refine keeps_bind fun length => ?_
          split
          · exact keeps_bind fun height => keeps_bind fun width => sized_keeps rfl
          · exact ih _
    · exact keeps_error _

theorem readImage_keeps : Keeps bytes (readImage bytes) := by
  refine keeps_bind fun png => ?_
  split
  · exact keeps_bind fun width => keeps_bind fun height => sized_keeps rfl
  · split
    · exact sizeWalk_keeps _ _
    · exact keeps_error _

/-- Every turn goes on in the buffer, so the walk ends, and it reads nothing past the end. -/
theorem sizeWalk_answers {turns : Nat} (some_ : 0 < turns) (enough : bytes.length ≤ turns + offset + 8) :
    Answers (sizeWalk bytes turns offset) := by
  induction turns generalizing offset with
  | zero => omega
  | succ turns ih =>
    unfold sizeWalk
    split
    · rename_i inside
      rw [byteAt_inside (by omega), byteAt_inside (by omega), readUInt16BE_inside (by omega)]
      simp only [ok_bind]
      split
      · exact ⟨nofun, nofun⟩
      · split
        · exact ih (by omega) (by omega)
        · split
          · exact frameSize_inside (by omega)
          · exact ih (by omega) (by omega)
    · exact ⟨nofun, nofun⟩

theorem readImage_answers (bytes : Buffer) : Answers (readImage bytes) := by
  have walked : Answers (sizeWalk bytes (bytes.length + 1) 2) := sizeWalk_answers (by omega) (by omega)
  have rest : Answers (if 4 < bytes.length ∧ bytes[0]? = some 0xff ∧ bytes[1]? = some 0xd8 then
      sizeWalk bytes (bytes.length + 1) 2 else .error .unreadable) := by
    split
    · exact walked
    · exact ⟨nofun, nofun⟩
  unfold readImage pngSignature
  by_cases long : 24 < bytes.length
  · obtain ⟨signature, first⟩ := readUInt32BE_inside (show 0 + 3 < bytes.length by omega)
    obtain ⟨width, across⟩ := readUInt32BE_inside (show 16 + 3 < bytes.length by omega)
    obtain ⟨height, down⟩ := readUInt32BE_inside (show 20 + 3 < bytes.length by omega)
    rw [if_pos long, first, across, down]
    simp only [ok_bind]
    split
    · exact sized_answers _
    · exact rest
  · rw [if_neg long, ok_bind, if_neg (by simp)]
    exact rest

/-- The frame header at an offset is whole: its last sampling byte is in the buffer. -/
def WholeHeader (bytes : Buffer) (offset : Nat) : Prop :=
  0 < byteOrZero bytes (offset + 9) ∧ offset + 11 + 3 * (byteOrZero bytes (offset + 9) - 1) < bytes.length

theorem byteOrZero_outside (outside : bytes.length ≤ offset) : byteOrZero bytes offset = 0 := by
  unfold byteOrZero
  rw [List.getElem?_eq_none outside]
  rfl

/-- A header cut off before its last sampling byte has no samples. -/
theorem frameSamples_whole {samples : ℚ} (found : frameSamples bytes offset = some samples) :
    WholeHeader bytes offset := by
  unfold frameSamples at found
  simp only at found
  split at found
  · cases found
  · rename_i some_
    split at found
    · cases found
    · rename_i fits
      simp only [not_or, Bool.not_eq_true, List.any_eq_false] at fits
      refine ⟨Nat.pos_of_ne_zero some_, ?_⟩
      by_contra cut
      have zero := byteOrZero_outside (Nat.not_lt.mp cut)
      have last : (0, 0) ∈ factorsAt bytes offset (byteOrZero bytes (offset + 9)) := by
        refine List.mem_map.mpr ⟨byteOrZero bytes (offset + 9) - 1, List.mem_range.mpr (by omega), ?_⟩
        simp only [zero]
      exact absurd (fits.2.2 _ last) (by decide)

/-- The walk ends, and samples it answers are of a whole frame header. -/
theorem samplesWalk_answers {turns : Nat} (some_ : 0 < turns) (enough : bytes.length ≤ turns + offset + 2) :
    ∃ answer, samplesWalk bytes turns offset = .ok answer ∧
      ∀ samples, answer = some samples →
        ∃ header, frameSamples bytes header = some samples ∧ WholeHeader bytes header := by
  induction turns generalizing offset with
  | zero => omega
  | succ turns ih =>
    unfold samplesWalk
    split
    · rename_i inside
      rw [byteAt_inside (by omega), byteAt_inside (by omega), readUInt16BE_inside (by omega)]
      simp only [ok_bind]
      split
      · exact ⟨none, rfl, nofun⟩
      · split
        · exact ih (by omega) (by omega)
        · split
          · exact ih (by omega) (by omega)
          · split
            · exact ⟨none, rfl, nofun⟩
            · split
              · exact ⟨_, rfl, fun samples found => ⟨offset, found, frameSamples_whole found⟩⟩
              · exact ih (by omega) (by omega)
    · exact ⟨none, rfl, nofun⟩

end LetterIRL.Photos
