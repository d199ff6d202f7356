import LetterIRL.Photos.Headers

namespace LetterIRL.Photos

/-! A JPEG up to its first frame header, and where the two walks stop in it. -/

/-- The segments that may stand before a frame header. -/
inductive SegmentMarker
  | app (number : Fin 16)
  | com
  | dqt
  | dht
  | dri
  | dac
  deriving DecidableEq

def SegmentMarker.code : SegmentMarker → Nat
  | .app number => 0xe0 + number
  | .com => 0xfe
  | .dqt => 0xdb
  | .dht => 0xc4
  | .dri => 0xdd
  | .dac => 0xcc

/-- The markers without a segment. -/
inductive BareMarker
  | tem
  | rst (number : Fin 8)
  | soi
  deriving DecidableEq

def BareMarker.code : BareMarker → Nat
  | .tem => 0x01
  | .rst number => 0xd0 + number
  | .soi => 0xd8

def uint16 (value : Nat) : List UInt8 := [UInt8.ofNat (value / 256), UInt8.ofNat (value % 256)]

inductive Body
  | segment (marker : SegmentMarker) (payload : List UInt8) (short : payload.length + 2 < 65536)
  | bare (marker : BareMarker)

def Body.bytes : Body → List UInt8
  | .segment marker payload _ => 0xff :: UInt8.ofNat marker.code :: uint16 (payload.length + 2) ++ payload
  | .bare marker => [0xff, UInt8.ofNat marker.code]

/-- What may stand before a frame header: fill bytes, then a marker. -/
structure Part where
  fill : Nat
  body : Body

def Part.bytes (part : Part) : List UInt8 := List.replicate part.fill 0xff ++ part.body.bytes

structure Component where
  identifier : UInt8
  h : Nat
  v : Nat
  table : UInt8
  across : 0 < h ∧ h < 16
  down : 0 < v ∧ v < 16

def Component.bytes (component : Component) : List UInt8 :=
  [component.identifier, UInt8.ofNat (component.h * 16 + component.v), component.table]

structure Frame where
  marker : Nat
  start : marker ∈ START_OF_FRAME
  precision : UInt8
  height : Nat
  width : Nat
  components : List Component
  tall : height < 65536
  wide : width < 65536
  some_ : components ≠ []
  few : components.length < 256

def Frame.bytes (frame : Frame) : List UInt8 :=
  0xff :: UInt8.ofNat frame.marker :: uint16 (8 + 3 * frame.components.length) ++ frame.precision ::
    uint16 frame.height ++ uint16 frame.width ++ UInt8.ofNat frame.components.length ::
    frame.components.flatMap Component.bytes

/-- The sum of the components' sampling ratios. -/
def Frame.samples (frame : Frame) : ℚ :=
  let maxH := greatest (frame.components.map Component.h)
  let maxV := greatest (frame.components.map Component.v)
  (frame.components.map fun component => (component.h / maxH : ℚ) * (component.v / maxV)).sum

/-- A JPEG: what stands before the first frame header, the header, and the rest of the file. -/
structure Jpeg where
  parts : List Part
  fill : Nat
  frame : Frame
  rest : List UInt8

namespace Jpeg

def tail (jpeg : Jpeg) : List UInt8 := List.replicate jpeg.fill 0xff ++ (jpeg.frame.bytes ++ jpeg.rest)

def bytes (jpeg : Jpeg) : Buffer := 0xff :: 0xd8 :: (jpeg.parts.flatMap Part.bytes ++ jpeg.tail)

/-- Where the first frame header is. -/
def headerAt (jpeg : Jpeg) : Nat := 2 + (jpeg.parts.flatMap Part.bytes).length + jpeg.fill

end Jpeg

/-- Where the first marker without a segment is, if there is one before the frame header. -/
def firstBare : Nat → List Part → Option Nat
  | _, [] => none
  | offset, part :: parts =>
    match part.body with
    | .bare _ => some (offset + part.fill)
    | .segment .. => firstBare (offset + part.bytes.length) parts

/-- Both walks stop at the first frame header: the size is the one it declares, the samples are its components'. -/
structure AsDeclared (jpeg : Jpeg) : Prop where
  size : readImage jpeg.bytes = frameSize jpeg.bytes jpeg.headerAt
  declared : readImage jpeg.bytes =
    sized { bytes := jpeg.bytes, mime := .jpeg, width := jpeg.frame.width, height := jpeg.frame.height }
  samples : jpegSamplesPerPixel jpeg.bytes = .ok (frameSamples jpeg.bytes jpeg.headerAt)
  exact_ : jpegSamplesPerPixel jpeg.bytes = .ok (some jpeg.frame.samples)

/-! Walking over a part. -/

/-- A walk goes on from one offset at another, within as many turns as bytes. -/
def Passes {β : Type} (walk : Nat → Nat → β) (offset next : Nat) : Prop :=
  ∃ count, offset + count ≤ next ∧ ∀ turns, walk (turns + count) offset = walk turns next

section Passing
variable {β : Type} {walk : Nat → Nat → β} {offset next last : Nat}

theorem Passes.stay : Passes walk offset offset := ⟨0, le_rfl, fun _ => rfl⟩

theorem Passes.once (onward : offset < next) (turn : ∀ turns, walk (turns + 1) offset = walk turns next) :
    Passes walk offset next := ⟨1, onward, turn⟩

theorem Passes.trans (first : Passes walk offset next) (second : Passes walk next last) : Passes walk offset last := by
  obtain ⟨count, within, same⟩ := first
  obtain ⟨more, further, again⟩ := second
  refine ⟨count + more, by omega, fun turns => ?_⟩
  rw [show turns + (count + more) = turns + more + count by omega, same, again]

/-- With turns for every byte, the walk answers what it answers there with a turn left. -/
theorem Passes.arrive (passes : Passes walk offset next) {turns : Nat} (enough : next ≤ turns + offset) :
    ∃ left, turns + offset ≤ left + next ∧ walk (turns + 1) offset = walk (left + 1) next := by
  obtain ⟨count, within, same⟩ := passes
  refine ⟨turns - count, by omega, ?_⟩
  rw [← same, show turns - count + 1 + count = turns + 1 by omega]

end Passing

variable {bytes rest payload : List UInt8} {offset : Nat}

/-- The bytes from an offset on. -/
theorem getElem?_from (here : bytes.drop offset = rest) (index : Nat) : bytes[offset + index]? = rest[index]? := by
  rw [← here, List.getElem?_drop]

theorem byteAt_from (here : bytes.drop offset = rest) {index : Nat} {byte : UInt8} (found : rest[index]? = some byte) :
    byteAt bytes (offset + index) = .ok byte.toNat := by
  unfold byteAt
  rw [getElem?_from here, found]

theorem length_from (here : bytes.drop offset = rest) (some_ : rest ≠ []) : bytes.length = offset + rest.length := by
  have inside : offset < bytes.length := by
    by_contra outside
    exact some_ (here ▸ List.drop_eq_nil_of_le (Nat.not_lt.mp outside))
  rw [← here, List.length_drop]
  omega

theorem toNat_ofNat {value : Nat} (small : value < 256) : (UInt8.ofNat value).toNat = value :=
  UInt8.toNat_ofNat_of_lt' small

theorem readUInt16BE_from {index value : Nat} {high low : UInt8} (here : bytes.drop offset = rest)
    (first : rest[index]? = some high) (second : rest[index + 1]? = some low)
    (same : high.toNat * 256 + low.toNat = value) : readUInt16BE bytes (offset + index) = .ok value := by
  unfold readUInt16BE
  rw [byteAt_from here first, Nat.add_assoc, byteAt_from here second, ok_bind, ok_bind, same]
  rfl

theorem uint16_value {value : Nat} (small : value < 65536) :
    (UInt8.ofNat (value / 256)).toNat * 256 + (UInt8.ofNat (value % 256)).toNat = value := by
  rw [toNat_ofNat (by omega), toNat_ofNat (by omega)]
  omega

/-! A turn of each walk. -/

theorem sizeWalk_turn {turns marker : Nat} {second : UInt8} (inside : offset + 9 < bytes.length)
    (first : bytes[offset]? = some 0xff) (next : bytes[offset + 1]? = some second) (same : second.toNat = marker) :
    sizeWalk bytes (turns + 1) offset =
      if marker = 0xff then sizeWalk bytes turns (offset + 1)
      else (readUInt16BE bytes (offset + 2)).bind fun length =>
        if marker ∈ START_OF_FRAME then frameSize bytes offset else sizeWalk bytes turns (offset + 2 + length) := by
  rw [sizeWalk, if_pos inside]
  have here : byteAt bytes offset = .ok 0xff := by
    unfold byteAt
    rw [first]
    rfl
  have after : byteAt bytes (offset + 1) = .ok marker := by
    unfold byteAt
    rw [next, ← same]
  rw [here, after, ok_bind, ok_bind, if_neg (by omega)]
  rfl

theorem samplesWalk_turn {turns marker : Nat} {second : UInt8} (inside : offset + 4 ≤ bytes.length)
    (first : bytes[offset]? = some 0xff) (next : bytes[offset + 1]? = some second) (same : second.toNat = marker) :
    samplesWalk bytes (turns + 1) offset =
      if marker = 0xff then samplesWalk bytes turns (offset + 1)
      else if marker = 0x01 ∨ (0xd0 ≤ marker ∧ marker ≤ 0xd8) then samplesWalk bytes turns (offset + 2)
      else if marker ∉ JPEG_SOF_MARKERS ∧ jpegSkipsByLength marker = false then .ok none
      else (readUInt16BE bytes (offset + 2)).bind fun length =>
        if marker ∈ JPEG_SOF_MARKERS then .ok (frameSamples bytes offset)
        else samplesWalk bytes turns (offset + 2 + length) := by
  rw [samplesWalk, if_pos inside]
  have here : byteAt bytes offset = .ok 0xff := by
    unfold byteAt
    rw [first]
    rfl
  have after : byteAt bytes (offset + 1) = .ok marker := by
    unfold byteAt
    rw [next, ← same]
  rw [here, after, ok_bind, ok_bind, if_neg (by omega)]
  rfl

/-- The bytes at two offsets in a row. -/
theorem pair_from {first second : UInt8} (here : bytes.drop offset = first :: second :: rest) :
    bytes[offset]? = some first ∧ bytes[offset + 1]? = some second := by
  have zero := getElem?_from here 0
  have one := getElem?_from here 1
  exact ⟨by simpa using zero, by simpa using one⟩

theorem drop_further {before : List UInt8} (here : bytes.drop offset = before ++ rest) :
    bytes.drop (offset + before.length) = rest := by
  rw [← List.drop_drop, here, List.drop_left]

/-- Fill bytes are passed over, one a turn. -/
theorem fill_passes {fill : Nat} (here : bytes.drop offset = List.replicate fill 0xff ++ 0xff :: rest)
    (more : 9 ≤ rest.length) :
    Passes (sizeWalk bytes) offset (offset + fill) ∧ Passes (samplesWalk bytes) offset (offset + fill) := by
  induction fill generalizing offset with
  | zero => exact ⟨.stay, .stay⟩
  | succ fill ih =>
    obtain ⟨next, behind⟩ : ∃ next, List.replicate fill 0xff ++ 0xff :: rest = 0xff :: next := by
      cases fill with
      | zero => exact ⟨rest, rfl⟩
      | succ fill => exact ⟨_, rfl⟩
    have size := length_from here (by simp)
    simp only [List.length_append, List.length_replicate, List.length_cons] at size
    rw [List.replicate_succ, List.cons_append] at here
    have later : bytes.drop (offset + 1) = List.replicate fill 0xff ++ 0xff :: rest :=
      drop_further (show _ = [0xff] ++ _ from here)
    rw [behind] at here
    obtain ⟨first, second⟩ := pair_from here
    have marked : (0xff : UInt8).toNat = 0xff := rfl
    obtain ⟨sizes, samples⟩ := ih later
    rw [show offset + 1 + fill = offset + (fill + 1) by omega] at sizes samples
    refine ⟨.trans (.once (by omega) fun turns => ?_) sizes, .trans (.once (by omega) fun turns => ?_) samples⟩
    · rw [sizeWalk_turn (by omega) first second marked, if_pos rfl]
    · rw [samplesWalk_turn (by omega) first second marked, if_pos rfl]

theorem SegmentMarker.code_cases (marker : SegmentMarker) :
    marker.code < 256 ∧ marker.code ≠ 0xff ∧ marker.code ∉ START_OF_FRAME ∧
      ¬(marker.code = 0x01 ∨ (0xd0 ≤ marker.code ∧ marker.code ≤ 0xd8)) ∧ jpegSkipsByLength marker.code = true := by
  cases marker with
  | app number => revert number; decide
  | com | dqt | dht | dri | dac => decide

theorem BareMarker.code_cases (marker : BareMarker) :
    marker.code < 256 ∧ marker.code ≠ 0xff ∧ marker.code ∉ START_OF_FRAME ∧
      (marker.code = 0x01 ∨ (0xd0 ≤ marker.code ∧ marker.code ≤ 0xd8)) := by
  cases marker with
  | rst number => revert number; decide
  | tem | soi => decide

/-- A segment is passed over by its length. -/
theorem segment_passes {marker : SegmentMarker} {short : payload.length + 2 < 65536}
    (here : bytes.drop offset = (Body.segment marker payload short).bytes ++ rest) (more : 9 ≤ rest.length) :
    Passes (sizeWalk bytes) offset (offset + (Body.segment marker payload short).bytes.length) ∧
      Passes (samplesWalk bytes) offset (offset + (Body.segment marker payload short).bytes.length) := by
  obtain ⟨small, notFill, notFrame, notBare, skipped⟩ := marker.code_cases
  have size := length_from here (by simp [Body.bytes])
  have width : (Body.segment marker payload short).bytes.length = 2 + (payload.length + 2) := by
    simp [Body.bytes, uint16]
    omega
  rw [List.length_append, width] at size
  obtain ⟨first, second⟩ := pair_from here
  have length : readUInt16BE bytes (offset + 2) = .ok (payload.length + 2) :=
    readUInt16BE_from here rfl rfl (uint16_value short)
  rw [width]
  refine ⟨.once (by omega) fun turns => ?_, .once (by omega) fun turns => ?_⟩
  · rw [sizeWalk_turn (by omega) first second (toNat_ofNat small), if_neg notFill, length]
    show (if _ then _ else _) = _
    rw [if_neg notFrame, Nat.add_assoc]
  · rw [samplesWalk_turn (by omega) first second (toNat_ofNat small), if_neg notFill, if_neg notBare,
      if_neg (by simp [skipped]), length]
    show (if marker.code ∈ START_OF_FRAME then _ else _) = _
    rw [if_neg notFrame, Nat.add_assoc]

/-- `jpegSamplesPerPixel` passes over a marker without a segment. -/
theorem bare_passes {marker : BareMarker} (here : bytes.drop offset = (Body.bare marker).bytes ++ rest)
    (more : 9 ≤ rest.length) : Passes (samplesWalk bytes) offset (offset + 2) := by
  obtain ⟨small, notFill, -, bare⟩ := marker.code_cases
  have size := length_from here (by simp [Body.bytes])
  simp only [Body.bytes, List.length_append, List.length_cons, List.length_nil] at size
  obtain ⟨first, second⟩ := pair_from here
  refine .once (by omega) fun turns => ?_
  rw [samplesWalk_turn (by omega) first second (toNat_ofNat small), if_neg notFill, if_pos bare]

/-! The walks over what stands before the frame header. -/

/-- A file's bytes from a part on begin with the marker prefix. -/
theorem marked_parts {tail : List UInt8} (marked : ∃ more, tail = 0xff :: more) (parts : List Part) :
    ∃ more, parts.flatMap Part.bytes ++ tail = 0xff :: more := by
  cases parts with
  | nil => exact marked
  | cons part parts =>
    obtain ⟨fill, body⟩ := part
    rw [List.flatMap_cons, Part.bytes]
    cases fill with
    | succ fill => exact ⟨_, rfl⟩
    | zero => cases body <;> exact ⟨_, rfl⟩

theorem Body.marked (body : Body) : ∃ more, body.bytes = 0xff :: more ∧ more ≠ [] := by
  cases body <;> exact ⟨_, rfl, by simp⟩

/-- The fill bytes before a part's marker are passed over. -/
theorem part_fill_passes {part : Part} (here : bytes.drop offset = part.bytes ++ rest) (more : 9 ≤ rest.length) :
    (Passes (sizeWalk bytes) offset (offset + part.fill) ∧ Passes (samplesWalk bytes) offset (offset + part.fill)) ∧
      bytes.drop (offset + part.fill) = part.body.bytes ++ rest := by
  rw [Part.bytes, List.append_assoc] at here
  obtain ⟨after, same, -⟩ := part.body.marked
  have later := drop_further here
  rw [List.length_replicate] at later
  refine ⟨?_, later⟩
  rw [same, List.cons_append] at here
  exact fill_passes here (by rw [List.length_append]; omega)

/-- `jpegSamplesPerPixel` passes over every part. -/
theorem samples_pass (parts : List Part) {tail : List UInt8} (here : bytes.drop offset = parts.flatMap Part.bytes ++ tail)
    (more : 9 ≤ tail.length) : Passes (samplesWalk bytes) offset (offset + (parts.flatMap Part.bytes).length) := by
  induction parts generalizing offset with
  | nil => exact .stay
  | cons part parts ih =>
    rw [List.flatMap_cons, List.append_assoc] at here
    have enough : 9 ≤ (parts.flatMap Part.bytes ++ tail).length := by
      rw [List.length_append]
      omega
    obtain ⟨⟨-, filled⟩, marked⟩ := part_fill_passes here enough
    have length : part.bytes.length = part.fill + part.body.bytes.length := by simp [Part.bytes]
    have over_ : Passes (samplesWalk bytes) (offset + part.fill) (offset + part.fill + part.body.bytes.length) := by
      cases shape : part.body with
      | segment marker payload short => exact (segment_passes (shape ▸ marked) enough).2
      | bare marker => exact bare_passes (shape ▸ marked) enough
    have rest := ih (drop_further here)
    rw [length, ← Nat.add_assoc] at rest
    rw [List.flatMap_cons, List.length_append, length, ← Nat.add_assoc, ← Nat.add_assoc]
    exact (filled.trans over_).trans rest

/-- `readImage` passes over every part up to a marker without a segment. -/
theorem size_passes (parts : List Part) {tail : List UInt8} (here : bytes.drop offset = parts.flatMap Part.bytes ++ tail)
    (more : 9 ≤ tail.length) :
    match firstBare offset parts with
    | none => Passes (sizeWalk bytes) offset (offset + (parts.flatMap Part.bytes).length)
    | some bareAt => Passes (sizeWalk bytes) offset bareAt ∧
        ∃ (marker : BareMarker) (after : List Part),
          bytes.drop bareAt = (Body.bare marker).bytes ++ (after.flatMap Part.bytes ++ tail) := by
  induction parts generalizing offset with
  | nil => exact .stay
  | cons part parts ih =>
    rw [List.flatMap_cons, List.append_assoc] at here
    have enough : 9 ≤ (parts.flatMap Part.bytes ++ tail).length := by
      rw [List.length_append]
      omega
    obtain ⟨⟨filled, -⟩, marked⟩ := part_fill_passes here enough
    have length : part.bytes.length = part.fill + part.body.bytes.length := by simp [Part.bytes]
    cases shape : part.body with
    | bare marker =>
      rw [shape] at marked
      simp only [firstBare, shape]
      exact ⟨filled, marker, parts, marked⟩
    | segment marker payload short =>
      have over_ : Passes (sizeWalk bytes) offset (offset + part.bytes.length) := by
        rw [length, ← Nat.add_assoc, shape]
        exact filled.trans (segment_passes (shape ▸ marked) enough).1
      have rest := ih (drop_further here)
      simp only [firstBare, shape]
      cases bare : firstBare (offset + part.bytes.length) parts with
      | none =>
        simp only [bare] at rest
        rw [List.flatMap_cons, List.length_append, ← Nat.add_assoc]
        exact over_.trans rest
      | some bareAt =>
        simp only [bare] at rest
        exact ⟨over_.trans rest.1, rest.2⟩

/-! The frame header. -/

variable {jpeg : Jpeg}

theorem greatest_le (values : List Nat) (start : Nat) : start ≤ values.foldl max start ∧
    ∀ value ∈ values, value ≤ values.foldl max start := by
  induction values generalizing start with
  | nil => exact ⟨le_rfl, fun _ none => nomatch none⟩
  | cons first values ih =>
    obtain ⟨above, all⟩ := ih (max start first)
    refine ⟨(Nat.le_max_left ..).trans above, fun value member => ?_⟩
    rcases List.mem_cons.mp member with rfl | later
    · exact (Nat.le_max_right ..).trans above
    · exact all value later

/-- The sampling byte of each component in turn. -/
theorem sampling_at (components : List Component) (rest : List UInt8) (index : Nat) (component : Component)
    (found : components[index]? = some component) :
    (components.flatMap Component.bytes ++ rest)[1 + 3 * index]? =
      some (UInt8.ofNat (component.h * 16 + component.v)) := by
  induction components generalizing index with
  | nil => simp at found
  | cons first components ih =>
    cases index with
    | zero =>
      cases found
      rfl
    | succ index =>
      rw [show 1 + 3 * (index + 1) = 1 + 3 * index + 1 + 1 + 1 by omega, List.flatMap_cons]
      exact ih index found

theorem Frame.bytes_append (frame : Frame) (rest : List UInt8) :
    frame.bytes ++ rest = 0xff :: UInt8.ofNat frame.marker :: uint16 (8 + 3 * frame.components.length) ++
      frame.precision :: uint16 frame.height ++ uint16 frame.width ++ UInt8.ofNat frame.components.length ::
        (frame.components.flatMap Component.bytes ++ rest) := by
  simp [Frame.bytes]

variable {frame : Frame}

theorem frameSize_eq (here : bytes.drop offset = frame.bytes ++ rest) :
    frameSize bytes offset =
      sized { bytes := bytes, mime := .jpeg, width := frame.width, height := frame.height } := by
  rw [Frame.bytes_append] at here
  have height : readUInt16BE bytes (offset + 5) = .ok frame.height :=
    readUInt16BE_from here rfl rfl (uint16_value frame.tall)
  have width : readUInt16BE bytes (offset + 7) = .ok frame.width :=
    readUInt16BE_from here rfl rfl (uint16_value frame.wide)
  unfold frameSize
  rw [height, width, ok_bind, ok_bind]

theorem byteOrZero_from {index : Nat} {byte : UInt8} (here : bytes.drop offset = rest)
    (found : rest[index]? = some byte) : byteOrZero bytes (offset + index) = byte.toNat := by
  unfold byteOrZero
  rw [getElem?_from here, found]
  rfl

theorem factorsAt_eq (here : bytes.drop offset = frame.bytes ++ rest) :
    factorsAt bytes offset frame.components.length =
      frame.components.map fun component => (component.h, component.v) := by
  rw [Frame.bytes_append] at here
  refine List.ext_getElem? fun index => ?_
  unfold factorsAt
  rw [List.getElem?_map, List.getElem?_map]
  by_cases inside : index < frame.components.length
  · have found := List.getElem?_eq_getElem inside
    generalize frame.components[index] = component at found
    have sampling := sampling_at frame.components rest index component found
    have read : byteOrZero bytes (offset + (11 + 3 * index)) = (UInt8.ofNat (component.h * 16 + component.v)).toNat := by
      refine byteOrZero_from here ?_
      rw [show 11 + 3 * index = 1 + 3 * index + 10 by omega]
      exact sampling
    have across := component.across
    have down := component.down
    rw [toNat_ofNat (by omega)] at read
    rw [List.getElem?_range inside, found, Option.map_some, Option.map_some, Nat.add_assoc, read]
    simp only [Option.some.injEq, Prod.mk.injEq]
    omega
  · rw [List.getElem?_eq_none (by simpa using inside), List.getElem?_eq_none (by simpa using inside)]
    rfl

theorem greatest_pos {values : List Nat} (some_ : values ≠ []) (positive : ∀ value ∈ values, 0 < value) :
    greatest values ≠ 0 := by
  obtain ⟨first, others, rfl⟩ := List.exists_cons_of_ne_nil some_
  have above := (greatest_le (first :: others) 0).2 first List.mem_cons_self
  have some_ := positive first List.mem_cons_self
  unfold greatest
  omega

theorem frameSamples_eq (here : bytes.drop offset = frame.bytes ++ rest) :
    frameSamples bytes offset = some frame.samples := by
  have count : byteOrZero bytes (offset + 9) = frame.components.length := by
    have few := frame.few
    have read : byteOrZero bytes (offset + 9) = (UInt8.ofNat frame.components.length).toNat := by
      rw [Frame.bytes_append] at here
      exact byteOrZero_from here rfl
    rw [read, toNat_ofNat few]
  have some_ : frame.components.length ≠ 0 := fun none => frame.some_ (List.length_eq_zero_iff.mp none)
  have across : greatest (frame.components.map Component.h) ≠ 0 :=
    greatest_pos (by simpa using frame.some_) fun value member => by
      obtain ⟨component, -, rfl⟩ := List.mem_map.mp member
      exact component.across.1
  have down : greatest (frame.components.map Component.v) ≠ 0 :=
    greatest_pos (by simpa using frame.some_) fun value member => by
      obtain ⟨component, -, rfl⟩ := List.mem_map.mp member
      exact component.down.1
  have positive : (frame.components.map fun component => (component.h, component.v)).any
      (fun factor => factor.1 == 0 || factor.2 == 0) = false := by
    rw [List.any_eq_false]
    intro factor member
    obtain ⟨component, -, rfl⟩ := List.mem_map.mp member
    have := component.across.1
    have := component.down.1
    simp only [Bool.or_eq_true, beq_iff_eq]
    omega
  unfold frameSamples
  simp only
  rw [count, if_neg some_, factorsAt_eq here, List.map_map, List.map_map]
  rw [if_neg (by simpa [positive] using ⟨across, down⟩)]
  simp only [Frame.samples, List.foldl_map, List.sum_eq_foldl, Function.comp_def]

theorem frame_code_cases {marker : Nat} (start : marker ∈ START_OF_FRAME) :
    marker < 256 ∧ marker ≠ 0xff ∧ ¬(marker = 0x01 ∨ (0xd0 ≤ marker ∧ marker ≤ 0xd8)) := by
  simp only [START_OF_FRAME, List.mem_cons, List.not_mem_nil, or_false] at start
  omega

theorem Frame.length_bytes (frame : Frame) : 10 ≤ frame.bytes.length := by
  simp [Frame.bytes, uint16]

/-- Both walks stop at a frame header. -/
theorem frame_stops {turns : Nat} (here : bytes.drop offset = frame.bytes ++ rest) (inside : offset + 9 < bytes.length) :
    sizeWalk bytes (turns + 1) offset = frameSize bytes offset ∧
      samplesWalk bytes (turns + 1) offset = .ok (frameSamples bytes offset) := by
  obtain ⟨small, notFill, notBare⟩ := frame_code_cases frame.start
  rw [Frame.bytes_append] at here
  obtain ⟨first, second⟩ := pair_from here
  obtain ⟨length, read⟩ : ∃ length, readUInt16BE bytes (offset + 2) = .ok length :=
    ⟨_, readUInt16BE_inside (by omega)⟩
  constructor
  · rw [sizeWalk_turn inside first second (toNat_ofNat small), if_neg notFill, read]
    show (if frame.marker ∈ START_OF_FRAME then _ else _) = _
    rw [if_pos frame.start]
  · have known : ¬(frame.marker ∉ JPEG_SOF_MARKERS ∧ jpegSkipsByLength frame.marker = false) :=
      fun unknown => unknown.1 frame.start
    rw [samplesWalk_turn (by omega) first second (toNat_ofNat small), if_neg notFill, if_neg notBare, if_neg known, read]
    show (if frame.marker ∈ START_OF_FRAME then _ else _) = _
    rw [if_pos frame.start]

namespace Jpeg

theorem tail_length (jpeg : Jpeg) : jpeg.fill + 10 ≤ jpeg.tail.length := by
  have header := jpeg.frame.length_bytes
  simp only [tail, List.length_append, List.length_replicate]
  omega

theorem length_bytes (jpeg : Jpeg) : jpeg.headerAt + 10 ≤ jpeg.bytes.length := by
  have long := jpeg.tail_length
  simp only [bytes, headerAt, List.length_cons, List.length_append]
  omega

theorem marked_tail (jpeg : Jpeg) : ∃ more, jpeg.tail = 0xff :: more := by
  unfold tail
  cases jpeg.fill with
  | zero => exact ⟨_, rfl⟩
  | succ fill => exact ⟨_, rfl⟩

/-- The bytes from the end of the parts, and from the header on. -/
theorem drop_bytes (jpeg : Jpeg) :
    jpeg.bytes.drop 2 = jpeg.parts.flatMap Part.bytes ++ jpeg.tail ∧
      jpeg.bytes.drop (2 + (jpeg.parts.flatMap Part.bytes).length) = jpeg.tail ∧
      jpeg.bytes.drop jpeg.headerAt = jpeg.frame.bytes ++ jpeg.rest := by
  have parts : jpeg.bytes.drop 2 = jpeg.parts.flatMap Part.bytes ++ jpeg.tail := rfl
  have tail := drop_further parts
  refine ⟨parts, tail, ?_⟩
  have header := drop_further tail
  rwa [List.length_replicate] at header

/-- The fill bytes before the frame header are passed over. -/
theorem fill_passes (jpeg : Jpeg) :
    Passes (sizeWalk jpeg.bytes) (2 + (jpeg.parts.flatMap Part.bytes).length) jpeg.headerAt ∧
      Passes (samplesWalk jpeg.bytes) (2 + (jpeg.parts.flatMap Part.bytes).length) jpeg.headerAt := by
  have tail := jpeg.drop_bytes.2.1
  have long := jpeg.frame.length_bytes
  obtain ⟨more, marked⟩ : ∃ more, jpeg.frame.bytes ++ jpeg.rest = 0xff :: more := ⟨_, rfl⟩
  have length := congrArg List.length marked
  simp only [List.length_append, List.length_cons] at length
  rw [Jpeg.tail, marked] at tail
  exact Photos.fill_passes tail (by omega)

/-- A JPEG is read by its walk. -/
theorem readImage_eq (jpeg : Jpeg) : readImage jpeg.bytes = sizeWalk jpeg.bytes (jpeg.bytes.length + 1) 2 := by
  have long := jpeg.length_bytes
  have over_ : 4 < jpeg.bytes.length := by
    unfold headerAt at long
    omega
  have start : ∃ more, jpeg.bytes = 0xff :: 0xd8 :: more := ⟨_, rfl⟩
  generalize jpeg.bytes = bytes at over_ start ⊢
  obtain ⟨more, rfl⟩ := start
  have notPng : ∃ signature, pngSignature (0xff :: 0xd8 :: more) = .ok signature ∧ signature ≠ 0x89504e47 := by
    unfold pngSignature
    split
    · unfold readUInt32BE
      rw [readUInt16BE_inside (by omega), readUInt16BE_inside (by omega), ok_bind, ok_bind]
      refine ⟨_, rfl, ?_⟩
      have first : (0xff : UInt8).toNat = 0xff := rfl
      rw [List.getElem_cons_zero, first]
      omega
    · exact ⟨0, rfl, by decide⟩
  obtain ⟨signature, read, differ⟩ := notPng
  unfold readImage
  rw [read, ok_bind, if_neg fun both => differ both.1, if_pos ⟨over_, rfl, rfl⟩]

/-- `jpegSamplesPerPixel` reads every JPEG as declared. -/
theorem samples_eq (jpeg : Jpeg) : jpegSamplesPerPixel jpeg.bytes = .ok (frameSamples jpeg.bytes jpeg.headerAt) := by
  have long := jpeg.length_bytes
  obtain ⟨parts, -, header⟩ := jpeg.drop_bytes
  have enough := jpeg.tail_length
  have passes := (samples_pass jpeg.parts parts (by omega)).trans jpeg.fill_passes.2
  obtain ⟨left, -, same⟩ := passes.arrive (show jpeg.headerAt ≤ jpeg.bytes.length + 2 by omega)
  unfold jpegSamplesPerPixel
  rw [same]
  exact (frame_stops header (by omega)).2

/-- `readImage` reads a JPEG as declared where no marker without a segment stands before the frame header. -/
theorem size_eq (jpeg : Jpeg) (none_ : firstBare 2 jpeg.parts = none) :
    readImage jpeg.bytes = frameSize jpeg.bytes jpeg.headerAt := by
  have long := jpeg.length_bytes
  obtain ⟨parts, -, header⟩ := jpeg.drop_bytes
  have enough := jpeg.tail_length
  have passed := size_passes jpeg.parts parts (by omega)
  simp only [none_] at passed
  have passes := passed.trans jpeg.fill_passes.1
  obtain ⟨left, -, same⟩ := passes.arrive (show jpeg.headerAt ≤ jpeg.bytes.length + 2 by omega)
  rw [readImage_eq, same]
  exact (frame_stops header (by omega)).1

/-- The two bytes after a marker without a segment, read as its length, are past 65 279: `readImage` goes on past the
end of a file that is not long enough. -/
theorem misread (jpeg : Jpeg) {bareAt : Nat} (found : firstBare 2 jpeg.parts = some bareAt)
    (short : jpeg.bytes.length ≤ bareAt + 65291) : readImage jpeg.bytes = .error .unreadable := by
  have long := jpeg.tail_length
  obtain ⟨parts, -, -⟩ := jpeg.drop_bytes
  have passed := size_passes jpeg.parts parts (by omega)
  simp only [found] at passed
  obtain ⟨passes, marker, after, here⟩ := passed
  obtain ⟨more, marked⟩ := marked_parts (jpeg.marked_tail) after
  have behind := congrArg List.length marked
  simp only [List.length_append, List.length_cons] at behind
  rw [marked] at here
  have size := length_from here (by simp [Body.bytes])
  simp only [Body.bytes, List.length_append, List.length_cons, List.length_nil] at size
  obtain ⟨small, notFill, notFrame, -⟩ := marker.code_cases
  obtain ⟨first, second⟩ := pair_from here
  obtain ⟨left, enough, same⟩ := passes.arrive (show bareAt ≤ jpeg.bytes.length + 2 by omega)
  obtain ⟨low, next⟩ : ∃ low, more[0]? = some low := ⟨more[0], List.getElem?_eq_getElem (by omega)⟩
  have length : readUInt16BE jpeg.bytes (bareAt + 2) = .ok (255 * 256 + low.toNat) := readUInt16BE_from here rfl next rfl
  rw [readImage_eq, same, sizeWalk_turn (by omega) first second (toNat_ofNat small), if_neg notFill, length]
  show (if marker.code ∈ START_OF_FRAME then _ else _) = _
  rw [if_neg notFrame]
  obtain ⟨left, rfl⟩ : ∃ fewer, left = fewer + 1 := ⟨left - 1, by omega⟩
  rw [sizeWalk, if_neg (by omega)]

end Jpeg

/-- A gray JPEG of 8 × 8 pixels. -/
def grayJpeg (parts : List Part) : Jpeg where
  parts := parts
  fill := 0
  frame :=
    { marker := 0xc0, start := by decide, precision := 8, height := 8, width := 8,
      components := [⟨1, 1, 1, 0, by decide, by decide⟩], tall := by decide, wide := by decide, some_ := by decide,
      few := by decide }
  rest := []

def temJpeg : Jpeg := grayJpeg [⟨0, .bare .tem⟩]

end LetterIRL.Photos
