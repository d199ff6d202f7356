import LetterIRL.Photos.Chunks

namespace LetterIRL.Photos
open Lib Commerce

variable {limit : Nat} {s s' : Store} {events : List Event} {event : Event} {userId other : UserId}
  {input : PhotoChunkInput}

/-! What the held chunks are of. -/

/-- The inputs, sent by the account in this order: the first chunks of one upload. -/
structure Sent (events : List Event) (userId : UserId) (uploadId : UploadId) (total : Int)
    (inputs : List PhotoChunkInput) : Prop where
  sent : (inputs.map (Event.chunk userId)).Sublist events
  numbered : inputs.map PhotoChunkInput.index = (List.range inputs.length).map Int.ofNat
  alike : ∀ input ∈ inputs, input.uploadId = uploadId ∧ input.total = total

theorem Sent.nil {uploadId : UploadId} {total : Int} : Sent events userId uploadId total [] where
  sent := List.nil_sublist _
  numbered := rfl
  alike _ member := absurd member List.not_mem_nil

theorem Sent.mono {uploadId : UploadId} {total : Int} {inputs : List PhotoChunkInput}
    (sent : Sent events userId uploadId total inputs) (event : Event) :
    Sent (events ++ [event]) userId uploadId total inputs :=
  ⟨sent.sent.trans (List.sublist_append_left _ _), sent.numbered, sent.alike⟩

theorem Sent.next {inputs : List PhotoChunkInput} (sent : Sent events userId input.uploadId input.total inputs)
    (index : input.index = inputs.length) :
    Sent (events ++ [.chunk userId input]) userId input.uploadId input.total (inputs ++ [input]) where
  sent := by
    rw [List.map_append]
    exact sent.sent.append (List.Sublist.refl _)
  numbered := by
    rw [List.map_append, sent.numbered, List.length_append, List.length_singleton, List.range_succ, List.map_append,
      List.map_singleton, index]
    rfl
  alike := by
    intro sentInput member
    rcases List.mem_append.mp member with old | new
    · exact sent.alike sentInput old
    · rw [List.mem_singleton.mp new]
      exact ⟨rfl, rfl⟩

/-- The chunks are the decoded first chunks of one upload. -/
def Assembled (events : List Event) (userId : UserId) (uploadId : UploadId) (total : Int) (chunks : List Bytes) : Prop :=
  ∃ inputs, Sent events userId uploadId total inputs ∧ chunks = inputs.map PhotoChunkInput.bytes

theorem Assembled.mono {uploadId : UploadId} {total : Int} {chunks : List Bytes}
    (assembled : Assembled events userId uploadId total chunks) (event : Event) :
    Assembled (events ++ [event]) userId uploadId total chunks := by
  obtain ⟨inputs, sent, same⟩ := assembled
  exact ⟨inputs, sent.mono event, same⟩

theorem Assembled.next {chunks : List Bytes} (assembled : Assembled events userId input.uploadId input.total chunks)
    (index : input.index = chunks.length) :
    Assembled (events ++ [.chunk userId input]) userId input.uploadId input.total (chunks ++ [input.bytes]) := by
  obtain ⟨inputs, sent, rfl⟩ := assembled
  rw [List.length_map] at index
  exact ⟨inputs ++ [input], sent.next index, by rw [List.map_append, List.map_singleton]⟩

/-- The photo is every chunk of one upload, in order. -/
def Whole (events : List Event) (userId : UserId) (uploadId : UploadId) (total : Int) (photo : Bytes) : Prop :=
  ∃ inputs, Sent events userId uploadId total inputs ∧ (inputs.length : Int) = total ∧
    photo = (inputs.map PhotoChunkInput.bytes).flatten

theorem Whole.mono {uploadId : UploadId} {total : Int} {photo : Bytes}
    (whole : Whole events userId uploadId total photo) (event : Event) :
    Whole (events ++ [event]) userId uploadId total photo := by
  obtain ⟨inputs, sent, length, same⟩ := whole
  exact ⟨inputs, sent.mono event, length, same⟩

/-- The bytes of chunks. -/
abbrev size (chunks : List Bytes) : Nat := total List.length chunks

theorem size_flatten (chunks : List Bytes) : chunks.flatten.length = size chunks := by
  induction chunks with
  | nil => rfl
  | cons first rest ih =>
    rw [List.flatten_cons, List.length_append, ih]
    rfl

structure PendingUpload.Sound (events : List Event) (upload : PendingUpload) : Prop where
  assembled : Assembled events upload.userId upload.uploadId upload.total upload.chunks
  bytes : upload.bytes = size upload.chunks

/-- What the store holds is of uploads, within the budget, and of one upload an account. -/
structure Sound (events : List Event) (s : Store) : Prop where
  pending : ∀ upload ∈ s.pending.rows, upload.Sound events
  finishing : ∀ finish ∈ s.finishing.rows, Whole events finish.userId finish.uploadId finish.total finish.photo
  photos : ∀ kept ∈ s.photos, Whole events kept.userId kept.uploadId kept.total kept.photo
  apart : ∀ upload ∈ s.pending.rows, s.finishing.find upload.userId = none
  budget : pendingBytes s ≤ MAX_PENDING_BYTES

theorem PendingUpload.Sound.mono {upload : PendingUpload} (sound : upload.Sound events) (event : Event) :
    upload.Sound (events ++ [event]) :=
  ⟨sound.assembled.mono event, sound.bytes⟩

theorem Sound.mono (sound : Sound events s) (event : Event) : Sound (events ++ [event]) s where
  pending upload member := (sound.pending upload member).mono event
  finishing finish member := (sound.finishing finish member).mono event
  photos kept member := (sound.photos kept member).mono event
  apart := sound.apart
  budget := sound.budget

theorem sound_start : Sound [] {} where
  pending _ member := absurd member List.not_mem_nil
  finishing _ member := absurd member List.not_mem_nil
  photos _ member := absurd member List.not_mem_nil
  apart _ member := absurd member List.not_mem_nil
  budget := Nat.zero_le _

/-- Holding less. -/
theorem Sound.fewer (sound : Sound events s) (selected : PendingUpload → Bool)
    (pending : s'.pending = s.pending.filter selected) (finishing : s'.finishing = s.finishing)
    (photos : s'.photos = s.photos) : Sound events s' := by
  have kept : ∀ upload ∈ s'.pending.rows, upload ∈ s.pending.rows := fun upload member => by
    rw [pending] at member
    exact (List.mem_filter.mp member).1
  refine ⟨fun upload member => sound.pending upload (kept upload member), ?_, ?_, fun upload member => ?_, ?_⟩
  · rw [finishing]
    exact sound.finishing
  · rw [photos]
    exact sound.photos
  · rw [finishing]
    exact sound.apart upload (kept upload member)
  · have less := Table.total_filter_le PendingUpload.bytes s.pending selected
    have budget := sound.budget
    unfold pendingBytes at budget ⊢
    rw [pending, finishing]
    omega

theorem Sound.dropExpired (sound : Sound events s) : Sound events (dropExpired s) :=
  sound.fewer _ rfl rfl rfl

theorem Sound.erase (sound : Sound events s) (userId : UserId) :
    Sound events { s with pending := s.pending.erase userId } :=
  sound.fewer _ rfl rfl rfl

/-- The upload a call starts is pending, and empty. -/
theorem startUpload_ok {context : Option PhotoContext} {upload : PendingUpload}
    (started : startUpload limit s userId input context = (s', .ok upload)) :
    s.finishing.find userId = none ∧
      (recentStarts { s with pending := s.pending.erase userId } userId).length < limit ∧
      upload = { userId, uploadId := input.uploadId, total := input.total, context, chunks := [], bytes := 0,
                 startedAtMs := s.nowMs, lastChunkAtMs := s.nowMs } ∧
      s' = { s with
        pending := (s.pending.erase userId).set upload
        startedAt := s.startedAt ++ [(userId, s.nowMs)]
        starts := (userId, s.nowMs) :: s.starts } := by
  unfold startUpload at started
  split at started
  · cases started
  · rename_i idle
    dsimp only at started
    split at started
    · cases started
    · rename_i below
      split at started
      · cases started
      · cases started
        refine ⟨by simpa using idle, by omega, rfl, rfl⟩

/-- A call that starts nothing drops at most the upload in progress. -/
theorem startUpload_error {context : Option PhotoContext} {code : RefusalCode}
    (refused : startUpload limit s userId input context = (s', .error code)) :
    s' = s ∨ s' = { s with pending := s.pending.erase userId } := by
  unfold startUpload at refused
  split at refused
  · cases refused
    exact .inl rfl
  · dsimp only at refused
    split at refused
    · cases refused
      exact .inr rfl
    · split at refused
      · cases refused
        exact .inr rfl
      · cases refused

theorem startUpload_sound {context : Option PhotoContext} {upload : PendingUpload} (sound : Sound events s)
    (started : startUpload limit s userId input context = (s', .ok upload)) : Sound events s' := by
  obtain ⟨idle, -, rfl, rfl⟩ := startUpload_ok started
  have erased := sound.erase userId
  refine ⟨fun upload member => ?_, erased.finishing, erased.photos, fun upload member => ?_, ?_⟩
  · rcases Table.mem_set.mp member with ⟨old, -⟩ | rfl
    · exact erased.pending upload old
    · exact ⟨⟨[], .nil, rfl⟩, rfl⟩
  · rcases Table.mem_set.mp member with ⟨old, -⟩ | rfl
    · exact erased.apart upload old
    · exact idle
  · have budget := erased.budget
    have less := Table.total_filter_le PendingUpload.bytes (s.pending.erase userId) fun row => row.userId ≠ userId
    simp only [pendingBytes] at budget ⊢
    rw [Table.total_set]
    unfold Table.erase at less budget ⊢
    dsimp only
    omega

/-- A chunk that came, at the end of the upload. -/
def PendingUpload.grow (upload : PendingUpload) (nowMs : Nat) (chunk : Bytes) : PendingUpload :=
  { upload with chunks := upload.chunks ++ [chunk], bytes := upload.bytes + chunk.length, lastChunkAtMs := nowMs }

/-- What an upload in progress answers. -/
def PendingUpload.answer (upload : PendingUpload) : PhotoChunkResult :=
  { uploadId := upload.uploadId, received := upload.chunks.length, total := upload.total.toNat }

/-- What a chunk of the account's upload does: nothing, touch the upload, drop it, or grow it, whole or not. -/
inductive Taken (s : Store) (upload : PendingUpload) (input : PhotoChunkInput) : Store → Outcome → Prop
  | unchanged {code : RefusalCode} : Taken s upload input s (.refused code)
  | resent (same : upload.uploadId = input.uploadId ∧ upload.total = input.total)
      (index : input.index = (upload.chunks.length : Int) - 1) :
      Taken s upload input { s with pending := s.pending.set { upload with lastChunkAtMs := s.nowMs } }
        (.answered upload.answer)
  | dropped {code : RefusalCode} :
      Taken s upload input { s with pending := s.pending.erase upload.userId } (.refused code)
  | grown (same : upload.uploadId = input.uploadId ∧ upload.total = input.total)
      (index : input.index = upload.chunks.length) (room : pendingBytes s + input.bytes.length ≤ MAX_PENDING_BYTES) :
      Taken s upload input { s with pending := s.pending.set (upload.grow s.nowMs input.bytes) }
        (.answered (upload.grow s.nowMs input.bytes).answer)
  | whole (same : upload.uploadId = input.uploadId ∧ upload.total = input.total)
      (index : input.index = upload.chunks.length) (room : pendingBytes s + input.bytes.length ≤ MAX_PENDING_BYTES)
      (done : upload.total ≤ (upload.chunks.length : Int) + 1) :
      Taken s upload input (finishUpload s (upload.grow s.nowMs input.bytes)) .awaits

theorem takeChunk_taken (s : Store) (upload : PendingUpload) (input : PhotoChunkInput) :
    Taken s upload input (takeChunk s upload input).1 (takeChunk s upload input).2 := by
  unfold takeChunk
  split
  · exact .unchanged
  · rename_i same
    simp only [ne_eq, not_or, not_not] at same
    split
    · rename_i last
      exact .resent same last
    · dsimp only
      split
      · exact .dropped
      · rename_i index
        simp only [ne_eq, not_not] at index
        split
        · exact .dropped
        · split
          · exact .dropped
          · rename_i room
            split
            · exact .grown same index (Nat.le_of_not_lt room)
            · rename_i done
              simp only [List.length_append, List.length_singleton, Nat.cast_add, Nat.cast_one] at done
              exact .whole same index (Nat.le_of_not_lt room) (by omega)

theorem PendingUpload.Sound.next {upload : PendingUpload} (sound : upload.Sound events)
    (same : upload.uploadId = input.uploadId ∧ upload.total = input.total) (index : input.index = upload.chunks.length)
    {nowMs : Nat} : (upload.grow nowMs input.bytes).Sound (events ++ [.chunk upload.userId input]) where
  assembled := by
    obtain ⟨uploadId, total⟩ := same
    dsimp only [PendingUpload.grow]
    rw [uploadId, total]
    refine Assembled.next ?_ index
    rw [← uploadId, ← total]
    exact sound.assembled
  bytes := by
    dsimp only [PendingUpload.grow]
    rw [size, total_append, sound.bytes]
    simp

/-- The account's upload, taken out. -/
theorem pendingBytes_erase {upload : PendingUpload} (found : s.pending.find upload.userId = some upload) :
    pendingBytes s = total PendingUpload.bytes (s.pending.erase upload.userId).rows + upload.bytes +
      total (fun finish => finish.photo.length) s.finishing.rows := by
  rw [pendingBytes, Table.total_erase PendingUpload.bytes found]

/-- The account's upload, written over. -/
theorem Sound.set (sound : Sound events s) {upload grown : PendingUpload}
    (found : s.pending.find upload.userId = some upload) (same : grown.userId = upload.userId)
    (fits : grown.Sound events) (room : pendingBytes s + grown.bytes ≤ MAX_PENDING_BYTES + upload.bytes) :
    Sound events { s with pending := s.pending.set grown } := by
  refine ⟨fun row member => ?_, sound.finishing, sound.photos, fun row member => ?_, ?_⟩
  · rcases Table.mem_set.mp member with ⟨old, -⟩ | rfl
    · exact sound.pending row old
    · exact fits
  · rcases Table.mem_set.mp member with ⟨old, -⟩ | rfl
    · exact sound.apart row old
    · have idle := sound.apart upload (Table.find_mem found)
      rw [same]
      exact idle
  · rw [pendingBytes_erase found] at room
    simp only [pendingBytes]
    rw [Table.total_set, same]
    omega

/-- The account's upload, all of it, as its finish in flight. -/
theorem Sound.finishUpload (sound : Sound events s) {upload whole : PendingUpload}
    (found : s.pending.find upload.userId = some upload) (same : whole.userId = upload.userId)
    (fits : whole.Sound events) (done : (whole.chunks.length : Int) = whole.total)
    (room : pendingBytes s + whole.bytes ≤ MAX_PENDING_BYTES + upload.bytes) :
    Sound events (finishUpload s whole) := by
  have idle := sound.apart upload (Table.find_mem found)
  refine ⟨fun row member => ?_, fun finish member => ?_, sound.photos, fun row member => ?_, ?_⟩
  · exact sound.pending row (Table.mem_erase.mp member).1
  · rcases Table.mem_set.mp member with ⟨old, -⟩ | rfl
    · exact sound.finishing finish old
    · obtain ⟨inputs, sent, chunks⟩ := fits.assembled
      refine ⟨inputs, sent, ?_, by rw [← chunks]⟩
      rw [← done, chunks, List.length_map]
  · obtain ⟨old, apart⟩ := Table.mem_erase.mp member
    unfold Photos.finishUpload
    dsimp only
    rw [Table.find_set, if_neg apart]
    exact sound.apart row old
  · rw [pendingBytes_erase found] at room
    have photo := size_flatten whole.chunks
    have bytes := fits.bytes
    unfold Photos.finishUpload
    simp only [pendingBytes]
    rw [Table.total_set, same, Table.erase_of_none idle]
    dsimp only
    omega

theorem Taken.sound {upload : PendingUpload} {outcome : Outcome} (taken : Taken s upload input s' outcome)
    (sound : Sound events s) (found : s.pending.find userId = some upload) (inside : input.index < input.total) :
    Sound (events ++ [.chunk userId input]) s' := by
  have later := sound.mono (.chunk userId input)
  obtain rfl := Table.find_key found
  have fits := sound.pending upload (Table.find_mem found)
  have budget := sound.budget
  cases taken with
  | unchanged => exact later
  | resent same index =>
    refine later.set found rfl ⟨fits.assembled.mono _, fits.bytes⟩ ?_
    dsimp only
    omega
  | dropped => exact later.erase _
  | grown same index room =>
    refine later.set found rfl (fits.next same index) ?_
    dsimp only [PendingUpload.grow]
    omega
  | whole same index room done =>
    refine later.finishUpload found rfl (fits.next same index) ?_ ?_
    · obtain ⟨-, total⟩ := same
      dsimp only [PendingUpload.grow]
      rw [List.length_append, List.length_singleton]
      omega
    · dsimp only [PendingUpload.grow]
      omega

theorem checkShape_ok {context : Option PhotoContext} (shaped : checkShape input = .ok context) :
    input.index < input.total := by
  unfold checkShape at shaped
  split at shaped
  · cases shaped
  · split at shaped
    · cases shaped
    · split at shaped
      · cases shaped
      · omega

/-- What a call does: nothing, expire what is old, drop the account's upload, or a chunk of it, new or not. -/
inductive Received (limit : Nat) (s : Store) (userId : UserId) (input : PhotoChunkInput) : Store → Prop
  | unread : Received limit s userId input s
  | expired : Received limit s userId input (dropExpired s)
  | dropped : Received limit s userId input
      { dropExpired s with pending := (dropExpired s).pending.erase userId }
  | chunk {middle s' : Store} {upload : PendingUpload} {outcome : Outcome} (inside : input.index < input.total)
      (reached : middle = dropExpired s ∨
        ∃ context, startUpload limit (dropExpired s) userId input context = (middle, .ok upload))
      (found : middle.pending.find userId = some upload) (taken : Taken middle upload input s' outcome) :
      Received limit s userId input s'

theorem receivePhotoChunk_received (limit : Nat) (s : Store) (userId : UserId) (input : PhotoChunkInput) :
    Received limit s userId input (receivePhotoChunk limit s userId input).1 := by
  unfold receivePhotoChunk
  cases shaped : checkShape input with
  | error code => exact .unread
  | ok context =>
    have inside := checkShape_ok shaped
    dsimp only
    split
    · exact .expired
    · split
      · exact .expired
      · split
        · cases started : startUpload limit (dropExpired s) userId input context with
          | mk middle result =>
            cases result with
            | error code =>
              rcases startUpload_error started with rfl | rfl
              · exact .expired
              · exact .dropped
            | ok upload =>
              obtain ⟨-, -, fresh, rfl⟩ := startUpload_ok started
              have found : (((dropExpired s).pending.erase userId).set upload).find userId = some upload := by
                rw [Table.find_set, fresh, if_pos rfl]
              exact .chunk inside (.inr ⟨context, started⟩) found (takeChunk_taken _ upload input)
        · cases current : (dropExpired s).pending.find userId with
          | none => exact .expired
          | some upload => exact .chunk inside (.inl rfl) current (takeChunk_taken _ upload input)

theorem receivePhotoChunk_sound (sound : Sound events s) :
    Sound (events ++ [.chunk userId input]) (receivePhotoChunk limit s userId input).1 := by
  have expired := sound.dropExpired
  have received := receivePhotoChunk_received limit s userId input
  generalize (receivePhotoChunk limit s userId input).1 = s' at received ⊢
  cases received with
  | unread => exact sound.mono _
  | expired => exact expired.mono _
  | dropped => exact (expired.erase userId).mono _
  | chunk inside reached found taken =>
    rcases reached with rfl | ⟨context, started⟩
    · exact taken.sound expired found inside
    · exact taken.sound (startUpload_sound expired started) found inside

theorem keepPhoto_sound (sound : Sound events s) (userId : UserId) : Sound events (keepPhoto s userId) := by
  unfold keepPhoto
  split
  · exact sound
  · rename_i finish found
    have whole := sound.finishing finish (Table.find_mem found)
    have key := Table.find_key found
    split
    · exact sound
    · refine ⟨sound.pending, fun row member => ?_, fun kept member => ?_, fun upload member => ?_, ?_⟩
      · rcases Table.mem_set.mp member with ⟨old, -⟩ | rfl
        · exact sound.finishing row old
        · exact whole
      · rcases List.mem_cons.mp member with rfl | old
        · rw [key] at whole
          exact whole
        · exact sound.photos kept old
      · have idle := sound.apart upload member
        have differ : upload.userId ≠ finish.userId := by
          intro same
          rw [same, key, found] at idle
          cases idle
        dsimp only
        rw [Table.find_set, if_neg differ]
        exact idle
      · have budget := sound.budget
        rw [pendingBytes, Table.total_erase (fun finish => finish.photo.length) found] at budget
        simp only [pendingBytes]
        rw [Table.total_set, key]
        exact budget

theorem settleFinish_sound (sound : Sound events s) (userId : UserId) (size : Option (Nat × Nat)) :
    Sound events (settleFinish s userId size) := by
  have settled : ∀ finished, Sound events { s with finishing := s.finishing.erase userId, finished } := by
    intro finished
    refine ⟨sound.pending, fun row member => ?_, sound.photos, fun upload member => ?_, ?_⟩
    · exact sound.finishing row (Table.mem_erase.mp member).1
    · refine Table.find_eq_none.mpr fun row member' => ?_
      exact Table.find_eq_none.mp (sound.apart upload member) row (Table.mem_erase.mp member').1
    · have less := Table.total_filter_le (fun finish => finish.photo.length) s.finishing fun row => row.userId ≠ userId
      have budget := sound.budget
      simp only [pendingBytes] at budget ⊢
      unfold Table.erase
      omega
  unfold settleFinish
  split
  · exact sound
  · dsimp only
    split
    · exact settled _
    · split
      · exact sound
      · exact settled _

theorem step_sound (sound : Sound events s) (event : Event) : Sound (events ++ [event]) (step limit s event) := by
  cases event with
  | tick elapsed =>
    have later := sound.mono (.tick elapsed)
    exact ⟨later.pending, later.finishing, later.photos, later.apart, later.budget⟩
  | chunk userId input => exact receivePhotoChunk_sound sound
  | keeps userId => exact (keepPhoto_sound sound userId).mono _
  | settles userId size => exact (settleFinish_sound sound userId size).mono _

theorem after_sound (limit : Nat) (events : List Event) : Sound events (after limit events) :=
  foldl_invariant sound_start (fun _ _ event sound => step_sound sound event) events

/-! The starts of a rolling day. -/

/-- The account's starts of the day from an instant. -/
def within (userId : UserId) (from_ : Nat) (start : UserId × Nat) : Bool :=
  start.1 == userId && decide (from_ ≤ start.2 ∧ start.2 < from_ + DAY_MS)

def startsWithin (s : Store) (userId : UserId) (from_ : Nat) : Nat := s.starts.countP (within userId from_)

/-- And of the day up to one. -/
def lately (userId : UserId) (nowMs : Nat) (start : UserId × Nat) : Bool := start.1 == userId && recent nowMs start

/-- Every start that may still count is on record, and no day has too many. -/
structure Counted (limit : Nat) (s : Store) : Prop where
  past : ∀ start ∈ s.starts, start.2 ≤ s.nowMs
  recorded : ∀ userId nowMs, s.nowMs ≤ nowMs →
    s.startedAt.countP (lately userId nowMs) = s.starts.countP (lately userId nowMs)
  bounded : ∀ userId from_, startsWithin s userId from_ ≤ limit

theorem counted_start : Counted limit {} where
  past _ member := absurd member List.not_mem_nil
  recorded _ _ _ := rfl
  bounded _ _ := Nat.zero_le _

/-- Time, and what no start is of. -/
theorem Counted.later (counted : Counted limit s) (now : s.nowMs ≤ s'.nowMs) (startedAt : s'.startedAt = s.startedAt)
    (starts : s'.starts = s.starts) : Counted limit s' where
  past start member := by
    rw [starts] at member
    exact (counted.past start member).trans now
  recorded userId nowMs after := by
    rw [startedAt, starts]
    exact counted.recorded userId nowMs (now.trans after)
  bounded userId from_ := by
    unfold startsWithin
    rw [starts]
    exact counted.bounded userId from_

theorem Counted.dropExpired (counted : Counted limit s) : Counted limit (dropExpired s) where
  past := counted.past
  recorded userId nowMs after := by
    refine Eq.trans ?_ (counted.recorded userId nowMs after)
    unfold Photos.dropExpired
    dsimp only
    rw [List.countP_filter]
    refine List.countP_congr fun start _ => ?_
    unfold lately recent
    have now : s.nowMs ≤ nowMs := after
    by_cases mine : start.1 = userId
    · simp [mine]
      omega
    · simp [mine]
  bounded := counted.bounded

/-- A start counts for a day only if it counts for the day before the last of them. -/
theorem startUpload_counted {context : Option PhotoContext} {upload : PendingUpload} (counted : Counted limit s)
    (started : startUpload limit s userId input context = (s', .ok upload)) : Counted limit s' := by
  obtain ⟨-, below, -, rfl⟩ := startUpload_ok started
  have today := counted.recorded userId s.nowMs le_rfl
  have counts : s.startedAt.countP (lately userId s.nowMs) < limit := by
    rw [List.countP_eq_length_filter]
    exact below
  refine ⟨fun start member => ?_, fun other nowMs after => ?_, fun other from_ => ?_⟩
  · rcases List.mem_cons.mp member with rfl | old
    · exact le_rfl
    · exact counted.past start old
  · dsimp only
    rw [List.countP_append, List.countP_cons, List.countP_cons, List.countP_nil, counted.recorded other nowMs after,
      Nat.zero_add]
  · have before := counted.bounded other from_
    unfold startsWithin at before ⊢
    dsimp only
    rw [List.countP_cons]
    split
    · rename_i inside
      simp only [within, Bool.and_eq_true, beq_iff_eq, decide_eq_true_eq] at inside
      obtain ⟨rfl, -, end_⟩ := inside
      have fewer : s.starts.countP (within userId from_) ≤ s.starts.countP (lately userId s.nowMs) := by
        refine List.countP_mono_left fun start member inside => ?_
        have past := counted.past start member
        simp only [within, Bool.and_eq_true, beq_iff_eq, decide_eq_true_eq] at inside
        simp only [lately, recent, Bool.and_eq_true, beq_iff_eq, decide_eq_true_eq]
        exact ⟨inside.1, by omega⟩
      omega
    · exact before

theorem Taken.starts {upload : PendingUpload} {outcome : Outcome} (taken : Taken s upload input s' outcome) :
    s'.nowMs = s.nowMs ∧ s'.startedAt = s.startedAt ∧ s'.starts = s.starts := by
  cases taken <;> exact ⟨rfl, rfl, rfl⟩

theorem receivePhotoChunk_counted (counted : Counted limit s) (userId : UserId) (input : PhotoChunkInput) :
    Counted limit (receivePhotoChunk limit s userId input).1 := by
  have expired := counted.dropExpired
  have received := receivePhotoChunk_received limit s userId input
  generalize (receivePhotoChunk limit s userId input).1 = s' at received ⊢
  cases received with
  | unread => exact counted
  | expired => exact expired
  | dropped => exact expired.later le_rfl rfl rfl
  | @chunk middle _ upload outcome inside reached found taken =>
    have middle : Counted limit middle := by
      rcases reached with rfl | ⟨context, started⟩
      · exact expired
      · exact startUpload_counted expired started
    obtain ⟨now, startedAt, starts⟩ := taken.starts
    exact middle.later now.ge startedAt starts

theorem step_counted (counted : Counted limit s) (event : Event) : Counted limit (step limit s event) := by
  cases event with
  | tick elapsed => exact counted.later (Nat.le_add_right _ _) rfl rfl
  | chunk userId input => exact receivePhotoChunk_counted counted userId input
  | keeps userId =>
    unfold step keepPhoto
    dsimp only
    split
    · exact counted
    · split
      · exact counted
      · exact counted.later le_rfl rfl rfl
  | settles userId size =>
    unfold step settleFinish
    dsimp only
    split
    · exact counted
    · split
      · exact counted.later le_rfl rfl rfl
      · split
        · exact counted
        · exact counted.later le_rfl rfl rfl

theorem after_counted (limit : Nat) (events : List Event) : Counted limit (after limit events) :=
  foldl_invariant (I := fun _ s => Counted limit s) counted_start
    (fun _ _ event counted => step_counted counted event) events

/-! A chunk sent again. -/

/-- The call's chunk is the last the account's upload has, or one of its finish in flight or its last finished
upload; the answer each has. -/
inductive Held (s : Store) (userId : UserId) (input : PhotoChunkInput) : Outcome → Prop
  | finishing {finish : Finishing} (found : s.finishing.find userId = some finish)
      (same : finish.uploadId = input.uploadId) : Held s userId input .awaits
  | finished {done : Finished} (idle : ∀ finish, s.finishing.find userId = some finish → finish.uploadId ≠ input.uploadId)
      (found : (dropExpired s).finished.find userId = some done) (same : done.result.uploadId = input.uploadId) :
      Held s userId input (.answered done.result)
  | last {upload : PendingUpload}
      (idle : ∀ finish, s.finishing.find userId = some finish → finish.uploadId ≠ input.uploadId)
      (unfinished : ∀ done, (dropExpired s).finished.find userId = some done → done.result.uploadId ≠ input.uploadId)
      (found : (dropExpired s).pending.find userId = some upload)
      (same : upload.uploadId = input.uploadId ∧ upload.total = input.total)
      (index : input.index = (upload.chunks.length : Int) - 1) :
      Held s userId input (.answered upload.answer)

/-- Nothing changed, but for what expired and the account's idle clock. -/
inductive Untouched (s : Store) (userId : UserId) : Store → Prop
  | same : Untouched s userId (dropExpired s)
  | heard {upload : PendingUpload} (found : (dropExpired s).pending.find userId = some upload) :
      Untouched s userId
        { dropExpired s with pending := (dropExpired s).pending.set { upload with lastChunkAtMs := s.nowMs } }

/-- Past the checks of a finish in flight. -/
theorem idle_eq_false (idle : ∀ finish, s.finishing.find userId = some finish → finish.uploadId ≠ input.uploadId) :
    (((dropExpired s).finishing.find userId).any fun finish => finish.uploadId == input.uploadId) = false := by
  have idle : ∀ finish, (dropExpired s).finishing.find userId = some finish → finish.uploadId ≠ input.uploadId := idle
  cases found : (dropExpired s).finishing.find userId with
  | none => rfl
  | some finish => simpa using idle finish found

/-- And of a finished upload. -/
theorem unfinished_eq_none
    (unfinished : ∀ done, (dropExpired s).finished.find userId = some done → done.result.uploadId ≠ input.uploadId) :
    (((dropExpired s).finished.find userId).filter fun done => done.result.uploadId == input.uploadId) = none := by
  cases found : (dropExpired s).finished.find userId with
  | none => rfl
  | some done => simpa using unfinished done found

theorem takeChunk_last {upload : PendingUpload} (same : upload.uploadId = input.uploadId ∧ upload.total = input.total)
    (index : input.index = (upload.chunks.length : Int) - 1) :
    takeChunk s upload input = ({ s with pending := s.pending.set { upload with lastChunkAtMs := s.nowMs } },
      .answered upload.answer) := by
  unfold takeChunk
  rw [if_neg (by simp [same]), if_pos index]
  rfl

/-- A chunk the store holds, sent again: its answer, and nothing changed. -/
theorem Held.receive {outcome : Outcome} (held : Held s userId input outcome) {context : Option PhotoContext}
    (shaped : checkShape input = .ok context) :
    ∃ s', receivePhotoChunk limit s userId input = (s', outcome) ∧ Untouched s userId s' := by
  unfold receivePhotoChunk
  rw [shaped]
  dsimp only
  cases held with
  | @finishing finish found same =>
    have here : (dropExpired s).finishing.find userId = some finish := found
    exact ⟨dropExpired s, by simp [here, same], .same⟩
  | @finished done idle found same =>
    rw [idle_eq_false idle, if_neg Bool.false_ne_true, found, Option.filter_some, if_pos (by simp [same])]
    exact ⟨dropExpired s, rfl, .same⟩
  | @last upload idle unfinished found same index =>
    rw [idle_eq_false idle, unfinished_eq_none unfinished, found]
    have continues : ¬(input.index = 0 ∧ (some upload).map PendingUpload.uploadId ≠ some input.uploadId) := by
      rintro ⟨-, differ⟩
      exact differ (by rw [Option.map_some, same.1])
    rw [if_neg Bool.false_ne_true, if_neg continues]
    dsimp only
    rw [takeChunk_last same index]
    exact ⟨_, rfl, .heard found⟩

/-- An upload that a chunk has just come for has not expired. -/
theorem alive_heard {upload : PendingUpload} {nowMs : Nat} (heard : PendingUpload) (alive : upload.expired nowMs = false)
    (started : heard.startedAtMs = upload.startedAtMs) (last : heard.lastChunkAtMs = nowMs) :
    heard.expired nowMs = false := by
  unfold PendingUpload.expired at alive ⊢
  rw [started, last, Nat.sub_self]
  simp only [Bool.or_eq_false_iff] at alive
  rw [alive.1]
  rfl

theorem find_set_alive {upload : PendingUpload} (alive : upload.expired s.nowMs = false) :
    ((s.pending.set upload).filter fun row => !row.expired s.nowMs).find upload.userId = some upload := by
  rw [Table.find_filter, Table.find_set, if_pos rfl, Option.filter_some, if_pos (by simp [alive])]

/-- A chunk that was taken is held. -/
theorem Taken.held {upload : PendingUpload} {outcome : Outcome} (taken : Taken s upload input s' outcome)
    (accepted : ∀ code, outcome ≠ .refused code) (found : s.pending.find userId = some upload)
    (alive : upload.expired s.nowMs = false)
    (idle : ∀ finish, s.finishing.find userId = some finish → finish.uploadId ≠ input.uploadId)
    (unfinished : ∀ done, (dropExpired s).finished.find userId = some done → done.result.uploadId ≠ input.uploadId) :
    Held s' userId input outcome := by
  obtain rfl := Table.find_key found
  cases taken with
  | unchanged => exact absurd rfl (accepted _)
  | resent same index =>
    have heard := find_set_alive (alive_heard { upload with lastChunkAtMs := s.nowMs } alive rfl rfl)
    have held := Held.last (s := { s with pending := s.pending.set { upload with lastChunkAtMs := s.nowMs } }) idle
      unfinished heard same index
    exact held
  | dropped => exact absurd rfl (accepted _)
  | grown same index room =>
    have grown := find_set_alive (alive_heard (upload.grow s.nowMs input.bytes) alive rfl rfl)
    refine .last idle unfinished grown same ?_
    rw [PendingUpload.grow, List.length_append, List.length_singleton, index]
    omega
  | whole same index room done =>
    have stored : (finishUpload s (upload.grow s.nowMs input.bytes)).finishing.find upload.userId = some
        { userId := upload.userId, uploadId := upload.uploadId, total := upload.total, context := upload.context,
          photo := (upload.grow s.nowMs input.bytes).chunks.flatten, atMs := s.nowMs } := by
      unfold finishUpload
      dsimp only
      rw [Table.find_set]
      exact if_pos rfl
    exact .finishing stored same.1

theorem dropExpired_finished (s : Store) (userId : UserId) :
    (dropExpired (dropExpired s)).finished.find userId = (dropExpired s).finished.find userId := by
  unfold dropExpired
  dsimp only
  rw [Table.find_filter, Table.find_filter, Option.filter_filter]
  simp only [Bool.and_self]

theorem dropExpired_alive {upload : PendingUpload} (found : (dropExpired s).pending.find userId = some upload) :
    upload.expired s.nowMs = false := by
  have member := Table.find_mem found
  simpa using (List.mem_filter.mp member).2

/-- A call that was not refused, sent again at once, is held. -/
theorem receivePhotoChunk_held {outcome : Outcome} (received : receivePhotoChunk limit s userId input = (s', outcome))
    (accepted : ∀ code, outcome ≠ .refused code) : Held s' userId input outcome := by
  unfold receivePhotoChunk at received
  cases shaped : checkShape input with
  | error code =>
    rw [shaped] at received
    cases received
    exact absurd rfl (accepted code)
  | ok context =>
    rw [shaped] at received
    dsimp only at received
    split at received
    · rename_i inFlight
      cases received
      obtain ⟨finish, found, same⟩ := (Option.any_eq_true ..).mp inFlight
      exact .finishing found (by simpa using same)
    · rename_i noFlight
      have idle : ∀ finish, s.finishing.find userId = some finish → finish.uploadId ≠ input.uploadId := by
        intro finish found same
        have here : (dropExpired s).finishing.find userId = some finish := found
        exact noFlight (by simp [here, same])
      split at received
      · rename_i done finished
        cases received
        obtain ⟨found, same⟩ := Option.filter_eq_some_iff.mp finished
        rw [← dropExpired_finished] at found
        exact .finished idle found (by simpa using same)
      · rename_i notDone
        have unfinished : ∀ done, (dropExpired (dropExpired s)).finished.find userId = some done →
            done.result.uploadId ≠ input.uploadId := by
          intro done found same
          rw [dropExpired_finished] at found
          rw [found, Option.filter_some, if_pos (by simp [same])] at notDone
          cases notDone
        split at received
        · split at received
          · cases received
            exact absurd rfl (accepted _)
          · rename_i middle upload started
            obtain ⟨-, -, fresh, rfl⟩ := startUpload_ok started
            have found : (((dropExpired s).pending.erase userId).set upload).find userId = some upload := by
              rw [Table.find_set, fresh, if_pos rfl]
            have alive : upload.expired s.nowMs = false := by
              rw [fresh, PendingUpload.expired]
              simp [dropExpired]
            have taken := takeChunk_taken { dropExpired s with
              pending := ((dropExpired s).pending.erase userId).set upload
              startedAt := (dropExpired s).startedAt ++ [(userId, (dropExpired s).nowMs)]
              starts := (userId, (dropExpired s).nowMs) :: (dropExpired s).starts } upload input
            rw [received] at taken
            exact taken.held accepted found alive idle unfinished
        · split at received
          · cases received
            exact absurd rfl (accepted _)
          · rename_i upload found
            have alive := dropExpired_alive found
            have taken := takeChunk_taken (dropExpired s) upload input
            rw [received] at taken
            exact taken.held accepted found alive idle unfinished

/-- The bytes of the chunks held, and of the photos being finished. -/
def heldBytes (s : Store) : Nat :=
  total (fun upload => size upload.chunks) s.pending.rows + total (fun finish => finish.photo.length) s.finishing.rows

/-- The account's uploads in progress, and in its finish. -/
def uploadsOf (s : Store) (userId : UserId) : Nat :=
  s.pending.rows.countP (fun upload => upload.userId == userId) +
    s.finishing.rows.countP fun finish => finish.userId == userId

theorem countP_key_le_one {α : Type} {key : α → UserId} (table : Table key) (userId : UserId) :
    table.rows.countP (fun row => key row == userId) ≤ 1 := by
  have once := List.nodup_iff_count_le_one.mp table.unique userId
  rw [List.count, List.countP_map] at once
  exact once

theorem countP_key_none {α : Type} {key : α → UserId} {table : Table key} (none : table.find userId = none) :
    table.rows.countP (fun row => key row == userId) = 0 := by
  refine List.countP_eq_zero.mpr fun row member => ?_
  simpa using Table.find_eq_none.mp none row member

theorem Sound.uploadsOf (sound : Sound events s) (userId : UserId) : uploadsOf s userId ≤ 1 := by
  have pending := countP_key_le_one s.pending userId
  have finishing := countP_key_le_one s.finishing userId
  unfold Photos.uploadsOf
  cases found : s.pending.find userId with
  | none =>
    have nothing := countP_key_none found
    omega
  | some upload =>
    have idle := sound.apart upload (Table.find_mem found)
    rw [Table.find_key found] at idle
    have nothing := countP_key_none idle
    omega

/-- The `index`-th chunk of a photo of three. -/
def chunkOfThree (index : Int) : PhotoChunkInput :=
  { uploadId := "00000000-0000-0000-0000-000000000000".toList, index, total := 3, data := "AAAA".toList }

end LetterIRL.Photos
