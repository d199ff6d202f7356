import LetterIRL.Print.Held

namespace LetterIRL.Print
open Lib Commerce Mail

/-! Held mail among stores, sweeps, dispatches and everything that moves its letter. -/

variable {Content Layout Fingerprint Pdf Digest : Type} [DecidableEq Fingerprint] [DecidableEq Digest]
  {sha256 : Pdf → Digest} {s s' : Room Content Layout Fingerprint Pdf Digest}
  {event : RoomEvent Content Layout Fingerprint Pdf}

def step (sha256 : Pdf → Digest) (s : Room Content Layout Fingerprint Pdf Digest) :
    RoomEvent Content Layout Fingerprint Pdf → Except RoomError (Room Content Layout Fingerprint Pdf Digest)
  | .tick elapsed => .ok { s with now := s.now + elapsed }
  | .send letterId content dated printLayoutFingerprint =>
    let letter : PrintRow Content Fingerprint Digest :=
      { letterId, content, dated, printLayoutFingerprint, printPdfSha256 := none
        needsFingerprint := fun recorded => nomatch recorded }
    if fresh : letter.letterId ∉ s.letters.rows.map PrintRow.letterId then
      .ok { s with letters := s.letters.insert letter fresh }
    else .error .impossible
  | .move letterId status => .ok (s.modifyLetter letterId fun letter => { letter with status })
  | .redact letterId => .ok (s.modifyLetter letterId PrintRow.emptied)
  | .restore letterId => .ok (s.modifyLetter letterId fun letter => { letter with redacted := false })
  | .forget letterId => .ok { s with heldPdfs := s.heldPdfs.erase letterId }
  | .storeRead build letterId =>
    match s.letters.find letterId with
    | none => .error .impossible
    | some letter =>
      if mayStore letter then .ok { s with stores := s.stores ++ [{ build, phase := .drawing letter }] }
      else .error .impossible
  | .storeUpload run =>
    match s.stores[run]? with
    | some { build, phase := .drawing letter } => .ok (s.upload sha256 run build letter)
    | _ => .error .impossible
  | .storeRecord run =>
    match s.stores[run]? with
    | some { build := _, phase := .uploaded letter digest } => .ok (s.record run letter digest)
    | _ => .error .impossible
  | .storeCleanUp run =>
    match s.stores[run]? with
    | some { build := _, phase := .cleaning letterId } =>
      .ok { s.setStore run .ended with heldPdfs := s.heldPdfs.erase letterId }
    | _ => .error .impossible
  | .storeFails run => .ok (s.setStore run .ended)
  | .sweepList => .ok { s with sweeps := s.sweeps ++ [.listed s.oldPdfs] }
  | .sweepQuery run =>
    match s.sweeps[run]? with
    | some (.listed old) => .ok (s.setSweep run (.deleting (old.filter fun letterId => !s.keeps letterId)))
    | _ => .error .impossible
  | .sweepDelete run =>
    match s.sweeps[run]? with
    | some (.deleting (letterId :: rest)) =>
      .ok { s.setSweep run (.deleting rest) with heldPdfs := s.heldPdfs.erase letterId }
    | _ => .error .impossible
  | .sweepFails run => .ok (s.setSweep run (.deleting []))
  | .load letterId =>
    match s.letters.find letterId with
    | none => .error .impossible
    | some letter => .ok { s with dispatches := s.dispatches ++ [.loaded letter] }
  | .fetch run readable =>
    match s.dispatches[run]? with
    | some (.loaded preview) => .ok (s.setDispatch run (.fetched preview (s.storedHeldPdf sha256 preview readable)))
    | _ => .error .impossible
  | .mark run =>
    match s.dispatches[run]? with
    | some (.fetched preview storedPdf) => s.markRow run preview storedPdf
    | _ => .error .impossible
  | .print run build =>
    match s.dispatches[run]? with
    | some (.marked letter pdf) => .ok (s.submit run build letter pdf)
    | _ => .error .impossible

/-! What is printed. -/

/-- A request prints the PDF recorded, by its digest, or a layout with the fingerprint recorded, where there is one. -/
def AsRecorded (sha256 : Pdf → Digest) (submission : Submission Content Layout Fingerprint Pdf Digest) : Prop :=
  match submission.source with
  | .stored pdf => submission.letter.printPdfSha256 = some (sha256 pdf)
  | .laid layout => ∀ fingerprint, submission.letter.printLayoutFingerprint = some fingerprint →
      submission.build.layoutFingerprint layout = fingerprint

/-- A stored PDF that a dispatch goes on with has the digest its row records. -/
def DispatchPhase.faithful (sha256 : Pdf → Digest) : DispatchPhase Content Fingerprint Pdf Digest → Prop
  | .fetched preview (some pdf) => preview.printPdfSha256 = some (sha256 pdf)
  | .marked letter (some pdf) => letter.printPdfSha256 = some (sha256 pdf)
  | _ => True

structure Faithful (sha256 : Pdf → Digest) (s : Room Content Layout Fingerprint Pdf Digest) : Prop where
  dispatches : ∀ phase ∈ s.dispatches, phase.faithful sha256
  submissions : ∀ submission ∈ s.submissions, AsRecorded sha256 submission

omit [DecidableEq Fingerprint] in
theorem storedHeldPdf_digest {letter : PrintRow Content Fingerprint Digest} {readable : Bool} {pdf : Pdf}
    (fetched : s.storedHeldPdf sha256 letter readable = some pdf) : letter.printPdfSha256 = some (sha256 pdf) := by
  unfold Room.storedHeldPdf at fetched
  split at fetched
  · rename_i recorded entry here found
    split at fetched
    · rename_i matched
      rw [Bool.and_eq_true, beq_iff_eq] at matched
      obtain rfl : entry.pdf = pdf := Option.some.inj fetched
      rw [here, matched.2]
    · cases fetched
  · cases fetched

omit [DecidableEq Digest] in
theorem printPdfFor_recorded {build : Build Content Layout Fingerprint Pdf}
    {letter : PrintRow Content Fingerprint Digest} {pdf : Option Pdf} {source : PrintSource Layout Pdf}
    (held : (DispatchPhase.marked letter pdf).faithful sha256) (printed : printPdfFor build letter pdf = some source) :
    AsRecorded sha256 { build, letter, source } := by
  unfold printPdfFor at printed
  split at printed
  · cases printed
    exact held
  · split at printed
    · cases printed
    · rename_i layout laid
      split at printed
      · rename_i agreed
        cases printed
        intro fingerprint recorded
        rw [Bool.and_eq_true] at agreed
        have same : layoutAsRecorded build layout (some fingerprint) = true := recorded ▸ agreed.1
        simp only [layoutAsRecorded, Option.all_some, Bool.and_eq_true, beq_iff_eq] at same
        exact same.2
      · cases printed

omit [DecidableEq Fingerprint] [DecidableEq Digest] in
theorem Faithful.setDispatch (faithful : Faithful sha256 s) (run : Nat)
    {phase : DispatchPhase Content Fingerprint Pdf Digest} (held : phase.faithful sha256) :
    Faithful sha256 (s.setDispatch run phase) where
  dispatches other member := by
    rcases mem_modify member with rfl | old
    · exact held
    · exact faithful.dispatches other old
  submissions := faithful.submissions

/-! What the steps of a store come to. -/

omit [DecidableEq Fingerprint] [DecidableEq Digest] in
theorem modifyLetter_cases (s : Room Content Layout Fingerprint Pdf Digest) (letterId : LetterId)
    (change : PrintRow Content Fingerprint Digest → PrintRow Content Fingerprint Digest) :
    s.modifyLetter letterId change = s ∨ ∃ letter, s.letters.find letterId = some letter ∧
      s.modifyLetter letterId change = { s with letters := s.letters.put (change letter) } := by
  unfold Room.modifyLetter
  split
  · exact .inl rfl
  · rename_i letter found
    exact .inr ⟨letter, found, rfl⟩

omit [DecidableEq Digest] in
theorem upload_cases (s : Room Content Layout Fingerprint Pdf Digest) (run : Nat)
    (build : Build Content Layout Fingerprint Pdf) (letter : PrintRow Content Fingerprint Digest) :
    s.upload sha256 run build letter = s.setStore run .ended ∨ ∃ pdf,
      s.upload sha256 run build letter =
        { s.setStore run (.uploaded letter (sha256 pdf)) with
          heldPdfs := s.heldPdfs.set { letterId := letter.letterId, pdf, storedAt := s.now } } := by
  unfold Room.upload
  split
  · exact .inl rfl
  · split
    · exact .inl rfl
    · split
      · exact .inl rfl
      · rename_i pdf drawn
        exact .inr ⟨pdf, rfl⟩

theorem record_cases (s : Room Content Layout Fingerprint Pdf Digest) (run : Nat)
    (letter : PrintRow Content Fingerprint Digest) (digest : Digest) :
    s.record run letter digest = s.setStore run (.cleaning letter.letterId) ∨ ∃ row fingerprinted,
      s.letters.find letter.letterId = some row ∧ Room.recordable letter row digest = true ∧
        s.record run letter digest =
          { s.setStore run .ended with letters := s.letters.put (row.recorded digest fingerprinted) } := by
  unfold Room.record
  split
  · exact .inl rfl
  · rename_i row found
    split
    · rename_i fingerprinted
      split
      · rename_i matched
        exact .inr ⟨row, fingerprinted, found, matched, rfl⟩
      · exact .inl rfl
    · exact .inl rfl

omit [DecidableEq Fingerprint] in
theorem markRow_ok {run : Nat} {preview : PrintRow Content Fingerprint Digest} {storedPdf : Option Pdf}
    (marked : s.markRow run preview storedPdf = .ok s') :
    ∃ letter, s.letters.find preview.letterId = some letter ∧ letter.status ∈ [.queued, .processing] ∧
      letter.redacted = false ∧
      s' = { s.setDispatch run
          (.marked letter (if letter.printPdfSha256 = preview.printPdfSha256 then storedPdf else none)) with
        letters := s.letters.put { letter with status := .processing } } := by
  unfold Room.markRow at marked
  split at marked
  · cases marked
  · rename_i letter found
    split at marked
    · cases marked
    · rename_i open_
      cases marked
      rw [not_or, Decidable.not_not, Bool.not_eq_true] at open_
      exact ⟨letter, found, open_.1, open_.2, rfl⟩

omit [DecidableEq Digest] in
theorem submit_cases (s : Room Content Layout Fingerprint Pdf Digest) (run : Nat)
    (build : Build Content Layout Fingerprint Pdf) (letter : PrintRow Content Fingerprint Digest) (pdf : Option Pdf) :
    s.submit run build letter pdf = s.setDispatch run .refused ∨ ∃ source,
      printPdfFor build letter pdf = some source ∧ s.submit run build letter pdf =
        { s.setDispatch run .submitted with submissions := s.submissions ++ [{ build, letter, source }] } := by
  unfold Room.submit
  split
  · exact .inl rfl
  · rename_i source printed
    exact .inr ⟨source, printed, rfl⟩

omit [DecidableEq Fingerprint] [DecidableEq Digest] in
theorem Faithful.modifyLetter (faithful : Faithful sha256 s) (letterId : LetterId)
    (change : PrintRow Content Fingerprint Digest → PrintRow Content Fingerprint Digest) :
    Faithful sha256 (s.modifyLetter letterId change) := by
  rcases modifyLetter_cases s letterId change with kept | ⟨_, _, put⟩
  · rw [kept]
    exact faithful
  · rw [put]
    exact ⟨faithful.dispatches, faithful.submissions⟩

/-- The step lemma of prints. -/
theorem Faithful.step (faithful : Faithful sha256 s) (committed : step sha256 s event = .ok s') :
    Faithful sha256 s' := by
  have same : ∀ {other : Room Content Layout Fingerprint Pdf Digest}, other.dispatches = s.dispatches →
      other.submissions = s.submissions → Faithful sha256 other := by
    intro other dispatches submissions
    exact ⟨dispatches ▸ faithful.dispatches, submissions ▸ faithful.submissions⟩
  cases event with
  | tick elapsed => cases committed; exact same rfl rfl
  | send letterId content dated fingerprint =>
    simp only [Print.step] at committed
    split at committed <;> cases committed
    exact same rfl rfl
  | move letterId status => cases committed; exact faithful.modifyLetter letterId _
  | redact letterId => cases committed; exact faithful.modifyLetter letterId _
  | restore letterId => cases committed; exact faithful.modifyLetter letterId _
  | forget letterId => cases committed; exact same rfl rfl
  | storeRead build letterId =>
    simp only [Print.step] at committed
    split at committed
    · cases committed
    · split at committed <;> cases committed
      exact same rfl rfl
  | storeUpload run =>
    simp only [Print.step] at committed
    split at committed
    · rename_i build letter found
      cases committed
      rcases upload_cases s run build letter with ended | ⟨pdf, uploaded⟩
      · exact ended ▸ same rfl rfl
      · exact uploaded ▸ same rfl rfl
    · cases committed
  | storeRecord run =>
    simp only [Print.step] at committed
    split at committed
    · rename_i build letter digest found
      cases committed
      rcases record_cases s run letter digest with cleaning | ⟨_, _, _, _, recorded⟩
      · exact cleaning ▸ same rfl rfl
      · exact recorded ▸ same rfl rfl
    · cases committed
  | storeCleanUp run =>
    simp only [Print.step] at committed
    split at committed <;> cases committed
    exact same rfl rfl
  | storeFails run => cases committed; exact same rfl rfl
  | sweepList => cases committed; exact same rfl rfl
  | sweepQuery run =>
    simp only [Print.step] at committed
    split at committed <;> cases committed
    exact same rfl rfl
  | sweepDelete run =>
    simp only [Print.step] at committed
    split at committed <;> cases committed
    exact same rfl rfl
  | sweepFails run => cases committed; exact same rfl rfl
  | load letterId =>
    simp only [Print.step] at committed
    split at committed
    · cases committed
    · rename_i letter found
      cases committed
      refine ⟨fun phase member => ?_, faithful.submissions⟩
      rcases List.mem_append.mp member with old | new
      · exact faithful.dispatches phase old
      · rw [List.mem_singleton.mp new]
        trivial
  | fetch run readable =>
    simp only [Print.step] at committed
    split at committed
    · rename_i preview found
      cases committed
      refine faithful.setDispatch run ?_
      cases fetched : s.storedHeldPdf sha256 preview readable with
      | none => trivial
      | some pdf => exact storedHeldPdf_digest fetched
    · cases committed
  | mark run =>
    simp only [Print.step] at committed
    split at committed
    · rename_i preview storedPdf found
      obtain ⟨letter, _, _, _, rfl⟩ := markRow_ok committed
      have held := faithful.dispatches _ (List.mem_of_getElem? found)
      obtain ⟨dispatches, submissions⟩ : Faithful sha256 (s.setDispatch run
          (.marked letter (if letter.printPdfSha256 = preview.printPdfSha256 then storedPdf else none))) :=
        faithful.setDispatch run (by
          by_cases recorded : letter.printPdfSha256 = preview.printPdfSha256
          · rw [if_pos recorded]
            cases storedPdf with
            | none => trivial
            | some pdf =>
              have digest : preview.printPdfSha256 = some (sha256 pdf) := held
              exact recorded.trans digest
          · rw [if_neg recorded]
            trivial)
      exact ⟨dispatches, submissions⟩
    · cases committed
  | print run build =>
    simp only [Print.step] at committed
    split at committed
    · rename_i letter pdf found
      cases committed
      rcases submit_cases s run build letter pdf with refused | ⟨source, printed, submitted⟩
      · exact refused ▸ faithful.setDispatch run trivial
      · rw [submitted]
        have set : Faithful sha256 (s.setDispatch run .submitted) := faithful.setDispatch run trivial
        refine ⟨set.dispatches, fun submission member => ?_⟩
        rcases List.mem_append.mp member with old | new
        · exact faithful.submissions submission old
        · rw [List.mem_singleton.mp new]
          exact printPdfFor_recorded (faithful.dispatches _ (List.mem_of_getElem? found)) printed
    · cases committed

end LetterIRL.Print
