import LetterIRL.Print.HeldRuns

namespace LetterIRL.Print
open Lib Commerce Mail

/-! When housekeeping spares the PDF of mail that waits to print. -/

variable {Content Layout Fingerprint Pdf Digest : Type} {sha256 : Pdf → Digest}
  {s s' : Room Content Layout Fingerprint Pdf Digest} {event : RoomEvent Content Layout Fingerprint Pdf}

/-- The event makes the letter wait with a recorded PDF: a store records it, or the letter waits again. -/
inductive ComesToWait [DecidableEq Fingerprint] [DecidableEq Digest] (s : Room Content Layout Fingerprint Pdf Digest) :
    RoomEvent Content Layout Fingerprint Pdf → LetterId → Prop
  | recorded {run : Nat} {build : Build Content Layout Fingerprint Pdf}
      {letter row : PrintRow Content Fingerprint Digest} {digest : Digest}
      (here : s.stores[run]? = some { build, phase := .uploaded letter digest })
      (found : s.letters.find letter.letterId = some row) (matched : Room.recordable letter row digest = true) :
      ComesToWait s (.storeRecord run) letter.letterId
  | moved {letterId : LetterId} {status : LetterStatus} {letter : PrintRow Content Fingerprint Digest}
      (found : s.letters.find letterId = some letter) (recorded : letter.printPdfSha256.isSome)
      (waited : waits letter = false) (waiting : waits { letter with status } = true) :
      ComesToWait s (.move letterId status) letterId

/-- No letter comes to wait with a recorded PDF while another store of it is between its read and its end, or a sweep
that found it not waiting has yet to delete its PDF. -/
def Undisturbed [DecidableEq Fingerprint] [DecidableEq Digest] (s : Room Content Layout Fingerprint Pdf Digest)
    (event : RoomEvent Content Layout Fingerprint Pdf) : Prop :=
  ∀ letterId, ComesToWait s event letterId →
    (∀ run store, s.stores[run]? = some store → store.phase.letterId = some letterId → event = .storeRecord run) ∧
      ∀ sweep ∈ s.sweeps, letterId ∉ sweep.doomed

/-- A letter that records a PDF has no store under way, and none that waits with one is to be swept. -/
structure Kept (s : Room Content Layout Fingerprint Pdf Digest) : Prop where
  emptied : ∀ letter ∈ s.letters.rows, letter.redacted = true → letter.printPdfSha256 = none
  stores : ∀ store ∈ s.stores, ∀ letterId letter, store.phase.letterId = some letterId →
    s.letters.find letterId = some letter → letter.printPdfSha256 = none
  sweeps : ∀ sweep ∈ s.sweeps, ∀ letterId ∈ sweep.doomed, s.keeps letterId = false

theorem Kept.setStore (kept : Kept s) {run : Nat} {phase : StorePhase Content Fingerprint Digest}
    (same : ∀ store letterId, s.stores[run]? = some store → phase.letterId = some letterId →
      store.phase.letterId = some letterId) : Kept (s.setStore run phase) where
  emptied := kept.emptied
  stores := by
    intro store member letterId letter named found
    obtain ⟨position, there⟩ := List.getElem?_of_mem member
    simp only [Room.setStore, List.getElem?_modify] at there
    obtain ⟨old, here, rfl⟩ := Option.map_eq_some_iff.mp there
    by_cases position' : run = position
    · rw [if_pos position'] at named
      exact kept.stores old (List.mem_of_getElem? here) letterId letter
        (same old letterId (position' ▸ here) named) found
    · rw [if_neg position'] at named
      exact kept.stores old (List.mem_of_getElem? here) letterId letter named found
  sweeps := kept.sweeps

theorem Kept.ended (kept : Kept s) (run : Nat) : Kept (s.setStore run .ended) :=
  kept.setStore fun _ _ _ named => nomatch named

theorem Kept.setSweep (kept : Kept s) {run : Nat} {phase : SweepPhase}
    (spared : ∀ letterId ∈ phase.doomed, s.keeps letterId = false) : Kept (s.setSweep run phase) where
  emptied := kept.emptied
  stores := kept.stores
  sweeps := by
    intro sweep member
    rcases mem_modify member with rfl | old
    · exact spared
    · exact kept.sweeps sweep old

/-- A row written over: what it records it recorded before, or no store of it is under way; and where it waits with a
PDF it did before, or no sweep is to delete it. -/
theorem Kept.put (kept : Kept s) {old new : PrintRow Content Fingerprint Digest}
    (found : s.letters.find new.letterId = some old)
    (emptied : new.redacted = true → new.printPdfSha256 = none)
    (digest : new.printPdfSha256 = none ∨ old.printPdfSha256.isSome ∨
      ∀ store ∈ s.stores, store.phase.letterId ≠ some new.letterId)
    (waiting : (waits new && new.printPdfSha256.isSome) = false ∨ s.keeps new.letterId = true ∨
      ∀ sweep ∈ s.sweeps, new.letterId ∉ sweep.doomed) :
    Kept { s with letters := s.letters.put new } where
  emptied := by
    intro letter member redacted
    rcases Table.mem_put.mp member with ⟨before, _⟩ | ⟨rfl, _⟩
    · exact kept.emptied letter before redacted
    · exact emptied redacted
  stores := by
    intro store member letterId letter named here
    by_cases same : letterId = new.letterId
    · subst same
      rw [Table.find_put_self new found] at here
      cases here
      rcases digest with none | some | other
      · exact none
      · rw [kept.stores store member new.letterId old named found] at some
        cases some
      · exact absurd named (other store member)
    · rw [Table.find_put_of_ne same] at here
      exact kept.stores store member letterId letter named here
  sweeps := by
    intro sweep member letterId doomed
    have before := kept.sweeps sweep member letterId doomed
    by_cases same : letterId = new.letterId
    · subst same
      rcases waiting with still | kept' | other
      · rw [Room.keeps, Table.find_put_self new found, Option.any_some]
        exact still
      · rw [kept'] at before
        cases before
      · exact absurd doomed (other sweep member)
    · rw [Room.keeps, Table.find_put_of_ne same]
      exact before

theorem keeps_of_found {letterId : LetterId} {letter : PrintRow Content Fingerprint Digest}
    (found : s.letters.find letterId = some letter) : s.keeps letterId = (waits letter && letter.printPdfSha256.isSome) := by
  rw [Room.keeps, found, Option.any_some]

/-- A change of a row that records no new PDF, and makes it wait only where it waited. -/
theorem Kept.modifyLetter (kept : Kept s) {letterId : LetterId}
    {change : PrintRow Content Fingerprint Digest → PrintRow Content Fingerprint Digest}
    (changed : ∀ letter, s.letters.find letterId = some letter →
      (change letter).letterId = letter.letterId ∧
        ((change letter).redacted = true → (change letter).printPdfSha256 = none) ∧
        ((change letter).printPdfSha256 = none ∨
          (change letter).printPdfSha256 = letter.printPdfSha256 ∧
            (waits (change letter) = false ∨ waits letter = true ∨ ∀ sweep ∈ s.sweeps, letterId ∉ sweep.doomed))) :
    Kept (s.modifyLetter letterId change) := by
  rcases modifyLetter_cases s letterId change with same | ⟨letter, found, put⟩
  · rw [same]
    exact kept
  · rw [put]
    obtain ⟨named, emptied, digest⟩ := changed letter found
    have sameId : (change letter).letterId = letterId := named.trans (Table.find_key found)
    have sameRow : s.letters.find (change letter).letterId = some letter := by rw [sameId]; exact found
    refine kept.put sameRow emptied ?_ ?_
    · rcases digest with none | ⟨digest, _⟩
      · exact .inl none
      · rw [digest]
        cases letter.printPdfSha256 with
        | none => exact .inl rfl
        | some digest => exact .inr (.inl rfl)
    · rcases digest with none | ⟨digest, still | waited | spared⟩
      · exact .inl (by rw [none, Option.isSome_none, Bool.and_false])
      · exact .inl (by rw [still, Bool.false_and])
      · rw [sameId, keeps_of_found found, waited, Bool.true_and, digest]
        cases letter.printPdfSha256 with
        | none => exact .inl (Bool.and_false _)
        | some digest => exact .inr (.inl rfl)
      · exact .inr (.inr (sameId ▸ spared))

variable [DecidableEq Fingerprint] [DecidableEq Digest]

/-- The step lemma of housekeeping: one case for each way a letter comes to wait, or a PDF to be deleted. -/
theorem Kept.step (kept : Kept s) (undisturbed : Undisturbed s event) (committed : step sha256 s event = .ok s') :
    Kept s' := by
  cases event with
  | tick elapsed => cases committed; exact ⟨kept.emptied, kept.stores, kept.sweeps⟩
  | send letterId content dated fingerprint =>
    simp only [Print.step] at committed
    split at committed
    · rename_i fresh
      cases committed
      refine ⟨fun letter member redacted => ?_, fun store member id letter named found => ?_,
        fun sweep member id doomed => ?_⟩
      · rw [Table.insert_rows, List.mem_append, List.mem_singleton] at member
        rcases member with old | rfl
        · exact kept.emptied letter old redacted
        · rfl
      · rw [Table.find_insert] at found
        split at found
        · cases found
          rfl
        · exact kept.stores store member id letter named found
      · rw [Room.keeps, Table.find_insert]
        split
        · rw [Option.any_some, Option.isSome_none, Bool.and_false]
        · exact kept.sweeps sweep member id doomed
    · cases committed
  | move letterId status =>
    cases committed
    refine kept.modifyLetter fun letter found => ⟨rfl, kept.emptied letter (Table.find_mem found), ?_⟩
    by_cases recorded : letter.printPdfSha256.isSome
    · refine .inr ⟨rfl, ?_⟩
      by_cases waited : waits letter = true
      · exact .inr (.inl waited)
      · by_cases waiting : waits { letter with status } = true
        · exact .inr (.inr (undisturbed letterId
            (.moved found recorded ((Bool.not_eq_true _).mp waited) waiting)).2)
        · exact .inl ((Bool.not_eq_true _).mp waiting)
    · exact .inl (by simpa using recorded)
  | redact letterId =>
    cases committed
    exact kept.modifyLetter fun letter found => ⟨rfl, fun _ => rfl, .inl rfl⟩
  | restore letterId =>
    cases committed
    refine kept.modifyLetter fun letter found => ⟨rfl, fun redacted => Bool.noConfusion redacted, ?_⟩
    by_cases redacted : letter.redacted = true
    · exact .inl (kept.emptied letter (Table.find_mem found) redacted)
    · refine .inr ⟨rfl, ?_⟩
      rw [Bool.not_eq_true] at redacted
      simp only [waits, redacted]
      cases decide (letter.status ∈ [LetterStatus.queued, .processing, .held])
      · exact .inl rfl
      · exact .inr (.inl rfl)
  | forget letterId => cases committed; exact ⟨kept.emptied, kept.stores, kept.sweeps⟩
  | storeRead build letterId =>
    simp only [Print.step] at committed
    split at committed
    · cases committed
    · rename_i letter found
      split at committed
      · rename_i mine
        cases committed
        refine ⟨kept.emptied, fun store member id other named here => ?_, kept.sweeps⟩
        rcases List.mem_append.mp member with old | new
        · exact kept.stores store old id other named here
        · rw [List.mem_singleton.mp new] at named
          have sameId : letterId = id := (Table.find_key found).symm.trans (Option.some.inj named)
          rw [← sameId, found] at here
          cases here
          simp only [mayStore, Bool.and_eq_true, Option.isNone_iff_eq_none] at mine
          exact mine.2
      · cases committed
  | storeUpload run =>
    simp only [Print.step] at committed
    split at committed
    · rename_i build letter found
      cases committed
      rcases upload_cases s run build letter with ended | ⟨pdf, uploaded⟩
      · rw [ended]
        exact kept.ended run
      · rw [uploaded]
        have set : Kept (s.setStore run (.uploaded letter (sha256 pdf))) :=
          kept.setStore fun store letterId here named => by
            rw [found] at here
            cases here
            exact named
        exact ⟨set.emptied, set.stores, set.sweeps⟩
    · cases committed
  | storeRecord run =>
    simp only [Print.step] at committed
    split at committed
    · rename_i build letter digest found
      cases committed
      rcases record_cases s run letter digest with cleaning | ⟨row, fingerprinted, here, matched, recorded⟩
      · rw [cleaning]
        exact kept.setStore fun store letterId there named => by
          rw [found] at there
          cases there
          exact named
      · obtain ⟨alone, spared⟩ := undisturbed letter.letterId (.recorded found here matched)
        have sameId : row.letterId = letter.letterId := Table.find_key here
        rw [recorded]
        have sameRow : s.letters.find (row.recorded digest fingerprinted).letterId = some row := by
          show s.letters.find row.letterId = some row
          rw [sameId, here]
        refine (kept.ended run).put sameRow ?_ (.inr (.inr ?_)) (.inr (.inr ?_))
        · intro redacted
          simp only [Room.recordable, Bool.and_eq_true, Bool.not_eq_true'] at matched
          rw [show row.redacted = true from redacted] at matched
          cases matched.2
        · intro store member named
          obtain ⟨position, there⟩ := List.getElem?_of_mem member
          simp only [Room.setStore, List.getElem?_modify] at there
          obtain ⟨old, before, rfl⟩ := Option.map_eq_some_iff.mp there
          by_cases same : run = position
          · rw [if_pos same] at named
            cases named
          · rw [if_neg same] at named
            have this : RoomEvent.storeRecord run = RoomEvent.storeRecord position :=
              alone position old before (named.trans (congrArg some sameId))
            exact same (RoomEvent.storeRecord.inj this)
        · intro sweep member
          show row.letterId ∉ sweep.doomed
          rw [sameId]
          exact spared sweep member
    · cases committed
  | storeCleanUp run =>
    simp only [Print.step] at committed
    split at committed
    · cases committed
      have ended := kept.ended run
      exact ⟨ended.emptied, ended.stores, ended.sweeps⟩
    · cases committed
  | storeFails run => cases committed; exact kept.ended run
  | sweepList =>
    cases committed
    refine ⟨kept.emptied, kept.stores, fun sweep member letterId doomed => ?_⟩
    rcases List.mem_append.mp member with old | new
    · exact kept.sweeps sweep old letterId doomed
    · rw [List.mem_singleton.mp new] at doomed
      cases doomed
  | sweepQuery run =>
    simp only [Print.step] at committed
    split at committed
    · cases committed
      refine kept.setSweep fun letterId doomed => ?_
      have unkept := (List.mem_filter.mp doomed).2
      rwa [Bool.not_eq_true'] at unkept
    · cases committed
  | sweepDelete run =>
    simp only [Print.step] at committed
    split at committed
    · rename_i letterId rest here
      cases committed
      have set : Kept (s.setSweep run (.deleting rest)) := kept.setSweep fun other doomed =>
        kept.sweeps _ (List.mem_of_getElem? here) other (List.mem_cons_of_mem _ doomed)
      exact ⟨set.emptied, set.stores, set.sweeps⟩
    · cases committed
  | sweepFails run => cases committed; exact kept.setSweep fun _ doomed => by cases doomed
  | load letterId =>
    simp only [Print.step] at committed
    split at committed <;> cases committed
    exact ⟨kept.emptied, kept.stores, kept.sweeps⟩
  | fetch run readable =>
    simp only [Print.step] at committed
    split at committed <;> cases committed
    exact ⟨kept.emptied, kept.stores, kept.sweeps⟩
  | mark run =>
    simp only [Print.step] at committed
    split at committed
    · obtain ⟨letter, found, open_, unredacted, rfl⟩ := markRow_ok committed
      have waited : waits letter = true := by
        simp only [waits, unredacted, Bool.not_false, Bool.and_true, decide_eq_true_eq]
        simp only [List.mem_cons, List.not_mem_nil, or_false] at open_ ⊢
        rcases open_ with queued | processing
        · exact .inl queued
        · exact .inr (.inl processing)
      have put : Kept (s.modifyLetter letter.letterId fun letter => { letter with status := .processing }) :=
        kept.modifyLetter fun other here => by
          rw [Table.find_key found, found] at here
          cases here
          exact ⟨rfl, kept.emptied letter (Table.find_mem found), .inr ⟨rfl, .inr (.inl waited)⟩⟩
      rw [Room.modifyLetter, Table.find_key found, found] at put
      exact ⟨put.emptied, put.stores, put.sweeps⟩
    · cases committed
  | print run build =>
    simp only [Print.step] at committed
    split at committed
    · rename_i letter pdf found
      cases committed
      rcases submit_cases s run build letter pdf with refused | ⟨source, printed, submitted⟩
      · rw [refused]
        exact ⟨kept.emptied, kept.stores, kept.sweeps⟩
      · rw [submitted]
        exact ⟨kept.emptied, kept.stores, kept.sweeps⟩
    · cases committed

/-! The laws over a run, and the runs that break the second. -/

/-- The step is a store's clean-up, or a sweep's deletion. -/
def Housekeeping (event : RoomEvent Content Layout Fingerprint Pdf) : Prop :=
  (∃ run, event = .storeCleanUp run) ∨ ∃ run, event = .sweepDelete run

theorem Kept.housekeeping (kept : Kept s) (housekeeping : Housekeeping event)
    (committed : Print.step sha256 s event = .ok s') {letter : PrintRow Content Fingerprint Digest}
    (member : letter ∈ s.letters.rows) (waiting : waits letter = true) (recorded : letter.printPdfSha256.isSome) :
    s'.heldPdfs.find letter.letterId = s.heldPdfs.find letter.letterId := by
  have found := Table.find_of_mem member
  rcases housekeeping with ⟨run, rfl⟩ | ⟨run, rfl⟩
  · simp only [Print.step] at committed
    split at committed
    · rename_i build letterId here
      cases committed
      refine Table.find_erase_of_ne fun same => ?_
      have none := kept.stores _ (List.mem_of_getElem? here) letterId letter rfl (same ▸ found)
      rw [none] at recorded
      cases recorded
    · cases committed
  · simp only [Print.step] at committed
    split at committed
    · rename_i letterId rest here
      cases committed
      refine Table.find_erase_of_ne fun same => ?_
      have unkept := kept.sweeps _ (List.mem_of_getElem? here) letterId List.mem_cons_self
      rw [keeps_of_found (same ▸ found), waiting, recorded] at unkept
      cases unkept
    · cases committed

/-- In every run, every request to the provider prints what its row records. And in every run in which no letter comes
to wait with a recorded PDF under a store or a sweep that read it before, no clean-up and no sweep deletes the PDF of a
letter that waits and records one. -/
theorem held_mail_prints_as_recorded (sha256 : Pdf → Digest) :
    (∀ s : Room Content Layout Fingerprint Pdf Digest, Reach (step sha256) anyStep {} s →
      ∀ submission ∈ s.submissions, AsRecorded sha256 submission) ∧
    ∀ s : Room Content Layout Fingerprint Pdf Digest, Reach (step sha256) Undisturbed {} s →
      ∀ event s', step sha256 s event = .ok s' → Housekeeping event →
        ∀ letter ∈ s.letters.rows, waits letter = true → letter.printPdfSha256.isSome →
          s'.heldPdfs.find letter.letterId = s.heldPdfs.find letter.letterId := by
  refine ⟨fun s reach => ?_, fun s reach event s' committed housekeeping letter member waiting recorded => ?_⟩
  · have faithful := reach.invariant (I := fun s => Faithful sha256 s)
      ⟨fun _ member => (nomatch member), fun _ member => (nomatch member)⟩
      fun _ _ _ faithful _ committed => faithful.step committed
    exact faithful.submissions
  · have kept := reach.invariant (I := fun s => Kept s)
      ⟨fun _ member => (nomatch member), fun _ member => (nomatch member), fun _ member => (nomatch member)⟩
      fun _ _ _ kept undisturbed committed => kept.step undisturbed committed
    exact kept.housekeeping housekeeping committed member waiting recorded

/-- A build whose page is its content. -/
def plainBuild : Build Nat Nat Nat Nat where
  printLayoutOf := some
  layoutFingerprint := id
  comparable := fun _ => true
  drawPrintPdf := some

abbrev PlainRoom := Room Nat Nat Nat Nat Nat

/-- A letter stored and printed from its PDF. -/
theorem plain_mail_prints_as_recorded :
    ∃ s : PlainRoom, s.submissions.length = 1 ∧ ∀ submission ∈ s.submissions, AsRecorded id submission := by
  obtain ⟨s, reach, printed⟩ := exists_reach (step id) ({} : PlainRoom) (fun s => s.submissions.length == 1)
    [.send 1 7 true (some 7), .storeRead plainBuild 1, .storeUpload 0, .storeRecord 0, .load 1, .fetch 0 true, .mark 0,
      .print 0 plainBuild] (by decide)
  exact ⟨s, by simpa using printed, (held_mail_prints_as_recorded id).1 s reach⟩

/-- The stored PDF of a letter that waits, with the digest the letter records, is gone after the step. -/
def loses (s s' : PlainRoom) : Bool :=
  s.letters.rows.any fun letter => waits letter && letter.printPdfSha256.isSome &&
    (s.heldPdfs.find letter.letterId).map HeldPdf.pdf == letter.printPdfSha256 &&
    (s'.heldPdfs.find letter.letterId).isNone

/-- Two stores read the letter, one records it, and a dispatch marks it. -/
def lateStore : List (RoomEvent Nat Nat Nat Nat) :=
  [.send 1 7 true (some 7), .storeRead plainBuild 1, .storeRead plainBuild 1, .storeUpload 0, .storeRecord 0,
    .storeUpload 1, .load 1, .fetch 0 true, .mark 0, .storeRecord 1]

/-- A store dies before it records; a sweep finds its PDF old and unrecorded; and another store records it. -/
def lateSweep : List (RoomEvent Nat Nat Nat Nat) :=
  [.send 1 7 true (some 7), .storeRead plainBuild 1, .storeUpload 0, .storeFails 0, .tick 900, .sweepList,
    .sweepQuery 0, .storeRead plainBuild 1, .storeUpload 1, .storeRecord 1]

theorem loses_iff {s s' : PlainRoom} : loses s s' = true ↔ ∃ letter ∈ s.letters.rows, waits letter = true ∧
    (∃ stored, s.heldPdfs.find letter.letterId = some stored ∧ letter.printPdfSha256 = some (id stored.pdf)) ∧
      s'.heldPdfs.find letter.letterId = none := by
  simp only [loses, List.any_eq_true, Bool.and_eq_true, beq_iff_eq, Option.isNone_iff_eq_none]
  constructor
  · rintro ⟨letter, member, ⟨⟨waiting, recorded⟩, stored⟩, gone⟩
    obtain ⟨digest, here⟩ := Option.isSome_iff_exists.mp recorded
    rw [here] at stored
    obtain ⟨object, found, same⟩ := Option.map_eq_some_iff.mp stored
    exact ⟨letter, member, waiting, ⟨object, found, by rw [here, ← same, id]⟩, gone⟩
  · rintro ⟨letter, member, waiting, ⟨object, found, here⟩, gone⟩
    refine ⟨letter, member, ⟨⟨waiting, by rw [here]; rfl⟩, ?_⟩, gone⟩
    rw [found, here]
    rfl

/-- A store's clean-up, and a sweep, delete the PDF that a letter waits to print with. -/
theorem housekeeping_takes_waiting_pdf :
    (∃ s s' : PlainRoom, Reach (step id) anyStep {} s ∧ step id s (.storeCleanUp 1) = .ok s' ∧
      ∃ letter ∈ s.letters.rows, waits letter = true ∧
        (∃ stored, s.heldPdfs.find letter.letterId = some stored ∧ letter.printPdfSha256 = some (id stored.pdf)) ∧
        s'.heldPdfs.find letter.letterId = none) ∧
    ∃ s s' : PlainRoom, Reach (step id) anyStep {} s ∧ step id s (.sweepDelete 0) = .ok s' ∧
      ∃ letter ∈ s.letters.rows, waits letter = true ∧
        (∃ stored, s.heldPdfs.find letter.letterId = some stored ∧ letter.printPdfSha256 = some (id stored.pdf)) ∧
        s'.heldPdfs.find letter.letterId = none := by
  refine ⟨?_, ?_⟩
  · obtain ⟨s, s', reach, committed, lost⟩ := exists_step (step id) ({} : PlainRoom) loses lateStore (.storeCleanUp 1)
      (by decide)
    exact ⟨s, s', reach, committed, loses_iff.mp lost⟩
  · obtain ⟨s, s', reach, committed, lost⟩ := exists_step (step id) ({} : PlainRoom) loses lateSweep (.sweepDelete 0)
      (by decide)
    exact ⟨s, s', reach, committed, loses_iff.mp lost⟩

end LetterIRL.Print
