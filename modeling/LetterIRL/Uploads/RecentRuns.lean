import LetterIRL.Uploads.RecentUploads

namespace LetterIRL.Uploads
open Lib

/-! Runs of the recent upload store, and what its two copies say after them. -/

namespace RecentUploads
variable {ttlMs : Int} {store after : RecentUploads} {event : UploadEvent} {upload : Upload} {memory : Option Upload} {now : Int}

theorem pruneExpired_some (kept : pruneExpired ttlMs memory now = some upload) : memory = some upload :=
  (Option.filter_eq_some_iff.mp kept).1

theorem cachedFor_some {expected : Option Text} (found : cachedFor ttlMs memory expected now = some upload) :
    memory = some upload ∧ now - upload.storedAt ≤ ttlMs := by
  obtain ⟨same, fits⟩ := Option.filter_eq_some_iff.mp found
  exact ⟨same, of_decide_eq_true ((Bool.and_eq_true _ _).mp fits).1⟩

theorem readFor_some {call : GetCall} (found : readFor ttlMs call now = some upload) :
    call.read = some (some upload) ∧ now - upload.storedAt ≤ ttlMs := by
  obtain ⟨same, fits⟩ := Option.filter_eq_some_iff.mp found
  obtain ⟨read, was, own⟩ := Option.bind_eq_some_iff.mp same
  have own : read = some upload := own
  exact ⟨own ▸ was, of_decide_eq_true ((Bool.and_eq_true _ _).mp fits).1⟩

/-- An upload is of the set it says, and was stored when it says. -/
def Known (store : RecentUploads) (upload : Upload) : Prop :=
  store.images[upload.set]? = some (upload.imageUrl, upload.context) ∧ (upload.set, upload.storedAt) ∈ store.stored

/-- What holds of the uploads in every run. -/
structure Recorded (ttlMs : Int) (store : RecentUploads) : Prop where
  images : store.images.length = store.setsCalled + 1
  memory : ∀ upload, store.memory = some upload → store.Known upload
  row : ∀ upload, store.row = some upload → store.Known upload
  reads : ∀ call ∈ store.gets, ∀ upload, call.read = some (some upload) → store.Known upload
  sets : ∀ call ∈ store.sets, store.images[call.set]? = some (call.imageUrl, call.context)
  answers : ∀ answer ∈ store.answers, store.Known answer.upload ∧ answer.now - answer.upload.storedAt ≤ ttlMs
  reached : store.reached ≤ store.setsCalled

theorem Recorded.upTo (recorded : store.Recorded ttlMs) {call : SetCall} (member : call ∈ store.sets) :
    call.set ≤ store.setsCalled := by
  have image := (List.getElem?_eq_some_iff.mp (recorded.sets call member)).1
  rw [recorded.images] at image
  omega

theorem Known.later (known : store.Known upload) (images : ∃ more, after.images = store.images ++ more)
    (stored : ∃ more, after.stored = store.stored ++ more) : after.Known upload := by
  obtain ⟨one, same⟩ := images
  obtain ⟨two, same'⟩ := stored
  obtain ⟨image, time⟩ := known
  refine ⟨?_, by rw [same']; exact List.mem_append_left _ time⟩
  rw [same, List.getElem?_append_left (List.getElem?_eq_some_iff.mp image).1]
  exact image

theorem begun_recorded (row : Option Upload) : (begun row).Recorded ttlMs where
  images := rfl
  memory := nofun
  row upload same := by
    obtain ⟨before, rfl, rfl⟩ := Option.map_eq_some_iff.mp (show row.map _ = some upload from same)
    exact ⟨rfl, List.mem_singleton_self _⟩
  reads _ member := (nomatch member)
  sets _ member := (nomatch member)
  answers _ member := (nomatch member)
  reached := le_rfl

/-- A get's end: its answer is an upload it had, within its time. -/
theorem Recorded.answer (recorded : store.Recorded ttlMs) (answer : Answer) (known : store.Known answer.upload)
    (inTime : answer.now - answer.upload.storedAt ≤ ttlMs) :
    ∀ each ∈ store.answers ++ [answer], store.Known each.upload ∧ each.now - each.upload.storedAt ≤ ttlMs := by
  intro each member
  rcases List.mem_append.mp member with before | own
  · exact recorded.answers each before
  · obtain rfl := List.mem_singleton.mp own
    exact ⟨known, inTime⟩

/-- One event keeps it. -/
theorem step_recorded (recorded : store.Recorded ttlMs) (stepped : store.step ttlMs event = .ok after) : after.Recorded ttlMs := by
  cases event with
  | setCalled imageUrl context now =>
    cases stepped
    have later : ∀ upload, store.Known upload → (store.setCalled imageUrl context now).Known upload := fun upload known =>
      known.later ⟨[(imageUrl, context)], rfl⟩ ⟨[(store.setsCalled + 1, now)], rfl⟩
    have own : (store.images ++ [(imageUrl, context)])[store.setsCalled + 1]? = some (imageUrl, context) := by
      rw [← recorded.images, List.getElem?_concat_length]
    refine ⟨?_, ?_, fun upload same => later upload (recorded.row upload same),
      fun call member upload read => later upload (recorded.reads call member upload read), ?_, ?_,
      recorded.reached.trans (Nat.le_succ _)⟩
    · show (store.images ++ [(imageUrl, context)]).length = store.setsCalled + 1 + 1
      rw [List.length_append, recorded.images]
      rfl
    · intro upload same
      obtain rfl := Option.some.inj same
      exact ⟨own, List.mem_append_right _ (List.mem_singleton_self _)⟩
    · intro call member
      rcases List.mem_append.mp member with before | added
      · have image := recorded.sets call before
        have kept : (store.images ++ [(imageUrl, context)])[call.set]? = some (call.imageUrl, call.context) := by
          rw [List.getElem?_append_left (List.getElem?_eq_some_iff.mp image).1]
          exact image
        exact kept
      · obtain rfl := List.mem_singleton.mp added
        exact own
    · intro answer member
      obtain ⟨known, inTime⟩ := recorded.answers answer member
      exact ⟨later _ known, inTime⟩
  | setWritten call now =>
    unfold step at stepped
    simp only at stepped
    split at stepped
    · rename_i running
      cases stepped
      have image := recorded.sets call running.1
      have later : ∀ upload, store.Known upload → (store.setWritten call now).Known upload := fun upload known =>
        known.later ⟨[], (List.append_nil _).symm⟩ ⟨[(call.set, now)], rfl⟩
      refine ⟨recorded.images, fun upload same => later upload (recorded.memory upload same), ?_,
        fun call member upload read => later upload (recorded.reads call member upload read), ?_, ?_,
        max_le recorded.reached (recorded.upTo running.1)⟩
      · intro upload same
        obtain rfl := Option.some.inj same
        exact ⟨image, List.mem_append_right _ (List.mem_singleton_self _)⟩
      · intro other member
        rcases List.mem_append.mp member with before | own
        · exact recorded.sets other (List.mem_of_mem_erase before)
        · obtain rfl := List.mem_singleton.mp own
          exact image
      · intro answer member
        obtain ⟨known, inTime⟩ := recorded.answers answer member
        exact ⟨later _ known, inTime⟩
    · cases stepped
  | setReturned call =>
    unfold step at stepped
    simp only at stepped
    split at stepped
    · cases stepped
      exact ⟨recorded.images, recorded.memory, recorded.row, recorded.reads,
        fun other member => recorded.sets other (List.mem_of_mem_erase member), recorded.answers, recorded.reached⟩
    · cases stepped
  | getCalled expected prunedAt now =>
    cases stepped
    have pruned : ∀ time upload, pruneExpired ttlMs (pruneExpired ttlMs store.memory prunedAt) time = some upload →
        store.Known upload :=
      fun time upload kept => recorded.memory upload (pruneExpired_some (pruneExpired_some kept))
    unfold getCalled
    simp only
    split
    · rename_i cached found
      obtain ⟨same, inTime⟩ := cachedFor_some found
      have known := recorded.memory cached (pruneExpired_some same)
      exact ⟨recorded.images, fun upload kept => recorded.memory upload (pruneExpired_some kept), recorded.row, recorded.reads,
        recorded.sets, recorded.answer { upload := cached, now, floor := store.settled } known inTime, recorded.reached⟩
    · refine ⟨recorded.images, pruned now, recorded.row, ?_, recorded.sets, recorded.answers, recorded.reached⟩
      intro call member upload read
      rcases List.mem_append.mp member with before | own
      · exact recorded.reads call before upload read
      · obtain rfl := List.mem_singleton.mp own
        cases read
  | getRead call now =>
    unfold step at stepped
    simp only at stepped
    split at stepped
    · cases stepped
      refine ⟨recorded.images, recorded.memory, recorded.row, ?_, recorded.sets, recorded.answers, recorded.reached⟩
      intro other member upload read
      rcases List.mem_append.mp member with before | own
      · exact recorded.reads other (List.mem_of_mem_erase before) upload read
      · obtain rfl := List.mem_singleton.mp own
        exact recorded.row upload (Option.filter_eq_some_iff.mp (Option.some.inj read)).1
    · cases stepped
  | getFailed call =>
    unfold step at stepped
    simp only at stepped
    split at stepped
    · cases stepped
      exact ⟨recorded.images, recorded.memory, recorded.row,
        fun other member => recorded.reads other (List.mem_of_mem_erase member), recorded.sets, recorded.answers,
        recorded.reached⟩
    · cases stepped
  | getReturned call now =>
    unfold step at stepped
    simp only at stepped
    split at stepped
    · rename_i running
      have others : ∀ other ∈ store.gets.erase call, ∀ upload, other.read = some (some upload) → store.Known upload :=
        fun other member => recorded.reads other (List.mem_of_mem_erase member)
      cases stepped
      unfold getReturned
      simp only
      split
      · rename_i row found
        obtain ⟨read, inTime⟩ := readFor_some found
        have known := recorded.reads call running.1 row read
        refine ⟨recorded.images, ?_, recorded.row, others, recorded.sets,
          recorded.answer { upload := row, now, floor := call.floor } known inTime, recorded.reached⟩
        intro upload same
        obtain rfl := Option.some.inj same
        exact known
      · exact ⟨recorded.images, recorded.memory, recorded.row, others, recorded.sets, recorded.answers, recorded.reached⟩
    · cases stepped
  | pruned now =>
    cases stepped
    exact ⟨recorded.images, fun upload kept => recorded.memory upload (pruneExpired_some kept), recorded.row, recorded.reads,
      recorded.sets, recorded.answers, recorded.reached⟩

/-- And so in every run. -/
theorem reach_recorded {allowed : RecentUploads → UploadEvent → Prop} {row : Option Upload}
    (reach : Reach (step ttlMs) allowed (begun row) store) : store.Recorded ttlMs :=
  reach.invariant (begun_recorded row) fun _ _ _ recorded _ stepped => step_recorded recorded stepped

/-- What holds besides where sets' statements and gets' rows come in order. -/
structure Ordered (store : RecentUploads) : Prop where
  row : ∀ upload, store.row = some upload → upload.set = store.reached
  some_ : 0 < store.reached → store.row ≠ none
  memory : ∀ upload, store.memory = some upload → store.reached ≤ upload.set ∧ ∀ call ∈ store.sets, call.set ≤ upload.set
  settled : store.settled ≤ store.reached
  gets : ∀ call ∈ store.gets, call.floor ≤ store.reached ∧ ∀ upload, call.read = some (some upload) → call.floor ≤ upload.set
  answers : ∀ answer ∈ store.answers, answer.floor ≤ answer.upload.set

theorem begun_ordered (row : Option Upload) : (begun row).Ordered where
  row upload same := by
    obtain ⟨before, rfl, rfl⟩ := Option.map_eq_some_iff.mp (show row.map _ = some upload from same)
    rfl
  some_ reached := absurd reached (Nat.lt_irrefl 0)
  memory := nofun
  settled := le_rfl
  gets _ member := (nomatch member)
  answers _ member := (nomatch member)

theorem Ordered.answer (ordered : store.Ordered) (answer : Answer) (later : answer.floor ≤ answer.upload.set) :
    ∀ each ∈ store.answers ++ [answer], each.floor ≤ each.upload.set := by
  intro each member
  rcases List.mem_append.mp member with before | own
  · exact ordered.answers each before
  · obtain rfl := List.mem_singleton.mp own
    exact later

/-- One event in order keeps it. -/
theorem step_ordered (recorded : store.Recorded ttlMs) (ordered : store.Ordered) (inOrder : store.InOrder ttlMs event)
    (stepped : store.step ttlMs event = .ok after) : after.Ordered := by
  cases event with
  | setCalled imageUrl context now =>
    cases stepped
    refine ⟨ordered.row, ordered.some_, ?_, ordered.settled, ordered.gets, ordered.answers⟩
    intro upload same
    obtain rfl := Option.some.inj same
    refine ⟨recorded.reached.trans (Nat.le_succ _), ?_⟩
    intro call member
    rcases List.mem_append.mp member with before | own
    · exact (recorded.upTo before).trans (Nat.le_succ _)
    · obtain rfl := List.mem_singleton.mp own
      exact le_rfl
  | setWritten call now =>
    unfold step at stepped
    simp only at stepped
    split at stepped
    · rename_i running
      cases stepped
      have later : store.reached < call.set := inOrder
      have most : max store.reached call.set = call.set := max_eq_right later.le
      refine ⟨?_, fun _ => Option.some_ne_none _, ?_, ?_, ?_, ordered.answers⟩
      · intro upload same
        obtain rfl := Option.some.inj same
        exact most.symm
      · intro upload same
        have own := (ordered.memory upload same).2
        refine ⟨?_, ?_⟩
        · show max store.reached call.set ≤ upload.set
          rw [most]
          exact own call running.1
        · intro other member
          rcases List.mem_append.mp member with before | same
          · exact own other (List.mem_of_mem_erase before)
          · obtain rfl := List.mem_singleton.mp same
            exact own call running.1
      · exact ordered.settled.trans (le_max_left _ _)
      · intro get member
        obtain ⟨floor, read⟩ := ordered.gets get member
        exact ⟨floor.trans (le_max_left _ _), read⟩
    · cases stepped
  | setReturned call =>
    unfold step at stepped
    simp only at stepped
    split at stepped
    · cases stepped
      refine ⟨ordered.row, ordered.some_, ?_, ?_, ordered.gets, ordered.answers⟩
      · intro upload same
        obtain ⟨later, sets⟩ := ordered.memory upload same
        exact ⟨later, fun other member => sets other (List.mem_of_mem_erase member)⟩
      · show (if store.sets.erase call = [] then store.reached else store.settled) ≤ store.reached
        split
        · exact le_rfl
        · exact ordered.settled
    · cases stepped
  | getCalled expected prunedAt now =>
    cases stepped
    unfold getCalled
    simp only
    split
    · rename_i cached found
      have same := pruneExpired_some (cachedFor_some found).1
      exact ⟨ordered.row, ordered.some_, fun upload kept => ordered.memory upload (pruneExpired_some kept), ordered.settled,
        ordered.gets, ordered.answer { upload := cached, now, floor := store.settled }
          (ordered.settled.trans (ordered.memory cached same).1)⟩
    · refine ⟨ordered.row, ordered.some_, fun upload kept => ordered.memory upload (pruneExpired_some (pruneExpired_some kept)),
        ordered.settled, ?_, ordered.answers⟩
      intro call member
      rcases List.mem_append.mp member with before | own
      · exact ordered.gets call before
      · obtain rfl := List.mem_singleton.mp own
        exact ⟨ordered.settled, nofun⟩
  | getRead call now =>
    unfold step at stepped
    simp only at stepped
    split at stepped
    · rename_i running
      cases stepped
      refine ⟨ordered.row, ordered.some_, ordered.memory, ordered.settled, ?_, ordered.answers⟩
      intro other member
      rcases List.mem_append.mp member with before | own
      · exact ordered.gets other (List.mem_of_mem_erase before)
      · obtain rfl := List.mem_singleton.mp own
        have floor := (ordered.gets call running.1).1
        refine ⟨floor, ?_⟩
        intro upload read
        have same := ordered.row upload (Option.filter_eq_some_iff.mp (Option.some.inj read)).1
        show call.floor ≤ upload.set
        omega
    · cases stepped
  | getFailed call =>
    unfold step at stepped
    simp only at stepped
    split at stepped
    · cases stepped
      exact ⟨ordered.row, ordered.some_, ordered.memory, ordered.settled,
        fun other member => ordered.gets other (List.mem_of_mem_erase member), ordered.answers⟩
    · cases stepped
  | getReturned call now =>
    unfold step at stepped
    simp only at stepped
    split at stepped
    · rename_i running
      have others : ∀ other ∈ store.gets.erase call, other.floor ≤ store.reached ∧
          ∀ upload, other.read = some (some upload) → other.floor ≤ upload.set :=
        fun other member => ordered.gets other (List.mem_of_mem_erase member)
      cases stepped
      unfold getReturned
      simp only
      split
      · rename_i row found
        have later : store.reached ≤ row.set ∧ ∀ other ∈ store.sets, other.set ≤ row.set := inOrder row found
        refine ⟨ordered.row, ordered.some_, ?_, ordered.settled, others,
          ordered.answer { upload := row, now, floor := call.floor } ((ordered.gets call running.1).2 row (readFor_some found).1)⟩
        intro upload same
        obtain rfl := Option.some.inj same
        exact later
      · exact ⟨ordered.row, ordered.some_, ordered.memory, ordered.settled, others, ordered.answers⟩
    · cases stepped
  | pruned now =>
    cases stepped
    exact ⟨ordered.row, ordered.some_, fun upload kept => ordered.memory upload (pruneExpired_some kept), ordered.settled,
      ordered.gets, ordered.answers⟩

/-- Nothing is returned past its time; and where sets' statements and gets' rows come in order, no get returns an image set
before one that had reached the database, and the two copies agree where the last set has. -/
theorem recent_inOrder (ttlMs : Int) (row : Option Upload) :
    (∀ store, Reach (step ttlMs) anyStep (begun row) store → ∀ answer ∈ store.answers,
      answer.now - answer.upload.storedAt ≤ ttlMs ∧ (answer.upload.set, answer.upload.storedAt) ∈ store.stored) ∧
    ∀ store, Reach (step ttlMs) (InOrder ttlMs) (begun row) store →
      (∀ answer ∈ store.answers, answer.floor ≤ answer.upload.set) ∧
      (store.sets = [] → 0 < store.reached → store.reached = store.setsCalled →
        ∃ row, store.row = some row ∧ row.set = store.reached ∧ ∀ cached, store.memory = some cached →
          cached.set = row.set ∧ cached.imageUrl = row.imageUrl ∧ cached.context = row.context) := by
  constructor
  · intro store reach answer member
    obtain ⟨known, inTime⟩ := (reach_recorded reach).answers answer member
    exact ⟨inTime, known.2⟩
  · intro store reach
    have recorded := reach_recorded reach
    have ordered : store.Ordered := by
      have both := reach.invariant (I := fun store => store.Recorded ttlMs ∧ store.Ordered)
        ⟨begun_recorded row, begun_ordered row⟩ fun _ _ _ before inOrder stepped =>
          ⟨step_recorded before.1 stepped, step_ordered before.1 before.2 inOrder stepped⟩
      exact both.2
    refine ⟨ordered.answers, ?_⟩
    intro quiet reached last
    obtain ⟨row, found⟩ := Option.ne_none_iff_exists'.mp (ordered.some_ reached)
    have own := ordered.row row found
    refine ⟨row, found, own, ?_⟩
    intro cached inMemory
    have image := (recorded.memory cached inMemory).1
    have within := (List.getElem?_eq_some_iff.mp image).1
    have least := (ordered.memory cached inMemory).1
    rw [recorded.images] at within
    have same : cached.set = row.set := by omega
    have image' := (recorded.row row found).1
    rw [← same, image] at image'
    obtain ⟨url, context⟩ := Prod.mk.inj (Option.some.inj image')
    exact ⟨same, url, context⟩

/-- One upload, written, and read back. -/
theorem recent_readBack : ∃ store, Reach (step 3600000) (InOrder 3600000) (begun none) store ∧
    store.answers = [⟨⟨['b'], none, 5, 1⟩, 9, 1⟩] ∧ (∀ answer ∈ store.answers, answer.floor ≤ answer.upload.set) ∧
    ∃ row, store.row = some row ∧ row.set = store.reached ∧ ∀ cached, store.memory = some cached →
      cached.set = row.set ∧ cached.imageUrl = row.imageUrl ∧ cached.context = row.context := by
  have called : Reach (step 3600000) (InOrder 3600000) (begun none) _ :=
    Reach.start.after (.setCalled ['b'] none 5) trivial rfl
  have written : Reach (step 3600000) (InOrder 3600000) (begun none) _ :=
    called.after (.setWritten ⟨1, ['b'], none, false⟩ 6) Nat.one_pos rfl
  have returned : Reach (step 3600000) (InOrder 3600000) (begun none) _ :=
    written.after (.setReturned ⟨1, ['b'], none, true⟩) trivial rfl
  have read : Reach (step 3600000) (InOrder 3600000) (begun none) _ :=
    returned.after (.getCalled none 9 9) trivial rfl
  obtain ⟨inOrder, agree⟩ := (recent_inOrder 3600000 none).2 _ read
  exact ⟨_, read, rfl, inOrder, agree rfl (by decide) rfl⟩

/-- A get reads the old row, a new image is set and its set returns, and the get puts the old image back in memory. -/
theorem recent_overwritten : ∃ store, Reach (step 3600000) anyStep (begun (some ⟨['a'], none, 1, 0⟩)) store ∧
    (store.sets.isEmpty && (store.answers.any fun answer => decide (answer.upload.set < answer.floor)) &&
      (store.memory.map (·.imageUrl) == some ['a']) && (store.row.map (·.imageUrl) == some ['b'])) = true := by
  exact exists_reach (step 3600000) (begun (some ⟨['a'], none, 1, 0⟩)) (fun store => store.sets.isEmpty &&
      (store.answers.any fun answer => decide (answer.upload.set < answer.floor)) &&
      (store.memory.map (·.imageUrl) == some ['a']) && (store.row.map (·.imageUrl) == some ['b']))
    [.getCalled none 2 2, .getRead { get := 0, expected := none, floor := 0 } 3, .setCalled ['b'] none 4,
      .setWritten { set := 1, imageUrl := ['b'], context := none } 5,
      .setReturned { set := 1, imageUrl := ['b'], context := none, written := true },
      .getReturned { get := 0, expected := none, floor := 0, read := some (some ⟨['a'], none, 1, 0⟩) } 6,
      .getCalled none 7 7] (by decide)

end RecentUploads

end LetterIRL.Uploads
