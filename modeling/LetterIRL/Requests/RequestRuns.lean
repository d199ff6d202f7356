import LetterIRL.Requests.RequestRows

namespace LetterIRL.Requests

open Lib

/-! Whatever the order of the statements, a request is closed once, everyone is told what is so, and the caps hold. -/

variable {cfg : Config} {sha256 : Text → Hash} {world after middle : World} {id : Nat}

def Subject.Known (world : World) : Subject → Prop
  | .link hash => hash ∈ world.hashes
  | .request _ requestId => requestId ∈ world.ids

/-- What a call under way relies on: the counts it read hold while it has the account's row. -/
def Call.Sound (cfg : Config) (world : World) (id : Nat) : Call → Prop
  | .creating _ _ _ begun => begun ≤ world.now
  | .counting userId _ _ begun => Locks.Holds world.locks id userId ∧ begun ≤ world.now
  | .inserted row => Locks.Holds world.locks id row.userId ∧ row.createdAt ≤ world.now ∧ row.New ∧
      world.rows.countP (AddressRequestRow.isWaiting row.userId row.createdAt) + 1 ≤ cfg.waitingCap ∧
      world.rows.countP (AddressRequestRow.isToday row.userId row.createdAt) + 1 ≤ cfg.dailyCap
  | .closing subject _ begun => subject.Known world ∧ begun ≤ world.now
  | .reading subject begun => subject.Known world ∧ begun ≤ world.now ∧
      ∀ row ∈ world.rows, subject.names row = true → row.status = .waiting → row.expiresAt ≤ begun
  | .purging .. | .erasing _ | .wiping _ => True

/-- A caller told that there is no such request named none that is there. -/
def Told.Missing (world : World) (told : Told) : Prop :=
  told.answer = .notFound → ∀ subject, told.subject = some subject →
    subject.Known world ∧ ∀ row ∈ world.rows, subject.names row = false

structure World.Inv (cfg : Config) (world : World) : Prop where
  books : Books world.rows world.ids world.hashes world.closings world.alerts world.told
  calls : ∀ id call, world.calls id = some call → call.Sound cfg world id
  missing : ∀ told ∈ world.told, told.Missing world
  waitingCap : ∀ userId, world.rows.countP (AddressRequestRow.isWaiting userId world.now) ≤ cfg.waitingCap
  dailyCap : ∀ userId start, world.rows.countP (AddressRequestRow.createdFrom userId start) ≤ cfg.dailyCap

/-- A row the account's holder adds, under an id and a token no one has named. -/
structure World.Added (world after : World) (id : Nat) (row : AddressRequestRow) : Prop where
  rows : after.rows = world.rows ++ [row]
  hash : row.tokenHash ∉ world.hashes
  requestId : row.requestId ∉ world.ids
  held : Locks.Holds world.locks id row.userId

/-- What a step of one call may change under the others. -/
structure World.Later (world after : World) (id : Nat) : Prop where
  now : world.now ≤ after.now
  hashes : world.hashes ⊆ after.hashes
  ids : world.ids ⊆ after.ids
  locks : ∀ other userId, other ≠ id → Locks.Holds world.locks other userId → Locks.Holds after.locks other userId
  rows : Fewer world.rows after.rows ∨ ∃ row, world.Added after id row

theorem World.Later.same (rows : after.rows = world.rows) (now : world.now ≤ after.now) (hashes : world.hashes ⊆ after.hashes)
    (ids : world.ids ⊆ after.ids)
    (locks : ∀ other userId, other ≠ id → Locks.Holds world.locks other userId → Locks.Holds after.locks other userId) :
    world.Later after id := ⟨now, hashes, ids, locks, .inl (rows ▸ Fewer.refl _)⟩

theorem World.Later.refl (world : World) (id : Nat) : world.Later world id :=
  .same rfl le_rfl (List.Subset.refl _) (List.Subset.refl _) fun _ _ _ holds => holds

theorem Subject.Known.later {subject : Subject} (known : subject.Known world) (later : world.Later after id) :
    subject.Known after := by
  cases subject with
  | link hash => exact later.hashes known
  | request userId requestId => exact later.ids known

theorem Subject.names_turned (subject : Subject) {old new : AddressRequestRow} (turned : old.Turned new) :
    subject.names new = subject.names old := by
  cases subject with
  | link hash => simp only [Subject.names, turned.tokenHash]
  | request userId requestId => simp only [Subject.names, turned.requestId, turned.userId]

/-- A subject named before names no row added since. -/
theorem World.Added.unnamed {row : AddressRequestRow} (added : world.Added after id row) {subject : Subject}
    (known : subject.Known world) : subject.names row = false := by
  cases subject with
  | link hash =>
    have apart : row.tokenHash ≠ hash := fun same => added.hash (same ▸ known)
    exact beq_false_of_ne apart
  | request userId requestId =>
    have apart : row.requestId ≠ requestId := fun same => added.requestId (same ▸ known)
    simp only [Subject.names, beq_false_of_ne apart, Bool.false_and]

/-- A row a known subject names was there before, perhaps waiting still. -/
theorem World.Later.named {row : AddressRequestRow} {subject : Subject} (later : world.Later after id)
    (known : subject.Known world) (member : row ∈ after.rows) (names : subject.names row = true) :
    ∃ old ∈ world.rows, old.Turned row := by
  rcases later.rows with fewer | ⟨new, added⟩
  · exact fewer.mem member
  · rw [added.rows] at member
    rcases List.mem_append.mp member with old | here
    · exact ⟨row, old, .refl row⟩
    · rw [List.mem_singleton.mp here, added.unnamed known] at names
      nomatch names

/-- What the holder of an account's row counted there only falls. -/
theorem World.Later.counted {other : Nat} {userId : UserId} {p : AddressRequestRow → Bool} (later : world.Later after id)
    (apart : other ≠ id) (holds : Locks.Holds world.locks other userId)
    (descends : ∀ old new : AddressRequestRow, old.Turned new → p new = true → p old = true)
    (own : ∀ row, p row = true → row.userId = userId) : after.rows.countP p ≤ world.rows.countP p := by
  rcases later.rows with fewer | ⟨new, added⟩
  · exact fewer.countP_le descends
  · have foreign : p new = false := by
      refine Bool.eq_false_iff.mpr fun counted => apart ?_
      have held := added.held
      rw [own new counted] at held
      exact holds.unique held
    rw [added.rows, List.countP_append, List.countP_singleton, foreign]
    exact le_rfl

theorem isWaiting_own {userId : UserId} {now : Nat} (row : AddressRequestRow) (counted : row.isWaiting userId now = true) :
    row.userId = userId := by
  simp only [AddressRequestRow.isWaiting, Bool.and_eq_true, beq_iff_eq] at counted
  exact counted.1

theorem isToday_own {userId : UserId} {now : Nat} (row : AddressRequestRow) (counted : row.isToday userId now = true) :
    row.userId = userId := by
  simp only [AddressRequestRow.isToday, Bool.and_eq_true, beq_iff_eq] at counted
  exact counted.1

theorem Call.Sound.later {call : Call} {other : Nat} (sound : call.Sound cfg world other) (later : world.Later after id)
    (apart : other ≠ id) : call.Sound cfg after other := by
  have now := later.now
  cases call with
  | creating userId recipientName senderFirstName begun => exact sound.trans now
  | counting userId recipientName senderFirstName begun => exact ⟨later.locks _ _ apart sound.1, sound.2.trans now⟩
  | inserted row =>
    obtain ⟨holds, created, new, waiting, today⟩ := sound
    have fewerWaiting : after.rows.countP (AddressRequestRow.isWaiting row.userId row.createdAt) ≤
        world.rows.countP (AddressRequestRow.isWaiting row.userId row.createdAt) :=
      later.counted apart holds (fun _ _ turned => turned.isWaiting) isWaiting_own
    have fewerToday : after.rows.countP (AddressRequestRow.isToday row.userId row.createdAt) ≤
        world.rows.countP (AddressRequestRow.isToday row.userId row.createdAt) :=
      later.counted apart holds (fun _ _ turned => turned.isToday) isToday_own
    exact ⟨later.locks _ _ apart holds, created.trans now, new, (Nat.add_le_add_right fewerWaiting 1).trans waiting,
      (Nat.add_le_add_right fewerToday 1).trans today⟩
  | closing subject closer begun => exact ⟨sound.1.later later, sound.2.trans now⟩
  | reading subject begun =>
    obtain ⟨known, begun', expired⟩ := sound
    refine ⟨known.later later, begun'.trans now, fun row member names waiting => ?_⟩
    obtain ⟨old, there, turned⟩ := later.named known member names
    obtain rfl := turned.waiting waiting
    exact expired row there names waiting
  | purging days begun => trivial
  | erasing userId => trivial
  | wiping userId => trivial

theorem Told.Missing.later {told : Told} (missing : told.Missing world) (later : world.Later after id) :
    told.Missing after := by
  intro none_ subject named
  obtain ⟨known, unnamed⟩ := missing none_ subject named
  refine ⟨known.later later, fun row member => Bool.eq_false_iff.mpr fun names => ?_⟩
  obtain ⟨old, there, turned⟩ := later.named known member names
  rw [Subject.names_turned subject turned, unnamed old there] at names
  nomatch names

/-- A step that keeps the books and the caps, and replaces the call it is of by a sound one. -/
theorem World.Inv.moved {call : Option Call} (inv : world.Inv cfg) (later : world.Later middle id)
    (same : middle.calls = world.calls)
    (books : Books middle.rows middle.ids middle.hashes middle.closings middle.alerts middle.told)
    (missing : ∀ told ∈ middle.told, told ∉ world.told → told.Missing middle)
    (waitingCap : ∀ userId, middle.rows.countP (AddressRequestRow.isWaiting userId middle.now) ≤ cfg.waitingCap)
    (dailyCap : ∀ userId start, middle.rows.countP (AddressRequestRow.createdFrom userId start) ≤ cfg.dailyCap)
    (sound : ∀ new, call = some new → new.Sound cfg middle id) : (middle.setCall id call).Inv cfg where
  books := books
  calls := fun other held there => by
    simp only [setCall, Function.update_apply, same] at there
    split at there
    · rename_i own
      rw [own]
      have kept := sound held there
      cases held <;> exact kept
    · rename_i apart
      have kept := (inv.calls other held there).later later apart
      cases held <;> exact kept
  missing := fun told member => by
    have kept : told.Missing middle := by
      by_cases old : told ∈ world.told
      · exact (inv.missing told old).later later
      · exact missing told member old
    intro none_ subject named
    exact kept none_ subject named
  waitingCap := waitingCap
  dailyCap := dailyCap

/-- One that adds no row keeps the caps. -/
theorem World.Inv.fewer {call : Option Call} (inv : world.Inv cfg) (later : world.Later middle id)
    (same : middle.calls = world.calls) (fewer : Fewer world.rows middle.rows)
    (books : Books middle.rows middle.ids middle.hashes middle.closings middle.alerts middle.told)
    (missing : ∀ told ∈ middle.told, told ∉ world.told → told.Missing middle)
    (sound : ∀ new, call = some new → new.Sound cfg middle id) : (middle.setCall id call).Inv cfg := by
  refine inv.moved later same books missing (fun userId => ?_) (fun userId start => ?_) sound
  · have descends : middle.rows.countP (AddressRequestRow.isWaiting userId middle.now) ≤
        world.rows.countP (AddressRequestRow.isWaiting userId middle.now) :=
      fewer.countP_le fun _ _ turned => turned.isWaiting
    have earlier : world.rows.countP (AddressRequestRow.isWaiting userId middle.now) ≤
        world.rows.countP (AddressRequestRow.isWaiting userId world.now) :=
      List.countP_mono_left fun row _ counted => isWaiting_earlier later.now counted
    exact descends.trans (earlier.trans (inv.waitingCap userId))
  · exact (fewer.countP_le fun _ _ turned => turned.createdFrom).trans (inv.dailyCap userId start)

/-- A step that only moves a call on. -/
theorem World.Inv.quiet {call : Option Call} (inv : world.Inv cfg) (later : world.Later middle id)
    (same : middle.calls = world.calls) (rows : middle.rows = world.rows) (told : middle.told = world.told)
    (books : Books middle.rows middle.ids middle.hashes middle.closings middle.alerts middle.told)
    (sound : ∀ new, call = some new → new.Sound cfg middle id) : (middle.setCall id call).Inv cfg :=
  inv.fewer later same (rows ▸ Fewer.refl _) books (fun _ member new => absurd (told ▸ member) new) sound

theorem released_kept (locks : Locks UserId Nat) (other : Nat) (userId : UserId) (apart : other ≠ id)
    (holds : Locks.Holds locks other userId) : Locks.Holds (locks.release id) other userId := holds.release apart

/-- A transaction that ends without a word. -/
theorem World.Inv.end (inv : world.Inv cfg) (id : Nat) : (world.ended id).Inv cfg := by
  have later : world.Later { world with locks := world.locks.release id } id :=
    .same rfl le_rfl (List.Subset.refl _) (List.Subset.refl _) (released_kept world.locks)
  exact inv.quiet later rfl rfl rfl inv.books
    fun _ new => (nomatch new)

theorem World.Inv.createAnswer (inv : world.Inv cfg) (id : Nat) (result : CreateAddressRequestResult) :
    (world.createAnswer id result).Inv cfg := by
  have later : world.Later { world with locks := world.locks.release id, created := world.created ++ [result] } id :=
    .same rfl le_rfl (List.Subset.refl _) (List.Subset.refl _) (released_kept world.locks)
  exact inv.quiet later rfl rfl rfl inv.books fun _ new => (nomatch new)

/-- A caller that closed nothing is told so. -/
theorem World.Inv.tell (inv : world.Inv cfg) (id : Nat) {subject : Option Subject} {answer : Answer}
    {row : Option AddressRequestRow} {readAt : Nat}
    (fair : Told.Fair { subject, answer, row, readAt, seen := world.closings })
    (other : ∀ requestId, answer ≠ .closed requestId)
    (missing : Told.Missing world { subject, answer, row, readAt, seen := world.closings }) :
    (world.tell id subject answer row readAt).Inv cfg := by
  have later : world.Later
      { world with told := world.told ++ [{ subject, answer, row, readAt, seen := world.closings }] } id :=
    .same rfl le_rfl (List.Subset.refl _) (List.Subset.refl _) fun _ _ _ holds => holds
  have unclosed : Told.closedId { subject, answer, row, readAt, seen := world.closings } = none := by
    cases answer with
    | closed requestId => exact absurd rfl (other requestId)
    | state state => rfl
    | notFound => rfl
  refine inv.fewer later rfl (.refl _) (inv.books.tell fair unclosed) (fun given member new => ?_) fun _ new => (nomatch new)
  rcases List.mem_append.mp member with old | here
  · exact absurd old new
  · rw [List.mem_singleton.mp here]
    intro none_ subject named
    exact missing none_ subject named

theorem World.later_named (world : World) (subject : Subject) (id : Nat) : world.Later (world.named subject) id := by
  cases subject with
  | link hash => exact .same rfl le_rfl (List.subset_cons_self _ _) (List.Subset.refl _) fun _ _ _ holds => holds
  | request userId requestId =>
    exact .same rfl le_rfl (List.Subset.refl _) (List.subset_cons_self _ _) fun _ _ _ holds => holds

theorem World.Inv.beginClosing {subject : Option Subject} {closer : Closer} (inv : world.Inv cfg)
    (came : beginClosing world id subject closer = some after) : after.Inv cfg := by
  unfold Requests.beginClosing at came
  split at came
  · cases subject with
    | none =>
      obtain rfl := Option.some.inj came
      refine inv.tell id (fun state told => (nomatch told)) (fun _ told => (nomatch told)) fun _ subject named => ?_
      nomatch named
    | some subject =>
      obtain rfl := Option.some.inj came
      have later := world.later_named subject id
      cases subject with
      | link hash =>
        refine inv.quiet later rfl rfl rfl (inv.books.name [] [hash]) fun new now_ => ?_
        obtain rfl := Option.some.inj now_
        exact ⟨List.mem_cons_self, le_rfl⟩
      | request userId requestId =>
        refine inv.quiet later rfl rfl rfl (inv.books.name [requestId] []) fun new now_ => ?_
        obtain rfl := Option.some.inj now_
        exact ⟨List.mem_cons_self, le_rfl⟩
  · nomatch came

theorem found_mem {subject : Subject} {closer : Closer} {begun : Nat} {closed : Closed}
    (member : closed ∈ world.found subject closer begun) : closed.row ∈ world.rows ∧
      subject.names closed.row = true ∧ closed.row.isOpen begun = true ∧ closed = { row := closed.row, closer, begun } := by
  obtain ⟨row, kept, rfl⟩ := List.mem_map.mp member
  obtain ⟨there, named⟩ := List.mem_filter.mp kept
  obtain ⟨names, opened⟩ := Bool.and_eq_true_iff.mp named
  exact ⟨there, names, opened, rfl⟩

/-- An update finds one row at most. -/
theorem World.Inv.found_one {subject : Subject} {closer : Closer} {begun : Nat} {closed : Closed} {rest : List Closed}
    (inv : world.Inv cfg) (found : world.found subject closer begun = closed :: rest) : rest = [] := by
  have first := found_mem (found ▸ List.mem_cons_self)
  have apart : (world.found subject closer begun).Nodup := by
    refine ((inv.books.once.of_map _).filter _).map fun one two same => ?_
    exact congrArg Closed.row same
  cases rest with
  | nil => rfl
  | cons other more =>
    have second := found_mem (found ▸ List.mem_cons_of_mem _ List.mem_cons_self : other ∈ world.found subject closer begun)
    have same := inv.books.names_once first.1 second.1 first.2.1 second.2.1
    rw [found, List.nodup_cons] at apart
    refine absurd ?_ apart.1
    rw [first.2.2.2, second.2.2.2, same]
    exact List.mem_cons_self

/-- The update that closes a request, with its caller's answer. -/
theorem World.Inv.close {subject : Subject} {closer : Closer} {begun : Nat} {closed : Closed} {rest : List Closed}
    (inv : world.Inv cfg) (found : world.found subject closer begun = closed :: rest) :
    ((world.close subject closer begun).tell id (some subject) (.closed closed.row.requestId) none begun).Inv cfg := by
  obtain ⟨there, names, opened, shape⟩ := found_mem (found ▸ List.mem_cons_self)
  obtain rfl := inv.found_one found
  rw [shape] at found
  have fair : Told.Fair (Told.mk (some subject) (.closed closed.row.requestId) none begun
      (world.close subject closer begun).closings) := fun state told => (nomatch told)
  have books := inv.books.close closer there names opened rfl fair
  have fewer : Fewer world.rows (world.close subject closer begun).rows := by
    refine ⟨fun _ => true, _, by rw [List.filter_true]; rfl, fun row => ?_⟩
    split
    · exact Closed.result_turned { row, closer, begun }
    · exact .refl row
  have later : world.Later { world.close subject closer begun with told := world.told ++ [
      { subject := some subject, answer := .closed closed.row.requestId, row := none, readAt := begun,
        seen := (world.close subject closer begun).closings }] } id :=
    ⟨le_rfl, List.Subset.refl _, List.Subset.refl _, fun _ _ _ holds => holds, .inl fewer⟩
  refine inv.fewer later rfl fewer ?_ (fun given member new => ?_) fun _ now_ => (nomatch now_)
  · rw [← found] at books
    exact books
  · rcases List.mem_append.mp member with old | here
    · exact absurd old new
    · rw [List.mem_singleton.mp here]
      exact fun told => (nomatch told)

/-- A row that has expired if it waits is not said to wait. -/
theorem stateTold_late {subject : Subject} {row : AddressRequestRow} {readAt : Nat}
    (late : row.status = .waiting → row.expiresAt ≤ readAt) : stateTold subject (row.state readAt) = row.state readAt := by
  have closed : row.state readAt ≠ .waiting := by
    intro same
    unfold AddressRequestRow.state at same
    split at same
    · nomatch same
    · rename_i unexpired
      cases status : row.status with
      | waiting => exact unexpired ⟨status, late status⟩
      | answered => rw [status] at same; nomatch same
      | declined => rw [status] at same; nomatch same
      | cancelled => rw [status] at same; nomatch same
  unfold stateTold
  split
  · rename_i waiting
    exact absurd waiting closed
  · rfl

/-- What a caller whose update found nothing reads. -/
theorem World.Inv.read {subject : Subject} {begun readAt : Nat} (inv : world.Inv cfg)
    (reading : world.calls id = some (.reading subject begun)) (later : begun ≤ readAt) :
    (world.tell id (some subject) (readAnswer subject readAt (world.rows.find? subject.names))
      (world.rows.find? subject.names) readAt).Inv cfg := by
  obtain ⟨known, _, expired⟩ := inv.calls id _ reading
  cases found : world.rows.find? subject.names with
  | none =>
    refine inv.tell id (fun state told => (nomatch told)) (fun _ told => (nomatch told)) fun _ other named => ?_
    obtain rfl := Option.some.inj named
    exact ⟨known, fun row member => Bool.eq_false_iff.mpr (List.find?_eq_none.mp found row member)⟩
  | some row =>
    have there := List.mem_of_find?_eq_some found
    have names : subject.names row = true := List.find?_some found
    have late : row.status = .waiting → row.expiresAt ≤ readAt := fun waiting =>
      (expired row there names waiting).trans later
    have fair := inv.books.read there names late
    unfold readAnswer
    simp only [stateTold_late late]
    exact inv.tell id fair (fun _ told => (nomatch told)) fun told => (nomatch told)

/-- The row a creation commits, counted with the account's others. -/
theorem World.Inv.commit {row : AddressRequestRow} (inv : world.Inv cfg) (inserted : world.calls id = some (.inserted row))
    (freshHash : row.tokenHash ∉ world.hashes) (freshId : row.requestId ∉ world.ids) :
    ((world.insertRow row).createAnswer id (.ok row)).Inv cfg := by
  obtain ⟨holds, created, new, waiting, today⟩ := inv.calls id _ inserted
  have later : world.Later { world.insertRow row with
      locks := world.locks.release id, created := world.created ++ [.ok row] } id :=
    ⟨le_rfl, List.subset_cons_self _ _, List.subset_cons_self _ _, released_kept world.locks,
      .inr ⟨row, rfl, freshHash, freshId, holds⟩⟩
  refine inv.moved later rfl (inv.books.insert new freshId freshHash) (fun _ member new => absurd member new)
    (fun userId => ?_) (fun userId start => ?_) fun _ now_ => (nomatch now_)
  · change (world.rows ++ [row]).countP (AddressRequestRow.isWaiting userId world.now) ≤ cfg.waitingCap
    rw [List.countP_append, List.countP_singleton]
    split
    · rename_i counted
      have own := isWaiting_own row counted
      have earlier : world.rows.countP (AddressRequestRow.isWaiting userId world.now) ≤
          world.rows.countP (AddressRequestRow.isWaiting row.userId row.createdAt) := by
        rw [own]
        exact List.countP_mono_left fun _ _ there => isWaiting_earlier created there
      exact (Nat.add_le_add_right earlier 1).trans waiting
    · exact inv.waitingCap userId
  · change (world.rows ++ [row]).countP (AddressRequestRow.createdFrom userId start) ≤ cfg.dailyCap
    rw [List.countP_append, List.countP_singleton]
    split
    · rename_i counted
      simp only [AddressRequestRow.createdFrom, Bool.and_eq_true, beq_iff_eq, decide_eq_true_eq] at counted
      obtain ⟨rfl, _, within⟩ := counted
      have wider : world.rows.countP (AddressRequestRow.createdFrom row.userId start) ≤
          world.rows.countP (AddressRequestRow.isToday row.userId row.createdAt) :=
        List.countP_mono_left fun _ _ there => createdFrom_isToday within there
      exact (Nat.add_le_add_right wider 1).trans today
    · exact inv.dailyCap userId start

/-- An insert that the counts allow, or the cap it meets. -/
theorem World.Inv.insert {token : Text} {requestId : RequestId} (inv : world.Inv cfg)
    (came : next cfg sha256 world (.insert id token requestId) = some after) : after.Inv cfg := by
  simp only [next] at came
  split at came
  · rename_i userId recipientName senderFirstName begun counting
    obtain ⟨holds, ordered⟩ := inv.calls id _ counting
    split at came
    · obtain rfl := Option.some.inj came
      exact inv.createAnswer id _
    · rename_i waiting
      split at came
      · obtain rfl := Option.some.inj came
        exact inv.createAnswer id _
      · rename_i today
        split at came
        · nomatch came
        · split at came
          · obtain rfl := Option.some.inj came
            refine inv.quiet (.refl world id) rfl rfl rfl inv.books fun new now_ => ?_
            obtain rfl := Option.some.inj now_
            exact ⟨holds, ordered, ⟨rfl, rfl, rfl⟩, Nat.lt_of_not_le waiting, Nat.lt_of_not_le today⟩
          · nomatch came
  · nomatch came

/-- The account's row, locked for a creation or an erasure, or an account that is closed. -/
theorem World.Inv.lock (inv : world.Inv cfg) (came : next cfg sha256 world (.lock id) = some after) : after.Inv cfg := by
  simp only [next] at came
  split at came
  · rename_i userId recipientName senderFirstName begun creating
    have ordered : begun ≤ world.now := inv.calls id _ creating
    split at came
    · obtain ⟨locks, acquired, rfl⟩ := Option.map_eq_some_iff.mp came
      have later : world.Later { world with locks } id :=
        .same rfl le_rfl (List.Subset.refl _) (List.Subset.refl _) fun _ _ _ holds => Locks.acquire_kept acquired holds
      refine inv.quiet later rfl rfl rfl inv.books fun new now_ => ?_
      obtain rfl := Option.some.inj now_
      exact ⟨Locks.acquire_holds acquired, ordered⟩
    · obtain rfl := Option.some.inj came
      exact inv.createAnswer id _
  · rename_i userId erasing
    split at came
    · obtain ⟨locks, acquired, rfl⟩ := Option.map_eq_some_iff.mp came
      have later : world.Later { world with locks } id :=
        .same rfl le_rfl (List.Subset.refl _) (List.Subset.refl _) fun _ _ _ holds => Locks.acquire_kept acquired holds
      refine inv.quiet later rfl rfl rfl inv.books fun new now_ => ?_
      obtain rfl := Option.some.inj now_
      trivial
    · obtain rfl := Option.some.inj came
      exact inv.end id
  · nomatch came

theorem World.later_delete (world : World) (gone : AddressRequestRow → Bool) (id : Nat) :
    world.Later (world.deleteRows gone) id :=
  ⟨le_rfl, List.Subset.refl _, List.Subset.refl _, fun _ _ _ holds => holds, .inl (.filter _ _)⟩

/-- What every step keeps. -/
theorem World.Inv.next {event : Event} (inv : world.Inv cfg) (came : next cfg sha256 world event = some after) :
    after.Inv cfg := by
  cases event with
  | tick elapsed =>
    obtain rfl := Option.some.inj came
    have later (id : Nat) : world.Later { world with now := world.now + elapsed } id :=
      .same rfl (Nat.le_add_right _ _) (List.Subset.refl _) (List.Subset.refl _) fun _ _ _ holds => holds
    exact {
      books := inv.books
      calls := fun id call there => (inv.calls id call there).later (later (id + 1)) (Nat.ne_of_lt (Nat.lt_succ_self id))
      missing := fun told member => (inv.missing told member).later (later 0)
      waitingCap := fun userId => (List.countP_mono_left fun _ _ counted =>
        isWaiting_earlier (Nat.le_add_right _ _) counted).trans (inv.waitingCap userId)
      dailyCap := inv.dailyCap }
  | openAccount userId =>
    simp only [Requests.next] at came
    split at came
    · obtain rfl := Option.some.inj came
      have later (id : Nat) : world.Later { world with
          accounts := Function.update world.accounts userId (some false) } id :=
        .same rfl le_rfl (List.Subset.refl _) (List.Subset.refl _) fun _ _ _ holds => holds
      exact {
        books := inv.books
        calls := fun id call there => (inv.calls id call there).later (later (id + 1)) (Nat.ne_of_lt (Nat.lt_succ_self id))
        missing := fun told member => (inv.missing told member).later (later 0)
        waitingCap := inv.waitingCap
        dailyCap := inv.dailyCap }
    · cases came
  | createAddressRequest id userId recipientName senderFirstName =>
    simp only [Requests.next] at came
    split at came
    · obtain rfl := Option.some.inj came
      refine inv.quiet (.refl world id) rfl rfl rfl inv.books fun new now_ => ?_
      obtain rfl := Option.some.inj now_
      exact le_rfl
    · cases came
  | lock id => exact inv.lock came
  | insert id token requestId => exact inv.insert came
  | commit id =>
    simp only [Requests.next] at came
    split at came
    · rename_i row inserted
      split at came
      · rename_i fresh
        obtain rfl := Option.some.inj came
        exact inv.commit inserted fresh.1 fresh.2
      · cases came
    · cases came
  | answerAddressRequest id token address => exact inv.beginClosing came
  | declineAddressRequest id token report => exact inv.beginClosing came
  | cancelAddressRequest id userId requestId => exact inv.beginClosing came
  | update id =>
    simp only [Requests.next] at came
    split at came
    · rename_i subject closer begun closing
      obtain ⟨known, ordered⟩ := inv.calls id _ closing
      split at came
      · rename_i none_
        obtain rfl := Option.some.inj came
        refine inv.quiet (.refl world id) rfl rfl rfl inv.books fun new now_ => ?_
        obtain rfl := Option.some.inj now_
        refine ⟨known, ordered, fun row member names waiting => ?_⟩
        have shut : ¬ (subject.names row && row.isOpen begun) = true :=
          List.filter_eq_nil_iff.mp (List.map_eq_nil_iff.mp none_) row member
        rw [names, AddressRequestRow.isOpen, waiting, Bool.true_and, beq_self_eq_true, Bool.true_and, decide_eq_true_eq] at shut
        exact Nat.le_of_not_lt shut
      · rename_i closed rest found
        obtain rfl := Option.some.inj came
        exact inv.close found
    · cases came
  | read id readAt =>
    simp only [Requests.next] at came
    split at came
    · rename_i subject begun reading
      split at came
      · rename_i ordered
        obtain rfl := Option.some.inj came
        exact inv.read reading ordered.1
      · cases came
    · cases came
  | purgeClosedAddressRequests id days =>
    simp only [Requests.next] at came
    split at came
    · obtain rfl := Option.some.inj came
      refine inv.quiet (.refl world id) rfl rfl rfl inv.books fun new now_ => ?_
      obtain rfl := Option.some.inj now_
      trivial
    · cases came
  | sweep id =>
    simp only [Requests.next] at came
    split at came
    · obtain rfl := Option.some.inj came
      exact inv.fewer (world.later_delete _ id) rfl (.filter _ _) (inv.books.delete _)
        (fun _ member new => absurd member new) fun _ now_ => (by cases now_)
    · cases came
  | eraseAccount id userId =>
    simp only [Requests.next] at came
    split at came
    · obtain rfl := Option.some.inj came
      refine inv.quiet (.refl world id) rfl rfl rfl inv.books fun new now_ => ?_
      obtain rfl := Option.some.inj now_
      trivial
    · cases came
  | wipe id =>
    simp only [Requests.next] at came
    split at came
    · rename_i userId wiping
      obtain rfl := Option.some.inj came
      have later : world.Later { world.deleteRows (fun row => row.userId == userId) with
          accounts := Function.update world.accounts userId (some true), locks := world.locks.release id } id :=
        ⟨le_rfl, List.Subset.refl _, List.Subset.refl _, released_kept world.locks, .inl (.filter _ _)⟩
      exact inv.fewer later rfl (.filter _ _) (inv.books.delete _) (fun _ member new => absurd member new)
        fun _ now_ => (by cases now_)
    · cases came
  | abort id =>
    obtain rfl := Option.some.inj came
    exact inv.end id

theorem World.Inv.initially : ({} : World).Inv cfg where
  books := {
    once := List.nodup_nil
    hashOnce := List.nodup_nil
    known := fun _ member => (nomatch member)
    closedOnce := List.nodup_nil
    closedKnown := fun _ member => (nomatch member)
    timely := fun _ member => (nomatch member)
    fate := fun _ member => (nomatch member)
    alerted := rfl
    oks := rfl
    others := fun _ member => (nomatch member) }
  calls := fun _ _ there => (nomatch there)
  missing := fun _ member => (nomatch member)
  waitingCap := fun _ => Nat.zero_le _
  dailyCap := fun _ _ => Nat.zero_le _

theorem inv_of_reach (reach : Reach (step cfg sha256) anyStep {} world) : world.Inv cfg := by
  induction reach with
  | start => exact .initially
  | @next before _ event _ _ committed ih =>
    unfold step at committed
    cases came : next cfg sha256 before event with
    | none => rw [came] at committed; nomatch committed
    | some after =>
      rw [came] at committed
      obtain rfl := Except.ok.inj committed
      exact ih.next came

theorem Closer.address_isSome (closer : Closer) (recipientName : Text) :
    (closer.address recipientName).isSome = (closer.status == .answered) := by
  cases closer with
  | link closing => cases closing <;> rfl
  | cancel => rfl

theorem World.Inv.address {row : AddressRequestRow} (inv : world.Inv cfg) (member : row ∈ world.rows) :
    row.address.isSome = (row.status == .answered) := by
  rcases inv.books.fate row member with ⟨new, _⟩ | ⟨closed, _, rfl⟩
  · rw [new.status, new.address]
    rfl
  · exact closed.closer.address_isSome closed.row.recipientName

/-- A request leaves `waiting` once, in a transaction begun before its link expired, and one caller is told that it closed
it. A caller that read after that is told the state it left, one that read before that the link had expired, as it had,
and one that found nothing is right. Rows and alerts are what the closings left, and the caps hold of the rows. -/
theorem requests_close_once (cfg : Config) (sha256 : Text → Hash) {world : World}
    (reach : Reach (step cfg sha256) anyStep {} world) :
    (world.closings.map (·.row.requestId)).Nodup ∧
    (∀ closed ∈ world.closings, closed.row.New ∧ closed.begun < closed.row.expiresAt) ∧
    world.told.filterMap Told.closedId = world.closings.map (·.row.requestId) ∧
    (∀ told ∈ world.told, told.Fair ∧ told.Missing world) ∧
    (∀ row ∈ world.rows, ((row.New ∧ ∀ closed ∈ world.closings, closed.row.requestId ≠ row.requestId) ∨
        ∃ closed ∈ world.closings, row = closed.result) ∧
      row.address.isSome = (row.status == .answered)) ∧
    world.alerts = world.closings.filterMap Closed.alert ∧
    ∀ userId, world.rows.countP (AddressRequestRow.isWaiting userId world.now) ≤ cfg.waitingCap ∧
      ∀ start, world.rows.countP (AddressRequestRow.createdFrom userId start) ≤ cfg.dailyCap := by
  have inv := inv_of_reach reach
  exact ⟨inv.books.closedOnce, inv.books.timely, inv.books.oks,
    fun told member => ⟨inv.books.others told member, inv.missing told member⟩,
    fun row member => ⟨inv.books.fate row member, inv.address member⟩,
    inv.books.alerted, fun userId => ⟨inv.waitingCap userId, inv.dailyCap userId⟩⟩

/-- One link at a time, good for a day. -/
def oneDay : Config := { linkDays := 1, waitingCap := 1, dailyCap := 1 }

/-- The hash of 24 A's. -/
def hashOfAs : Text → Hash := fun _ => [
  0x1b, 0xda, 0x9f, 0x0a, 0xed, 0x80, 0x85, 0x7d, 0x43, 0xc9, 0x32, 0x94, 0x57, 0xf2, 0x8b, 0x1c,
  0xa2, 0x9f, 0x73, 0x6a, 0x0c, 0x53, 0x99, 0x01, 0xe1, 0xba, 0x16, 0xa9, 0x09, 0xeb, 0x07, 0xb4]

def linkOfAs : Text := List.replicate 24 'A'

def springfield : GivenAddress where
  name := none
  addressLine1 := "1 Elm St".toList
  addressLine2 := none
  city := "Springfield".toList
  state := "IL".toList
  postalCode := "62701".toList

/-- A request made, and answered a millisecond before its link expires, in an update that takes effect last. -/
def answeredLate : List Event := [.openAccount 1, .createAddressRequest 0 1 "Ann".toList "Bo".toList, .lock 0,
  .insert 0 linkOfAs 7, .commit 0, .tick (DAY - 1), .answerAddressRequest 1 linkOfAs springfield, .tick 2,
  .declineAddressRequest 2 linkOfAs true, .update 2, .read 2 (DAY + 1), .update 1]

theorem answered_late_closes_once :
    (match runAll (step oneDay hashOfAs) {} answeredLate with
      | .ok world => (world.closings.map (·.row.requestId)).Nodup
      | .error _ => False) := by
  cases ran : runAll (step oneDay hashOfAs) {} answeredLate with
  | ok world => exact (requests_close_once oneDay hashOfAs (reach_of_runAll ran fun _ _ _ => trivial)).1
  | error reason =>
    have runs : (runAll (step oneDay hashOfAs) {} answeredLate).isOk = true := by decide +kernel
    rw [ran] at runs
    nomatch runs

/-- A caller was told that a request had expired which then left `waiting` as answered, at another's word. -/
theorem told_expired_then_answered : ∃ world, Reach (step oneDay hashOfAs) anyStep {} world ∧
    (decide (world.told.map (·.answer) = [.state .expired, .closed 7]) &&
      decide (world.closings.map (·.closer.status) = [.answered])) = true :=
  exists_reach (step oneDay hashOfAs) {} _ answeredLate (by decide +kernel)

end LetterIRL.Requests
