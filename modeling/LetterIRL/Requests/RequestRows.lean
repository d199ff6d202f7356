import LetterIRL.Requests.AddressRequests

namespace LetterIRL.Requests

open Lib

/-! What the statements do to the rows, and what the requests closed so far say of the rows that are left. -/

/-- What a row may become: another status, while it is no longer waiting. -/
structure AddressRequestRow.Turned (old new : AddressRequestRow) : Prop where
  requestId : new.requestId = old.requestId
  userId : new.userId = old.userId
  tokenHash : new.tokenHash = old.tokenHash
  createdAt : new.createdAt = old.createdAt
  expiresAt : new.expiresAt = old.expiresAt
  waiting : new.status = .waiting → new = old

theorem AddressRequestRow.Turned.refl (row : AddressRequestRow) : row.Turned row := ⟨rfl, rfl, rfl, rfl, rfl, fun _ => rfl⟩

/-- Rows some of which are gone, and some turned. -/
def Fewer (rows left : List AddressRequestRow) : Prop :=
  ∃ keep turn, left = (rows.filter keep).map turn ∧ ∀ row : AddressRequestRow, row.Turned (turn row)

variable {rows left : List AddressRequestRow} {row : AddressRequestRow}

theorem Fewer.refl (rows : List AddressRequestRow) : Fewer rows rows :=
  ⟨fun _ => true, id, by simp, .refl⟩

theorem Fewer.filter (rows : List AddressRequestRow) (keep : AddressRequestRow → Bool) : Fewer rows (rows.filter keep) :=
  ⟨keep, id, by simp, .refl⟩

theorem Fewer.mem (fewer : Fewer rows left) (member : row ∈ left) : ∃ old ∈ rows, old.Turned row := by
  obtain ⟨keep, turn, rfl, turned⟩ := fewer
  obtain ⟨old, kept, rfl⟩ := List.mem_map.mp member
  exact ⟨old, (List.mem_filter.mp kept).1, turned old⟩

theorem Fewer.countP_le (fewer : Fewer rows left) {p : AddressRequestRow → Bool}
    (descends : ∀ old new : AddressRequestRow, old.Turned new → p new = true → p old = true) : left.countP p ≤ rows.countP p := by
  obtain ⟨keep, turn, rfl, turned⟩ := fewer
  rw [List.countP_map]
  exact (List.countP_mono_left fun old _ counted => descends old _ (turned old) counted).trans
    (List.filter_sublist.countP_le)

theorem Fewer.keys {κ : Type} (fewer : Fewer rows left) (key : AddressRequestRow → κ)
    (same : ∀ old new : AddressRequestRow, old.Turned new → key new = key old) : (left.map key).Sublist (rows.map key) := by
  obtain ⟨keep, turn, rfl, turned⟩ := fewer
  have keys : key ∘ turn = key := funext fun old => same old _ (turned old)
  rw [List.map_map, keys]
  exact List.filter_sublist.map key

section Counts
variable {old new : AddressRequestRow} {userId : UserId} {now later start : Nat}

theorem AddressRequestRow.Turned.isWaiting (turned : old.Turned new) (counted : new.isWaiting userId now = true) :
    old.isWaiting userId now = true := by
  have waiting : new.status = .waiting := by
    simp only [AddressRequestRow.isWaiting, AddressRequestRow.isOpen, Bool.and_eq_true, beq_iff_eq] at counted
    exact counted.2.1
  rwa [turned.waiting waiting] at counted

theorem AddressRequestRow.Turned.isToday (turned : old.Turned new) (counted : new.isToday userId now = true) :
    old.isToday userId now = true := by
  unfold AddressRequestRow.isToday at counted ⊢
  rwa [turned.userId, turned.createdAt] at counted

theorem AddressRequestRow.Turned.createdFrom (turned : old.Turned new) (counted : new.createdFrom userId start = true) :
    old.createdFrom userId start = true := by
  unfold AddressRequestRow.createdFrom at counted ⊢
  rwa [turned.userId, turned.createdAt] at counted

theorem isWaiting_earlier (ordered : now ≤ later) (counted : row.isWaiting userId later = true) :
    row.isWaiting userId now = true := by
  simp only [AddressRequestRow.isWaiting, AddressRequestRow.isOpen, Bool.and_eq_true, decide_eq_true_eq] at counted ⊢
  exact ⟨counted.1, counted.2.1, lt_of_le_of_lt ordered counted.2.2⟩

/-- In 24 hours that hold an instant, whatever was created was created less than 24 hours before it, or after it. -/
theorem createdFrom_isToday (within : now < start + DAY)
    (counted : row.createdFrom userId start = true) : row.isToday userId now = true := by
  simp only [AddressRequestRow.createdFrom, AddressRequestRow.isToday, Bool.and_eq_true, decide_eq_true_eq] at counted ⊢
  exact ⟨counted.1, by omega⟩

end Counts

/-- A row as it is inserted. -/
structure AddressRequestRow.New (row : AddressRequestRow) : Prop where
  status : row.status = .waiting
  address : row.address = none
  closedAt : row.closedAt = none

def Told.closedId (told : Told) : Option RequestId :=
  match told.answer with
  | .closed requestId => some requestId
  | _ => none

/-- A caller told a state read a row it named: it was told the state that whoever closed that request left, or that the
link had expired, as it had. -/
def Told.Fair (told : Told) : Prop :=
  ∀ state, told.answer = .state state → ∃ row subject, told.row = some row ∧ told.subject = some subject ∧
    subject.names row = true ∧
    (∀ closed ∈ told.seen, closed.row.requestId = row.requestId → state = closed.closer.status.state) ∧
    ((∀ closed ∈ told.seen, closed.row.requestId ≠ row.requestId) → state = .expired ∧ row.expiresAt ≤ told.readAt)

/-- What the rows, the requests closed and the answers given say of one another. -/
structure Books (rows : List AddressRequestRow) (ids : List RequestId) (hashes : List Hash) (closings : List Closed)
    (alerts : List Alert) (told : List Told) : Prop where
  once : (rows.map (·.requestId)).Nodup
  hashOnce : (rows.map (·.tokenHash)).Nodup
  known : ∀ row ∈ rows, row.requestId ∈ ids ∧ row.tokenHash ∈ hashes
  closedOnce : (closings.map (·.row.requestId)).Nodup
  closedKnown : ∀ closed ∈ closings, closed.row.requestId ∈ ids
  timely : ∀ closed ∈ closings, closed.row.New ∧ closed.begun < closed.row.expiresAt
  fate : ∀ row ∈ rows, (row.New ∧ ∀ closed ∈ closings, closed.row.requestId ≠ row.requestId) ∨
    ∃ closed ∈ closings, row = closed.result
  alerted : alerts = closings.filterMap Closed.alert
  oks : told.filterMap Told.closedId = closings.map (·.row.requestId)
  others : ∀ answer ∈ told, answer.Fair

section Kept
variable {ids : List RequestId} {hashes : List Hash} {closings : List Closed} {alerts : List Alert} {told : List Told}

theorem Closed.result_turned (closed : Closed) : closed.row.Turned closed.result := by
  refine ⟨rfl, rfl, rfl, rfl, rfl, fun waiting => ?_⟩
  have status : closed.closer.status = .waiting := waiting
  cases closer : closed.closer with
  | link closing =>
    rw [closer] at status
    cases closing <;> nomatch status
  | cancel =>
    rw [closer] at status
    nomatch status

/-- A row deleted takes nothing from what is known of the others. -/
theorem Books.delete (books : Books rows ids hashes closings alerts told) (keep : AddressRequestRow → Bool) :
    Books (rows.filter keep) ids hashes closings alerts told :=
  { books with
    once := books.once.sublist (List.filter_sublist.map _)
    hashOnce := books.hashOnce.sublist (List.filter_sublist.map _)
    known := fun row member => books.known row (List.mem_filter.mp member).1
    fate := fun row member => books.fate row (List.mem_filter.mp member).1 }

/-- A new row has an id and a token no one has named. -/
theorem Books.insert (books : Books rows ids hashes closings alerts told) (new : row.New) (freshId : row.requestId ∉ ids)
    (freshHash : row.tokenHash ∉ hashes) :
    Books (rows ++ [row]) (row.requestId :: ids) (row.tokenHash :: hashes) closings alerts told :=
  { books with
    once := by
      rw [List.map_append, List.nodup_append]
      refine ⟨books.once, List.nodup_singleton _, fun id old other new_ => ?_⟩
      rintro rfl
      obtain ⟨before, member, same⟩ := List.mem_map.mp old
      rw [List.mem_singleton.mp new_] at same
      have there := (books.known before member).1
      rw [same] at there
      exact freshId there
    hashOnce := by
      rw [List.map_append, List.nodup_append]
      refine ⟨books.hashOnce, List.nodup_singleton _, fun id old other new_ => ?_⟩
      rintro rfl
      obtain ⟨before, member, same⟩ := List.mem_map.mp old
      rw [List.mem_singleton.mp new_] at same
      have there := (books.known before member).2
      rw [same] at there
      exact freshHash there
    known := fun other member => by
      rcases List.mem_append.mp member with old | here
      · exact ⟨List.mem_cons_of_mem _ (books.known other old).1, List.mem_cons_of_mem _ (books.known other old).2⟩
      · rw [List.mem_singleton.mp here]
        exact ⟨List.mem_cons_self, List.mem_cons_self⟩
    closedKnown := fun closed member => List.mem_cons_of_mem _ (books.closedKnown closed member)
    fate := fun other member => by
      rcases List.mem_append.mp member with old | here
      · exact books.fate other old
      · rw [List.mem_singleton.mp here]
        exact .inl ⟨new, fun closed inClosings same => freshId (same ▸ books.closedKnown closed inClosings)⟩ }

theorem Books.name (books : Books rows ids hashes closings alerts told) (moreIds : List RequestId) (moreHashes : List Hash) :
    Books rows (moreIds ++ ids) (moreHashes ++ hashes) closings alerts told :=
  { books with
    known := fun row member => ⟨List.mem_append_right _ (books.known row member).1, List.mem_append_right _ (books.known row member).2⟩
    closedKnown := fun closed member => List.mem_append_right _ (books.closedKnown closed member) }

/-- A caller that closed nothing is answered. -/
theorem Books.tell (books : Books rows ids hashes closings alerts told) {answer : Told} (fair : answer.Fair)
    (other : answer.closedId = none) : Books rows ids hashes closings alerts (told ++ [answer]) :=
  { books with
    oks := by rw [List.filterMap_append, books.oks, List.filterMap_cons_none other, List.filterMap_nil, List.append_nil]
    others := fun given member => by
      rcases List.mem_append.mp member with old | here
      · exact books.others given old
      · rw [List.mem_singleton.mp here]
        exact fair }

/-- The rows a subject names are one at most. -/
theorem Books.names_once (books : Books rows ids hashes closings alerts told) {subject : Subject} {one two : AddressRequestRow}
    (inOne : one ∈ rows) (inTwo : two ∈ rows) (namesOne : subject.names one = true) (namesTwo : subject.names two = true) :
    one = two := by
  cases subject with
  | link hash =>
    simp only [Subject.names, beq_iff_eq] at namesOne namesTwo
    exact List.inj_on_of_nodup_map books.hashOnce inOne inTwo (namesOne.trans namesTwo.symm)
  | request userId requestId =>
    simp only [Subject.names, Bool.and_eq_true, beq_iff_eq] at namesOne namesTwo
    exact List.inj_on_of_nodup_map books.once inOne inTwo (namesOne.1.trans namesTwo.1.symm)

/-- What a caller that found no open request is told is fair. -/
theorem Books.read (books : Books rows ids hashes closings alerts told) {subject : Subject} {readAt : Nat}
    (inRows : row ∈ rows) (names : subject.names row = true) (expired : row.status = .waiting → row.expiresAt ≤ readAt) :
    Told.Fair {
      subject := some subject, answer := .state (row.state readAt), row := some row, readAt, seen := closings } := by
  intro state told
  obtain rfl : row.state readAt = state := Answer.state.inj told
  refine ⟨row, subject, rfl, rfl, names, ?_⟩
  rcases books.fate row inRows with ⟨new, none_⟩ | ⟨closed, inClosings, rfl⟩
  · have state : row.state readAt = .expired := if_pos ⟨new.status, expired new.status⟩
    exact ⟨fun other member same => absurd same (none_ other member), fun _ => ⟨state, expired new.status⟩⟩
  · have state : closed.result.state readAt = closed.closer.status.state := by
      refine if_neg fun waiting => ?_
      have open_ := closed.result_turned.waiting waiting.1
      have address : closed.result.closedAt = closed.row.closedAt := by rw [open_]
      rw [(books.timely closed inClosings).1.closedAt] at address
      nomatch address
    refine ⟨fun other member same => ?_, fun unnamed => absurd rfl (unnamed closed inClosings)⟩
    rw [List.inj_on_of_nodup_map books.closedOnce member inClosings same]
    exact state

/-- The one row an update closes. -/
theorem Books.close (books : Books rows ids hashes closings alerts told) {subject : Subject} {begun : Nat} {answer : Told}
    (closer : Closer) (inRows : row ∈ rows) (names : subject.names row = true) (opened : row.isOpen begun = true)
    (ok : answer.closedId = some row.requestId) (fair : answer.Fair) :
    Books (rows.map fun other =>
        if subject.names other && other.isOpen begun then { row := other, closer, begun : Closed }.result else other)
      ids hashes (closings ++ [({ row, closer, begun } : Closed)])
      (alerts ++ [{ row, closer, begun }].filterMap Closed.alert) (told ++ [answer]) := by
  obtain ⟨waiting, before⟩ : row.status = .waiting ∧ begun < row.expiresAt := by
    simpa only [AddressRequestRow.isOpen, Bool.and_eq_true, beq_iff_eq, decide_eq_true_eq] using opened
  have unclosed : row.New ∧ ∀ closed ∈ closings, closed.row.requestId ≠ row.requestId := by
    rcases books.fate row inRows with still | ⟨closed, inClosings, rfl⟩
    · exact still
    · have open_ := closed.result_turned.waiting waiting
      have closedAt : closed.result.closedAt = closed.row.closedAt := by rw [open_]
      rw [(books.timely closed inClosings).1.closedAt] at closedAt
      nomatch closedAt
  have turned (other : AddressRequestRow) : other.Turned
      (if subject.names other && other.isOpen begun then { row := other, closer, begun : Closed }.result else other) := by
    split
    · exact Closed.result_turned { row := other, closer, begun }
    · exact .refl other
  have fewer : Fewer rows (rows.map fun other =>
      if subject.names other && other.isOpen begun then { row := other, closer, begun : Closed }.result else other) :=
    ⟨fun _ => true, _, by rw [List.filter_true], turned⟩
  have keys {κ : Type} (key : AddressRequestRow → κ) (same : ∀ old new : AddressRequestRow, old.Turned new → key new = key old) :=
    fewer.keys key same
  refine {
    once := books.once.sublist (keys _ fun _ _ turned => turned.requestId)
    hashOnce := books.hashOnce.sublist (keys _ fun _ _ turned => turned.tokenHash)
    known := fun other member => ?_
    closedOnce := ?_
    closedKnown := fun closed member => ?_
    timely := fun closed member => ?_
    fate := fun other member => ?_
    alerted := by rw [books.alerted, List.filterMap_append]
    oks := ?_
    others := fun given member => ?_ }
  · obtain ⟨old, inOld, turned⟩ := fewer.mem member
    rw [turned.requestId, turned.tokenHash]
    exact books.known old inOld
  · rw [List.map_append, List.nodup_append]
    refine ⟨books.closedOnce, List.nodup_singleton _, fun id old other new => ?_⟩
    rintro rfl
    obtain ⟨closed, inClosings, same⟩ := List.mem_map.mp old
    rw [List.mem_singleton.mp new] at same
    exact unclosed.2 closed inClosings same
  · rcases List.mem_append.mp member with old | here
    · exact books.closedKnown closed old
    · rw [List.mem_singleton.mp here]
      exact (books.known row inRows).1
  · rcases List.mem_append.mp member with old | here
    · exact books.timely closed old
    · rw [List.mem_singleton.mp here]
      exact ⟨unclosed.1, before⟩
  · obtain ⟨old, inOld, rfl⟩ := List.mem_map.mp member
    split
    · rename_i hit
      have same := books.names_once inOld inRows (Bool.and_eq_true_iff.mp hit).1 names
      rw [same]
      exact .inr ⟨_, List.mem_append_right _ (List.mem_singleton.mpr rfl), rfl⟩
    · rename_i missed
      rcases books.fate old inOld with ⟨new, none_⟩ | ⟨closed, inClosings, result⟩
      · refine .inl ⟨new, fun closed member same => ?_⟩
        rcases List.mem_append.mp member with before | here
        · exact none_ closed before same
        · rw [List.mem_singleton.mp here] at same
          have one := List.inj_on_of_nodup_map books.once inRows inOld same
          rw [← one] at missed
          exact missed (Bool.and_eq_true_iff.mpr ⟨names, opened⟩)
      · exact .inr ⟨closed, List.mem_append_left _ inClosings, result⟩
  · rw [List.filterMap_append, List.map_append, books.oks, List.filterMap_cons_some ok, List.filterMap_nil]
    rfl
  · rcases List.mem_append.mp member with old | here
    · exact books.others given old
    · rw [List.mem_singleton.mp here]
      exact fair

end Kept

end LetterIRL.Requests
