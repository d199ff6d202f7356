import LetterIRL.Images.Moves

namespace LetterIRL.Images
open Lib Operator Relation

/-! The quota counters agree with the reservations in every reachable state. -/

/-- The reservations of an entitlement in a quota-holding state, counted. -/
def held (reservations : List Reservation) (entitlementId : EntitlementId) : Nat :=
  total (fun r => if r.entitlementId = entitlementId ∧ r.holdsQuota = true then 1 else 0) reservations

/-- The reservations ever made on an entitlement. -/
def made (reservations : List Reservation) (entitlementId : EntitlementId) : Nat :=
  total (fun r => if r.entitlementId = entitlementId then 1 else 0) reservations

/-- The reservations of an entitlement that were released. -/
def givenBack (reservations : List Reservation) (entitlementId : EntitlementId) : Nat :=
  total (fun r => if r.entitlementId = entitlementId ∧ r.status = .released then 1 else 0) reservations

/-- The reservations of a user in a quota-holding state, counted. -/
def heldBy (reservations : List Reservation) (userId : UserId) : Nat :=
  total (fun r => if r.userId = userId ∧ r.holdsQuota = true then 1 else 0) reservations

/-- The units of all of a user's entitlements in use. -/
def consumedBy (entitlements : List ImageEntitlement) (userId : UserId) : Nat :=
  total (fun e => if e.userId = userId then e.consumedQuantity else 0) entitlements

/-- The counters of the three tables say the same. -/
structure Agrees (s : Database) : Prop where
  source : ∀ row ∈ s.reservations.rows, ∃ e ∈ s.imageEntitlements.rows,
    e.entitlementId = row.entitlementId ∧ e.userId = row.userId
  owner : ∀ e ∈ s.imageEntitlements.rows, ∃ user ∈ s.users.rows, user.userId = e.userId
  counted : ∀ e ∈ s.imageEntitlements.rows, e.consumedQuantity = held s.reservations.rows e.entitlementId
  within : ∀ e ∈ s.imageEntitlements.rows, e.consumedQuantity ≤ e.quantity
  active : ∀ e ∈ s.imageEntitlements.rows, e.status = .active → e.consumedQuantity < e.quantity
  depleted : ∀ e ∈ s.imageEntitlements.rows, e.status = .depleted → e.consumedQuantity = e.quantity
  used : ∀ user ∈ s.users.rows, user.imageGenerationsUsed = consumedBy s.imageEntitlements.rows user.userId
  holding : ∀ user ∈ s.users.rows, user.imageGenerationsUsed = heldBy s.reservations.rows user.userId

variable {s s' : Database}

theorem Reservation.holdsQuota_iff {row : Reservation} : row.holdsQuota = true ↔ row.status ≠ .released := by
  unfold Reservation.holdsQuota
  cases row.status with
  | released => simp
  | reserved => simp
  | dispatched => simp
  | consumed => simp
  | ambiguous => simp

/-- Every reservation holds its unit or gave it back. -/
theorem held_add_givenBack (rows : List Reservation) (entitlementId : EntitlementId) :
    held rows entitlementId + givenBack rows entitlementId = made rows entitlementId := by
  unfold held givenBack made
  rw [← total_add]
  refine total_congr fun row _ => ?_
  by_cases mine : row.entitlementId = entitlementId
  · by_cases released : row.status = .released
    · simp [mine, released, Reservation.holdsQuota]
    · simp [mine, released, Reservation.holdsQuota_iff]
  · simp [mine]

theorem held_keeps {before after : List Reservation} (kept : List.Forall₂ Reservation.Keeps before after)
    (entitlementId : EntitlementId) : held after entitlementId = held before entitlementId := by
  refine total_forall₂_eq kept fun old new step => ?_
  rcases step with rfl | ⟨source, -, holds, still⟩
  · rfl
  · simp only [source, holds, still]

theorem heldBy_keeps {before after : List Reservation} (kept : List.Forall₂ Reservation.Keeps before after)
    (userId : UserId) : heldBy after userId = heldBy before userId := by
  refine total_forall₂_eq kept fun old new step => ?_
  rcases step with rfl | ⟨-, owner, holds, still⟩
  · rfl
  · simp only [owner, holds, still]

/-- An entitlement no reservation names holds no unit. -/
theorem held_fresh {rows : List Reservation} {entitlementId : EntitlementId}
    (unnamed : ∀ row ∈ rows, row.entitlementId ≠ entitlementId) : held rows entitlementId = 0 :=
  total_eq_zero fun row member => if_neg fun both => unnamed row member both.1

theorem consumedBy_retires {before after : List ImageEntitlement}
    (retired : List.Forall₂ ImageEntitlement.Retires before after) (userId : UserId) :
    consumedBy after userId = consumedBy before userId := by
  refine total_forall₂_eq retired fun old new step => ?_
  rcases step with rfl | rfl | rfl
  · rfl
  · rfl
  · rfl

/-- Writing an entitlement back moves its user's total by what it moved itself. -/
theorem consumedBy_put {table : Table ImageEntitlement.entitlementId} {old new : ImageEntitlement}
    (found : table.find new.entitlementId = some old) (user : new.userId = old.userId) (userId : UserId) :
    consumedBy (table.put new).rows userId + (if old.userId = userId then old.consumedQuantity else 0) =
      consumedBy table.rows userId + if old.userId = userId then new.consumedQuantity else 0 := by
  have step := Table.total_put (fun e => if e.userId = userId then e.consumedQuantity else 0) found
  simp only [user] at step
  exact step

/-- A release takes one unit off the counts of its entitlement. -/
theorem held_put {table : Table Reservation.reservationId} {old new : Reservation}
    (found : table.find new.reservationId = some old) (source : new.entitlementId = old.entitlementId)
    (holds : old.holdsQuota = true) (released : new.holdsQuota = false) (entitlementId : EntitlementId) :
    held (table.put new).rows entitlementId + (if old.entitlementId = entitlementId then 1 else 0) =
      held table.rows entitlementId := by
  have step := Table.total_put
    (fun r => if r.entitlementId = entitlementId ∧ r.holdsQuota = true then 1 else 0) found
  simp only [holds, released, source, and_true, Bool.false_eq_true, and_false, if_false] at step
  exact step

/-- And one off the counts of its user. -/
theorem heldBy_put {table : Table Reservation.reservationId} {old new : Reservation}
    (found : table.find new.reservationId = some old) (owner : new.userId = old.userId)
    (holds : old.holdsQuota = true) (released : new.holdsQuota = false) (userId : UserId) :
    heldBy (table.put new).rows userId + (if old.userId = userId then 1 else 0) =
      heldBy table.rows userId := by
  have step := Table.total_put (fun r => if r.userId = userId ∧ r.holdsQuota = true then 1 else 0) found
  simp only [holds, released, owner, and_true, Bool.false_eq_true, and_false, if_false] at step
  exact step

/-- What holds of the rows an entitlement leaves alone, and of it as written, holds of all rows. -/
theorem forall_put {table : Table ImageEntitlement.entitlementId} {new : ImageEntitlement}
    {P : ImageEntitlement → Prop}
    (others : ∀ e ∈ table.rows, e.entitlementId ≠ new.entitlementId → P e) (written : P new) :
    ∀ e ∈ (table.put new).rows, P e := by
  intro e member
  rcases Table.mem_put.mp member with ⟨before, other⟩ | ⟨rfl, -⟩
  · exact others e before other
  · exact written

/-- A reservation's entitlement is still there once an entitlement is written back. -/
theorem source_put {table : Table ImageEntitlement.entitlementId} {old new : ImageEntitlement}
    (found : table.find new.entitlementId = some old) (user : new.userId = old.userId)
    {entitlementId : EntitlementId} {userId : UserId}
    (source : ∃ e ∈ table.rows, e.entitlementId = entitlementId ∧ e.userId = userId) :
    ∃ e ∈ (table.put new).rows, e.entitlementId = entitlementId ∧ e.userId = userId := by
  obtain ⟨e, inTable, id, same⟩ := source
  by_cases mine : e.entitlementId = new.entitlementId
  · have this : e = old := eq_of_key_eq table.unique inTable (Table.find_mem found)
      (mine.trans (Table.find_key found).symm)
    subst this
    exact ⟨new, Table.mem_put.mpr (.inr ⟨rfl, e, inTable, mine⟩), mine.symm.trans id, user.trans same⟩
  · exact ⟨e, Table.mem_put.mpr (.inl ⟨inTable, mine⟩), id, same⟩

theorem agrees_start : Agrees {} where
  source := fun _ member => absurd member List.not_mem_nil
  owner := fun _ member => absurd member List.not_mem_nil
  counted := fun _ member => absurd member List.not_mem_nil
  within := fun _ member => absurd member List.not_mem_nil
  active := fun _ member => absurd member List.not_mem_nil
  depleted := fun _ member => absurd member List.not_mem_nil
  used := fun _ member => absurd member List.not_mem_nil
  holding := fun _ member => absurd member List.not_mem_nil

/-- A user just signed up owns nothing. -/
theorem Agrees.signUp (agrees : Agrees s) (userId : UserId) :
    Agrees { s with users := s.users.insertNew { userId } } := by
  have nothing : userId ∉ s.users.rows.map User.userId → ∀ e ∈ s.imageEntitlements.rows, e.userId ≠ userId := by
    intro fresh e member mine
    obtain ⟨user, found, same⟩ := agrees.owner e member
    exact fresh (List.mem_map.mpr ⟨user, found, same.trans mine⟩)
  refine ⟨agrees.source, ?_, agrees.counted, agrees.within, agrees.active, agrees.depleted, ?_, ?_⟩
  · intro e member
    obtain ⟨user, found, same⟩ := agrees.owner e member
    exact ⟨user, Table.mem_insertNew.mpr (.inl found), same⟩
  · intro user member
    rcases Table.mem_insertNew.mp member with old | ⟨rfl, fresh⟩
    · exact agrees.used user old
    · exact (total_eq_zero fun e inTable => if_neg (nothing fresh e inTable)).symm
  · intro user member
    rcases Table.mem_insertNew.mp member with old | ⟨rfl, fresh⟩
    · exact agrees.holding user old
    · refine (total_eq_zero fun row inTable => if_neg fun both => ?_).symm
      obtain ⟨e, inTable', -, same⟩ := agrees.source row inTable
      exact nothing fresh e inTable' (same.trans both.1)

theorem Agrees.grant (agrees : Agrees s) {entitlement : ImageEntitlement} {user : User}
    (found : s.users.find entitlement.userId = some user) (positive : 0 < entitlement.quantity)
    (unused : entitlement.consumedQuantity = 0) (active : entitlement.status = .active)
    (fresh : entitlement.entitlementId ∉ s.imageEntitlements.rows.map ImageEntitlement.entitlementId) :
    Agrees { s with imageEntitlements := s.imageEntitlements.insert entitlement fresh } := by
  have unnamed : ∀ row ∈ s.reservations.rows, row.entitlementId ≠ entitlement.entitlementId := by
    intro row member same
    obtain ⟨e, inTable, id, -⟩ := agrees.source row member
    exact fresh (List.mem_map.mpr ⟨e, inTable, id.trans same⟩)
  have cases_ : ∀ {P : ImageEntitlement → Prop}, (∀ e ∈ s.imageEntitlements.rows, P e) → P entitlement →
      ∀ e ∈ (s.imageEntitlements.insert entitlement fresh).rows, P e := by
    intro P old new e member
    rcases List.mem_append.mp member with before | here
    · exact old e before
    · rw [List.mem_singleton.mp here]
      exact new
  refine ⟨?_, cases_ agrees.owner ⟨user, Table.find_mem found, Table.find_key found⟩,
    cases_ agrees.counted (by rw [unused, held_fresh unnamed]), cases_ agrees.within (by omega),
    cases_ agrees.active (fun _ => by omega), cases_ agrees.depleted (by simp [active]), ?_, agrees.holding⟩
  · intro row member
    obtain ⟨e, inTable, same⟩ := agrees.source row member
    exact ⟨e, List.mem_append_left _ inTable, same⟩
  · intro owner member
    rw [agrees.used owner member]
    simp [consumedBy, unused]

theorem Agrees.retire (agrees : Agrees s) {imageEntitlements : Table ImageEntitlement.entitlementId}
    (retired : List.Forall₂ ImageEntitlement.Retires s.imageEntitlements.rows imageEntitlements.rows) :
    Agrees { s with imageEntitlements } := by
  have from_ : ∀ e ∈ imageEntitlements.rows, ∃ old ∈ s.imageEntitlements.rows,
      e.entitlementId = old.entitlementId ∧ e.userId = old.userId ∧
        e.consumedQuantity = old.consumedQuantity ∧ e.quantity = old.quantity ∧
          (e.status = old.status ∨ e.status = .revoked ∨ e.status = .expired) := by
    intro e member
    obtain ⟨old, inTable, step⟩ := forall₂_mem_right retired member
    rcases step with rfl | rfl | rfl
    · exact ⟨_, inTable, rfl, rfl, rfl, rfl, .inl rfl⟩
    · exact ⟨_, inTable, rfl, rfl, rfl, rfl, .inr (.inl rfl)⟩
    · exact ⟨_, inTable, rfl, rfl, rfl, rfl, .inr (.inr rfl)⟩
  refine ⟨?_, ?_, ?_, ?_, ?_, ?_, ?_, agrees.holding⟩
  · intro row member
    obtain ⟨e, inTable, id, user⟩ := agrees.source row member
    obtain ⟨new, after, step⟩ := forall₂_mem_left retired inTable
    rcases step with rfl | rfl | rfl
    · exact ⟨_, after, id, user⟩
    · exact ⟨_, after, id, user⟩
    · exact ⟨_, after, id, user⟩
  · intro e member
    obtain ⟨old, inTable, -, user, -⟩ := from_ e member
    rw [user]
    exact agrees.owner old inTable
  · intro e member
    obtain ⟨old, inTable, id, -, consumed, -⟩ := from_ e member
    rw [id, consumed]
    exact agrees.counted old inTable
  · intro e member
    obtain ⟨old, inTable, -, -, consumed, quantity, -⟩ := from_ e member
    rw [consumed, quantity]
    exact agrees.within old inTable
  · intro e member status
    obtain ⟨old, inTable, -, -, consumed, quantity, same | other | other⟩ := from_ e member
    · rw [consumed, quantity]
      exact agrees.active old inTable (same ▸ status)
    · simp [status] at other
    · simp [status] at other
  · intro e member status
    obtain ⟨old, inTable, -, -, consumed, quantity, same | other | other⟩ := from_ e member
    · rw [consumed, quantity]
      exact agrees.depleted old inTable (same ▸ status)
    · simp [status] at other
    · simp [status] at other
  · intro user member
    rw [consumedBy_retires retired]
    exact agrees.used user member

theorem Agrees.keep (agrees : Agrees s) {reservations : Table Reservation.reservationId}
    (kept : List.Forall₂ Reservation.Keeps s.reservations.rows reservations.rows) :
    Agrees { s with reservations } := by
  refine ⟨?_, agrees.owner, ?_, agrees.within, agrees.active, agrees.depleted, agrees.used, ?_⟩
  · intro row member
    obtain ⟨old, inTable, step⟩ := forall₂_mem_right kept member
    obtain ⟨e, found, id, user⟩ := agrees.source old inTable
    rcases step with rfl | ⟨source, owner, -⟩
    · exact ⟨e, found, id, user⟩
    · exact ⟨e, found, id.trans source.symm, user.trans owner.symm⟩
  · intro e member
    exact (agrees.counted e member).trans (held_keeps kept e.entitlementId).symm
  · intro user member
    exact (agrees.holding user member).trans (heldBy_keeps kept user.userId).symm

/-- A reservation counts as one unit of its entitlement and of its user. -/
theorem Agrees.draw (agrees : Agrees s) {entitlement : ImageEntitlement} {row : Reservation}
    (found : entitlement ∈ s.imageEntitlements.rows)
    (room : entitlement.consumedQuantity < entitlement.quantity)
    (source : row.entitlementId = entitlement.entitlementId) (owner : row.userId = entitlement.userId)
    (reserved : row.status = .reserved)
    (fresh : row.reservationId ∉ s.reservations.rows.map Reservation.reservationId) :
    Agrees { s with
      imageEntitlements := s.imageEntitlements.put (drawnEntitlement entitlement)
      users := s.users.update (fun u => u.userId == entitlement.userId)
        (fun u => { u with imageGenerationsUsed := u.imageGenerationsUsed + 1 }) fun _ => rfl
      reservations := s.reservations.insert row fresh } := by
  have holds : row.holdsQuota = true := by simp [Reservation.holdsQuota, reserved]
  have here := Table.find_of_mem found
  have heldNow : ∀ id, held (s.reservations.insert row fresh).rows id =
      held s.reservations.rows id + if entitlement.entitlementId = id then 1 else 0 := by
    intro id
    simp only [held, Table.insert_rows, total_append, total_cons, total_nil, holds, source, and_true, add_zero]
  have heldByNow : ∀ id, heldBy (s.reservations.insert row fresh).rows id =
      heldBy s.reservations.rows id + if entitlement.userId = id then 1 else 0 := by
    intro id
    simp only [heldBy, Table.insert_rows, total_append, total_cons, total_nil, holds, owner, and_true, add_zero]
  have written : s.imageEntitlements.find (drawnEntitlement entitlement).entitlementId = some entitlement := here
  have consumedNow : ∀ id, consumedBy (s.imageEntitlements.put (drawnEntitlement entitlement)).rows id =
      consumedBy s.imageEntitlements.rows id + if entitlement.userId = id then 1 else 0 := by
    intro id
    have step := consumedBy_put written rfl id
    have one : (drawnEntitlement entitlement).consumedQuantity = entitlement.consumedQuantity + 1 := rfl
    rw [one] at step
    split_ifs at step ⊢
    · omega
    · omega
  have users : ∀ {weight : UserId → Nat}, (∀ user ∈ s.users.rows, user.imageGenerationsUsed +
      (if entitlement.userId = user.userId then 1 else 0) = weight user.userId) →
      ∀ user ∈ (updateWhere (fun u : User => u.userId == entitlement.userId)
        (fun u => { u with imageGenerationsUsed := u.imageGenerationsUsed + 1 }) s.users.rows),
          user.imageGenerationsUsed = weight user.userId := by
    intro weight counted user member
    rcases mem_updateWhere.mp member with ⟨before, other⟩ | ⟨old, before, mine, rfl⟩
    · have at_ := counted user before
      rw [if_neg fun same => by simp [same] at other] at at_
      exact at_
    · have at_ := counted old before
      have same : old.userId = entitlement.userId := by simpa using mine
      rw [if_pos same.symm] at at_
      exact at_
  have holder : ∀ userId, (∃ user ∈ s.users.rows, user.userId = userId) →
      ∃ user ∈ (updateWhere (fun u : User => u.userId == entitlement.userId)
        (fun u => { u with imageGenerationsUsed := u.imageGenerationsUsed + 1 }) s.users.rows),
          user.userId = userId := by
    rintro userId ⟨user, inTable, same⟩
    by_cases mine : user.userId = entitlement.userId
    · exact ⟨_, mem_updateWhere.mpr (.inr ⟨user, inTable, by simpa using mine, rfl⟩), same⟩
    · exact ⟨user, mem_updateWhere.mpr (.inl ⟨inTable, by simpa using mine⟩), same⟩
  refine ⟨?_, forall_put (fun e before _ => holder _ (agrees.owner e before)) (holder _ (agrees.owner entitlement found)),
    forall_put (fun e before other => ?_) ?_, forall_put (fun e before _ => agrees.within e before) room,
    forall_put (fun e before _ => agrees.active e before) (fun status => ?_),
    forall_put (fun e before _ => agrees.depleted e before) (fun status => ?_), ?_, ?_⟩
  · intro other member
    refine source_put written rfl ?_
    rcases List.mem_append.mp member with before | new
    · exact agrees.source other before
    · rw [List.mem_singleton.mp new]
      exact ⟨entitlement, found, source.symm, owner.symm⟩
  · rw [heldNow, agrees.counted e before, if_neg fun same => other same.symm]
    rfl
  · rw [heldNow]
    show entitlement.consumedQuantity + 1 = _
    rw [agrees.counted entitlement found, drawnEntitlement, if_pos rfl]
  · simp only [drawnEntitlement] at status ⊢
    split at status
    · cases status
    · omega
  · simp only [drawnEntitlement] at status ⊢
    split at status
    · omega
    · cases status
  · refine users fun user member => ?_
    rw [consumedNow, agrees.used user member]
  · refine users fun user member => ?_
    rw [heldByNow, agrees.holding user member]

/-- A release takes one unit back from the entitlement and from the user. -/
theorem Agrees.giveBack (agrees : Agrees s) {row : Reservation} {entitlement : ImageEntitlement} {user : User}
    (reason : String) (reserved : row ∈ s.reservations.rows) (holds : row.holdsQuota = true)
    (drawn : s.imageEntitlements.find row.entitlementId = some entitlement)
    (inUse : entitlement.consumedQuantity ≠ 0) (found : s.users.find row.userId = some user) :
    Agrees { s with
      imageEntitlements := s.imageEntitlements.put (restoredEntitlement s.now entitlement)
      users := s.users.put { user with imageGenerationsUsed := user.imageGenerationsUsed - 1 }
      reservations := s.reservations.put (releasedReservation s.now row reason) } := by
  have entitled := Table.find_mem drawn
  have source := Table.find_key drawn
  have owned : entitlement.userId = row.userId := by
    obtain ⟨e, inTable, id, same⟩ := agrees.source row reserved
    rw [← eq_of_key_eq s.imageEntitlements.unique inTable entitled (id.trans source.symm), same]
  have released : (releasedReservation s.now row reason).holdsQuota = false := rfl
  have here := Table.find_of_mem reserved
  have listed : s.reservations.find (releasedReservation s.now row reason).reservationId = some row := here
  have heldNow := held_put listed rfl holds released
  have heldByNow := heldBy_put listed rfl holds released
  have written : s.imageEntitlements.find (restoredEntitlement s.now entitlement).entitlementId =
      some entitlement := Table.find_of_mem entitled
  have consumedNow : ∀ id, consumedBy (s.imageEntitlements.put (restoredEntitlement s.now entitlement)).rows id +
      (if row.userId = id then 1 else 0) = consumedBy s.imageEntitlements.rows id := by
    intro id
    have step := consumedBy_put written rfl id
    have one : (restoredEntitlement s.now entitlement).consumedQuantity = entitlement.consumedQuantity - 1 := rfl
    rw [one, owned] at step
    split_ifs at step ⊢
    · omega
    · omega
  have userKey := Table.find_key found
  have within := agrees.within entitlement entitled
  have holder : ∀ userId, (∃ u ∈ s.users.rows, u.userId = userId) →
      ∃ u ∈ (s.users.put { user with imageGenerationsUsed := user.imageGenerationsUsed - 1 }).rows,
        u.userId = userId := by
    rintro _ ⟨u, inTable, rfl⟩
    by_cases mine : u.userId = user.userId
    · exact ⟨_, Table.mem_put.mpr (.inr ⟨rfl, u, inTable, mine⟩), mine.symm⟩
    · exact ⟨u, Table.mem_put.mpr (.inl ⟨inTable, mine⟩), rfl⟩
  refine ⟨?_,
    forall_put (fun e before _ => holder _ (agrees.owner e before)) (holder _ (agrees.owner entitlement entitled)),
    forall_put (fun e before other => ?_) ?_, forall_put (fun e before _ => agrees.within e before) ?_,
    forall_put (fun e before _ => agrees.active e before) (fun _ => ?_),
    forall_put (fun e before _ => agrees.depleted e before) (fun status => ?_), ?_, ?_⟩
  · intro other member
    refine source_put written rfl ?_
    rcases Table.mem_put.mp member with ⟨before, -⟩ | ⟨rfl, -⟩
    · exact agrees.source other before
    · exact agrees.source row reserved
  · have at_ := heldNow e.entitlementId
    rw [if_neg fun mine => other (mine.symm.trans source.symm)] at at_
    rw [agrees.counted e before, ← at_]
    rfl
  · have at_ := heldNow entitlement.entitlementId
    have counted := agrees.counted entitlement entitled
    rw [if_pos source.symm] at at_
    exact Nat.sub_eq_of_eq_add (counted.trans at_.symm)
  · show entitlement.consumedQuantity - 1 ≤ entitlement.quantity
    omega
  · show entitlement.consumedQuantity - 1 < entitlement.quantity
    omega
  · -- A full entitlement that gets a unit back is full no more.
    simp only [restoredEntitlement] at status
    split at status
    · split at status
      · cases status
      · cases status
    · rename_i full
      exact absurd status full
  · intro other member
    rcases Table.mem_put.mp member with ⟨before, apart⟩ | ⟨rfl, -⟩
    · have at_ := consumedNow other.userId
      rw [if_neg (fun mine => apart (mine.symm.trans userKey.symm))] at at_
      rw [agrees.used other before, ← at_]
      rfl
    · have at_ := consumedNow user.userId
      have used := agrees.used user (Table.find_mem found)
      rw [if_pos userKey.symm] at at_
      exact Nat.sub_eq_of_eq_add (used.trans at_.symm)
  · intro other member
    rcases Table.mem_put.mp member with ⟨before, apart⟩ | ⟨rfl, -⟩
    · have at_ := heldByNow other.userId
      rw [if_neg (fun mine => apart (mine.symm.trans userKey.symm))] at at_
      rw [agrees.holding other before, ← at_]
      rfl
    · have at_ := heldByNow user.userId
      have used := agrees.holding user (Table.find_mem found)
      rw [if_pos userKey.symm] at at_
      exact Nat.sub_eq_of_eq_add (used.trans at_.symm)

theorem Agrees.move (agrees : Agrees s) (move : Move s s') : Agrees s' := by
  cases move with
  | clock elapsed => exact ⟨agrees.source, agrees.owner, agrees.counted, agrees.within, agrees.active,
      agrees.depleted, agrees.used, agrees.holding⟩
  | signUp userId => exact agrees.signUp userId
  | grant found positive unused active _ fresh => exact agrees.grant found positive unused active fresh
  | retire imageEntitlements retired => exact agrees.retire retired
  | draw found _ room source owner reserved fresh =>
    exact agrees.draw found room source owner reserved fresh
  | keep reservations kept => exact agrees.keep kept
  | giveBack reason reserved holds drawn inUse found _ =>
    exact agrees.giveBack reason reserved holds drawn inUse found

/-- A released reservation keeps its row as it is. -/
theorem released_move {row : Reservation} (move : Move s s') (member : row ∈ s.reservations.rows)
    (released : row.status = .released) : row ∈ s'.reservations.rows := by
  cases move with
  | clock elapsed => exact member
  | signUp userId => exact member
  | grant _ _ _ _ _ _ => exact member
  | retire imageEntitlements retired => exact member
  | draw _ _ _ _ _ _ fresh => exact List.mem_append_left _ member
  | keep reservations kept =>
    obtain ⟨new, after, step⟩ := forall₂_mem_left kept member
    rcases step with rfl | ⟨-, -, holds, -⟩
    · exact after
    · exact absurd released (Reservation.holdsQuota_iff.mp holds)
  | @giveBack other _ _ reason reserved holds drawn inUse found used =>
    refine Table.mem_put.mpr (.inl ⟨member, fun same => ?_⟩)
    have this : row = other := eq_of_key_eq s.reservations.unique member reserved same
    rw [this] at released
    exact Reservation.holdsQuota_iff.mp holds released

theorem Agrees.moves (agrees : Agrees s) (moves : Moves s s') : Agrees s' :=
  invariant_writes moves agrees fun _ _ before move => before.move move

theorem released_moves {row : Reservation} (moves : Moves s s') (member : row ∈ s.reservations.rows)
    (released : row.status = .released) : row ∈ s'.reservations.rows :=
  invariant_writes (I := fun s => row ∈ s.reservations.rows) moves member
    fun _ _ before move => released_move move before released

variable {cfg : Config} {sha256 : String → Digest} {state later : State}

theorem Reachable.agrees (reach : Reachable cfg sha256 state) : Agrees state.database := by
  induction reach with
  | start => exact agrees_start
  | next _ _ committed ih => exact ih.moves (step_moves committed)

theorem released_stays {row : Reservation} (reach : Reach (step cfg sha256) anyStep state later)
    (member : row ∈ state.database.reservations.rows) (released : row.status = .released) :
    row ∈ later.database.reservations.rows := by
  induction reach with
  | start => exact member
  | next _ _ committed ih => exact released_moves (step_moves committed) ih released

/-- A request about a reservation already released changes nothing. -/
theorem released_refused {row : Reservation} (member : row ∈ s.reservations.rows)
    (released : row.status = .released) (userId : UserId) (reason : String)
    (providerRequestId : Option String) :
    markGenerationDispatched cfg s userId row.reservationId = .ok (s, false) ∧
      commitGenerationReservation s row.reservationId providerRequestId = .ok (s, false) ∧
      releaseGenerationReservation s userId row.reservationId reason = .ok (s, false) := by
  have found := Table.find_of_mem member
  refine ⟨?_, ?_, ?_⟩
  · simp [markGenerationDispatched, found, released]
  · simp [commitGenerationReservation, found, released]
  · simp [releaseGenerationReservation, found, releaseReservationWithClient, released]

/-- A release of a reservation that holds its unit never finds the counters inconsistent. -/
theorem Agrees.release_succeeds (agrees : Agrees s) {row : Reservation} {reason : String}
    {expectedStatuses : List ReservationStatus} (member : row ∈ s.reservations.rows)
    (holds : row.holdsQuota = true) (expected : row.status ∈ expectedStatuses) :
    ∃ s', releaseReservationWithClient s row reason expectedStatuses = .ok (s', true) := by
  obtain ⟨e, drawn, id, owner⟩ := agrees.source row member
  obtain ⟨user, inTable, same⟩ := agrees.owner e drawn
  have entitled := Table.find_of_mem drawn
  have used := Table.find_of_mem inTable
  rw [id] at entitled
  rw [same, owner] at used
  have one : 1 ≤ held s.reservations.rows e.entitlementId := by
    have counts := Lib.le_total
      (f := fun r => if r.entitlementId = e.entitlementId ∧ r.holdsQuota = true then 1 else 0) member
    simp only [id, holds, and_self, if_true] at counts
    rw [id]
    exact counts
  have ours : 1 ≤ heldBy s.reservations.rows user.userId := by
    have counts := Lib.le_total
      (f := fun r => if r.userId = user.userId ∧ r.holdsQuota = true then 1 else 0) member
    rw [if_pos ⟨(owner.symm.trans same.symm), holds⟩] at counts
    exact counts
  have inUse : e.consumedQuantity ≠ 0 := by
    have counted := agrees.counted e drawn
    omega
  have usedSome : user.imageGenerationsUsed ≠ 0 := by
    have counted := agrees.holding user inTable
    omega
  simp [releaseReservationWithClient, expected, entitled, inUse, used, usedSome]

/-- In every reachable state the counters of an entitlement and of its user agree with the
reservations, and a reservation once released stays so: it is not dispatched, committed or released again. -/
theorem quota_agrees (reach : Reachable cfg sha256 state) :
    (∀ e ∈ state.database.imageEntitlements.rows,
      e.consumedQuantity = held state.database.reservations.rows e.entitlementId ∧
      e.consumedQuantity ≤ e.quantity ∧
      (e.status ≠ .revoked → e.status ≠ .expired → (e.status = .depleted ↔ e.consumedQuantity = e.quantity)) ∧
      e.consumedQuantity + givenBack state.database.reservations.rows e.entitlementId =
        made state.database.reservations.rows e.entitlementId) ∧
    (∀ user ∈ state.database.users.rows,
      user.imageGenerationsUsed = consumedBy state.database.imageEntitlements.rows user.userId ∧
      user.imageGenerationsUsed = heldBy state.database.reservations.rows user.userId) ∧
    ∀ row ∈ state.database.reservations.rows, row.status = .released →
      ∀ later, Reach (step cfg sha256) anyStep state later →
        row ∈ later.database.reservations.rows ∧
        ∀ userId reason providerRequestId,
          markGenerationDispatched cfg later.database userId row.reservationId = .ok (later.database, false) ∧
          commitGenerationReservation later.database row.reservationId providerRequestId =
            .ok (later.database, false) ∧
          releaseGenerationReservation later.database userId row.reservationId reason =
            .ok (later.database, false) := by
  have agrees := reach.agrees
  refine ⟨fun e member => ?_, fun user member => ⟨agrees.used user member, agrees.holding user member⟩, ?_⟩
  · have counted := agrees.counted e member
    refine ⟨counted, agrees.within e member, fun unrevoked unexpired => ⟨agrees.depleted e member, ?_⟩, ?_⟩
    · intro full
      have room := agrees.active e member
      cases status : e.status with
      | active =>
        have short := room status
        omega
      | depleted => rfl
      | expired => exact absurd status unexpired
      | revoked => exact absurd status unrevoked
    · rw [counted]
      exact held_add_givenBack _ _
  · intro row member released later run
    have still := released_stays run member released
    exact ⟨still, released_refused still released⟩

/-- Two reservations, one of them released: one unit is in use. -/
theorem quota_agrees_released :
    ∃ state, Reachable {} id state ∧ ∃ e ∈ state.database.imageEntitlements.rows,
      e.quantity = 2 ∧ e.consumedQuantity = 1 ∧ made state.database.reservations.rows e.entitlementId = 2 ∧
        e.consumedQuantity = held state.database.reservations.rows e.entitlementId := by
  obtain ⟨state, reach, passes⟩ := exists_reach (step {} id) {}
    (fun state => state.database.imageEntitlements.rows.any fun e =>
      e.quantity == 2 && e.consumedQuantity == 1 && made state.database.reservations.rows e.entitlementId == 2)
    [.signUp "user", .grant { userId := "user", sourceType := "starter", sourceReferenceId := "user", quantity := 2 },
      .reserve "user" "first", .release "user" "first" "pre_dispatch_failure", .reserve "user" "second",
      .dispatch "user" "second"] (by decide)
  obtain ⟨e, member, checks⟩ := List.any_eq_true.mp passes
  simp only [Bool.and_eq_true, beq_iff_eq] at checks
  obtain ⟨⟨quantity, consumed⟩, both⟩ := checks
  exact ⟨state, reach, e, member, quantity, consumed, both, ((quota_agrees reach).1 e member).1⟩

end LetterIRL.Images
