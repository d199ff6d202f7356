import LetterIRL.Images.Resolution
import LetterIRL.Lib.Evolve
import LetterIRL.Lib.Outcome

namespace LetterIRL.Images
open Lib Operator Relation

/-! The changes a transaction of the image service is made of. -/

/-- A reservation in a quota-holding state. -/
def Reservation.holdsQuota (row : Reservation) : Bool :=
  row.status ∈ [ReservationStatus.reserved, .dispatched, .consumed, .ambiguous]

/-- A row of a reservation that keeps its unit, or is left as it is. -/
def Reservation.Keeps (old new : Reservation) : Prop :=
  new = old ∨ new.entitlementId = old.entitlementId ∧ new.userId = old.userId ∧
    old.holdsQuota = true ∧ new.holdsQuota = true

/-- A row of an entitlement that expires, is revoked, or is left as it is. -/
def ImageEntitlement.Retires (old new : ImageEntitlement) : Prop :=
  new = old ∨ new = { old with status := .revoked } ∨ new = { old with status := .expired }

def releasedReservation (now : Time) (row : Reservation) (reason : String) : Reservation :=
  { row with
    status := .released
    completedAt := some now
    leaseExpiresAt := none
    resolutionReason := some reason }

/-- One change, with what the code around it checked. -/
inductive Move (s : Database) : Database → Prop
  | clock (elapsed : Time) : Move s { s with now := s.now + elapsed }
  | signUp (userId : UserId) : Move s { s with users := s.users.insertNew { userId } }
  | grant {entitlement : ImageEntitlement} {user : User} (found : s.users.find entitlement.userId = some user)
      (positive : 0 < entitlement.quantity) (unused : entitlement.consumedQuantity = 0)
      (active : entitlement.status = .active)
      (next : entitlement.entitlementId = s.imageEntitlements.nextKey)
      (fresh : entitlement.entitlementId ∉ s.imageEntitlements.rows.map ImageEntitlement.entitlementId) :
      Move s { s with imageEntitlements := s.imageEntitlements.insert entitlement fresh }
  | retire (imageEntitlements : Table ImageEntitlement.entitlementId)
      (retired : List.Forall₂ ImageEntitlement.Retires s.imageEntitlements.rows imageEntitlements.rows) :
      Move s { s with imageEntitlements }
  | draw {entitlement : ImageEntitlement} {row : Reservation}
      (found : entitlement ∈ s.imageEntitlements.rows) (active : entitlement.status = .active)
      (room : entitlement.consumedQuantity < entitlement.quantity)
      (source : row.entitlementId = entitlement.entitlementId) (owner : row.userId = entitlement.userId)
      (reserved : row.status = .reserved)
      (fresh : row.reservationId ∉ s.reservations.rows.map Reservation.reservationId) :
      Move s { s with
        imageEntitlements := s.imageEntitlements.put (drawnEntitlement entitlement)
        users := s.users.update (fun u => u.userId == entitlement.userId)
          (fun u => { u with imageGenerationsUsed := u.imageGenerationsUsed + 1 }) fun _ => rfl
        reservations := s.reservations.insert row fresh }
  | keep (reservations : Table Reservation.reservationId)
      (kept : List.Forall₂ Reservation.Keeps s.reservations.rows reservations.rows) :
      Move s { s with reservations }
  | giveBack {row : Reservation} {entitlement : ImageEntitlement} {user : User} (reason : String)
      (reserved : row ∈ s.reservations.rows) (holds : row.holdsQuota = true)
      (drawn : s.imageEntitlements.find row.entitlementId = some entitlement)
      (inUse : entitlement.consumedQuantity ≠ 0) (found : s.users.find row.userId = some user)
      (used : user.imageGenerationsUsed ≠ 0) :
      Move s { s with
        imageEntitlements := s.imageEntitlements.put (restoredEntitlement s.now entitlement)
        users := s.users.put { user with imageGenerationsUsed := user.imageGenerationsUsed - 1 }
        reservations := s.reservations.put (releasedReservation s.now row reason) }

/-- The changes of one transaction, in order. -/
abbrev Moves : Database → Database → Prop := ReflTransGen Move

variable {cfg : Config} {s s' : Database}

theorem Reservation.Keeps.refl (row : Reservation) : Reservation.Keeps row row := .inl rfl

/-- Writing one row back keeps the others as they are. -/
theorem keeps_put {old new : Reservation} (found : s.reservations.find new.reservationId = some old)
    (kept : Reservation.Keeps old new) :
    List.Forall₂ Reservation.Keeps s.reservations.rows (s.reservations.put new).rows := by
  rw [Table.put_rows]
  refine forall₂_updateWhere Reservation.Keeps.refl fun row member hit => ?_
  have same : row = old := eq_of_key_eq s.reservations.unique member (Table.find_mem found)
    (by rw [Table.find_key found]; simpa using hit)
  rw [same]
  exact kept

theorem updateReservation_ok {row : Reservation} (committed : updateReservation s row = .ok s') :
    s' = { s with reservations := s.reservations.put row } := by
  unfold updateReservation at committed
  split at committed
  · cases committed
  · exact (Except.ok.inj committed).symm

theorem updateReservation_moves {old new : Reservation} (committed : updateReservation s new = .ok s')
    (found : s.reservations.find new.reservationId = some old) (kept : Reservation.Keeps old new) :
    Moves s s' := by
  rw [updateReservation_ok committed]
  exact .single (.keep _ (keeps_put found kept))

theorem Reservation.find_id {row : Reservation} {reservationId : ReservationId}
    (found : s.reservations.find reservationId = some row) :
    s.reservations.find row.reservationId = some row := by
  rw [Table.find_key found]
  exact found

theorem expireEntitlements_moves (userId : UserId) : Moves s (expireEntitlements s userId) := by
  refine .single (.retire _ (forall₂_updateWhere (fun _ => .inl rfl) fun row _ _ => ?_))
  exact .inr (.inr rfl)

theorem revokeEntitlements_moves (orderId : String) : Moves s (revokeEntitlements s orderId) := by
  refine .single (.retire _ (forall₂_updateWhere (fun _ => .inl rfl) fun row _ _ => ?_))
  exact .inr (.inl rfl)

theorem grantImageEntitlement_moves {params : GrantImageEntitlementParams}
    (committed : grantImageEntitlementWithClient s params = .ok s') : Moves s s' := by
  unfold grantImageEntitlementWithClient at committed
  split at committed
  · cases committed
    exact .refl
  rename_i some_
  split at committed
  · cases committed
    exact .refl
  split at committed
  · cases committed
  · rename_i user found
    cases committed
    exact .single (.grant found (Nat.pos_of_ne_zero some_) rfl rfl rfl _)

/-- The entitlement a reservation draws on is the user's, active and not full. -/
theorem availableEntitlement_spec {userId : UserId} {entitlement : ImageEntitlement}
    (available : availableEntitlement s userId = some entitlement) :
    entitlement ∈ s.imageEntitlements.rows ∧ entitlement.userId = userId ∧ entitlement.status = .active ∧
      entitlement.consumedQuantity < entitlement.quantity ∧ unexpired s.now entitlement = true := by
  have member := List.mem_of_head? available
  rw [List.mem_insertionSort, List.mem_filter] at member
  obtain ⟨inTable, checks⟩ := member
  simp only [Bool.and_eq_true, beq_iff_eq, decide_eq_true_eq] at checks
  obtain ⟨⟨⟨owner, active⟩, room⟩, unexpired⟩ := checks
  exact ⟨inTable, owner, active, room, unexpired⟩

theorem reserveGeneration_moves {userId : UserId} {reservationId : ReservationId}
    {result : GenerationReservation}
    (committed : reserveGeneration cfg s userId reservationId = .ok (s', result)) : Moves s s' := by
  have swept : Moves s (expireEntitlements s userId) := expireEntitlements_moves userId
  unfold reserveGeneration at committed
  dsimp only at committed
  split at committed
  · cases committed
    exact swept
  rename_i entitlement available
  split at committed
  · rename_i fresh
    cases committed
    obtain ⟨member, owner, active, room, -⟩ := availableEntitlement_spec available
    subst owner
    exact swept.tail (.draw member active room rfl rfl rfl fresh)
  · cases committed

theorem markGenerationDispatched_moves {userId : UserId} {reservationId : ReservationId} {marked : Bool}
    (committed : markGenerationDispatched cfg s userId reservationId = .ok (s', marked)) : Moves s s' := by
  unfold markGenerationDispatched at committed
  split at committed
  · cases committed
    exact .refl
  rename_i row found
  split at committed
  · rename_i due
    obtain ⟨after, updated, rest⟩ := bind_eq_ok.mp committed
    cases rest
    have here := Reservation.find_id found
    refine updateReservation_moves updated here (.inr ⟨rfl, rfl, ?_, rfl⟩)
    simp [Reservation.holdsQuota, due.2.1]
  · cases committed
    exact .refl

theorem commitGenerationReservation_moves {reservationId : ReservationId} {providerRequestId : Option String}
    {done : Bool}
    (committed : commitGenerationReservation s reservationId providerRequestId = .ok (s', done)) :
    Moves s s' := by
  unfold commitGenerationReservation at committed
  split at committed
  · cases committed
    exact .refl
  rename_i row found
  split at committed
  · rename_i open_
    obtain ⟨after, updated, rest⟩ := bind_eq_ok.mp committed
    cases rest
    have here := Reservation.find_id found
    refine updateReservation_moves updated here (.inr ⟨rfl, rfl, ?_, rfl⟩)
    rcases open_ with status | status
    · simp [Reservation.holdsQuota, status]
    · simp [Reservation.holdsQuota, status]
  · cases committed
    exact .refl

theorem markAmbiguous_moves {userId : UserId} {reservationId : ReservationId} {reason : String}
    {providerRequestId : Option String} {marked : Bool}
    (committed : markGenerationReservationAmbiguous s userId reservationId reason providerRequestId =
      .ok (s', marked)) : Moves s s' := by
  unfold markGenerationReservationAmbiguous at committed
  split at committed
  · cases committed
    exact .refl
  rename_i row found
  split at committed
  · rename_i ours
    obtain ⟨after, updated, rest⟩ := bind_eq_ok.mp committed
    cases rest
    have here := Reservation.find_id found
    refine updateReservation_moves updated here (.inr ⟨rfl, rfl, ?_, rfl⟩)
    simp [Reservation.holdsQuota, ours.2]
  · cases committed
    exact .refl

/-- A release of a row as the table has it gives back its unit and changes no other reservation. -/
theorem releaseReservation_ok {row : Reservation} {reason : String}
    {expectedStatuses : List ReservationStatus} {released : Bool} (reserved : row ∈ s.reservations.rows)
    (holding : ∀ status ∈ expectedStatuses, status ≠ .released)
    (committed : releaseReservationWithClient s row reason expectedStatuses = .ok (s', released)) :
    Moves s s' ∧ ∀ other ∈ s.reservations.rows, other.reservationId ≠ row.reservationId →
      other ∈ s'.reservations.rows := by
  unfold releaseReservationWithClient at committed
  split at committed
  · cases committed
    exact ⟨.refl, fun _ member _ => member⟩
  rename_i expected
  rw [not_not] at expected
  split at committed
  · cases committed
  rename_i entitlement drawn
  split at committed
  · cases committed
  rename_i inUse
  split at committed
  · cases committed
  rename_i user found
  split at committed
  · cases committed
  rename_i used
  cases committed
  have holds : row.holdsQuota = true := by
    have notReleased := holding _ expected
    unfold Reservation.holdsQuota
    cases status : row.status with
    | released => exact absurd status notReleased
    | reserved => rfl
    | dispatched => rfl
    | consumed => rfl
    | ambiguous => rfl
  have written : s.reservations.update
      (fun r => r.reservationId == row.reservationId && decide (r.status ∈ expectedStatuses))
      (fun r => releasedReservation s.now r reason) (fun _ => rfl) =
        s.reservations.put (releasedReservation s.now row reason) :=
    Table.update_eq_put reserved (by simp [expected]) fun other _ hit => by
      simp only [Bool.and_eq_true, beq_iff_eq] at hit
      exact hit.1
  refine ⟨?_, ?_⟩
  · simp only [releasedReservation] at written
    rw [written]
    exact .single (.giveBack reason reserved holds drawn inUse found used)
  · intro other member differ
    refine mem_updateWhere.mpr (.inl ⟨member, ?_⟩)
    simp [differ]

theorem releaseGenerationReservation_moves {userId : UserId} {reservationId : ReservationId} {reason : String}
    {released : Bool}
    (committed : releaseGenerationReservation s userId reservationId reason = .ok (s', released)) :
    Moves s s' := by
  unfold releaseGenerationReservation at committed
  split at committed
  · cases committed
    exact .refl
  rename_i row found
  split at committed
  · cases committed
    exact .refl
  · exact (releaseReservation_ok (Table.find_mem found) (by decide) committed).1

/-- The releases of a reconciliation, of distinct rows of the table. -/
theorem releaseStale_moves {rows : List Reservation} (committed : releaseStale s rows = .ok s')
    (inTable : ∀ row ∈ rows, row ∈ s.reservations.rows)
    (distinct : (rows.map Reservation.reservationId).Nodup) : Moves s s' := by
  induction rows generalizing s with
  | nil =>
    cases committed
    exact .refl
  | cons row rows ih =>
    obtain ⟨⟨after, released⟩, first, rest⟩ := bind_eq_ok.mp committed
    obtain ⟨apart, later⟩ := List.nodup_cons.mp distinct
    obtain ⟨moves, others⟩ := releaseReservation_ok (inTable row List.mem_cons_self) (by decide) first
    refine moves.trans (ih rest ?_ later)
    intro other member
    refine others other (inTable other (List.mem_cons_of_mem _ member)) fun same => ?_
    exact apart (List.mem_map.mpr ⟨other, member, same⟩)

/-- What a query of a table selects, sorted and cut off, are rows of it. -/
theorem selected_mem {selected : Reservation → Bool} {order : Reservation → Reservation → Prop}
    [DecidableRel order] {limit : Nat} {row : Reservation}
    (member : row ∈ ((s.reservations.rows.filter selected).insertionSort order).take limit) :
    row ∈ s.reservations.rows ∧ selected row = true := by
  have sorted := List.mem_of_mem_take member
  rw [List.mem_insertionSort, List.mem_filter] at sorted
  exact sorted

/-- And it selects no row twice. -/
theorem selected_distinct {selected : Reservation → Bool} {order : Reservation → Reservation → Prop}
    [DecidableRel order] {limit : Nat} :
    ((((s.reservations.rows.filter selected).insertionSort order).take limit).map
      Reservation.reservationId).Nodup := by
  refine List.Nodup.sublist ((List.take_sublist _ _).map _) ?_
  refine ((List.perm_insertionSort _ _).map _).nodup_iff.mpr ?_
  exact s.reservations.unique.sublist (List.filter_sublist.map _)

theorem markStale_moves {rows : List Reservation}
    (open_ : ∀ row ∈ rows, row ∈ s.reservations.rows ∧ row.status = .dispatched) :
    Moves s (markStale s rows) := by
  refine .single (.keep _ (forall₂_updateWhere Reservation.Keeps.refl fun row member hit => ?_))
  obtain ⟨marked, inRows, same⟩ := List.any_eq_true.mp hit
  obtain ⟨inTable, status⟩ := open_ marked inRows
  have this : marked = row := eq_of_key_eq s.reservations.unique inTable member (by simpa using same)
  rw [this] at status
  exact .inr ⟨rfl, rfl, by simp [Reservation.holdsQuota, status], rfl⟩

theorem reconcile_moves {limit : Nat} {skipLocked : List ReservationId}
    (committed : reconcileGenerationReservations s limit skipLocked = .ok s') : Moves s s' := by
  unfold reconcileGenerationReservations at committed
  obtain ⟨released, first, rest⟩ := bind_eq_ok.mp committed
  cases rest
  refine (releaseStale_moves first (fun row member => (selected_mem member).1) selected_distinct).trans ?_
  refine markStale_moves fun row member => ?_
  obtain ⟨inTable, checks⟩ := selected_mem member
  simp only [Bool.and_eq_true, beq_iff_eq] at checks
  exact ⟨inTable, checks.1.1⟩

theorem applyResolution_moves {row : Reservation} {params : ResolveAmbiguousGenerationReservationParams}
    (reserved : row ∈ s.reservations.rows) (ambiguous : row.status = .ambiguous)
    (committed : applyResolution s row params = .ok s') : Moves s s' := by
  unfold applyResolution at committed
  split at committed
  · cases committed
    have here := Table.find_of_mem reserved
    exact .single (.keep _ (keeps_put here
      (.inr ⟨rfl, rfl, by simp [Reservation.holdsQuota, ambiguous], rfl⟩)))
  · obtain ⟨⟨after, released⟩, first, rest⟩ := bind_eq_ok.mp committed
    cases rest
    exact (releaseReservation_ok reserved (by decide) first).1

theorem resolve_moves {sha256 : String → Digest} {audit audit' : Audit}
    {params : ResolveAmbiguousGenerationReservationParams} {result : AmbiguousGenerationResolutionResult}
    (committed : resolveAmbiguousGenerationReservation sha256 s audit params = .ok (s', audit', result)) :
    Moves s s' := by
  unfold resolveAmbiguousGenerationReservation at committed
  split at committed
  · cases committed
  split at committed
  · cases committed
  split at committed
  · obtain ⟨_, _, rest⟩ := bind_eq_ok.mp committed
    cases rest
    exact .refl
  split at committed
  · cases committed
  rename_i row found
  split at committed
  · cases committed
  split at committed
  · cases committed
  rename_i ambiguous
  obtain ⟨resolved, applied, rest⟩ := bind_eq_ok.mp committed
  split at rest
  · cases rest
  · cases rest
    exact applyResolution_moves (Table.find_mem found) (not_not.mp ambiguous) applied

theorem withDatabase_ok {state state' : State} {result : Except Abort Database}
    (committed : state.withDatabase result = .ok state') : result = .ok state'.database := by
  obtain ⟨database, rfl, rfl⟩ := map_eq_ok committed
  rfl

/-- Every committed transaction is a chain of moves. -/
theorem step_moves {sha256 : String → Digest} {state state' : State} {event : Event}
    (committed : step cfg sha256 state event = .ok state') : Moves state.database state'.database := by
  cases event with
  | tick elapsed =>
    cases committed
    exact .single (.clock elapsed)
  | signUp userId =>
    cases committed
    exact .single (.signUp userId)
  | grant params => exact grantImageEntitlement_moves (withDatabase_ok committed)
  | reserve userId reservationId =>
    obtain ⟨⟨after, result⟩, reserved, rfl⟩ := map_eq_ok (withDatabase_ok committed)
    exact reserveGeneration_moves reserved
  | dispatch userId reservationId =>
    obtain ⟨⟨after, result⟩, dispatched, rfl⟩ := map_eq_ok (withDatabase_ok committed)
    exact markGenerationDispatched_moves dispatched
  | commit reservationId providerRequestId =>
    obtain ⟨⟨after, result⟩, done, rfl⟩ := map_eq_ok (withDatabase_ok committed)
    exact commitGenerationReservation_moves done
  | release userId reservationId reason =>
    obtain ⟨⟨after, result⟩, released, rfl⟩ := map_eq_ok (withDatabase_ok committed)
    exact releaseGenerationReservation_moves released
  | markAmbiguous userId reservationId reason providerRequestId =>
    obtain ⟨⟨after, result⟩, marked, rfl⟩ := map_eq_ok (withDatabase_ok committed)
    exact markAmbiguous_moves marked
  | reconcile limit skipLocked => exact reconcile_moves (withDatabase_ok committed)
  | resolve params =>
    obtain ⟨⟨after, audit, result⟩, resolved, rfl⟩ := map_eq_ok committed
    exact resolve_moves resolved
  | revoke orderId =>
    cases committed
    exact revokeEntitlements_moves orderId

end LetterIRL.Images
