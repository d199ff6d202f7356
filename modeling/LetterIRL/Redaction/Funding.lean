import LetterIRL.Commerce.Rows
import LetterIRL.Lib.Runs
import LetterIRL.Lib.Table
import LetterIRL.Mail.Erasure

namespace LetterIRL.Redaction.Funding
open Lib Commerce

/-! `fundingHold` over the columns it reads, whatever wrote them: `orders`, `credit_ledger`, `credit_transactions`
and `credit_consumption`. -/

/-- `credit_source_type`. -/
inductive SourceType
  | purchase
  | signupBonus
  | promo
  | adjustment
  | refund
  | legacy
  deriving DecidableEq

/-- `valid_transaction_type`. -/
inductive TransactionType
  | purchase
  | deduction
  | refund
  | adjustment
  deriving DecidableEq

/-- A row of `orders`. -/
structure OrderRow where
  orderId : OrderId
  status : OrderStatus
  deriving DecidableEq

/-- A row of `credit_ledger`; `reason` and `letterId` are keys of its `source_metadata`. -/
structure LedgerRow where
  ledgerId : Nat
  userId : Nat
  sourceType : SourceType
  sourceOrderId : Option OrderId := none
  reason : Option String := none
  letterId : Option Nat := none
  status : LotStatus := .active
  relatedLedgerId : Option Nat := none
  deriving DecidableEq

/-- A row of `credit_transactions`. -/
structure Transaction where
  transactionId : Nat
  userId : Nat
  type : TransactionType
  referenceType : Option String
  referenceId : Option Nat
  deriving DecidableEq

/-- A row of `credit_consumption`. -/
structure Consumption where
  transactionId : Nat
  ledgerId : Nat
  deriving DecidableEq

structure Books where
  orders : Table OrderRow.orderId := Table.empty
  creditLedger : Table LedgerRow.ledgerId := Table.empty
  creditTransactions : Table Transaction.transactionId := Table.empty
  creditConsumption : List Consumption := []

def SETTLED_ORDER_STATUSES : List OrderStatus := Mail.SETTLED_ORDER_STATUSES

def MONEY_BACKED_SOURCE_TYPES : List SourceType := [.purchase, .adjustment, .refund]

/-- How many returns `chain` goes back. -/
def CHAIN_LIMIT : Nat := 32

/-- `source_type = 'adjustment' AND source_metadata->>'reason' = 'send_failed'`. -/
def sendFailed (row : LedgerRow) : Bool := row.sourceType == .adjustment && row.reason == some "send_failed"

/-- The deductions of a letter, joined to the lots they drew from. -/
def consumedLots (books : Books) (letterId : Nat) : List (Transaction × LedgerRow) :=
  books.creditConsumption.filterMap fun consumption => do
    let txn ← books.creditTransactions.find consumption.transactionId
    let lot ← books.creditLedger.find consumption.ledgerId
    guard (txn.referenceType = some "letter" ∧ txn.type = .deduction ∧ txn.referenceId = some letterId)
    return (txn, lot)

/-- `WITH RECURSIVE chain`, from a row with so many depths left. -/
def chain (ledger : Table LedgerRow.ledgerId) : Nat → LedgerRow → List LedgerRow
  | 0, row => [row]
  | left + 1, row =>
    row :: if sendFailed row then
      match row.relatedLedgerId.bind ledger.find with
      | none => []
      | some up => chain ledger left up
    else []

/-- `ORDER BY chain.depth DESC LIMIT 1`. -/
def origin (ledger : Table LedgerRow.ledgerId) (lot : LedgerRow) : LedgerRow :=
  (chain ledger CHAIN_LIMIT lot).getLastD lot

/-- The condition on a lot and its origin, `orders` left-joined. -/
def lotHolds (books : Books) (lot : LedgerRow) : Bool :=
  let origin := origin books.creditLedger lot
  lot.status == .revoked ||
    match origin.sourceOrderId.bind books.orders.find with
    | none => decide (origin.sourceType ∈ MONEY_BACKED_SOURCE_TYPES)
    | some order => decide (order.status ∉ SETTLED_ORDER_STATUSES)

/-- `fundingHold`: there is no lot the letter was paid from that holds it. -/
def fundingHold (books : Books) (letterId : Nat) : Bool :=
  !(consumedLots books letterId).any fun consumed => lotHolds books consumed.2

/-! What is written. -/

def hasReturnedCreditsForLetter (books : Books) (letterId userId : Nat) : Bool :=
  books.creditLedger.rows.any fun row => row.userId == userId && sendFailed row && row.letterId == some letterId

/-- The row that gives a lot's credits back. -/
def returnedRow (letterId userId : Nat) (expired : LedgerRow → Bool) (lot : LedgerRow) : LedgerRow :=
  { ledgerId := 0, userId := userId, sourceType := .adjustment, reason := some "send_failed",
    letterId := some letterId, status := if expired lot then .expired else .active,
    relatedLedgerId := some lot.ledgerId }

/-- An `INSERT`, under a new id. -/
def post (ledger : Table LedgerRow.ledgerId) (row : LedgerRow) : Table LedgerRow.ledgerId :=
  ledger.insertNew { row with ledgerId := ledger.nextKey }

/-- `returnConsumedCreditsForLetter`; `expired` is the database clock's word on each lot. -/
def returnConsumedCreditsForLetter (books : Books) (letterId userId : Nat) (expired : LedgerRow → Bool) : Books :=
  if hasReturnedCreditsForLetter books letterId userId then books
  else
    let consumed := (consumedLots books letterId).filter fun consumed =>
      consumed.1.userId == userId && consumed.2.status != .revoked
    { books with
      creditLedger := (consumed.map fun consumed => returnedRow letterId userId expired consumed.2).foldl post
        books.creditLedger }

inductive BooksEvent
  | placeOrder (order : OrderRow)
  | setOrderStatus (orderId : OrderId) (status : OrderStatus)
  /-- `ON DELETE SET NULL`. -/
  | deleteOrder (orderId : OrderId)
  /-- A row no failed send gives back: a grant, the record of a refund, an operator's compensation. -/
  | grant (row : LedgerRow)
  /-- A transaction, with the lots it draws from. -/
  | transact (txn : Transaction) (lots : List Nat)
  | returnCredits (letterId userId : Nat) (expired : LedgerRow → Bool)
  | setLotStatus (ledgerId : Nat) (status : LotStatus)
  /-- A link written by hand, to any row or to none. -/
  | relink (ledgerId : Nat) (related : Option Nat)

inductive Refusal
  | taken
  | unknownOrder
  | unknownLot
  /-- The row is written by `returnConsumedCreditsForLetter` alone. -/
  | returned
  /-- `reject_purchase_grant_disowning`. -/
  | disowned
  deriving DecidableEq

def withoutOrder (row : LedgerRow) : LedgerRow := { row with sourceOrderId := none }

def withStatus (status : LotStatus) (row : LedgerRow) : LedgerRow := { row with status := status }

def withLink (related : Option Nat) (row : LedgerRow) : LedgerRow := { row with relatedLedgerId := related }

def step (books : Books) : BooksEvent → Except Refusal Books
  | .placeOrder order =>
    if order.orderId ∈ books.orders.rows.map OrderRow.orderId then .error .taken
    else .ok { books with orders := books.orders.insertNew order }
  | .setOrderStatus orderId status =>
    .ok { books with
      orders := books.orders.update (fun order => order.orderId == orderId)
        (fun order => { order with status := status }) fun _ => rfl }
  | .deleteOrder orderId =>
    if books.creditLedger.rows.any fun row => row.sourceOrderId == some orderId && row.sourceType == .purchase then
      .error .disowned
    else .ok { books with
      orders := books.orders.erase orderId
      creditLedger := books.creditLedger.update (fun row => row.sourceOrderId == some orderId) withoutOrder
        fun _ => rfl }
  | .grant row =>
    if sendFailed row then .error .returned
    else if row.sourceOrderId.all fun orderId : OrderId => (books.orders.find orderId).isSome then
      .ok { books with creditLedger := post books.creditLedger row }
    else .error .unknownOrder
  | .transact txn lots =>
    if txn.transactionId ∈ books.creditTransactions.rows.map Transaction.transactionId then .error .taken
    else if lots.all fun ledgerId => (books.creditLedger.find ledgerId).isSome then
      .ok { books with
        creditTransactions := books.creditTransactions.insertNew txn
        creditConsumption := books.creditConsumption ++ lots.map fun ledgerId => ⟨txn.transactionId, ledgerId⟩ }
    else .error .unknownLot
  | .returnCredits letterId userId expired => .ok (returnConsumedCreditsForLetter books letterId userId expired)
  | .setLotStatus ledgerId status =>
    .ok { books with
      creditLedger := books.creditLedger.update (fun row => row.ledgerId == ledgerId) (withStatus status)
        fun _ => rfl }
  | .relink ledgerId related =>
    if related.all fun up : Nat => (books.creditLedger.find up).isSome then
      .ok { books with
        creditLedger := books.creditLedger.update (fun row => row.ledgerId == ledgerId) (withLink related)
          fun _ => rfl }
    else .error .unknownLot

/-- Books that any writes in any order lead to. -/
def Reachable (books : Books) : Prop := Reach step anyStep {} books

/-! What the hold is for. -/

/-- Going back from a lot, through so many returns of failed sends. -/
inductive Follows (ledger : Table LedgerRow.ledgerId) : Nat → LedgerRow → LedgerRow → Prop
  | here {lot : LedgerRow} : Follows ledger 0 lot lot
  | back {count : Nat} {lot up first : LedgerRow} (returned : sendFailed lot = true)
      (linked : lot.relatedLedgerId = some up.ledgerId) (member : up ∈ ledger.rows)
      (rest : Follows ledger count up first) : Follows ledger (count + 1) lot first

/-- The lot that first paid, so many returns back. -/
def FirstPaid (ledger : Table LedgerRow.ledgerId) (count : Nat) (lot first : LedgerRow) : Prop :=
  Follows ledger count lot first ∧ sendFailed first = false

/-- The money of a lot that first paid cannot come back: its order is settled, or it was never money. -/
def Cleared (books : Books) (first : LedgerRow) : Prop :=
  (∃ order ∈ books.orders.rows, first.sourceOrderId = some order.orderId ∧ order.status ∈ SETTLED_ORDER_STATUSES) ∨
    (first.sourceOrderId = none ∧ first.sourceType ∉ MONEY_BACKED_SOURCE_TYPES)

/-- A deduction for the letter drew from the lot. -/
def PaidFrom (books : Books) (letterId : Nat) (lot : LedgerRow) : Prop :=
  ∃ txn ∈ books.creditTransactions.rows, txn.type = .deduction ∧ txn.referenceType = some "letter" ∧
    txn.referenceId = some letterId ∧ lot ∈ books.creditLedger.rows ∧
    (⟨txn.transactionId, lot.ledgerId⟩ : Consumption) ∈ books.creditConsumption

/-- What every write keeps of a row: a return names no order, and an order that is named is there. -/
structure Placed (orders : Table OrderRow.orderId) (row : LedgerRow) : Prop where
  unordered : sendFailed row = true → row.sourceOrderId = none
  placed : ∀ orderId, row.sourceOrderId = some orderId → ∃ order ∈ orders.rows, order.orderId = orderId

def Kept (books : Books) : Prop := ∀ row ∈ books.creditLedger.rows, Placed books.orders row

theorem Placed.same {orders : Table OrderRow.orderId} {row new : LedgerRow} (placed : Placed orders row)
    (failed : sendFailed new = sendFailed row) (order : new.sourceOrderId = row.sourceOrderId) :
    Placed orders new where
  unordered returned := order.trans (placed.unordered (failed ▸ returned))
  placed orderId named := placed.placed orderId (order ▸ named)

theorem Placed.later {before after : Table OrderRow.orderId} {row : LedgerRow} (placed : Placed before row)
    (kept : ∀ order ∈ before.rows, ∃ later ∈ after.rows, later.orderId = order.orderId) : Placed after row where
  unordered := placed.unordered
  placed orderId named := by
    obtain ⟨order, member, same⟩ := placed.placed orderId named
    obtain ⟨later, inAfter, again⟩ := kept order member
    exact ⟨later, inAfter, again.trans same⟩

theorem mem_post {ledger : Table LedgerRow.ledgerId} {row other : LedgerRow}
    (member : other ∈ (post ledger row).rows) :
    other ∈ ledger.rows ∨ other = { row with ledgerId := ledger.nextKey } := by
  unfold post at member
  rw [Table.insertNew_of_not_mem (Table.nextKey_fresh ledger)] at member
  simpa using member

theorem Placed.post {orders : Table OrderRow.orderId} {ledger : Table LedgerRow.ledgerId} {row : LedgerRow}
    (kept : ∀ other ∈ ledger.rows, Placed orders other) (placed : Placed orders row) :
    ∀ other ∈ (post ledger row).rows, Placed orders other := by
  intro other member
  rcases mem_post member with old | rfl
  · exact kept other old
  · exact placed.same rfl rfl

theorem returnedRow_placed (orders : Table OrderRow.orderId) (letterId userId : Nat) (expired : LedgerRow → Bool)
    (lot : LedgerRow) : Placed orders (returnedRow letterId userId expired lot) where
  unordered _ := rfl
  placed _ named := nomatch named

theorem Placed.posted {orders : Table OrderRow.orderId} (new : List LedgerRow)
    (placed : ∀ row ∈ new, Placed orders row) :
    ∀ {ledger : Table LedgerRow.ledgerId}, (∀ other ∈ ledger.rows, Placed orders other) →
      ∀ other ∈ (new.foldl Funding.post ledger).rows, Placed orders other := by
  induction new with
  | nil => exact fun kept => kept
  | cons row new ih =>
    intro ledger kept
    have once := Placed.post kept (placed row List.mem_cons_self)
    exact ih (fun later member => placed later (List.mem_cons_of_mem _ member)) once

/-- An update of lots that leaves their kind, reason and order as they were. -/
theorem Placed.update {orders : Table OrderRow.orderId} {ledger : Table LedgerRow.ledgerId}
    {selected : LedgerRow → Bool} (change : LedgerRow → LedgerRow)
    (fixed : ∀ row, (change row).ledgerId = row.ledgerId)
    (kept : ∀ row ∈ ledger.rows, Placed orders row) (failed : ∀ row, sendFailed (change row) = sendFailed row)
    (order : ∀ row, (change row).sourceOrderId = row.sourceOrderId) :
    ∀ row ∈ (ledger.update selected change fixed).rows, Placed orders row := by
  intro row member
  rw [Table.update_rows] at member
  rcases mem_updateWhere.mp member with ⟨old, -⟩ | ⟨old, inLedger, -, rfl⟩
  · exact kept row old
  · exact (kept old inLedger).same (failed old) (order old)

theorem step_kept {books after : Books} {event : BooksEvent} (kept : Kept books)
    (committed : step books event = .ok after) : Kept after := by
  cases event with
  | placeOrder order =>
    simp only [step] at committed
    split at committed
    · cases committed
    · cases committed
      intro row member
      exact (kept row member).later fun old inOrders => ⟨old, Table.mem_insertNew.mpr (.inl inOrders), rfl⟩
  | setOrderStatus orderId status =>
    cases committed
    intro row member
    refine (kept row member).later fun old inOrders => ?_
    by_cases chosen : (old.orderId == orderId) = true
    · exact ⟨{ old with status := status }, mem_updateWhere.mpr (.inr ⟨old, inOrders, chosen, rfl⟩), rfl⟩
    · exact ⟨old, mem_updateWhere.mpr (.inl ⟨inOrders, by simpa using chosen⟩), rfl⟩
  | deleteOrder orderId =>
    simp only [step] at committed
    split at committed
    · cases committed
    · cases committed
      intro row member
      rcases mem_updateWhere.mp member with ⟨old, other⟩ | ⟨old, inLedger, -, rfl⟩
      · refine ⟨(kept row old).unordered, fun named same => ?_⟩
        obtain ⟨order, inOrders, rfl⟩ := (kept row old).placed named same
        have differ : order.orderId ≠ orderId := by
          rintro rfl
          simp [same] at other
        exact ⟨order, Table.mem_erase.mpr ⟨inOrders, differ⟩, rfl⟩
      · exact ⟨fun _ => rfl, fun _ named => nomatch named⟩
  | grant row =>
    simp only [step] at committed
    split at committed
    · cases committed
    · rename_i first
      split at committed
      · rename_i found
        cases committed
        refine Placed.post kept ⟨fun returned => absurd returned first, fun orderId named => ?_⟩
        rw [named] at found
        obtain ⟨order, there⟩ := Option.isSome_iff_exists.mp found
        exact ⟨order, Table.find_mem there, Table.find_key there⟩
      · cases committed
  | transact txn lots =>
    simp only [step] at committed
    split at committed
    · cases committed
    · split at committed
      · cases committed
        exact kept
      · cases committed
  | returnCredits letterId userId expired =>
    cases committed
    unfold returnConsumedCreditsForLetter
    split
    · exact kept
    · refine Placed.posted _ (fun row member => ?_) kept
      obtain ⟨consumed, -, rfl⟩ := List.mem_map.mp member
      exact returnedRow_placed ..
  | setLotStatus ledgerId status =>
    cases committed
    exact Placed.update (withStatus status) (fun _ => rfl) kept (fun _ => rfl) fun _ => rfl
  | relink ledgerId related =>
    simp only [step] at committed
    split at committed
    · cases committed
      exact Placed.update (withLink related) (fun _ => rfl) kept (fun _ => rfl) fun _ => rfl
    · cases committed

theorem Reachable.kept {books : Books} (reach : Reachable books) : Kept books :=
  reach.invariant (fun _ member => nomatch member) fun _ _ _ kept _ committed => step_kept kept committed

/-! The chain ends where going back ends. -/

variable {ledger : Table LedgerRow.ledgerId} {lot first : LedgerRow} {books : Books}

theorem chain_ne_nil (left : Nat) (row : LedgerRow) : chain ledger left row ≠ [] := by
  cases left <;> simp [chain]

/-- The end of a chain with a given number of steps left. -/
theorem chain_succ_last (left : Nat) (row : LedgerRow) (other : LedgerRow) :
    (chain ledger (left + 1) row).getLastD other =
      if sendFailed row then
        match row.relatedLedgerId.bind ledger.find with
        | none => row
        | some up => (chain ledger left up).getLastD other
      else row := by
  rw [chain]
  split
  · split
    · rfl
    · rename_i up _
      rw [List.getLastD_cons]
      obtain ⟨head, rest, cons⟩ : ∃ head rest, chain ledger left up = head :: rest :=
        List.exists_cons_of_ne_nil (chain_ne_nil left up)
      rw [cons, List.getLastD_cons, List.getLastD_cons]
  · rfl

/-- A first lot that few enough returns lead back to is the chain's end. -/
theorem chain_last_of_firstPaid {count : Nat} (paid : FirstPaid ledger count lot first) (other : LedgerRow) :
    ∀ left, count ≤ left → (chain ledger left lot).getLastD other = first := by
  obtain ⟨follows, ended⟩ := paid
  induction follows with
  | here =>
    intro left _
    cases left with
    | zero => rfl
    | succ left => rw [chain_succ_last, if_neg (by simp [ended])]
  | @back count lot up first returned linked member rest ih =>
    intro left within
    obtain ⟨left, rfl⟩ : ∃ smaller, left = smaller + 1 := ⟨left - 1, by omega⟩
    have found : lot.relatedLedgerId.bind ledger.find = some up := by
      rw [linked]
      exact Table.find_of_mem member
    rw [chain_succ_last, if_pos returned, found]
    exact ih ended left (by omega)

/-- The chain's end is a first lot, few enough returns back, or a return. -/
theorem chain_last_cases (other : LedgerRow) :
    ∀ left lot, lot ∈ ledger.rows → (chain ledger left lot).getLastD other ∈ ledger.rows ∧
      (sendFailed ((chain ledger left lot).getLastD other) = true ∨
        ∃ count ≤ left, FirstPaid ledger count lot ((chain ledger left lot).getLastD other)) := by
  intro left
  induction left with
  | zero =>
    intro lot member
    refine ⟨member, ?_⟩
    cases returned : sendFailed lot with
    | true => exact .inl returned
    | false => exact .inr ⟨0, le_rfl, .here, returned⟩
  | succ left ih =>
    intro lot member
    rw [chain_succ_last]
    split
    · rename_i returned
      split
      · exact ⟨member, .inl returned⟩
      · rename_i up linked
        obtain ⟨related, named, found⟩ := Option.bind_eq_some_iff.mp linked
        have inLedger := Table.find_mem found
        obtain ⟨there, again | ⟨count, within, follows, ended⟩⟩ := ih up inLedger
        · exact ⟨there, .inl again⟩
        · refine ⟨there, .inr ⟨count + 1, by omega, .back returned ?_ inLedger follows, ended⟩⟩
          rw [named, Table.find_key found]
    · rename_i notReturned
      exact ⟨member, .inr ⟨0, by omega, .here, by simpa using notReturned⟩⟩

/-- A lot does not hold exactly when it is not revoked, and its money cannot come back. -/
theorem lotHolds_eq_false_iff (kept : Kept books) (member : lot ∈ books.creditLedger.rows) :
    lotHolds books lot = false ↔ lot.status ≠ .revoked ∧
      ∃ count ≤ CHAIN_LIMIT, ∃ first, FirstPaid books.creditLedger count lot first ∧ Cleared books first := by
  have there : origin books.creditLedger lot ∈ books.creditLedger.rows :=
    (chain_last_cases lot CHAIN_LIMIT lot member).1
  have ends : sendFailed (origin books.creditLedger lot) = true ∨
      ∃ count ≤ CHAIN_LIMIT, FirstPaid books.creditLedger count lot (origin books.creditLedger lot) :=
    (chain_last_cases lot CHAIN_LIMIT lot member).2
  constructor
  · intro free
    unfold lotHolds at free
    simp only [Bool.or_eq_false_iff, beq_eq_false_iff_ne] at free
    obtain ⟨unrevoked, cleared⟩ := free
    refine ⟨unrevoked, ?_⟩
    rcases ends with returned | ⟨count, within, paid⟩
    · -- A return names no order, and is money.
      have type : (origin books.creditLedger lot).sourceType = .adjustment := by
        unfold sendFailed at returned
        simp only [Bool.and_eq_true, beq_iff_eq] at returned
        exact returned.1
      rw [(kept _ there).unordered returned, Option.bind_none, type] at cleared
      exact absurd cleared (by decide)
    · refine ⟨count, within, _, paid, ?_⟩
      cases named : (origin books.creditLedger lot).sourceOrderId with
      | none =>
        rw [named] at cleared
        exact .inr ⟨named, by simpa using cleared⟩
      | some orderId =>
        obtain ⟨order, inOrders, rfl⟩ := (kept _ there).placed orderId named
        rw [named, Option.bind_some, Table.find_of_mem inOrders] at cleared
        exact .inl ⟨order, inOrders, named, by simpa using cleared⟩
  · rintro ⟨unrevoked, count, within, first, paid, cleared⟩
    have last : origin books.creditLedger lot = first := chain_last_of_firstPaid paid lot CHAIN_LIMIT within
    unfold lotHolds
    rw [last]
    simp only [Bool.or_eq_false_iff, beq_eq_false_iff_ne]
    refine ⟨unrevoked, ?_⟩
    rcases cleared with ⟨order, inOrders, named, settled⟩ | ⟨named, unbacked⟩
    · rw [named, Option.bind_some, Table.find_of_mem inOrders]
      simpa using settled
    · rw [named, Option.bind_none]
      simpa using unbacked

theorem mem_consumedLots {letterId : Nat} :
    (∃ txn, (txn, lot) ∈ consumedLots books letterId) ↔ PaidFrom books letterId lot := by
  unfold consumedLots PaidFrom
  simp only [List.mem_filterMap, Option.bind_eq_bind, Option.bind_eq_some_iff, Option.guard_eq_some', Option.pure_def,
    Option.some.injEq, Prod.mk.injEq]
  constructor
  · rintro ⟨txn, consumption, member, t, foundTxn, l, foundLot, _, ⟨reference, type, id⟩, rfl, rfl⟩
    refine ⟨t, Table.find_mem foundTxn, type, reference, id, Table.find_mem foundLot, ?_⟩
    rw [Table.find_key foundTxn, Table.find_key foundLot]
    exact member
  · rintro ⟨txn, inTransactions, type, reference, id, inLedger, member⟩
    exact ⟨txn, _, member, txn, Table.find_of_mem inTransactions, lot, Table.find_of_mem inLedger, (),
      ⟨reference, type, id⟩, rfl, rfl⟩

theorem fundingHold_eq_true_iff {letterId : Nat} :
    fundingHold books letterId = true ↔ ∀ lot, PaidFrom books letterId lot → lotHolds books lot = false := by
  unfold fundingHold
  simp only [Bool.not_eq_true', List.any_eq_false, Bool.not_eq_true]
  constructor
  · intro none lot paid
    obtain ⟨txn, member⟩ := mem_consumedLots.mpr paid
    exact none _ member
  · rintro none ⟨txn, lot⟩ member
    exact none lot (mem_consumedLots.mp ⟨txn, member⟩)

/-! Where going back ends is determined. -/

/-- Going further back than the first lot is not possible, and going less far ends at a return. -/
theorem FirstPaid.follows {count more : Nat} {other : LedgerRow} (paid : FirstPaid ledger count lot first)
    (follows : Follows ledger more lot other) : more ≤ count ∧ FirstPaid ledger (count - more) other first := by
  induction follows generalizing count with
  | here => exact ⟨Nat.zero_le _, by simpa using paid⟩
  | @back more lot up other returned linked member _ ih =>
    obtain ⟨here, ended⟩ := paid
    cases here with
    | here =>
      rw [returned] at ended
      cases ended
    | @back count _ up' _ _ linked' member' rest =>
      have same : up' = up := by
        rw [linked', Option.some.injEq] at linked
        exact eq_of_key_eq ledger.unique member' member linked
      subst same
      obtain ⟨within, again⟩ := ih ⟨rest, ended⟩
      refine ⟨by omega, ?_⟩
      rwa [Nat.add_sub_add_right]

/-- What keeps going back from a lot from reaching money that cannot come back. -/
inductive Unfollowed (books : Books) (lot : LedgerRow) : Prop
  /-- The chain is longer than the limit. -/
  | long {count : Nat} {up : LedgerRow} (follows : Follows books.creditLedger count lot up)
      (beyond : CHAIN_LIMIT < count)
  /-- A return links no lot. -/
  | broken {count : Nat} {last : LedgerRow} (follows : Follows books.creditLedger count lot last)
      (returned : sendFailed last = true)
      (unlinked : ∀ up ∈ books.creditLedger.rows, last.relatedLedgerId ≠ some up.ledgerId)
  /-- An operator's compensation, whatever it links. -/
  | compensated {count : Nat} {first : LedgerRow} (paid : FirstPaid books.creditLedger count lot first)
      (type : first.sourceType = .adjustment) (unordered : first.sourceOrderId = none)

theorem Unfollowed.not_cleared (unfollowed : Unfollowed books lot) :
    ¬∃ count ≤ CHAIN_LIMIT, ∃ first, FirstPaid books.creditLedger count lot first ∧ Cleared books first := by
  rintro ⟨count, within, first, paid, cleared⟩
  cases unfollowed with
  | long follows beyond =>
    have := (paid.follows follows).1
    omega
  | broken follows returned unlinked =>
    obtain ⟨rest, ended⟩ := (paid.follows follows).2
    generalize count - _ = left at rest
    cases rest with
    | here =>
      rw [returned] at ended
      cases ended
    | back _ linked member _ => exact unlinked _ member linked
  | compensated paid' type unordered =>
    obtain ⟨rest, -⟩ := (paid.follows paid'.1).2
    generalize count - _ = left at rest
    cases rest with
    | here =>
      rcases cleared with ⟨order, -, named, -⟩ | ⟨-, unbacked⟩
      · rw [unordered] at named
        cases named
      · exact unbacked (by rw [type]; decide)
    | back returned =>
      rw [paid'.2] at returned
      cases returned

/-- In any ledger, a letter's content is let go exactly when no lot that paid for it was revoked and each goes back,
through returns of failed sends only, to a first lot whose money cannot come back. A lot that cannot be followed there
holds it. -/
theorem fundingHold_iff (reach : Reachable books) (letterId : Nat) :
    (fundingHold books letterId = true ↔ ∀ lot, PaidFrom books letterId lot → lot.status ≠ .revoked ∧
      ∃ count ≤ CHAIN_LIMIT, ∃ first, FirstPaid books.creditLedger count lot first ∧ Cleared books first) ∧
    ∀ lot, PaidFrom books letterId lot → Unfollowed books lot → fundingHold books letterId = false := by
  have exactly : fundingHold books letterId = true ↔ ∀ lot, PaidFrom books letterId lot → lot.status ≠ .revoked ∧
      ∃ count ≤ CHAIN_LIMIT, ∃ first, FirstPaid books.creditLedger count lot first ∧ Cleared books first := by
    rw [fundingHold_eq_true_iff]
    refine forall_congr' fun lot => ⟨fun free paid => ?_, fun clear paid => ?_⟩
    · obtain ⟨-, -, -, -, -, member, -⟩ := id paid
      exact (lotHolds_eq_false_iff reach.kept member).mp (free paid)
    · obtain ⟨-, -, -, -, -, member, -⟩ := id paid
      exact (lotHolds_eq_false_iff reach.kept member).mpr (clear paid)
  refine ⟨exactly, fun lot paid unfollowed => ?_⟩
  rw [Bool.eq_false_iff]
  intro free
  exact unfollowed.not_cleared (exactly.mp free lot paid).2

/-- A pack of a fulfilled order pays for letter 7; the send fails, and what it gave back pays for letter 8. -/
def twoLetters : List BooksEvent :=
  [.placeOrder ⟨.placed 1, .fulfilled⟩,
   .grant { ledgerId := 0, userId := 5, sourceType := .purchase, sourceOrderId := some (.placed 1) },
   .transact ⟨10, 5, .deduction, some "letter", some 7⟩ [1], .returnCredits 7 5 fun _ => false,
   .transact ⟨11, 5, .deduction, some "letter", some 8⟩ [2]]

theorem twoLetters_free : ∃ books, Reachable books ∧ fundingHold books 8 = true ∧
    (∀ lot, PaidFrom books 8 lot → lot.status ≠ .revoked ∧
      ∃ count ≤ CHAIN_LIMIT, ∃ first, FirstPaid books.creditLedger count lot first ∧ Cleared books first) ∧
    2 ≤ books.creditLedger.rows.length := by
  obtain ⟨books, reach, passes⟩ := exists_reach step {}
    (fun books => fundingHold books 8 && decide (2 ≤ books.creditLedger.rows.length)) twoLetters (by decide +kernel)
  simp only [Bool.and_eq_true, decide_eq_true_eq] at passes
  exact ⟨books, reach, passes.1, (fundingHold_iff reach 8).1.mp passes.1, passes.2⟩

end LetterIRL.Redaction.Funding
