import LetterIRL.Limits.Daily
import LetterIRL.Ledger.Account
import LetterIRL.Lib.Locks
import LetterIRL.Lib.Runs

namespace LetterIRL.Limits
open Lib Ledger Commerce

/-! `assertMailWithinDailyCaps`, and the transactions of every account that call it. -/

/-- A row of `letters`, as the caps count it. -/
structure CountedLetter where
  letterId : LetterId
  userId : UserId
  createdAt : Time
  fundingOrderId : Option OrderId := none
  deriving DecidableEq

/-- A row of `orders`, likewise. -/
structure CountedOrder where
  orderId : OrderId
  userId : UserId
  orderType : Commerce.OrderType
  status : OrderStatus
  checkoutExpiresAt : Option Time
  createdAt : Time
  deriving DecidableEq

structure MailRows where
  letters : List CountedLetter := []
  orders : List CountedOrder := []
  deriving DecidableEq

/-- A Pay & Send order still open, which will become a letter once paid. -/
def OPEN_MAIL_STATUSES : List OrderStatus := [.checkoutPending, .paid, .fulfillmentPending]

def letterCounts (scope : Option UserId) (now : Time) (letter : CountedLetter) : Bool :=
  scope.all (· == letter.userId) && decide (utcDayStart now ≤ letter.createdAt)

/-- `EXISTS (SELECT 1 FROM letters l WHERE l.funding_order_id = …)`. -/
def funded (letters : List CountedLetter) (orderId : OrderId) : Bool :=
  letters.any fun letter => letter.fundingOrderId == some orderId

/-- The orders counted with the letters; a checkout past its expiry is not. -/
def orderCounts (scope : Option UserId) (now : Time) (letters : List CountedLetter) (order : CountedOrder) : Bool :=
  scope.all (· == order.userId) && order.orderType == .jitMail && decide (order.status ∈ OPEN_MAIL_STATUSES) &&
    (order.status != .checkoutPending || order.checkoutExpiresAt.all (now < ·)) &&
    decide (utcDayStart now ≤ order.createdAt) && !funded letters order.orderId

/-- `mailTodayCount`, of one account or of all. -/
def mailTodayCount (scope : Option UserId) (openCheckouts : Bool) (now : Time) (rows : MailRows) : Nat :=
  rows.letters.countP (letterCounts scope now) +
    if openCheckouts then rows.orders.countP (orderCounts scope now rows.letters) else 0

/-- The limits `assertMailWithinDailyCaps` reads. -/
structure MailLimits where
  accountDailyMail : Nat
  globalDailyMail : Nat
  deriving DecidableEq

structure MailConfig where
  configuredDailyLimit : DailyLimitKey → Nat := BETA_CAP_DEFAULTS
  mailSendingEnabled : Bool := true
  /-- `hashtext` of an account's lock key; two accounts may share one. -/
  accountLockKey : UserId → Nat := id

def mailLimits (cfg : MailConfig) (overrides : List LimitOverride) (now : Time) (userId : UserId) : MailLimits where
  accountDailyMail := effectiveDailyLimit cfg.configuredDailyLimit overrides now .accountDailyMail (some userId)
  globalDailyMail := effectiveDailyLimit cfg.configuredDailyLimit overrides now .globalDailyMail (some userId)

/-- The advisory locks, taken in this order. -/
inductive DailyCapLock
  | accountDailyMail (key : Nat)
  | globalDailyMail
  deriving DecidableEq

/-- What a transaction writes before it checks the caps: the letter of a prepaid or a gift send, or a new
Pay & Send order, with the cancel of the draft's older one. -/
inductive MailWork
  | send (letterId : LetterId)
  | checkout (orderId : OrderId) (checkoutExpiresAt : Time) (cancelled : Option OrderId)
  deriving DecidableEq

/-- How far a transaction's check of the caps has come, statement by statement. -/
inductive Phase
  | written
  | limitsRead
  | accountLocked
  | accountCounted
  | globalLocked
  | checked
  deriving DecidableEq

structure MailTx where
  txId : Nat
  userId : UserId
  /-- `NOW()`: when it began. -/
  now : Time
  work : MailWork
  phase : Phase := .written
  limits : MailLimits := ⟨0, 0⟩
  deriving DecidableEq

def MailTx.lockKey (cfg : MailConfig) (tx : MailTx) : DailyCapLock := .accountDailyMail (cfg.accountLockKey tx.userId)

def MailTx.letters (tx : MailTx) : List CountedLetter :=
  match tx.work with
  | .send letterId => [{ letterId, userId := tx.userId, createdAt := tx.now }]
  | .checkout .. => []

def MailTx.orders (tx : MailTx) : List CountedOrder :=
  match tx.work with
  | .send _ => []
  | .checkout orderId checkoutExpiresAt _ =>
    [{ orderId, userId := tx.userId, orderType := .jitMail, status := .checkoutPending,
       checkoutExpiresAt := some checkoutExpiresAt, createdAt := tx.now }]

def MailTx.cancelled (tx : MailTx) : Option OrderId :=
  match tx.work with
  | .send _ => none
  | .checkout _ _ cancelled => cancelled

/-- `UPDATE orders SET status = 'cancelled' … AND status = 'checkout_pending'`. -/
def cancelOrder (cancelled : Option OrderId) (order : CountedOrder) : CountedOrder :=
  if cancelled = some order.orderId ∧ order.status = .checkoutPending then { order with status := .cancelled } else order

/-- The rows a transaction sees: those committed, and its own writes. -/
def MailTx.view (tx : MailTx) (rows : MailRows) : MailRows where
  letters := rows.letters ++ tx.letters
  orders := rows.orders.map (cancelOrder tx.cancelled) ++ tx.orders

/-- The rows of every account, and the transactions under way. -/
structure MailStore where
  now : Time := 0
  rows : MailRows := {}
  overrides : List LimitOverride := []
  locks : Locks DailyCapLock Nat := Table.empty
  txs : Table MailTx.txId := Table.empty

/-- `count + inFlight > cap`, where the count already includes the row: `inFlight` is 0. -/
def aboveCap (cap count : Nat) : Bool := cap < count + 0

/-- A transaction's next statement. An error is a refusal, which rolls it back, or a lock another holds. -/
def statement (cfg : MailConfig) (s : MailStore) (tx : MailTx) : Except Abort MailStore :=
  match tx.phase with
  | .written =>
    if !cfg.mailSendingEnabled then .error .refused
    else .ok { s with txs := s.txs.put { tx with
      phase := .limitsRead, limits := mailLimits cfg s.overrides tx.now tx.userId } }
  | .limitsRead =>
    match s.locks.acquire tx.txId (tx.lockKey cfg) with
    | none => .error .refused
    | some locks => .ok { s with locks, txs := s.txs.put { tx with phase := .accountLocked } }
  | .accountLocked =>
    if aboveCap tx.limits.accountDailyMail (mailTodayCount (some tx.userId) true tx.now (tx.view s.rows)) then
      .error .refused
    else .ok { s with txs := s.txs.put { tx with phase := .accountCounted } }
  | .accountCounted =>
    match s.locks.acquire tx.txId .globalDailyMail with
    | none => .error .refused
    | some locks => .ok { s with locks, txs := s.txs.put { tx with phase := .globalLocked } }
  | .globalLocked =>
    if aboveCap tx.limits.globalDailyMail (mailTodayCount none true tx.now (tx.view s.rows)) then .error .refused
    else .ok { s with txs := s.txs.put { tx with phase := .checked } }
  | .checked => .error .refused

/-- A transaction that ends: off the record, its locks let go. -/
def MailStore.ends (s : MailStore) (txId : Nat) : MailStore :=
  { s with txs := s.txs.erase txId, locks := s.locks.release txId }

/-- What happens, in any order: transactions begin, run a statement, commit or roll back. `cancels` is one that
only cancels a checkout, as a refused arrive-by date's does. -/
inductive MailEvent
  | tick (elapsed : Time)
  | begins (txId : Nat) (userId : UserId) (work : MailWork)
  | statement (txId : Nat)
  | commits (txId : Nat)
  | rollsBack (txId : Nat)
  | cancels (orderId : OrderId)
  deriving DecidableEq

def mailStep (cfg : MailConfig) (s : MailStore) : MailEvent → Except Abort MailStore
  | .tick elapsed => .ok { s with now := s.now + elapsed }
  | .begins txId userId work =>
    if fresh : txId ∉ s.txs.rows.map MailTx.txId then
      .ok { s with txs := s.txs.insert { txId, userId, now := s.now, work } fresh }
    else .error .refused
  | .statement txId =>
    match s.txs.find txId with
    | none => .error .refused
    | some tx => statement cfg s tx
  | .commits txId =>
    match s.txs.find txId with
    | none => .error .refused
    | some tx =>
      if tx.phase ≠ .checked then .error .refused else .ok { s.ends txId with rows := tx.view s.rows }
  | .rollsBack txId => .ok (s.ends txId)
  | .cancels orderId =>
    .ok { s with rows := { s.rows with orders := s.rows.orders.map (cancelOrder (some orderId)) } }

/-- Today's mail of an account, or of all, and what each may be. -/
def mailToday (s : MailStore) (scope : Option UserId) : Nat := mailTodayCount scope true s.now s.rows

def accountMailCap (cfg : MailConfig) (s : MailStore) (userId : UserId) : Nat :=
  effectiveDailyLimit cfg.configuredDailyLimit s.overrides s.now .accountDailyMail (some userId)

def globalMailCap (cfg : MailConfig) (s : MailStore) : Nat :=
  effectiveDailyLimit cfg.configuredDailyLimit s.overrides s.now .globalDailyMail none

end LetterIRL.Limits
