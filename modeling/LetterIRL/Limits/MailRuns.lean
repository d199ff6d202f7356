import LetterIRL.Limits.MailCaps

namespace LetterIRL.Limits
open Lib Ledger Commerce

variable {cfg : MailConfig} {s s' start : MailStore} {tx other : MailTx} {rows : MailRows} {scope : Option UserId}
  {txId : Nat}

/-! The count, of rows and of what a transaction adds to them. -/

theorem funded_append (letters added : List CountedLetter) (unfunded : ∀ letter ∈ added, letter.fundingOrderId = none)
    (orderId : OrderId) : funded (letters ++ added) orderId = funded letters orderId := by
  unfold funded
  rw [List.any_append]
  have none : (added.any fun letter => letter.fundingOrderId == some orderId) = false := by
    refine List.any_eq_false.mpr fun letter member => ?_
    simp [unfunded letter member]
  rw [none, Bool.or_false]

theorem MailTx.letters_unfunded (tx : MailTx) : ∀ letter ∈ tx.letters, letter.fundingOrderId = none := by
  intro letter member
  unfold MailTx.letters at member
  split at member
  · rw [List.mem_singleton.mp member]
  · exact absurd member List.not_mem_nil

theorem orderCounts_view (tx : MailTx) (rows : MailRows) (now : Time) :
    orderCounts scope now (tx.view rows).letters = orderCounts scope now rows.letters := by
  funext order
  unfold orderCounts MailTx.view
  dsimp only
  rw [funded_append _ _ tx.letters_unfunded]

/-- What a transaction adds to a count. -/
def MailTx.adds (tx : MailTx) (scope : Option UserId) (now : Time) (rows : MailRows) : Nat :=
  tx.letters.countP (letterCounts scope now) + tx.orders.countP (orderCounts scope now rows.letters)

/-- The rows, with the order a transaction cancels cancelled. -/
def MailRows.cancel (rows : MailRows) (cancelled : Option OrderId) : MailRows :=
  { rows with orders := rows.orders.map (cancelOrder cancelled) }

theorem mailTodayCount_view (tx : MailTx) (rows : MailRows) (now : Time) :
    mailTodayCount scope true now (tx.view rows) =
      mailTodayCount scope true now (rows.cancel tx.cancelled) + tx.adds scope now rows := by
  unfold mailTodayCount
  rw [orderCounts_view]
  unfold MailTx.view MailRows.cancel MailTx.adds
  simp only [if_true, List.countP_append]
  omega

theorem orderCounts_cancelOrder (cancelled : Option OrderId) (now : Time) (letters : List CountedLetter)
    {order : CountedOrder} (counts : orderCounts scope now letters (cancelOrder cancelled order) = true) :
    cancelOrder cancelled order = order := by
  unfold cancelOrder at counts ⊢
  split
  · rename_i ended
    rw [if_pos ended] at counts
    simp [orderCounts, OPEN_MAIL_STATUSES] at counts
  · rfl

/-- A cancel counts nothing more, whatever else is cancelled. -/
theorem mailTodayCount_cancel (scope : Option UserId) (cancelled earlier : Option OrderId) (now : Time) (rows : MailRows) :
    mailTodayCount scope true now ((rows.cancel earlier).cancel cancelled) ≤
      mailTodayCount scope true now (rows.cancel cancelled) := by
  unfold mailTodayCount MailRows.cancel
  simp only [if_true, List.map_map, List.countP_map]
  refine Nat.add_le_add_left (List.countP_mono_left fun order _ counts => ?_) _
  simp only [Function.comp_apply] at counts ⊢
  have same := orderCounts_cancelOrder cancelled now rows.letters counts
  rw [same] at counts
  have kept := orderCounts_cancelOrder earlier now rows.letters counts
  rw [kept] at counts same
  rw [same]
  exact counts

theorem cancel_none (rows : MailRows) : rows.cancel none = rows := by
  have same : cancelOrder none = id := by
    funext order
    unfold cancelOrder
    rw [if_neg (by rintro ⟨none, -⟩; cases none)]
    rfl
  unfold MailRows.cancel
  rw [same, List.map_id]

theorem mailTodayCount_cancel_le (cancelled : Option OrderId) (now : Time) (rows : MailRows) :
    mailTodayCount scope true now (rows.cancel cancelled) ≤ mailTodayCount scope true now rows := by
  have less := mailTodayCount_cancel scope none cancelled now rows
  rw [cancel_none, cancel_none] at less
  exact less

/-- Time counts nothing more. -/
theorem mailTodayCount_later (scope : Option UserId) {earlier later : Time} (before : earlier ≤ later) (rows : MailRows) :
    mailTodayCount scope true later rows ≤ mailTodayCount scope true earlier rows := by
  have day := utcDayStart_mono before
  unfold mailTodayCount
  simp only [if_true]
  refine Nat.add_le_add (List.countP_mono_left fun letter _ counts => ?_)
    (List.countP_mono_left fun order _ counts => ?_)
  · simp only [letterCounts, Bool.and_eq_true, decide_eq_true_eq] at counts ⊢
    exact ⟨counts.1, day.trans counts.2⟩
  · simp only [orderCounts, Bool.and_eq_true, Bool.or_eq_true, decide_eq_true_eq] at counts ⊢
    obtain ⟨⟨⟨⟨⟨mine, jit⟩, open_⟩, unexpired⟩, created⟩, unfunded⟩ := counts
    refine ⟨⟨⟨⟨⟨mine, jit⟩, open_⟩, unexpired.imp_right fun ahead => ?_⟩, day.trans created⟩, unfunded⟩
    cases expires : order.checkoutExpiresAt with
    | none => rfl
    | some at_ =>
      rw [expires, Option.all_some, decide_eq_true_eq] at ahead
      simpa using Nat.lt_of_le_of_lt before ahead

/-- A row of the account's is all a transaction adds. -/
theorem MailTx.adds_zero {now : Time} {rows : MailRows}
    (none : ∀ userId created, userId = tx.userId → created = tx.now →
      (scope.all (· == userId) && decide (utcDayStart now ≤ created)) = false) : tx.adds scope now rows = 0 := by
  unfold MailTx.adds MailTx.letters MailTx.orders
  cases tx.work with
  | send letterId =>
    have uncounted := none tx.userId tx.now rfl rfl
    simp [letterCounts, uncounted]
  | checkout orderId checkoutExpiresAt cancelled =>
    have uncounted := none tx.userId tx.now rfl rfl
    rw [Bool.and_eq_false_iff] at uncounted
    rcases uncounted with mine | day
    · simp [orderCounts, mine]
    · simp [orderCounts, day]

/-- A transaction of another account adds nothing to an account's count. -/
theorem MailTx.adds_other {userId : UserId} (differ : tx.userId ≠ userId) (now : Time) (rows : MailRows) :
    tx.adds (some userId) now rows = 0 := by
  refine tx.adds_zero ?_
  rintro mine created rfl -
  simp [differ.symm]

/-- Nor, after its day, does one add to any. -/
theorem MailTx.adds_later {now : Time} (past : tx.now < utcDayStart now) (rows : MailRows) :
    tx.adds scope now rows = 0 := by
  refine tx.adds_zero ?_
  rintro mine created - rfl
  simp [Nat.not_le_of_lt past]

/-- What one adds is the same over rows another committed. -/
theorem MailTx.adds_view (now : Time) (rows : MailRows) : tx.adds scope now (other.view rows) = tx.adds scope now rows := by
  unfold MailTx.adds
  rw [orderCounts_view]

theorem MailTx.adds_cancel (now : Time) (rows : MailRows) (cancelled : Option OrderId) :
    tx.adds scope now (rows.cancel cancelled) = tx.adds scope now rows := rfl

/-- A cancel over rows another committed counts no more than the cancel, and what the other added. -/
theorem mailTodayCount_view_cancel (scope : Option UserId) (other : MailTx) (now : Time) (rows : MailRows) (cancelled : Option OrderId) :
    mailTodayCount scope true now ((other.view rows).cancel cancelled) ≤
      mailTodayCount scope true now (rows.cancel cancelled) + other.adds scope now rows := by
  have less := mailTodayCount_cancel scope cancelled other.cancelled now rows
  have fewer : (other.orders.map (cancelOrder cancelled)).countP (orderCounts scope now rows.letters) ≤
      other.orders.countP (orderCounts scope now rows.letters) := by
    rw [List.countP_map]
    refine List.countP_mono_left fun order _ counts => ?_
    have kept := orderCounts_cancelOrder cancelled now rows.letters counts
    rw [Function.comp_apply, kept] at counts
    exact counts
  have split : mailTodayCount scope true now ((other.view rows).cancel cancelled) =
      mailTodayCount scope true now ((rows.cancel other.cancelled).cancel cancelled) +
        (other.letters.countP (letterCounts scope now) +
          (other.orders.map (cancelOrder cancelled)).countP (orderCounts scope now rows.letters)) := by
    have letters : orderCounts scope now ((other.view rows).cancel cancelled).letters =
        orderCounts scope now rows.letters := orderCounts_view other rows now
    unfold mailTodayCount
    rw [letters]
    unfold MailTx.view MailRows.cancel
    simp only [if_true, List.countP_append, List.map_append]
    omega
  unfold MailTx.adds
  omega

/-- A commit of another account raises no count of an account. -/
theorem mailTodayCount_commit_other {userId : UserId} (differ : other.userId ≠ userId) (now : Time) (rows : MailRows) :
    mailTodayCount (some userId) true now (tx.view (other.view rows)) ≤
      mailTodayCount (some userId) true now (tx.view rows) := by
  have less := mailTodayCount_view_cancel (some userId) other now rows tx.cancelled
  rw [MailTx.adds_other differ, Nat.add_zero] at less
  rw [mailTodayCount_view, mailTodayCount_view, MailTx.adds_view]
  exact Nat.add_le_add_right less _

/-- Nor does a cancel raise any. -/
theorem mailTodayCount_cancel_other (now : Time) (rows : MailRows) (cancelled : Option OrderId) :
    mailTodayCount scope true now (tx.view (rows.cancel cancelled)) ≤ mailTodayCount scope true now (tx.view rows) := by
  rw [mailTodayCount_view, mailTodayCount_view, MailTx.adds_cancel]
  exact Nat.add_le_add_right (mailTodayCount_cancel scope tx.cancelled cancelled now rows) _

/-- What a commit adds to a count. -/
theorem mailTodayCount_view_le (scope : Option UserId) (tx : MailTx) (now : Time) (rows : MailRows) :
    mailTodayCount scope true now (tx.view rows) ≤ mailTodayCount scope true now rows + tx.adds scope now rows := by
  rw [mailTodayCount_view]
  exact Nat.add_le_add_right (mailTodayCount_cancel_le _ _ _) _

/-! What a transaction that has counted holds, to its end. -/

def Phase.rank : Phase → Nat
  | .written => 0
  | .limitsRead => 1
  | .accountLocked => 2
  | .accountCounted => 3
  | .globalLocked => 4
  | .checked => 5

/-- The limits it read, the locks it took, and the counts it checked, which nobody else can have raised since. -/
structure MailTx.Holds (cfg : MailConfig) (s : MailStore) (tx : MailTx) : Prop where
  began : tx.now ≤ s.now
  limits : 1 ≤ tx.phase.rank → tx.limits = mailLimits cfg s.overrides tx.now tx.userId
  account : 2 ≤ tx.phase.rank → s.locks.Holds tx.txId (tx.lockKey cfg)
  counted : 3 ≤ tx.phase.rank →
    mailTodayCount (some tx.userId) true tx.now (tx.view s.rows) ≤ tx.limits.accountDailyMail
  global : 4 ≤ tx.phase.rank → s.locks.Holds tx.txId .globalDailyMail
  checked : 5 ≤ tx.phase.rank → mailTodayCount none true tx.now (tx.view s.rows) ≤ tx.limits.globalDailyMail

/-- Every transaction under way holds what it should. -/
def Serial (cfg : MailConfig) (s : MailStore) : Prop := ∀ tx ∈ s.txs.rows, tx.Holds cfg s

/-- Holding on over a step that lets go of none of its locks, and raises neither of its counts. -/
theorem MailTx.Holds.kept (holds : tx.Holds cfg s) (now : s.now ≤ s'.now) (overrides : s'.overrides = s.overrides)
    (locks : ∀ key, s.locks.Holds tx.txId key → s'.locks.Holds tx.txId key)
    (account : 3 ≤ tx.phase.rank → mailTodayCount (some tx.userId) true tx.now (tx.view s'.rows) ≤
      mailTodayCount (some tx.userId) true tx.now (tx.view s.rows))
    (all : 5 ≤ tx.phase.rank → mailTodayCount none true tx.now (tx.view s'.rows) ≤
      mailTodayCount none true tx.now (tx.view s.rows)) : tx.Holds cfg s' where
  began := holds.began.trans now
  limits past := by
    rw [overrides]
    exact holds.limits past
  account past := locks _ (holds.account past)
  counted past := (account past).trans (holds.counted past)
  global past := locks _ (holds.global past)
  checked past := (all past).trans (holds.checked past)

/-- A transaction's own step: what the others hold they still hold. -/
theorem Serial.put {locks : Locks DailyCapLock Nat} (serial : Serial cfg s)
    (kept : ∀ other key, s.locks.Holds other key → locks.Holds other key)
    (holds : tx.Holds cfg { s with locks, txs := s.txs.put tx }) : Serial cfg { s with locks, txs := s.txs.put tx } := by
  intro row member
  rcases Table.mem_put.mp member with ⟨old, -⟩ | ⟨rfl, -⟩
  · exact (serial row old).kept le_rfl rfl (fun key => kept _ key) (fun _ => le_rfl) fun _ => le_rfl
  · exact holds

theorem statement_serial (serial : Serial cfg s) (found : s.txs.find txId = some tx)
    (committed : statement cfg s tx = .ok s') : Serial cfg s' := by
  have holds := serial tx (Table.find_mem found)
  obtain ⟨began, limits, account, counted, global, checked⟩ := holds
  unfold statement at committed
  split at committed
  · split at committed
    · cases committed
    · cases committed
      refine serial.put (fun _ _ held => held) ⟨began, fun _ => rfl, ?_, ?_, ?_, ?_⟩
      all_goals exact fun past => absurd past (of_decide_eq_false rfl)
  · rename_i phase
    split at committed
    · cases committed
    · rename_i locks acquired
      cases committed
      have read := limits (by rw [phase]; decide)
      refine serial.put (fun _ _ => Locks.acquire_kept acquired)
        ⟨began, fun _ => read, fun _ => Locks.acquire_holds acquired, ?_, ?_, ?_⟩
      all_goals exact fun past => absurd past (of_decide_eq_false rfl)
  · rename_i phase
    split at committed
    · cases committed
    · rename_i within
      cases committed
      have read := limits (by rw [phase]; decide)
      have locked := account (by rw [phase]; decide)
      have fits := Nat.le_of_not_lt (of_decide_eq_false (Bool.eq_false_of_not_eq_true within))
      refine serial.put (fun _ _ held => held) ⟨began, fun _ => read, fun _ => locked, fun _ => fits, ?_, ?_⟩
      all_goals exact fun past => absurd past (of_decide_eq_false rfl)
  · rename_i phase
    split at committed
    · cases committed
    · rename_i locks acquired
      cases committed
      have read := limits (by rw [phase]; decide)
      have locked := Locks.acquire_kept acquired (account (by rw [phase]; decide))
      have fits := counted (by rw [phase]; decide)
      refine serial.put (fun _ _ => Locks.acquire_kept acquired)
        ⟨began, fun _ => read, fun _ => locked, fun _ => fits, fun _ => Locks.acquire_holds acquired, ?_⟩
      exact fun past => absurd past (of_decide_eq_false rfl)
  · rename_i phase
    split at committed
    · cases committed
    · rename_i within
      cases committed
      have read := limits (by rw [phase]; decide)
      have locked := account (by rw [phase]; decide)
      have fits := counted (by rw [phase]; decide)
      have lockedAll := global (by rw [phase]; decide)
      have fitsAll := Nat.le_of_not_lt (of_decide_eq_false (Bool.eq_false_of_not_eq_true within))
      exact serial.put (fun _ _ held => held)
        ⟨began, fun _ => read, fun _ => locked, fun _ => fits, fun _ => lockedAll, fun _ => fitsAll⟩
  · cases committed

/-- Two transactions that have both locked an account's cap are one. -/
theorem Serial.same_account (serial : Serial cfg s) (here : tx ∈ s.txs.rows) (there : other ∈ s.txs.rows)
    (account : other.userId = tx.userId) (locked : 2 ≤ tx.phase.rank) (locked' : 2 ≤ other.phase.rank) :
    other.txId = tx.txId := by
  have first := (serial tx here).account locked
  have second := (serial other there).account locked'
  unfold MailTx.lockKey at first second
  rw [account] at second
  exact second.unique first

/-- A commit, with its transaction's locks let go. -/
theorem commit_serial (serial : Serial cfg s) (found : s.txs.find txId = some tx) (phase : tx.phase = .checked) :
    Serial cfg { s.ends txId with rows := tx.view s.rows } := by
  intro row member
  obtain ⟨old, apart⟩ := Table.mem_erase.mp member
  have here := Table.find_mem found
  have key := Table.find_key found
  have holds := serial row old
  have committer := serial tx here
  have rank : tx.phase.rank = 5 := by rw [phase]; rfl
  refine holds.kept le_rfl rfl (fun k held => held.release apart) (fun past => ?_) fun past => ?_
  · have differ : tx.userId ≠ row.userId := by
      intro same
      exact apart ((serial.same_account old here same (by omega) (by omega)).symm.trans key)
    exact mailTodayCount_commit_other differ _ _
  · have same := (committer.global (by omega)).unique (holds.global (by omega))
    exact absurd (same.symm.trans key) apart

theorem step_serial {event : MailEvent} (serial : Serial cfg s) (committed : mailStep cfg s event = .ok s') :
    Serial cfg s' := by
  cases event with
  | tick elapsed =>
    cases committed
    intro row member
    exact (serial row member).kept (Nat.le_add_right _ _) rfl (fun _ held => held) (fun _ => le_rfl) fun _ => le_rfl
  | begins txId userId work =>
    unfold mailStep at committed
    dsimp only at committed
    split at committed
    · cases committed
      intro row member
      rcases List.mem_append.mp member with old | new
      · exact (serial row old).kept le_rfl rfl (fun _ held => held) (fun _ => le_rfl) fun _ => le_rfl
      · rw [List.mem_singleton.mp new]
        refine ⟨le_rfl, ?_, ?_, ?_, ?_, ?_⟩
        all_goals exact fun past => absurd past (of_decide_eq_false rfl)
    · cases committed
  | statement txId =>
    unfold mailStep at committed
    dsimp only at committed
    split at committed
    · cases committed
    · rename_i tx found
      exact statement_serial serial found committed
  | commits txId =>
    unfold mailStep at committed
    dsimp only at committed
    split at committed
    · cases committed
    · rename_i tx found
      split at committed
      · cases committed
      · rename_i phase
        cases committed
        exact commit_serial serial found (not_not.mp phase)
  | rollsBack txId =>
    cases committed
    intro row member
    obtain ⟨old, apart⟩ := Table.mem_erase.mp member
    exact (serial row old).kept le_rfl rfl (fun _ held => held.release apart) (fun _ => le_rfl) fun _ => le_rfl
  | cancels orderId =>
    cases committed
    intro row member
    exact (serial row member).kept le_rfl rfl (fun _ held => held)
      (fun _ => mailTodayCount_cancel_other _ _ _) fun _ => mailTodayCount_cancel_other _ _ _

/-- A commit, and a count it has checked under its lock: today's count is within the limit, or the
transaction is of an earlier day and adds nothing to it. -/
theorem commit_within {cap : DailyLimitKey} {limit : Nat} (holds : tx.Holds cfg s)
    (checked : mailTodayCount scope true tx.now (tx.view s.rows) ≤ limit) {userId : Option UserId}
    (read : limit = effectiveDailyLimit cfg.configuredDailyLimit s.overrides tx.now cap userId)
    (before : mailToday s scope ≤ effectiveDailyLimit cfg.configuredDailyLimit s.overrides s.now cap userId) :
    mailTodayCount scope true s.now (tx.view s.rows) ≤
      effectiveDailyLimit cfg.configuredDailyLimit s.overrides s.now cap userId := by
  by_cases sameDay : utcDayStart s.now ≤ tx.now
  · have later := mailTodayCount_later scope holds.began (tx.view s.rows)
    rw [effectiveDailyLimit_same_day holds.began sameDay, ← read]
    exact later.trans checked
  · have adds := mailTodayCount_view_le scope tx s.now s.rows
    rw [MailTx.adds_later (Nat.lt_of_not_le sameDay), Nat.add_zero] at adds
    exact adds.trans before

/-- Over any interleaving of sends and checkout preparations of any accounts, begun when none was under way: a
commit leaves each account's mail of the day within its cap, and all of it within the one for everyone, if it was. -/
theorem mail_within_caps (idle : start.txs = Table.empty) (reach : Reach (mailStep cfg) anyStep start s)
    (committed : mailStep cfg s (.commits txId) = .ok s') :
    (∀ userId, mailToday s (some userId) ≤ accountMailCap cfg s userId →
      mailToday s' (some userId) ≤ accountMailCap cfg s' userId) ∧
    (mailToday s none ≤ globalMailCap cfg s → mailToday s' none ≤ globalMailCap cfg s') := by
  have serial : Serial cfg s := by
    refine reach.invariant (I := Serial cfg) ?_ fun _ _ _ serial _ committed => step_serial serial committed
    intro row member
    rw [idle] at member
    exact absurd member List.not_mem_nil
  unfold mailStep at committed
  dsimp only at committed
  split at committed
  · cases committed
  · rename_i tx found
    split at committed
    · cases committed
    · rename_i phase
      cases committed
      have holds := serial tx (Table.find_mem found)
      have rank : tx.phase.rank = 5 := by rw [not_not.mp phase]; rfl
      have limits := holds.limits (by omega)
      refine ⟨fun userId before => ?_, fun before => ?_⟩
      · by_cases mine : tx.userId = userId
        · subst mine
          exact commit_within holds (holds.counted (by omega)) (by rw [limits]; rfl) before
        · have adds := mailTodayCount_view_le (some userId) tx s.now s.rows
          rw [MailTx.adds_other mine, Nat.add_zero] at adds
          exact adds.trans before
      · have everyone : DailyLimitKey.globalDailyMail ∉ ACCOUNT_DAILY_LIMIT_KEYS := by decide
        have read : tx.limits.globalDailyMail =
            effectiveDailyLimit cfg.configuredDailyLimit s.overrides tx.now .globalDailyMail none := by
          rw [limits]
          exact effectiveDailyLimit_everyone _ _ _ everyone _
        exact commit_within holds (holds.checked (by omega)) read before

/-- Two accounts' sends, interleaved: with the second's check waiting on the first's lock. -/
theorem mail_within_caps_waiting :
    ∃ s s', Reach (mailStep {}) anyStep {} s ∧ mailStep {} s (.commits 1) = .ok s' ∧
      mailToday s' (some 7) = 1 ∧ mailToday s' (some 7) ≤ accountMailCap {} s' 7 := by
  obtain ⟨s, s', reach, committed, counted⟩ := exists_step (mailStep {}) {}
    (fun s s' => mailToday s (some 7) == 0 && mailToday s' (some 7) == 1)
    [.begins 1 7 (.send 1), .begins 2 8 (.checkout (.placed 2) 3600 none), .statement 1, .statement 2,
     .statement 1, .statement 2, .statement 1, .statement 1, .statement 2, .statement 1] (.commits 1) (by decide)
  simp only [Bool.and_eq_true, beq_iff_eq] at counted
  have within := (mail_within_caps rfl reach committed).1 7
  rw [counted.1] at within
  exact ⟨s, s', reach, committed, counted.2, within (Nat.zero_le _)⟩

end LetterIRL.Limits
