import LetterIRL.Commerce.Rows

namespace LetterIRL.Limits
open Lib Commerce

/-! `dailyLimits`: the daily limits in force. -/

def DAY_SECONDS : Nat := 86400

/-- `date_trunc('day', NOW() AT TIME ZONE 'UTC')`. -/
def utcDayStart (now : Time) : Time := now - now % DAY_SECONDS

theorem utcDayStart_le (now : Time) : utcDayStart now ≤ now := Nat.sub_le _ _

theorem utcDayStart_eq (now : Time) : utcDayStart now = DAY_SECONDS * (now / DAY_SECONDS) :=
  Nat.sub_eq_of_eq_add (Nat.div_add_mod now DAY_SECONDS).symm

theorem utcDayStart_mono {earlier later : Time} (before : earlier ≤ later) : utcDayStart earlier ≤ utcDayStart later := by
  rw [utcDayStart_eq, utcDayStart_eq]
  exact Nat.mul_le_mul_left _ (Nat.div_le_div_right before)

inductive DailyLimitKey
  | globalDailyMail
  | accountDailyMail
  | accountDailyChargeCents
  | giftDailySend
  deriving DecidableEq

/-- The environment's values, unless it sets others. -/
def BETA_CAP_DEFAULTS : DailyLimitKey → Nat
  | .globalDailyMail => 25
  | .accountDailyMail => 3
  | .accountDailyChargeCents => 6000
  | .giftDailySend => 20

/-- The limits that apply to each account separately, so may be set for one. -/
def ACCOUNT_DAILY_LIMIT_KEYS : List DailyLimitKey := [.accountDailyMail, .accountDailyChargeCents]

/-- A row of `daily_limit_overrides`. `limit.set` gives it no end, or the next midnight. -/
structure LimitOverride where
  limitKey : DailyLimitKey
  userId : Option UserId := none
  value : Nat
  expiresAt : Option Time := none
  cleared : Bool := false
  lapsesAtMidnight : ∀ at_, expiresAt = some at_ → at_ % DAY_SECONDS = 0 := by decide

/-- `cleared_at IS NULL AND (expires_at IS NULL OR expires_at > NOW()) AND …`: the rows read for a limit. -/
def LimitOverride.inForce (now : Time) (key : DailyLimitKey) (userId : Option UserId) (row : LimitOverride) : Bool :=
  !row.cleared && row.expiresAt.all (now < ·) && row.limitKey == key &&
    (row.userId.isNone || (userId.isSome && row.userId == userId))

/-- One row of the loop: the account's own value wins over the one for everyone,
whatever order the rows arrive in. The flag is `accountWide.has(key)`. -/
def overrideValue (value : Nat × Bool) (row : LimitOverride) : Nat × Bool :=
  if row.userId.isSome then
    if row.limitKey ∈ ACCOUNT_DAILY_LIMIT_KEYS then (row.value, true) else value
  else if value.2 then value
  else (row.value, value.2)

/-- `effectiveDailyLimits`, of one limit; `configured` is `configuredDailyLimit`, the environment's values. -/
def effectiveDailyLimit (configured : DailyLimitKey → Nat) (overrides : List LimitOverride) (now : Time)
    (key : DailyLimitKey) (userId : Option UserId) : Nat :=
  ((overrides.filter (LimitOverride.inForce now key userId)).foldl overrideValue (configured key, false)).1

/-- An instant a midnight after `earlier` has not passed at another of the same day. -/
theorem midnight_passed {earlier later midnight : Time} (before : earlier ≤ later)
    (sameDay : utcDayStart later ≤ earlier) (whole : midnight % DAY_SECONDS = 0) :
    earlier < midnight ↔ later < midnight := by
  constructor
  · intro ahead
    by_contra passed
    have days := utcDayStart_mono (Nat.le_of_not_lt passed)
    have late := days.trans sameDay
    rw [utcDayStart, whole, Nat.sub_zero] at late
    exact absurd late (Nat.not_le_of_lt ahead)
  · intro ahead
    exact Nat.lt_of_le_of_lt before ahead

/-- The limits of a day do not change by its passing. -/
theorem effectiveDailyLimit_same_day {configured : DailyLimitKey → Nat} {overrides : List LimitOverride}
    {earlier later : Time} (before : earlier ≤ later) (sameDay : utcDayStart later ≤ earlier) (key : DailyLimitKey)
    (userId : Option UserId) :
    effectiveDailyLimit configured overrides later key userId =
      effectiveDailyLimit configured overrides earlier key userId := by
  have same : overrides.filter (LimitOverride.inForce later key userId) =
      overrides.filter (LimitOverride.inForce earlier key userId) := by
    refine List.filter_congr fun row _ => ?_
    unfold LimitOverride.inForce
    cases lapses : row.expiresAt with
    | none => rfl
    | some midnight =>
      have passed := midnight_passed before sameDay (row.lapsesAtMidnight midnight lapses)
      simp only [Option.all_some, passed]
  unfold effectiveDailyLimit
  rw [same]

/-- No account has a limit for everyone of its own. -/
theorem effectiveDailyLimit_everyone (configured : DailyLimitKey → Nat) (overrides : List LimitOverride) (now : Time)
    {key : DailyLimitKey} (everyone : key ∉ ACCOUNT_DAILY_LIMIT_KEYS) (userId : Option UserId) :
    effectiveDailyLimit configured overrides now key userId = effectiveDailyLimit configured overrides now key none := by
  have same : ∀ value : Nat × Bool,
      (overrides.filter (LimitOverride.inForce now key userId)).foldl overrideValue value =
        (overrides.filter (LimitOverride.inForce now key none)).foldl overrideValue value := by
    induction overrides with
    | nil => exact fun _ => rfl
    | cons row rest ih =>
      intro value
      by_cases forAll : row.userId = none
      · have read : row.inForce now key userId = row.inForce now key none := by
          unfold LimitOverride.inForce
          rw [forAll]
          rfl
        by_cases inForce : row.inForce now key none = true
        · rw [List.filter_cons_of_pos (read.trans inForce), List.filter_cons_of_pos inForce, List.foldl_cons,
            List.foldl_cons, ih]
        · rw [List.filter_cons_of_neg (by rwa [read]), List.filter_cons_of_neg inForce, ih]
      · have some_ : row.userId.isSome = true := Option.isSome_iff_ne_none.mpr forAll
        have unread : (row :: rest).filter (LimitOverride.inForce now key none) =
            rest.filter (LimitOverride.inForce now key none) := by
          refine List.filter_cons_of_neg fun read => ?_
          unfold LimitOverride.inForce at read
          simp [forAll] at read
        rw [unread]
        by_cases inForce : row.inForce now key userId = true
        · have limit : row.limitKey = key := by
            unfold LimitOverride.inForce at inForce
            simp only [Bool.and_eq_true, beq_iff_eq] at inForce
            exact inForce.1.2
          have skipped : overrideValue value row = value := by
            unfold overrideValue
            rw [if_pos some_, if_neg (by rwa [limit])]
          rw [List.filter_cons_of_pos inForce, List.foldl_cons, skipped, ih]
        · rw [List.filter_cons_of_neg inForce, ih]
  unfold effectiveDailyLimit
  rw [same]

end LetterIRL.Limits
