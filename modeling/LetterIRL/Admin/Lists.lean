import LetterIRL.Admin.Cursors
import LetterIRL.Lib.Keyset
import LetterIRL.Lib.Table

namespace LetterIRL.Admin
open Lib

/-! `audit.ts` and `alerts.ts`: lists of rows, the newest first, a page at a time. -/

structure Page (ρ : Type) where
  rows : List ρ
  nextCursor : Option Text

/-- `toPage`, of at most one row more than the limit. -/
def toPage {ρ : Type} (rows : List ρ) (limit : Nat) (cursorOf : ρ → Text) : Page ρ :=
  if rows.length ≤ limit then { rows, nextCursor := none }
  else
    let kept := rows.take limit
    { rows := kept, nextCursor := kept.getLast?.map cursorOf }

/-- A table's columns its list is ordered by. -/
structure Columns (ρ : Type) where
  id : ρ → Uuid
  at_ : ρ → Timestamp

namespace Columns
variable {ρ : Type} (columns : Columns ρ)

/-- What `ORDER BY at DESC, id DESC` compares. -/
def key (row : ρ) : Int ×ₗ List (Fin 16) := toLex ((columns.at_ row).micros, (columns.id row).digits)

/-- `(at, id::text) < ($at::timestamptz, $id)`. -/
def before (cursor : Cursor) (row : ρ) : Bool :=
  decide ((columns.at_ row).micros < cursor.at_ * 1000 ∨
    (columns.at_ row).micros = cursor.at_ * 1000 ∧ (columns.id row).text < cursor.id)

def cursorOf (row : ρ) : Text := encodeCursor (columns.at_ row).date (columns.id row)

/-- The rows a query's clauses select, in its order. -/
def select (platform : Platform) (clauses : ρ → Bool) (rows : List ρ) (cursor : Option Text) : List ρ :=
  descending columns.key (rows.filter fun row => clauses row &&
    (decodeCursor platform cursor).all fun cursor => columns.before cursor row)

/-- A query of one row more than a page shows, and its page. -/
def list (platform : Platform) (clauses : ρ → Bool) (rows : List ρ) (limit : Nat) (cursor : Option Text) : Page ρ :=
  toPage ((columns.select platform clauses rows cursor).take (limit + 1)) limit columns.cursorOf

end Columns

inductive AuditOutcome
  | succeeded
  | failed
  | denied
  deriving DecidableEq

structure AuditRow where
  id : Uuid
  occurredAt : Timestamp
  targetId : Option Text
  action : Text
  outcome : AuditOutcome

/-- A column is the option given, or the option is not given: an empty one is none. -/
def given (option : Option Text) (column : Option Text) : Bool :=
  match option with
  | none | some [] => true
  | some value => column == some value

def auditColumns : Columns AuditRow := { id := (·.id), at_ := (·.occurredAt) }

def auditClauses (targetId action : Option Text) (outcome : Option AuditOutcome) (row : AuditRow) : Bool :=
  given targetId row.targetId && given action (some row.action) &&
    match outcome with
    | some .denied => row.outcome == .denied
    | some .failed => row.outcome == .failed
    | _ => true

def listAuditEvents (platform : Platform) (events : Table AuditRow.id) (limit : Nat) (targetId action : Option Text)
    (outcome : Option AuditOutcome) (cursor : Option Text) : Page AuditRow :=
  auditColumns.list platform (auditClauses targetId action outcome) events.rows limit cursor

structure CommandRow where
  id : Uuid
  requestedAt : Timestamp
  targetId : Option Text

def commandColumns : Columns CommandRow := { id := (·.id), at_ := (·.requestedAt) }

def commandClauses (targetId : Option Text) (row : CommandRow) : Bool := given targetId row.targetId

def listCommandRuns (platform : Platform) (runs : Table CommandRow.id) (limit : Nat) (targetId cursor : Option Text) :
    Page CommandRow :=
  commandColumns.list platform (commandClauses targetId) runs.rows limit cursor

inductive AlertStatus
  | open_
  | acknowledged
  | resolved
  deriving DecidableEq

inductive AlertFilter
  | active
  | of (status : AlertStatus)
  | all
  deriving DecidableEq

structure AlertRow where
  alertId : Uuid
  createdAt : Timestamp
  status : AlertStatus

def alertColumns : Columns AlertRow := { id := (·.alertId), at_ := (·.createdAt) }

def alertClauses (filter : AlertFilter) (row : AlertRow) : Bool :=
  match filter with
  | .active => row.status == .open_ || row.status == .acknowledged
  | .of status => row.status == status
  | .all => true

def listAlerts (platform : Platform) (alerts : Table AlertRow.alertId) (limit : Nat) (filter : AlertFilter)
    (cursor : Option Text) : Page AlertRow :=
  alertColumns.list platform (alertClauses filter) alerts.rows limit cursor

/-- The pages of a list, each continued by the cursor of the one before. -/
inductive Follows {ρ : Type} (list : Option Text → Page ρ) : Option Text → List (Page ρ) → Prop
  | last {cursor} (ended : (list cursor).nextCursor = none) : Follows list cursor [list cursor]
  | more {cursor next rest} (continued : (list cursor).nextCursor = some next)
      (follows : Follows list (some next) rest) : Follows list cursor (list cursor :: rest)

namespace Columns
variable {ρ : Type} {columns : Columns ρ} {platform : Platform} {clauses : ρ → Bool} {rows : List ρ} {limit : Nat}
  {cursor next : Option Text} {last row : ρ} {front back : List ρ}

/-- Every page's cursor is the position of its last row, and the pages are the rows, each once and in order. -/
structure ShownOnce (columns : Columns ρ) (platform : Platform) (sorted : List ρ) (pages : List (Page ρ)) : Prop where
  once : pages.flatMap (·.rows) = sorted
  positions : ∀ page ∈ pages, ∀ next, page.nextCursor = some next → ∃ last cursor, page.rows.getLast? = some last ∧
    decodeCursor platform (some next) = some cursor ∧ cursor.at_ * 1000 = (columns.at_ last).micros ∧
    cursor.id = (columns.id last).text

/-- Every row that ends a page of `limit` with rows after it has a time of whole milliseconds. -/
def WholeEnds (columns : Columns ρ) (limit : Nat) (sorted : List ρ) : Prop :=
  ∀ page row, sorted[(page + 1) * limit - 1]? = some row → (page + 1) * limit < sorted.length →
    (columns.at_ row).micros % 1000 = 0

/-- What a row's cursor lets through: below its time cut to the millisecond, and its id. -/
def bound (columns : Columns ρ) (row : ρ) : Int ×ₗ List (Fin 16) :=
  toLex ((columns.at_ row).date * 1000, (columns.id row).digits)

theorem bound_le (columns : Columns ρ) (row : ρ) : columns.bound row ≤ columns.key row := by
  unfold bound key Timestamp.date
  rw [Prod.Lex.toLex_le_toLex]
  by_cases whole : (columns.at_ row).micros / 1000 * 1000 = (columns.at_ row).micros
  · exact .inr ⟨whole, le_rfl⟩
  · refine .inl ?_
    show (columns.at_ row).micros / 1000 * 1000 < (columns.at_ row).micros
    omega

theorem bound_eq (whole : (columns.at_ row).micros % 1000 = 0) : columns.bound row = columns.key row := by
  unfold bound key Timestamp.date
  rw [show (columns.at_ row).micros / 1000 * 1000 = (columns.at_ row).micros by omega]

theorem decode_cursorOf (platform : Platform) (columns : Columns ρ) (row : ρ) :
    decodeCursor platform (some (columns.cursorOf row)) =
      some { at_ := (columns.at_ row).date, id := (columns.id row).text } := by
  have least := (columns.at_ row).least
  have most := (columns.at_ row).most
  refine decodeCursor_encodeCursor platform ?_ ?_ _
  · unfold Timestamp.date
    omega
  · unfold Timestamp.date
    omega

theorem before_iff (columns : Columns ρ) (last row : ρ) :
    columns.before { at_ := (columns.at_ last).date, id := (columns.id last).text } row =
      decide (columns.key row < columns.bound last) := by
  unfold before key bound
  refine decide_eq_decide.mpr ?_
  rw [Prod.Lex.toLex_lt_toLex, Uuid.text_lt]

theorem digits_injective : Function.Injective Uuid.digits := by
  rintro ⟨digits, length⟩ ⟨digits', length'⟩ same
  cases same
  rfl

theorem keys_nodup (unique : (rows.map columns.id).Nodup) : (rows.map columns.key).Nodup := by
  have digits := unique.map digits_injective
  rw [List.map_map] at digits
  refine List.Nodup.of_map (fun key : Int ×ₗ List (Fin 16) => (ofLex key).2) ?_
  rw [List.map_map]
  exact digits

theorem select_falling (unique : (rows.map columns.id).Nodup) :
    Falling columns.key (columns.select platform clauses rows cursor) :=
  falling_descending ((keys_nodup unique).sublist (List.filter_sublist.map _))

theorem select_none (platform : Platform) (clauses : ρ → Bool) (rows : List ρ) :
    columns.select platform clauses rows none = descending columns.key (rows.filter clauses) := by
  unfold select
  simp only [decodeCursor, Option.all_none, Bool.and_true]

/-- The rows after a cursor are those below the bound of the row it was written for. -/
theorem select_some (unique : (rows.map columns.id).Nodup) (last : ρ) :
    columns.select platform clauses rows (some (columns.cursorOf last)) =
      (descending columns.key (rows.filter clauses)).filter fun row => columns.key row < columns.bound last := by
  have fewer : ((rows.filter clauses).map columns.key).Nodup :=
    (keys_nodup unique).sublist (List.filter_sublist.map _)
  rw [← descending_filter fewer, List.filter_filter]
  unfold select
  congr 1
  refine List.filter_congr fun row _ => ?_
  rw [decode_cursorOf, Option.all_some, before_iff, Bool.and_comm]

theorem list_ended (all_ : (columns.select platform clauses rows cursor).length ≤ limit) :
    columns.list platform clauses rows limit cursor =
      { rows := columns.select platform clauses rows cursor, nextCursor := none } := by
  unfold list toPage
  rw [List.take_of_length_le (by omega), if_pos all_]

theorem list_more (split : columns.select platform clauses rows cursor = front ++ last :: back)
    (length : front.length + 1 = limit) (some_ : back ≠ []) : columns.list platform clauses rows limit cursor =
      { rows := front ++ [last], nextCursor := some (columns.cursorOf last) } := by
  have more : 0 < back.length := List.length_pos_iff.mpr some_
  have long : ¬((front ++ last :: back).take (limit + 1)).length ≤ limit := by
    rw [List.length_take, List.length_append, List.length_cons]
    omega
  have kept : (front ++ last :: back).take limit = front ++ [last] := by
    rw [← length, ← List.singleton_append, ← List.append_assoc, List.take_left' (by simp)]
  unfold list toPage
  simp only [split]
  rw [if_neg long, List.take_take, Nat.min_eq_left (Nat.le_succ _), kept]
  simp

/-- A page's rows, and those after it. -/
theorem split_page {rest : List ρ} (some_ : 0 < limit) (long : limit < rest.length) :
    ∃ front last back, rest = front ++ last :: back ∧ front.length + 1 = limit ∧ back ≠ [] ∧
      rest[limit - 1]? = some last ∧ back = rest.drop limit := by
  have inRest : limit - 1 < rest.length := by omega
  refine ⟨rest.take (limit - 1), rest[limit - 1], rest.drop limit, ?_, ?_, ?_, List.getElem?_eq_getElem inRest, rfl⟩
  · have next := List.drop_eq_getElem_cons inRest
    rw [show limit - 1 + 1 = limit by omega] at next
    rw [← next, List.take_append_drop]
  · rw [List.length_take]
    omega
  · intro empty
    have length := congrArg List.length empty
    rw [List.length_drop, List.length_nil] at length
    omega

/-- The cursors a list hands on. -/
def Handed (columns : Columns ρ) (cursor : Option Text) : Prop :=
  cursor = none ∨ ∃ last, cursor = some (columns.cursorOf last)

/-- The rows after a row shown are those left that are below its bound. -/
theorem select_next (unique : (rows.map columns.id).Nodup) (handed : columns.Handed cursor)
    (shown : last ∈ columns.select platform clauses rows cursor) :
    columns.select platform clauses rows (some (columns.cursorOf last)) =
      (columns.select platform clauses rows cursor).filter fun row => columns.key row < columns.bound last := by
  rw [select_some unique]
  rcases handed with rfl | ⟨before, rfl⟩
  · rw [select_none]
  · rw [select_some unique] at shown ⊢
    have below : columns.key last < columns.bound before := of_decide_eq_true (List.mem_filter.mp shown).2
    rw [List.filter_filter]
    refine List.filter_congr fun row _ => ?_
    rw [Bool.eq_iff_iff]
    simp only [decide_eq_true_eq, Bool.and_eq_true]
    exact ⟨fun less => ⟨less, (less.trans_le (columns.bound_le last)).trans below⟩, fun both => both.1⟩

/-- What a page with rows after it shows, and what is left after it. -/
theorem page_more (unique : (rows.map columns.id).Nodup) (some_ : 0 < limit) (handed : columns.Handed cursor)
    (long : limit < (columns.select platform clauses rows cursor).length) :
    ∃ front last back, columns.list platform clauses rows limit cursor =
        { rows := front ++ [last], nextCursor := some (columns.cursorOf last) } ∧
      columns.select platform clauses rows cursor = front ++ last :: back ∧
      (columns.select platform clauses rows cursor)[limit - 1]? = some last ∧
      back = (columns.select platform clauses rows cursor).drop limit ∧
      columns.select platform clauses rows (some (columns.cursorOf last)) =
        back.filter fun row => columns.key row < columns.bound last := by
  obtain ⟨front, last, back, split, length, more, here, rest⟩ := split_page some_ long
  have falling : Falling columns.key (columns.select platform clauses rows cursor) := select_falling unique
  refine ⟨front, last, back, list_more split length more, split, here, rest, ?_⟩
  rw [select_next unique handed (by rw [split]; simp)]
  rw [split] at falling ⊢
  exact filter_bound falling (columns.bound_le last)

/-- Following the cursors ends: fewer rows are left after each page. -/
theorem follows_ends (unique : (rows.map columns.id).Nodup) (some_ : 0 < limit) (handed : columns.Handed cursor) :
    ∃ pages, Follows (columns.list platform clauses rows limit) cursor pages := by
  induction left : (columns.select platform clauses rows cursor).length using Nat.strong_induction_on generalizing cursor with
  | _ count ih =>
    by_cases ended : (columns.select platform clauses rows cursor).length ≤ limit
    · exact ⟨_, .last (by rw [list_ended ended])⟩
    · obtain ⟨front, last, back, page, split, -, -, next⟩ := page_more unique some_ handed (not_le.mp ended)
      have fewer : (columns.select platform clauses rows (some (columns.cursorOf last))).length < count := by
        have most := List.length_filter_le (fun row => decide (columns.key row < columns.bound last)) back
        rw [split, List.length_append, List.length_cons] at left
        rw [next]
        omega
      obtain ⟨pages, follows⟩ := ih _ fewer (.inr ⟨last, rfl⟩) rfl
      exact ⟨_, .more (by rw [page]) follows⟩

theorem get_ended {sorted : List ρ} {page : Nat} (left : (sorted.drop (page * limit)).length ≤ limit) :
    sorted.length ≤ (page + 1) * limit := by
  rw [List.length_drop] at left
  rw [Nat.add_mul]
  omega

/-- A page with rows after it, of the rows from the `page`-th page on, where its last row's time is whole. -/
theorem page_onward (unique : (rows.map columns.id).Nodup) (handed : columns.Handed cursor) {sorted : List ρ} {page : Nat}
    (left : columns.select platform clauses rows cursor = sorted.drop (page * limit))
    (split : columns.select platform clauses rows cursor = front ++ last :: back)
    (after : back = (columns.select platform clauses rows cursor).drop limit)
    (whole : (columns.at_ last).micros % 1000 = 0) :
    columns.select platform clauses rows (some (columns.cursorOf last)) = sorted.drop ((page + 1) * limit) := by
  have falling : Falling columns.key (columns.select platform clauses rows cursor) := select_falling unique
  rw [select_next unique handed (by rw [split]; simp), bound_eq whole]
  rw [split] at falling ⊢
  rw [filter_below falling, after, left, List.drop_drop, Nat.add_mul, Nat.one_mul]

/-- Where every page ends at a whole millisecond, the pages are the rows left. -/
theorem follows_whole (unique : (rows.map columns.id).Nodup) (some_ : 0 < limit) (handed : columns.Handed cursor)
    {sorted : List ρ} (whole : columns.WholeEnds limit sorted) {page : Nat} {pages : List (Page ρ)}
    (left : columns.select platform clauses rows cursor = sorted.drop (page * limit))
    (follows : Follows (columns.list platform clauses rows limit) cursor pages) :
    columns.ShownOnce platform (sorted.drop (page * limit)) pages := by
  induction follows generalizing page with
  | @last cursor ended =>
    have few : (columns.select platform clauses rows cursor).length ≤ limit := by
      by_contra long
      obtain ⟨front, last, back, shown, -⟩ := page_more unique some_ handed (not_le.mp long)
      rw [shown] at ended
      cases ended
    rw [list_ended few, left]
    refine ⟨by simp, fun page member next continued => ?_⟩
    rw [List.mem_singleton.mp member] at continued
    cases continued
  | @more cursor next rest continued follows ih =>
    have long : limit < (columns.select platform clauses rows cursor).length := by
      by_contra few
      rw [list_ended (not_lt.mp few)] at continued
      cases continued
    obtain ⟨front, last, back, shown, split, here, after, -⟩ := page_more unique some_ handed long
    rw [shown] at continued
    cases continued
    have ends : (columns.at_ last).micros % 1000 = 0 := by
      rw [left, List.getElem?_drop] at here
      rw [left, List.length_drop] at long
      refine whole page last ?_ ?_
      · rw [Nat.add_mul, Nat.one_mul, Nat.add_sub_assoc some_]
        exact here
      · rw [Nat.add_mul]
        omega
    have onward := page_onward unique handed left split after ends
    have next : back = sorted.drop ((page + 1) * limit) := by
      rw [after, left, List.drop_drop, Nat.add_mul, Nat.one_mul]
    have later := ih (.inr ⟨last, rfl⟩) onward
    rw [shown]
    refine ⟨?_, fun page member next continued => ?_⟩
    · rw [List.flatMap_cons, later.once, ← left, split, ← next, List.append_assoc, List.singleton_append]
    · rcases List.mem_cons.mp member with rfl | member
      · cases continued
        refine ⟨last, _, by simp, decode_cursorOf platform columns last, ?_, rfl⟩
        show (columns.at_ last).micros / 1000 * 1000 = (columns.at_ last).micros
        omega
      · exact later.positions page member next continued

/-- Where every cursor is its row's position, every page ends at a whole millisecond. -/
theorem whole_follows (unique : (rows.map columns.id).Nodup) (some_ : 0 < limit) (handed : columns.Handed cursor)
    {sorted : List ρ} {page : Nat} {pages : List (Page ρ)}
    (left : columns.select platform clauses rows cursor = sorted.drop (page * limit))
    (follows : Follows (columns.list platform clauses rows limit) cursor pages)
    (positions : ∀ page ∈ pages, ∀ next, page.nextCursor = some next → ∃ last cursor, page.rows.getLast? = some last ∧
      decodeCursor platform (some next) = some cursor ∧ cursor.at_ * 1000 = (columns.at_ last).micros ∧
      cursor.id = (columns.id last).text) :
    ∀ later row, page ≤ later → sorted[(later + 1) * limit - 1]? = some row → (later + 1) * limit < sorted.length →
      (columns.at_ row).micros % 1000 = 0 := by
  induction follows generalizing page with
  | @last cursor ended =>
    have few : (columns.select platform clauses rows cursor).length ≤ limit := by
      by_contra long
      obtain ⟨front, last, back, shown, -⟩ := page_more unique some_ handed (not_le.mp long)
      rw [shown] at ended
      cases ended
    intro later row from_ _ more
    have all_ : sorted.length ≤ (page + 1) * limit := by
      rw [left, List.length_drop] at few
      rw [Nat.add_mul]
      omega
    have ordered : (page + 1) * limit ≤ (later + 1) * limit := Nat.mul_le_mul_right _ (by omega)
    omega
  | @more cursor next rest continued follows ih =>
    have long : limit < (columns.select platform clauses rows cursor).length := by
      by_contra few
      rw [list_ended (not_lt.mp few)] at continued
      cases continued
    obtain ⟨front, last, back, shown, split, here, after, -⟩ := page_more unique some_ handed long
    rw [shown] at continued
    cases continued
    obtain ⟨shownLast, cursor', same, decoded, position, -⟩ :=
      positions _ List.mem_cons_self (columns.cursorOf last) (by rw [shown])
    have ends : (columns.at_ last).micros % 1000 = 0 := by
      rw [shown] at same
      have same : last = shownLast := by simpa using same
      rw [decode_cursorOf] at decoded
      cases decoded
      rw [← same] at position
      have position : (columns.at_ last).micros / 1000 * 1000 = (columns.at_ last).micros := position
      omega
    have onward := page_onward unique handed left split after ends
    intro later row from_ there more
    by_cases first : later = page
    · subst first
      rw [left, List.getElem?_drop, ← Nat.add_sub_assoc some_] at here
      rw [Nat.add_mul, Nat.one_mul, here] at there
      rw [← Option.some.inj there]
      exact ends
    · exact ih (.inr ⟨last, rfl⟩) onward (fun page member => positions page (List.mem_cons_of_mem _ member)) later row
        (by omega) there more

/-- A list's pages end, and they show each row once, each cursor its page's last position, when and only when no page
that others follow ends inside a millisecond. -/
theorem pages_shownOnce (unique : (rows.map columns.id).Nodup) (some_ : 0 < limit) :
    (∃ pages, Follows (columns.list platform clauses rows limit) none pages) ∧
    ((∀ pages, Follows (columns.list platform clauses rows limit) none pages →
        columns.ShownOnce platform (descending columns.key (rows.filter clauses)) pages) ↔
      columns.WholeEnds limit (descending columns.key (rows.filter clauses))) := by
  have left : columns.select platform clauses rows none =
      (descending columns.key (rows.filter clauses)).drop (0 * limit) := by
    rw [select_none, Nat.zero_mul, List.drop_zero]
  have ends : ∃ pages, Follows (columns.list platform clauses rows limit) none pages :=
    follows_ends unique some_ (.inl rfl)
  refine ⟨ends, fun once => ?_, fun whole pages follows => ?_⟩
  · obtain ⟨pages, follows⟩ := ends
    exact fun page row => whole_follows unique some_ (.inl rfl) left follows (once pages follows).positions page row
      (Nat.zero_le _)
  · have shown := follows_whole unique some_ (.inl rfl) whole left follows
    rw [Nat.zero_mul, List.drop_zero] at shown
    exact shown

end Columns

/-- What a list is to keep to, of its rows sorted, and when it does. -/
def ShownWhen {ρ : Type} (columns : Columns ρ) (platform : Platform) (limit : Nat) (sorted : List ρ)
    (list : Option Text → Page ρ) : Prop :=
  (∃ pages, Follows list none pages) ∧
    ((∀ pages, Follows list none pages → columns.ShownOnce platform sorted pages) ↔ columns.WholeEnds limit sorted)

/-- The three lists under any filter and limit. -/
theorem lists_shownOnce (platform : Platform) (limit : Nat) (bounds : 1 ≤ limit ∧ limit ≤ 100) :
    (∀ events targetId action outcome, ShownWhen auditColumns platform limit
      (descending auditColumns.key (events.rows.filter (auditClauses targetId action outcome)))
      (listAuditEvents platform events limit targetId action outcome)) ∧
    (∀ runs targetId, ShownWhen commandColumns platform limit
      (descending commandColumns.key (runs.rows.filter (commandClauses targetId)))
      (listCommandRuns platform runs limit targetId)) ∧
    ∀ alerts filter, ShownWhen alertColumns platform limit
      (descending alertColumns.key (alerts.rows.filter (alertClauses filter)))
      (listAlerts platform alerts limit filter) :=
  ⟨fun events _ _ _ => Columns.pages_shownOnce events.unique bounds.1,
    fun runs _ => Columns.pages_shownOnce runs.unique bounds.1,
    fun alerts _ => Columns.pages_shownOnce alerts.unique bounds.1⟩

/-! Two alerts of one transaction, at half a millisecond, on pages of one. -/

def halfMillisecond : Timestamp := { micros := 500, least := by decide, most := by decide }

def uuidOf (last : Fin 16) : Uuid := { digits := List.replicate 31 0 ++ [last], length := rfl }

def twoAlerts : Table AlertRow.alertId where
  rows := [⟨uuidOf 1, halfMillisecond, .open_⟩, ⟨uuidOf 2, halfMillisecond, .open_⟩]
  unique := by decide

def noOther : Platform := { lenient := id, otherDate := fun _ => none }

theorem oneAlert_shown : ShownWhen alertColumns noOther 1
    (descending alertColumns.key (twoAlerts.rows.filter (alertClauses .all))) (listAlerts noOther twoAlerts 1 .all) :=
  (lists_shownOnce noOther 1 (by decide)).2.2 twoAlerts .all

/-- The second alert of the two is on no page: the first page's cursor is before it. -/
theorem alert_hidden : ∃ pages, Follows (listAlerts noOther twoAlerts 1 .all) none pages ∧
    uuidOf 1 ∉ (pages.flatMap (·.rows)).map (·.alertId) := by
  have continued : (listAlerts noOther twoAlerts 1 .all none).nextCursor = some (encodeCursor 0 (uuidOf 2)) := by
    decide +kernel
  have ended : (listAlerts noOther twoAlerts 1 .all (some (encodeCursor 0 (uuidOf 2)))).nextCursor = none := by
    decide +kernel
  exact ⟨_, .more continued (.last ended), by decide +kernel⟩

end LetterIRL.Admin
