import LetterIRL.Mail.Cancelled
import LetterIRL.Redaction.Sweeps

namespace LetterIRL.Redaction
open Lib Commerce
open Ledger hiding Abort
open Mail hiding Store Event step Reachable

/-! What a sweep empties, and what it still needs. -/

variable {cfg : Config} {s s' : Room} {event : Event}

def Event.sweeps : Event → Bool
  | .sweepLetters .. | .sweepDrafts .. => true
  | _ => false

/-- The letter had its content, and the step took it. -/
def EmptiesLetter (s s' : Room) (letter : MailItem) : Prop :=
  letter ∈ s.mail.letters.rows ∧ letter.redacted = false ∧ { letter with redacted := true } ∈ s'.mail.letters.rows

def EmptiesDraft (s s' : Room) (draft : Draft) : Prop :=
  draft ∈ s.mail.commerce.drafts.rows ∧ draft.redacted = false ∧
    { draft with redacted := true } ∈ s'.mail.commerce.drafts.rows

/-- Every order on the letter is settled, no job on it could be claimed, and the money that paid is not on hold. -/
structure LetterUnneeded (s : Mail.Store) (letter : MailItem) : Prop where
  orders : ∀ order ∈ s.commerce.orders.rows, order.letterId = some letter.letterId → Order.settled order
  jobs : ∀ job ∈ s.jobs.rows, job.letterId = letter.letterId → mayClaim job = false
  money : MoneyFree s.commerce letter.letterId

/-- Every order on the draft is settled, and no job of its letter could be claimed. -/
structure DraftUnneeded (s : Mail.Store) (draft : Draft) : Prop where
  orders : ∀ order ∈ s.commerce.orders.rows, order.draftId = some draft.draftId → Order.settled order
  jobs : ∀ letterId, draft.consumedLetterId = some letterId →
    ∀ job ∈ s.jobs.rows, job.letterId = letterId → mayClaim job = false

structure Spares (s s' : Room) : Prop where
  letters : ∀ letter, EmptiesLetter s s' letter → LetterUnneeded s.mail letter
  drafts : ∀ draft, EmptiesDraft s s' draft → DraftUnneeded s.mail draft

/-- The letters an event is to empty. -/
def TakesLetter (s : Room) : Event → MailItem → Prop
  | .sweepLetters sweep selected, letter =>
    letter ∈ s.mail.letters.rows ∧ selected letter.letterId = true ∧ sweep.due s.mail letter = true
  | _, _ => False

/-- No letter to empty was paid with a gift letter of a pack whose order is not settled. -/
def TakesGiftsSettled (s : Room) (event : Event) : Prop :=
  ∀ letter, TakesLetter s event letter → GiftSettled s.mail.commerce letter.letterId

theorem LetterSweep.due_live {sweep : LetterSweep} {s : Mail.Store} {letter : MailItem} (due : sweep.due s letter = true) :
    letter.redacted = false := by
  cases sweep with
  | expired =>
    simp only [LetterSweep.due, letterDue, Bool.and_eq_true, Bool.not_eq_true'] at due
    exact due.1.1.1.1
  | cancelledHeld =>
    simp only [LetterSweep.due, cancelledHeldLetterDue, Bool.and_eq_true, Bool.not_eq_true'] at due
    exact due.1.1.1.1.1

/-- A row written over one with content came from it, and an update with the flag took it. -/
theorem emptied_of_update {α κ : Type} [DecidableEq κ] {key : α → κ} {table : Table key} {selected : α → Bool}
    (change : α → α) (kept : ∀ row, key (change row) = key row) {row : α} (member : row ∈ table.rows)
    (moved : change row ≠ row) (emptied : change row ∈ (table.update selected change kept).rows) : selected row = true := by
  rcases mem_updateWhere.mp emptied with ⟨old, -⟩ | ⟨old, inTable, hit, same⟩
  · exact absurd (eq_of_key_eq table.unique old member (kept row)) moved
  · have keys : key old = key row := by rw [← kept old, same, kept row]
    exact eq_of_key_eq table.unique inTable member keys ▸ hit

theorem emptiesLetter_iff (sweeps : event.sweeps = true) (committed : step cfg s event = .ok s') (letter : MailItem) :
    EmptiesLetter s s' letter ↔ TakesLetter s event letter := by
  cases event with
  | sweepLetters sweep selected =>
    cases committed
    constructor
    · rintro ⟨member, live, emptied⟩
      have changed : ({ letter with redacted := true } : MailItem) ≠ letter := by
        intro same
        rw [← same] at live
        cases live
      have hit := emptied_of_update (fun letter : MailItem => { letter with redacted := true }) (fun _ => rfl)
        member changed emptied
      simp only [Bool.and_eq_true] at hit
      exact ⟨member, hit⟩
    · rintro ⟨member, picked, due⟩
      exact ⟨member, LetterSweep.due_live due,
        mem_updateWhere.mpr (.inr ⟨letter, member, by rw [picked, due]; rfl, rfl⟩)⟩
  | sweepDrafts sweep selected =>
    cases committed
    refine ⟨?_, False.elim⟩
    rintro ⟨member, live, emptied⟩
    have same := eq_of_key_eq s.mail.letters.unique emptied member rfl
    rw [← same] at live
    cases live
  | mail | submits | restoreLetter | restoreDraft => cases sweeps

/-! Each sweep looks for what would still need the row. -/

theorem LetterSweep.due_unneeded {sweep : LetterSweep} {s : Mail.Store} {letter : MailItem}
    (descended : Descended s.commerce.account.creditLedger) (due : sweep.due s letter = true)
    (gifts : GiftSettled s.commerce letter.letterId) : LetterUnneeded s letter := by
  have free : ∃ retired, (∀ job, retired job = true → retiredFailedJob s job = true) ∧
      jobHolds s retired letter.letterId = false ∧
      orderHolds SETTLED_ORDER_STATUSES s (fun order => order.letterId == some letter.letterId) = false ∧
      fundingHold s.commerce letter.letterId = false := by
    cases sweep with
    | expired =>
      simp only [LetterSweep.due, letterDue, Bool.and_eq_true, Bool.not_eq_true'] at due
      exact ⟨retiredFailedJob s, fun _ retired => retired, due.1.1.2, due.1.2, due.2⟩
    | cancelledHeld =>
      simp only [LetterSweep.due, cancelledHeldLetterDue, Bool.and_eq_true, Bool.not_eq_true'] at due
      exact ⟨fun _ => false, fun _ never => (nomatch never), due.1.1.2, due.1.2, due.2⟩
  obtain ⟨retired, spent, jobs, orders, money⟩ := free
  exact ⟨fun order member named => settled_of_orderFree orders (fun _ settled => settled) member (by simp [named]),
    fun job member named => unclaimable_of_jobFree jobs spent member named, fundingFree descended money gifts⟩

theorem DraftSweep.due_unneeded {sweep : DraftSweep} {s : Mail.Store} {draft : Draft} (due : sweep.due s draft = true) :
    DraftUnneeded s draft := by
  have free : ∃ settled : List OrderStatus, (∀ status ∈ settled, status ∈ SETTLED_ORDER_STATUSES) ∧
      orderHolds settled s (fun order => order.draftId == some draft.draftId) = false ∧
      draftJobHolds s draft = false := by
    cases sweep with
    | paid =>
      simp only [DraftSweep.due, paidDraftDue, Bool.and_eq_true, Bool.not_eq_true'] at due
      exact ⟨SETTLED_ORDER_STATUSES, fun _ settled => settled, due.1.2, due.2⟩
    | abandoned =>
      simp only [DraftSweep.due, abandonedDraftDue, Bool.and_eq_true, Bool.not_eq_true'] at due
      exact ⟨NEVER_PAID_ORDER_STATUSES, by decide, due.1.2, due.2⟩
  obtain ⟨settled, narrow, orders, jobs⟩ := free
  refine ⟨fun order member named => settled_of_orderFree orders narrow member (by simp [named]), ?_⟩
  intro letterId consumed job member named
  unfold draftJobHolds at jobs
  rw [consumed, Option.any_some] at jobs
  exact unclaimable_of_jobFree jobs (fun _ retired => retired) member named

theorem emptiesDraft_unneeded (sweeps : event.sweeps = true) (committed : step cfg s event = .ok s') {draft : Draft}
    (empties : EmptiesDraft s s' draft) : DraftUnneeded s.mail draft := by
  obtain ⟨member, live, emptied⟩ := empties
  have changed : ({ draft with redacted := true } : Draft) ≠ draft := by
    intro same
    rw [← same] at live
    cases live
  cases event with
  | sweepDrafts sweep selected =>
    cases committed
    have hit := emptied_of_update (fun draft : Draft => { draft with redacted := true }) (fun _ => rfl)
      member changed emptied
    simp only [Bool.and_eq_true] at hit
    exact DraftSweep.due_unneeded hit.2
  | sweepLetters sweep selected =>
    cases committed
    exact absurd (eq_of_key_eq s.mail.commerce.drafts.unique emptied member rfl) changed
  | mail | submits | restoreLetter | restoreDraft => cases sweeps

/-- In every run, nothing redacted is mailed, every sweep of drafts takes only what nothing needs, and one of
letters does so exactly when it takes no letter that the gift letter of an unsettled pack paid for. -/
theorem sweeps_spare_needed (reach : Reachable cfg s) (committed : step cfg s event = .ok s') :
    (s'.built.map Prod.fst = s'.mail.submissions ∧ ∀ built ∈ s'.built, built.2.redacted = false) ∧
      (event.sweeps = true → (Spares s s' ↔ TakesGiftsSettled s event)) := by
  have kept := reachable_kept reach
  have after := kept.step committed
  refine ⟨⟨after.submissions, after.unredacted⟩, fun sweeps => ⟨fun spares letter takes => ?_, fun gifts => ⟨?_, ?_⟩⟩⟩
  · exact (spares.letters letter ((emptiesLetter_iff sweeps committed letter).mpr takes)).money.gift
  · intro letter empties
    have takes := (emptiesLetter_iff sweeps committed letter).mp empties
    have settled := gifts letter takes
    cases event with
    | sweepLetters sweep selected => exact LetterSweep.due_unneeded kept.descended takes.2.2 settled
    | sweepDrafts => cases takes
    | mail | submits | restoreLetter | restoreDraft => cases sweeps
  · exact fun draft empties => emptiesDraft_unneeded sweeps committed empties

/-- The held letter of `heldSend` is cancelled by its customer; `before` is what happens to its pack first. -/
def cancelledSend (gift : Bool) (before : List Mail.Event) : List Event :=
  (heldSend gift ++ before ++ [Mail.Event.cancelScheduled 40 0 false]).map .mail

def cancelledLetter : MailItem := { letterId := 40, creditsCost := 2, mailOn := some (days 9), status := .cancelled }

def sweepCancelled : Event := .sweepLetters .cancelledHeld fun _ => true

/-- The letter is the account's one letter, and the step empties it. -/
def emptiesCancelled (s s' : Room) : Bool :=
  s.mail.letters.rows == [cancelledLetter] && s'.mail.letters.rows == [{ cancelledLetter with redacted := true }]

theorem empties_of_check (emptied : emptiesCancelled s s' = true) : EmptiesLetter s s' cancelledLetter := by
  simp only [emptiesCancelled, Bool.and_eq_true, beq_iff_eq] at emptied
  obtain ⟨before, after⟩ := emptied
  refine ⟨?_, rfl, ?_⟩
  · rw [before]
    exact List.mem_singleton.mpr rfl
  · rw [after]
    exact List.mem_singleton.mpr rfl

/-- A letter sent with the pack's credits is emptied, and nothing needed it. -/
theorem cancelled_letter_unneeded :
    ∃ s s' : Room, Reachable {} s ∧ step {} s sweepCancelled = .ok s' ∧ EmptiesLetter s s' cancelledLetter ∧
      LetterUnneeded s.mail cancelledLetter := by
  obtain ⟨s, s', reach, committed, passes⟩ := exists_step (step {}) {}
    (fun s s' => emptiesCancelled s s' && s.mail.commerce.giftLetters.rows == []) (cancelledSend false []) sweepCancelled
    (by decide)
  simp only [Bool.and_eq_true, beq_iff_eq] at passes
  obtain ⟨emptied, giftless⟩ := passes
  refine ⟨s, s', reach, committed, empties_of_check emptied, ?_⟩
  refine (((sweeps_spare_needed reach committed).2 rfl).mpr ?_).letters _ (empties_of_check emptied)
  rintro letter - orderId order ⟨gift, member, -⟩
  rw [giftless] at member
  cases member

/-- A letter sent with the pack's gift letter is emptied while the pack is disputed. -/
theorem disputed_gift_emptied :
    ∃ s s' : Room, Reachable { giftLettersEnabled := true } s ∧
      step { giftLettersEnabled := true } s sweepCancelled = .ok s' ∧ EmptiesLetter s s' cancelledLetter ∧
      GiftPaid s.mail.commerce (.placed 0) 40 ∧ (s.mail.commerce.orders.find (.placed 0)).map Order.status = some .disputed ∧
      ¬Spares s s' := by
  obtain ⟨s, s', reach, committed, passes⟩ := exists_step (step { giftLettersEnabled := true }) {}
    (fun s s' => emptiesCancelled s s' &&
      (s.mail.commerce.giftLetters.rows.any fun gift =>
        gift.consumedByLetterId == some 40 && gift.sourceOrderId == some (.placed 0)) &&
      (s.mail.commerce.orders.find (.placed 0)).map Order.status == some .disputed)
    (cancelledSend true [.commerce (.dispute (disputeOpened 3 1)) { jobId := 0 }]) sweepCancelled (by decide)
  simp only [Bool.and_eq_true, beq_iff_eq] at passes
  obtain ⟨⟨emptied, gifted⟩, disputed⟩ := passes
  obtain ⟨gift, member, spent⟩ := List.any_eq_true.mp gifted
  simp only [Bool.and_eq_true, beq_iff_eq] at spent
  have paid : GiftPaid s.mail.commerce (.placed 0) 40 := ⟨gift, member, spent⟩
  refine ⟨s, s', reach, committed, empties_of_check emptied, paid, disputed, fun spares => ?_⟩
  obtain ⟨order, found, status⟩ := Option.map_eq_some_iff.mp disputed
  have settled := (spares.letters _ (empties_of_check emptied)).money.gift (.placed 0) order paid found
  rw [Order.settled, status] at settled
  exact absurd settled (by decide)

end LetterIRL.Redaction
