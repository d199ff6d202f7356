import LetterIRL.Content.EditRuns

namespace LetterIRL.Content
open Lib Lib.Json Commerce

/-! Page and content stay in step, whatever edits, sends, checkouts and erasures run together. -/

variable {cfg : Config} {draw : Draw} {draftId : DraftId} {s s' : Studio} {event : StudioEvent}

/-- The stored page is the draw of the stored content, until the draft is emptied; its version always goes with its
stationery and signature. -/
structure InStep (draw : Draw) (letter : DraftLetter) : Prop where
  html : ∀ html, letter.previewHtml = some html →
    html = (draw letter.words letter.stationery letter.signatureImage).previewHtml
  pages : letter.previewHtml.isSome →
    letter.pages = (draw letter.words letter.stationery letter.signatureImage).pages
  version : letter.rendererVersion = rendererVersionFor letter.stationery letter.signatureImage.isSome

theorem previewedLetter_inStep (words : Words) (stationery : Option StoredStationery) (signatureImage : Option Text) :
    InStep draw (previewedLetter draw words stationery signatureImage) where
  html _ shown := (Option.some.inj shown).symm
  pages _ := rfl
  version := rfl

theorem rendererVersionFor_stored (stationery : Option StoredStationery) :
    rendererVersionFor stationery false = if stationery.isSome then .pdf2 else .pdf1 := by
  cases stationery with
  | none => rfl
  | some stationery => simp [rendererVersionFor, stationery.themed]

theorem rendererVersionFor_isSome {a b : Option StoredStationery} (signed : Bool) (same : a.isSome = b.isSome) :
    rendererVersionFor a signed = rendererVersionFor b signed := by
  cases signed with
  | true => rfl
  | false => rw [rendererVersionFor_stored, rendererVersionFor_stored, same]

theorem InStep.emptied {letter : DraftLetter} (inStep : InStep draw letter) : InStep draw letter.emptied where
  html _ shown := nomatch shown
  pages shown := nomatch shown
  version := by
    show letter.rendererVersion = _
    rw [inStep.version]
    simp only [DraftLetter.emptied, Option.isSome_map]
    exact rendererVersionFor_isSome _ (by rw [Option.isSome_map])

/-! The ingredients an edit checks again are the stored ones. -/

theorem Theme.text_injective : Function.Injective Theme.text := by
  intro a b same
  cases a <;> cases b <;> first | rfl | exact absurd same (by decide)

theorem stationeryJson_injective : Function.Injective stationeryJson := by
  intro a b same
  match a, b with
  | none, none => rfl
  | none, some b => cases same
  | some a, none => cases same
  | some ⟨theme, slots, _⟩, some ⟨theme', slots', _⟩ =>
    simp only [stationeryJson, StoredStationery.json, Value.object.injEq, List.cons.injEq, Prod.mk.injEq,
      Value.string.injEq, true_and] at same
    obtain rfl : theme = theme' := Theme.text_injective same.1
    obtain rfl : slots = slots' := same.2
    rfl

/-- Under the lock, what the page was drawn from is what the row has. -/
theorem drawnFrom_same {row : DraftLetter} {drawnFrom : DrawnFrom} (unchanged : drawnFromChanged row drawnFrom = false) :
    (∀ words, drawnFrom.words = some words → words = row.words) ∧
      (∀ stationery, drawnFrom.stationery = some stationery → stationery = row.stationery) ∧
      ∀ signature, drawnFrom.signature = some signature → signature = row.signatureImage := by
  simp only [drawnFromChanged, Bool.or_eq_false_iff] at unchanged
  obtain ⟨⟨words, stationery⟩, signature⟩ := unchanged
  refine ⟨fun seen here => ?_, fun seen here => ?_, fun seen here => ?_⟩
  · rw [here] at words
    have same : row.words = seen := by simpa using words
    exact same.symm
  · rw [here] at stationery
    have written : stringify (stationeryJson row.stationery) = stringify (stationeryJson seen) := by
      simpa using stationery
    exact (stationeryJson_injective (stringify_injective written)).symm
  · rw [here] at signature
    have same : row.signatureImage = seen := by simpa using signature
    exact same.symm

/-- The page an edit stores is the draw of what it stores. -/
theorem DraftChange.page_drawn {row seen : DraftLetter} (change : DraftChange) (page : DrawnPage)
    (unchanged : drawnFromChanged row (change.drawnFrom seen) = false) :
    change.page draw seen =
      draw (change.write page row).words (change.write page row).stationery (change.write page row).signatureImage := by
  obtain ⟨words, stationery, signature⟩ := drawnFrom_same unchanged
  cases change with
  | stationery stored designId =>
    show draw seen.words stored seen.signatureImage = draw row.words stored row.signatureImage
    rw [words seen.words rfl, signature seen.signatureImage rfl]
  | words bodyText signOff =>
    show draw { bodyText, signOff := some signOff } seen.stationery seen.signatureImage =
      draw { bodyText, signOff := some signOff } row.stationery row.signatureImage
    rw [stationery seen.stationery rfl, signature seen.signatureImage rfl]
  | signature image =>
    show draw seen.words seen.stationery image = draw row.words row.stationery image
    rw [words seen.words rfl, stationery seen.stationery rfl]

theorem DraftChange.write_version {row : DraftLetter} (change : DraftChange) (page : DrawnPage)
    (version : row.rendererVersion = rendererVersionFor row.stationery row.signatureImage.isSome) :
    (change.write page row).rendererVersion =
      rendererVersionFor (change.write page row).stationery (change.write page row).signatureImage.isSome := by
  cases change with
  | stationery stored designId =>
    show (if row.signatureImage.isSome then RendererVersion.pdf4 else rendererVersionFor stored false) =
      rendererVersionFor stored row.signatureImage.isSome
    by_cases signed : row.signatureImage.isSome
    · rw [if_pos signed, signed]
      rfl
    · rw [if_neg signed, (Bool.not_eq_true _).mp signed]
  | words bodyText signOff => exact version
  | signature image =>
    show (if image.isSome then RendererVersion.pdf4 else if row.stationery.isSome then .pdf2 else .pdf1) =
      rendererVersionFor row.stationery image.isSome
    by_cases signed : image.isSome
    · rw [if_pos signed, signed]
      rfl
    · rw [if_neg signed, ← rendererVersionFor_stored, (Bool.not_eq_true _).mp signed]

/-- An edit drawn from the stored ingredients stores the draw of the new ones. -/
theorem InStep.write {row seen : DraftLetter} (inStep : InStep draw row) (change : DraftChange)
    (unchanged : drawnFromChanged row (change.drawnFrom seen) = false) :
    InStep draw (change.write (change.page draw seen) row) := by
  have drawn : change.page draw seen = _ := change.page_drawn (change.page draw seen) unchanged
  have stored : (change.write (change.page draw seen) row).previewHtml = some (change.page draw seen).previewHtml ∧
      (change.write (change.page draw seen) row).pages = (change.page draw seen).pages := by
    cases change <;> exact ⟨rfl, rfl⟩
  refine ⟨fun html shown => ?_, fun _ => ?_, change.write_version _ inStep.version⟩
  · rw [← drawn, ← Option.some.inj (stored.1.symm.trans shown)]
  · rw [← drawn, stored.2]

/-! What a step does. -/

/-- Where an edit stands. -/
def Studio.phase (s : Studio) (edit : Nat) : Option EditPhase := (s.edits[edit]?).map Edit.phase

theorem Studio.phase_answer (s : Studio) (edit other : Nat) (phase : EditPhase) :
    (s.answer edit phase).phase other = if edit = other then (s.phase other).map fun _ => phase else s.phase other := by
  simp only [Studio.phase, Studio.answer, List.getElem?_modify]
  by_cases same : edit = other
  · cases s.edits[other]? <;> simp [same]
  · cases s.edits[other]? <;> simp [same]

inductive StudioMove (cfg : Config) (draw : Draw) (draftId : DraftId) (s : Studio) : StudioEvent → Studio → Prop
  | shop {event : Mail.Event} {mail : Mail.Store} (committed : Mail.step cfg s.mail event = .ok mail)
      (free : s.holder.isSome → takesDraftLock draftId s.mail.commerce mail.commerce event = false) :
      StudioMove cfg draw draftId s (.shop event) { s with mail }
  | erase {imagesInFlight : Bool} (free : s.holder = none) :
      StudioMove cfg draw draftId s (.erase imagesInFlight)
        { s with mail := Mail.eraseAccount s.mail, letter := s.letter.emptied, remembered := { erased := true } }
  | read (change : DraftChange) :
      StudioMove cfg draw draftId s (.read change)
        { s with edits := s.edits ++ [{ change, seen := s.letter, phase := .read }] }
  | call {edit : Nat} (here : s.phase edit = some .read) :
      StudioMove cfg draw draftId s (.call edit) (s.answer edit (.called s.now))
  | refuse {edit : Nat} {now began : Time} {reason : DraftRedrawRefusal} (here : s.phase edit = some (.called now))
      (why : lockChangeableDraft s.mail.commerce draftId now began = some reason) :
      StudioMove cfg draw draftId s (.lock edit began) (s.answer edit (.refused reason))
  | lock {edit : Nat} {now began : Time} (here : s.phase edit = some (.called now)) (past : began ≤ s.now)
      (free : s.holder = none) (open_ : lockChangeableDraft s.mail.commerce draftId now began = none) :
      StudioMove cfg draw draftId s (.lock edit began) { s.answer edit (.locked now) with holder := some edit }
  | stale {edit : Nat} {now : Time} (here : s.phase edit = some (.locked now)) :
      StudioMove cfg draw draftId s (.write edit) { s.answer edit (.refused .changed) with holder := none }
  | write {edit : Nat} {row : Edit} {now : Time} (here : s.phase edit = some (.locked now))
      (unchanged : drawnFromChanged s.letter (row.change.drawnFrom row.seen) = false) :
      StudioMove cfg draw draftId s (.write edit)
        { s.answer edit .written with
          mail := { s.mail with
            commerce := repaged s.mail.commerce draftId (row.change.page draw row.seen).pages }
          letter := row.change.write (row.change.page draw row.seen) s.letter
          remembered := row.change.remember s.remembered
          holder := none }

theorem studioMove_of_step (committed : s.step cfg draw draftId event = .ok s') :
    StudioMove cfg draw draftId s event s' := by
  cases event with
  | shop event =>
    simp only [Studio.step] at committed
    split at committed
    · cases committed
    · rename_i mail ran
      split at committed
      · cases committed
      · split at committed
        · cases committed
        · rename_i free
          cases committed
          refine .shop ran fun held => ?_
          rw [held, Bool.true_and] at free
          exact (Bool.not_eq_true _).mp free
  | erase imagesInFlight =>
    simp only [Studio.step] at committed
    split at committed
    · cases committed
    · split at committed
      · cases committed
      · rename_i free
        cases committed
        exact .erase (by simpa using free)
  | read change =>
    cases committed
    exact .read change
  | call edit =>
    simp only [Studio.step] at committed
    split at committed
    · rename_i here
      cases committed
      exact .call here
    · cases committed
  | lock edit began =>
    simp only [Studio.step] at committed
    split at committed
    · rename_i now here
      split at committed
      · cases committed
      · rename_i timely
        split at committed
        · cases committed
        · rename_i free
          split at committed
          · rename_i reason why
            cases committed
            exact .refuse here why
          · rename_i open_
            cases committed
            exact .lock here (Nat.le_of_not_lt fun late => timely (.inr late)) (by simpa using free) open_
    · cases committed
  | write edit =>
    simp only [Studio.step] at committed
    split at committed
    · rename_i row found
      split at committed
      · rename_i now locked
        have here : s.phase edit = some (.locked now) := by rw [Studio.phase, found, Option.map_some, locked]
        simp only [Studio.finish] at committed
        split at committed
        · cases committed
          exact .stale here
        · rename_i unchanged
          cases committed
          exact .write here ((Bool.not_eq_true _).mp unchanged)
      · cases committed
    · cases committed

/-! Over a run. -/

theorem StudioMove.inStep (move : StudioMove cfg draw draftId s event s') (inStep : InStep draw s.letter) :
    InStep draw s'.letter := by
  cases move with
  | erase _ => exact inStep.emptied
  | @write _ row _ _ unchanged => exact inStep.write row.change unchanged
  | _ => exact inStep

theorem StudioMove.emptied (move : StudioMove cfg draw draftId s event s') (emptied : s'.letter.previewHtml = none) :
    s.letter.previewHtml = none ∨ ∃ imagesInFlight, event = .erase imagesInFlight := by
  cases move with
  | erase _ => exact .inr ⟨_, rfl⟩
  | @write _ row _ _ unchanged => cases change : row.change <;> simp [DraftChange.write, change] at emptied
  | _ => exact .inl emptied

/-- A refusal changes nothing but the edit's answer. -/
theorem StudioMove.refused {edit : Nat} {reason : DraftRedrawRefusal} (move : StudioMove cfg draw draftId s event s')
    (answered : s'.phase edit = some (.refused reason)) (open_ : s.phase edit ≠ some (.refused reason)) :
    s'.mail = s.mail ∧ s'.letter = s.letter ∧ s'.remembered = s.remembered := by
  have settled : ∀ {other : Nat} {phase : EditPhase}, phase ≠ .refused reason →
      (s.answer other phase).phase edit ≠ some (.refused reason) := by
    intro other phase different answered
    rw [Studio.phase_answer] at answered
    split at answered
    · obtain ⟨_, _, same⟩ := Option.map_eq_some_iff.mp answered
      exact different same
    · exact open_ answered
  cases move with
  | shop _ _ => exact absurd answered open_
  | erase _ => exact absurd answered open_
  | read change =>
    simp only [Studio.phase, List.getElem?_append] at answered
    split at answered
    · exact absurd answered open_
    · rw [List.getElem?_singleton] at answered
      split at answered <;> cases answered
  | call _ => exact ⟨rfl, rfl, rfl⟩
  | refuse _ _ => exact ⟨rfl, rfl, rfl⟩
  | lock _ _ _ _ => exact ⟨rfl, rfl, rfl⟩
  | stale _ => exact ⟨rfl, rfl, rfl⟩
  | write _ _ => exact absurd answered (settled (fun same => EditPhase.noConfusion same))

/-- An order that is not live at the transaction's clock is not live later. -/
theorem liveCheckout_later {began now : Time} {sessionHolds : Bool} {order : Order} (later : began ≤ now)
    (closed : liveCheckout began sessionHolds draftId order = false) :
    liveCheckout now sessionHolds draftId order = false := by
  rw [Bool.eq_false_iff] at closed ⊢
  intro live
  refine closed ?_
  simp only [liveCheckout, Bool.and_eq_true, Bool.or_eq_true] at live ⊢
  obtain ⟨ours, (status | window) | session⟩ := live
  · exact ⟨ours, .inl (.inl status)⟩
  · refine ⟨ours, .inl (.inr ?_)⟩
    cases expiry : order.checkoutExpiresAt with
    | none => rfl
    | some at_ =>
      rw [expiry] at window
      have still : now < at_ := of_decide_eq_true window
      exact decide_eq_true (Nat.lt_of_le_of_lt later still)
  · exact ⟨ours, .inr session⟩

/-- The draft may change: it is pending, not emptied, unexpired by the caller's clock, and no live order holds it. -/
structure Changeable (s : Studio) (draftId : DraftId) (now : Time) : Prop where
  draft : ∃ draft, s.mail.commerce.drafts.find draftId = some draft ∧ draft.status = .pending ∧
    draft.redacted = false ∧ now < draft.expiresAt
  orders : ∀ order ∈ s.mail.commerce.orders.rows, liveCheckout s.now true draftId order = false

theorem changeable_of_lock {now began : Time} (past : began ≤ s.now)
    (open_ : lockChangeableDraft s.mail.commerce draftId now began = none) : Changeable s draftId now := by
  unfold lockChangeableDraft at open_
  split at open_
  · cases open_
  · rename_i draft found
    split at open_
    · cases open_
    · split at open_
      · cases open_
      · rename_i unsent fresh
        split at open_
        · cases open_
        · rename_i free
          refine ⟨⟨draft, found, ?_, ?_, ?_⟩, fun order member => liveCheckout_later past ?_⟩
          · by_contra other
            exact fresh (.inl other)
          · by_contra emptied
            exact fresh (.inr (.inl (by simpa using emptied)))
          · exact Nat.lt_of_not_le fun expired => fresh (.inr (.inr expired))
          · simp only [Bool.not_eq_true, List.any_eq_false] at free
            exact free order member

/-- The state in which an edit took the draft's lock: the draft might change there, its row has not changed since, and
no order on it is new. -/
structure Looked (cfg : Config) (draw : Draw) (draftId : DraftId) (initial looked s : Studio) (now : Time) : Prop where
  before : Reach (Studio.step cfg draw draftId) anyStep initial looked
  after : Reach (Studio.step cfg draw draftId) anyStep looked s
  changeable : Changeable looked draftId now
  row : s.mail.commerce.drafts.find draftId = looked.mail.commerce.drafts.find draftId
  orders : ∀ order ∈ s.mail.commerce.orders.rows, order.draftId = some draftId →
    ∃ old ∈ looked.mail.commerce.orders.rows, old.orderId = order.orderId ∧ old.draftId = some draftId

/-- An edit under way holds the draft's row, alone. -/
def Holds (cfg : Config) (draw : Draw) (draftId : DraftId) (initial s : Studio) : Prop :=
  ∀ edit now, s.phase edit = some (.locked now) →
    s.holder = some edit ∧ ∃ looked, Looked cfg draw draftId initial looked s now

theorem takesDraftLock_free {old new : Commerce.Store} {event : Mail.Event}
    (free : takesDraftLock draftId old new event = false) :
    new.drafts.find draftId = old.drafts.find draftId ∧
      ∀ order ∈ new.orders.rows, order.draftId = some draftId →
        ∃ before ∈ old.orders.rows, before.orderId = order.orderId ∧ before.draftId = some draftId := by
  simp only [takesDraftLock, Bool.or_eq_false_iff] at free
  obtain ⟨⟨row, orders⟩, -⟩ := free
  refine ⟨by simpa using row, fun order member ordered => ?_⟩
  have known := List.any_eq_false.mp orders order member
  simpa [ordered] using known

theorem Looked.shop {initial looked : Studio} {mailEvent : Mail.Event} {mail : Mail.Store} {now : Time}
    (looking : Looked cfg draw draftId initial looked s now)
    (free : takesDraftLock draftId s.mail.commerce mail.commerce mailEvent = false)
    (committed : s.step cfg draw draftId (.shop mailEvent) = .ok { s with mail }) :
    Looked cfg draw draftId initial looked { s with mail } now := by
  obtain ⟨row, orders⟩ := takesDraftLock_free free
  refine ⟨looking.before, .next looking.after trivial committed, looking.changeable, row.trans looking.row, ?_⟩
  intro order member ordered
  obtain ⟨before, known, sameId, onDraft⟩ := orders order member ordered
  obtain ⟨old, there, oldId, oldDraft⟩ := looking.orders before known onDraft
  exact ⟨old, there, oldId.trans sameId, oldDraft⟩

theorem Holds.step {initial : Studio} (reach : Reach (Studio.step cfg draw draftId) anyStep initial s)
    (holds : Holds cfg draw draftId initial s) (committed : s.step cfg draw draftId event = .ok s') :
    Holds cfg draw draftId initial s' := by
  have along : ∀ {looked : Studio} {now : Time}, Looked cfg draw draftId initial looked s now →
      s'.mail = s.mail → Looked cfg draw draftId initial looked s' now := by
    intro looked now looking same
    exact ⟨looking.before, .next looking.after trivial committed, looking.changeable, same ▸ looking.row,
      same ▸ looking.orders⟩
  -- An answer that is not a lock leaves only the edits that were under way.
  have waiting : ∀ {other edit : Nat} {phase : EditPhase} {now : Time}, (∀ at_, phase ≠ .locked at_) →
      (s.answer other phase).phase edit = some (.locked now) → other ≠ edit ∧ s.phase edit = some (.locked now) := by
    intro other edit phase now unlocked answered
    rw [Studio.phase_answer] at answered
    split at answered
    · obtain ⟨_, _, same⟩ := Option.map_eq_some_iff.mp answered
      exact absurd same (unlocked now)
    · rename_i different
      exact ⟨different, answered⟩
  have alone : ∀ {edit other : Nat} {now at_ : Time}, s.phase edit = some (.locked now) →
      s.phase other = some (.locked at_) → edit = other := by
    intro edit other now at_ first second
    exact Option.some.inj ((holds edit now first).1.symm.trans (holds other at_ second).1)
  intro edit now locked
  cases studioMove_of_step committed with
  | shop ran free =>
    obtain ⟨held, looked, looking⟩ := holds edit now locked
    exact ⟨held, looked, looking.shop (free (by rw [held]; rfl)) committed⟩
  | erase free =>
    obtain ⟨held, -⟩ := holds edit now locked
    rw [free] at held
    cases held
  | read change =>
    have there : s.phase edit = some (.locked now) := by
      simp only [Studio.phase, List.getElem?_append] at locked
      split at locked
      · exact locked
      · rw [List.getElem?_singleton] at locked
        split at locked <;> cases locked
    obtain ⟨held, looked, looking⟩ := holds edit now there
    exact ⟨held, looked, along looking rfl⟩
  | call here =>
    obtain ⟨-, there⟩ := waiting (fun _ same => EditPhase.noConfusion same) locked
    obtain ⟨held, looked, looking⟩ := holds edit now there
    exact ⟨held, looked, along looking rfl⟩
  | refuse here why =>
    obtain ⟨-, there⟩ := waiting (fun _ same => EditPhase.noConfusion same) locked
    obtain ⟨held, looked, looking⟩ := holds edit now there
    exact ⟨held, looked, along looking rfl⟩
  | @lock other called began here past free open_ =>
    change (s.answer other (.locked called)).phase edit = _ at locked
    rw [Studio.phase_answer] at locked
    split at locked
    · rename_i same
      obtain ⟨_, _, sameNow⟩ := Option.map_eq_some_iff.mp locked
      obtain rfl : called = now := EditPhase.locked.inj sameNow
      refine ⟨congrArg some same, s, reach, .next .start trivial committed, changeable_of_lock past open_, rfl, ?_⟩
      exact fun order member ordered => ⟨order, member, rfl, ordered⟩
    · obtain ⟨held, -⟩ := holds edit now locked
      rw [free] at held
      cases held
  | stale here =>
    obtain ⟨different, there⟩ := waiting (fun _ same => EditPhase.noConfusion same) locked
    exact absurd (alone here there) different
  | write here _ =>
    obtain ⟨different, there⟩ := waiting (fun _ same => EditPhase.noConfusion same) locked
    exact absurd (alone here there) different

theorem reachable_holds {initial : Studio} (idle : initial.edits = [])
    (reach : Reach (Studio.step cfg draw draftId) anyStep initial s) : Holds cfg draw draftId initial s := by
  induction reach with
  | start =>
    intro edit now locked
    simp [Studio.phase, idle] at locked
  | next previous _ committed ih => exact ih.step previous committed

/-- A step that writes an edit is the write of one that holds the row. -/
theorem StudioMove.written {edit : Nat} (move : StudioMove cfg draw draftId s event s')
    (written : s'.phase edit = some .written) (open_ : s.phase edit ≠ some .written) :
    ∃ now, s.phase edit = some (.locked now) := by
  have settled : ∀ {other : Nat} {phase : EditPhase}, phase ≠ .written →
      (s.answer other phase).phase edit ≠ some .written := by
    intro other phase different answered
    rw [Studio.phase_answer] at answered
    split at answered
    · obtain ⟨_, _, same⟩ := Option.map_eq_some_iff.mp answered
      exact different same
    · exact open_ answered
  cases move with
  | shop _ _ => exact absurd written open_
  | erase _ => exact absurd written open_
  | read change =>
    simp only [Studio.phase, List.getElem?_append] at written
    split at written
    · exact absurd written open_
    · rw [List.getElem?_singleton] at written
      split at written <;> cases written
  | call _ => exact absurd written (settled (fun same => EditPhase.noConfusion same))
  | refuse _ _ => exact absurd written (settled (fun same => EditPhase.noConfusion same))
  | lock _ _ _ _ => exact absurd written (settled (fun same => EditPhase.noConfusion same))
  | stale _ => exact absurd written (settled (fun same => EditPhase.noConfusion same))
  | @write other row now here _ =>
    change (s.answer other .written).phase edit = _ at written
    rw [Studio.phase_answer] at written
    split at written
    · rename_i same
      exact ⟨now, same ▸ here⟩
    · exact absurd written open_

/-- In every run after a preview, the stored page is the draw of the stored content until an erasure empties the draft,
and the version goes with it; a refused edit changes nothing; and a written edit took the lock of a draft that might
change, whose row nothing else wrote and on which no order was opened since. -/
theorem edits_keep_step {mail : Mail.Store} {remembered : RememberedChoices} {words : Words}
    {stationery : Option StoredStationery} {signatureImage : Option Text}
    (reach : Reach (Studio.step cfg draw draftId) anyStep
      (Studio.previewed draw mail remembered words stationery signatureImage) s) :
    InStep draw s.letter ∧ ∀ event s', s.step cfg draw draftId event = .ok s' →
      (s'.letter.previewHtml = none →
        s.letter.previewHtml = none ∨ ∃ imagesInFlight, event = .erase imagesInFlight) ∧
      (∀ edit reason, s'.phase edit = some (.refused reason) → s.phase edit ≠ some (.refused reason) →
        s'.mail = s.mail ∧ s'.letter = s.letter ∧ s'.remembered = s.remembered) ∧
      ∀ edit, s'.phase edit = some .written → s.phase edit ≠ some .written →
        ∃ looked now, Looked cfg draw draftId
          (Studio.previewed draw mail remembered words stationery signatureImage) looked s now := by
  refine ⟨?_, fun event s' committed => ?_⟩
  · exact reach.invariant (I := fun studio => InStep draw studio.letter) (previewedLetter_inStep _ _ _)
      fun _ _ _ inStep _ committed => (studioMove_of_step committed).inStep inStep
  · have move := studioMove_of_step committed
    refine ⟨move.emptied, fun edit reason => move.refused, fun edit written open_ => ?_⟩
    obtain ⟨now, locked⟩ := move.written written open_
    obtain ⟨-, looked, looking⟩ := reachable_holds rfl reach edit now locked
    exact ⟨looked, now, looking⟩

/-! Runs that leave the stored page behind, and edits that outlast their draft. -/

/-- A page that is its letter's words. -/
def plainDraw : Draw := fun words _ _ => { previewHtml := words.bodyText, pages := 1 }

def letterDraft : Draft :=
  { draftId := 1, mailOption := { mailType := .letter }, expiresAt := 10, requiredCredits := 2 }

def shortLetter : Words := { bodyText := ['H', 'i'], signOff := none }

/-- The draft's checkout: cancelled, or with its window passed and no session recorded yet. -/
def letterCheckout (status : OrderStatus) : Order :=
  { orderId := .placed 1, orderType := .jitMail, draftId := some 1, productCode := .jit .jitLetter, amountCents := 499,
    currency := ['u', 's', 'd'], checkoutExpiresAt := some 5, status, createdAt := 0, updatedAt := 0 }

def draftShop (now : Time) (orders : Orders) : Mail.Store :=
  { commerce := { now, drafts := ⟨[letterDraft], by simp⟩, orders } }

def letterStudio (now : Time) (orders : Orders) : Studio :=
  Studio.previewed plainDraw (draftShop now orders) {} shortLetter none none

/-- An edit restyling the draft in Classic, up to its write. -/
def restyling (rest : List StudioEvent) : List StudioEvent :=
  [.read (.stationery none none), .call 0] ++ rest

theorem restyled_in_step : ∃ s : Studio, s.phase 0 = some .written ∧ InStep plainDraw s.letter := by
  obtain ⟨s, reach, written⟩ := exists_reach (Studio.step {} plainDraw 1) (letterStudio 0 Table.empty)
    (fun s => s.phase 0 == some .written) (restyling [.lock 0 0, .write 0]) (by decide)
  exact ⟨s, by simpa using written, (edits_keep_step reach).1⟩

/-- An erasure leaves an ordered draft with no page. An edit called before the draft expires is written after. And one
that looked while no order held the draft is written once a checkout's session is recorded. -/
theorem edits_outlast_their_draft :
    (∃ s, Reach (Studio.step {} plainDraw 1) anyStep (letterStudio 0 ⟨[letterCheckout .cancelled], by simp⟩) s ∧
      (s.mail.commerce.drafts.find 1).isSome ∧
      s.letter.previewHtml ≠ some (plainDraw s.letter.words s.letter.stationery s.letter.signatureImage).previewHtml) ∧
    (∃ s s', Reach (Studio.step {} plainDraw 1) anyStep (letterStudio 0 Table.empty) s ∧
      s.step {} plainDraw 1 (.write 0) = .ok s' ∧ s'.phase 0 = some .written ∧
      ∃ draft, s.mail.commerce.drafts.find 1 = some draft ∧ draft.expiresAt < s.now) ∧
    ∃ s s', Reach (Studio.step {} plainDraw 1) anyStep (letterStudio 6 ⟨[letterCheckout .checkoutPending], by simp⟩) s ∧
      s.step {} plainDraw 1 (.write 0) = .ok s' ∧ s'.phase 0 = some .written ∧
      ∃ order ∈ s.mail.commerce.orders.rows, liveCheckout s.now true 1 order = true := by
  refine ⟨?_, ?_, ?_⟩
  · obtain ⟨s, reach, emptied⟩ := exists_reach (Studio.step {} plainDraw 1)
      (letterStudio 0 ⟨[letterCheckout .cancelled], by simp⟩)
      (fun s => (s.mail.commerce.drafts.find 1).isSome && s.letter.previewHtml.isNone) [.erase false] (by decide)
    rw [Bool.and_eq_true, Option.isNone_iff_eq_none] at emptied
    exact ⟨s, reach, emptied.1, by rw [emptied.2]; exact fun same => nomatch same⟩
  · obtain ⟨s, s', reach, committed, late⟩ := exists_step (Studio.step {} plainDraw 1) (letterStudio 0 Table.empty)
      (fun s s' => s'.phase 0 == some .written &&
        (s.mail.commerce.drafts.find 1).any fun draft => decide (draft.expiresAt < s.now))
      (restyling [.shop (.commerce (.tick 20) { jobId := 1 }), .lock 0 20]) (.write 0) (by decide)
    rw [Bool.and_eq_true, Option.any_eq_true] at late
    obtain ⟨written, draft, found, expired⟩ := late
    exact ⟨s, s', reach, committed, by simpa using written, draft, found, of_decide_eq_true expired⟩
  · obtain ⟨s, s', reach, committed, live⟩ := exists_step (Studio.step {} plainDraw 1)
      (letterStudio 6 ⟨[letterCheckout .checkoutPending], by simp⟩)
      (fun s s' => s'.phase 0 == some .written && s.mail.commerce.orders.rows.any (liveCheckout s.now true 1))
      (restyling [.lock 0 6, .shop (.commerce (.attachCheckout 1 1 true none) { jobId := 1 })]) (.write 0) (by decide)
    rw [Bool.and_eq_true, List.any_eq_true] at live
    obtain ⟨written, order, member, held⟩ := live
    exact ⟨s, s', reach, committed, by simpa using written, order, member, held⟩

end LetterIRL.Content
