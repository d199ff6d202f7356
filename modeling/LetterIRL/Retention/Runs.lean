import LetterIRL.Retention.Kept

namespace LetterIRL.Retention
open Lib Lib.Json Commerce Mail
open Content (Text)

/-! Whole runs of sweeps, restores, purges and erasures. -/

variable {s s' start : Store} {event : Event}

theorem letter_moves (committed : step s event = .ok s') (id : LetterId) :
    letterShelf.Move (Late s) (s.letters.find id) (s.quarantine.find (.letters, id))
      (s'.letters.find id) (s'.quarantine.find (.letters, id)) := by
  cases event with
  | wait time =>
    cases committed
    exact .still
  | sweep sweep retentionDays batchLimit selected =>
    simp only [step, sweepContent] at committed
    split at committed
    · have drafts : letterShelf.Move (Late s) (s.letters.find id) (s.quarantine.find (.letters, id))
          ((redactDrafts s sweep retentionDays batchLimit selected).letters.find id)
          ((redactDrafts s sweep retentionDays batchLimit selected).quarantine.find (.letters, id)) := by
        unfold redactDrafts
        rw [find_copies_other (draftCopy_source s.now sweep retentionDays) (by decide)]
        exact .still
      have letters : letterShelf.Move (Late s) (s.letters.find id) (s.quarantine.find (.letters, id))
          ((redactLetters s sweep retentionDays batchLimit selected).letters.find id)
          ((redactLetters s sweep retentionDays batchLimit selected).quarantine.find (.letters, id)) := by
        unfold redactLetters
        exact sweep_moves (LetterRow.redacted_letterId s.now) (letterCopy_source s.now sweep retentionDays)
          (fun _ _ found member => due_letter retentionDays (due_of_mem found member)) (letter_clears s.now) id
      split at committed
      all_goals
        cases committed
        first
          | exact letters
          | exact drafts
    · cases committed
  | purge batchLimit selected =>
    obtain ⟨letters, drafts, kept | ⟨copy, saved, late, gone⟩⟩ := purge_find committed (.letters, id)
    · rw [letters, kept]
      exact .still
    · rw [letters, saved, gone]
      exact .purged late
  | restore source =>
    obtain ⟨result, ran, rfl⟩ := map_eq_ok committed
    cases restore_cases ran with
    | noCopy => exact .still
    | notRedacted => exact .still
    | letter named saved found _ back =>
      exact restore_moves named saved found (letter_ofSaved_key back) back id
    | draft named saved found _ back =>
      rw [restore_copies_other (by rw [named]; decide)]
      exact .still
  | erase userId held ordered =>
    cases committed
    exact erase_letter_moves s userId held ordered id

theorem draft_moves (committed : step s event = .ok s') (id : DraftId) :
    draftShelf.Move (Late s) (s.drafts.find id) (s.quarantine.find (.letterDrafts, id))
      (s'.drafts.find id) (s'.quarantine.find (.letterDrafts, id)) := by
  cases event with
  | wait time =>
    cases committed
    exact .still
  | sweep sweep retentionDays batchLimit selected =>
    simp only [step, sweepContent] at committed
    split at committed
    · have letters : draftShelf.Move (Late s) (s.drafts.find id) (s.quarantine.find (.letterDrafts, id))
          ((redactLetters s sweep retentionDays batchLimit selected).drafts.find id)
          ((redactLetters s sweep retentionDays batchLimit selected).quarantine.find (.letterDrafts, id)) := by
        unfold redactLetters
        rw [find_copies_other (letterCopy_source s.now sweep retentionDays) (by decide)]
        exact .still
      have drafts : draftShelf.Move (Late s) (s.drafts.find id) (s.quarantine.find (.letterDrafts, id))
          ((redactDrafts s sweep retentionDays batchLimit selected).drafts.find id)
          ((redactDrafts s sweep retentionDays batchLimit selected).quarantine.find (.letterDrafts, id)) := by
        unfold redactDrafts
        exact sweep_moves (DraftRow.redacted_draftId s.now) (draftCopy_source s.now sweep retentionDays)
          (fun _ _ found member => due_draft retentionDays (due_of_mem found member)) (draft_clears s.now) id
      split at committed
      all_goals
        cases committed
        first
          | exact letters
          | exact drafts
    · cases committed
  | purge batchLimit selected =>
    obtain ⟨letters, drafts, kept | ⟨copy, saved, late, gone⟩⟩ := purge_find committed (.letterDrafts, id)
    · rw [drafts, kept]
      exact .still
    · rw [drafts, saved, gone]
      exact .purged late
  | restore source =>
    obtain ⟨result, ran, rfl⟩ := map_eq_ok committed
    cases restore_cases ran with
    | noCopy => exact .still
    | notRedacted => exact .still
    | letter named saved found _ back =>
      rw [restore_copies_other (by rw [named]; decide)]
      exact .still
    | draft named saved found _ back =>
      exact restore_moves named saved found (draft_ofSaved_key back) back id
  | erase userId held ordered =>
    cases committed
    exact erase_draft_moves s userId held ordered id

/-- Before any sweep: a row is live, or an erasure emptied it, and nothing is saved. -/
structure Unswept (s : Store) : Prop where
  letters : ∀ letter ∈ s.letters.rows, letter.redactedAt = none ∨ letter.Emptied
  drafts : ∀ draft ∈ s.drafts.rows, draft.redactedAt = none ∨ draft.Emptied
  copies : s.quarantine = Table.empty

theorem Unswept.copy (unswept : Unswept start) (source : SourceTable × Nat) : start.quarantine.find source = none := by
  rw [unswept.copies]
  rfl

theorem letter_kept (reach : Reach step anyStep start s) (unswept : Unswept start) {letter : LetterRow}
    (member : letter ∈ start.letters.rows) (live : letter.redactedAt = none) :
    letterShelf.Kept letter (s.letters.find letter.letterId) (s.quarantine.find (.letters, letter.letterId)) := by
  induction reach with
  | start =>
    rw [Table.find_of_mem member, unswept.copy]
    exact .live live (.inl rfl)
  | next _ _ committed ih => exact ih.move (letter_moves committed letter.letterId)

theorem draft_kept (reach : Reach step anyStep start s) (unswept : Unswept start) {draft : DraftRow}
    (member : draft ∈ start.drafts.rows) (live : draft.redactedAt = none) :
    draftShelf.Kept draft (s.drafts.find draft.draftId) (s.quarantine.find (.letterDrafts, draft.draftId)) := by
  induction reach with
  | start =>
    rw [Table.find_of_mem member, unswept.copy]
    exact .live live rfl
  | next _ _ committed ih => exact ih.move (draft_moves committed draft.draftId)

/-! What every state of a run shows of a row that was live. -/

/-- `row` reads the row, `first` is the row when it was live, and `saved` and `clock` are what its copy is to be made of. -/
structure Accounted {α : Type} (shelf : Shelf α SavedCopy) (first : α) (source : SourceTable × Nat) (saved : Value)
    (clock : Sweep → Option Time) (row : Store → Option α) (s : Store) : Prop where
  live : ∀ now, row s = some now → shelf.live now → shelf.same first now ∧ s.quarantine.find source = none
  redacted : ∀ now, row s = some now → ¬shelf.live now → shelf.empty now
  copy : ∀ copy, s.quarantine.find source = some copy → copy.content = saved ∧ ∃ now, row s = some now ∧ shelf.empty now
  purged : ∀ copy, s.quarantine.find source = some copy → ∀ batchLimit selected s',
    step s (.purge batchLimit selected) = .ok s' → s'.quarantine.find source = none →
      ∃ at_, clock copy.sweep = some at_ ∧ max (at_ + days copy.retentionDays) (copy.quarantinedAt + days 1) ≤ s.now
  restored : ∀ copy, s.quarantine.find source = some copy → ∃ s' back,
    restoreQuarantinedContentWithClient s source = .ok (.restored, s') ∧ row s' = some back ∧ shelf.live back ∧
      shelf.same first back ∧ s'.quarantine.find source = none

section

variable {α : Type} {shelf : Shelf α SavedCopy} {first : α} {source : SourceTable × Nat} {saved : Value}
  {clock : Sweep → Option Time} {row : Store → Option α}

theorem SavedCopy.Of.kept_until {copy : SavedCopy} (of_ : copy.Of saved clock) {batchLimit : Nat}
    {selected : List (SourceTable × Nat)} (found : s.quarantine.find source = some copy)
    (committed : step s (.purge batchLimit selected) = .ok s') (gone : s'.quarantine.find source = none) :
    ∃ at_, clock copy.sweep = some at_ ∧ max (at_ + days copy.retentionDays) (copy.quarantinedAt + days 1) ≤ s.now := by
  obtain ⟨at_, clocked⟩ := Option.isSome_iff_exists.mp of_.clocked
  refine ⟨at_, clocked, ?_⟩
  have period := of_.period
  rw [clocked] at period
  obtain ⟨-, -, kept | ⟨other, there, late, -⟩⟩ := purge_find committed source
  · rw [gone, found] at kept
    cases kept
  · rw [found] at there
    cases there
    have due : copy.purgeAfter ≤ s.now := late
    rw [period] at due
    exact due

/-- A row and its copy that were only ever swept, put back, purged and erased. -/
theorem accounted (kept : shelf.Kept first (row s) (s.quarantine.find source))
    (ofFirst : ∀ was copy, shelf.same first was → shelf.saves was copy → copy.Of saved clock)
    (restores : ∀ was now copy, row s = some now → s.quarantine.find source = some copy → shelf.live was →
      shelf.clears was now → shelf.saves was copy → ∃ s' back,
        restoreQuarantinedContentWithClient s source = .ok (.restored, s') ∧ row s' = some back ∧
          shelf.putsBack copy now back ∧ s'.quarantine.find source = none) :
    Accounted shelf first source saved clock row s := by
  generalize hereRow : row s = seen at kept
  generalize hereCopy : s.quarantine.find source = copied at kept
  cases kept with
  | live live same =>
    refine ⟨fun now found _ => ?_, fun now found redacted => ?_, fun copy found => ?_, fun copy found => ?_,
      fun copy found => ?_⟩
    · rw [hereRow] at found
      cases found
      exact ⟨same, hereCopy⟩
    · rw [hereRow] at found
      cases found
      exact absurd live redacted
    all_goals
      rw [hereCopy] at found
      cases found
  | @saved was now copy live same clears saves =>
    have of_ := ofFirst was copy same saves
    have empty := shelf.cleared_empty was now clears
    refine ⟨fun other found again => ?_, fun other found _ => ?_, fun other found => ?_, fun other found => ?_,
      fun other found => ?_⟩
    · rw [hereRow] at found
      cases found
      exact absurd again (shelf.empty_unlive now empty)
    · rw [hereRow] at found
      cases found
      exact empty
    · rw [hereCopy] at found
      cases found
      exact ⟨of_.content, now, hereRow, empty⟩
    · rw [hereCopy] at found
      cases found
      intro batchLimit selected s' committed gone
      exact of_.kept_until hereCopy committed gone
    · rw [hereCopy] at found
      cases found
      obtain ⟨s', back, ran, there, putsBack, none⟩ := restores was now copy hereRow hereCopy live clears saves
      obtain ⟨again, alive⟩ := shelf.roundTrip was now back copy live clears saves putsBack
      exact ⟨s', back, ran, there, alive, shelf.trans _ _ _ same again, none⟩
  | gone empty =>
    refine ⟨fun now found again => ?_, fun now found _ => ?_, fun copy found => ?_, fun copy found => ?_,
      fun copy found => ?_⟩
    · exact absurd again (shelf.empty_unlive now (empty now (hereRow.symm.trans found)))
    · exact empty now (hereRow.symm.trans found)
    all_goals
      rw [hereCopy] at found
      cases found

end

theorem restore_letter {was now : LetterRow} {copy : SavedCopy} {letterId : LetterId}
    (found : s.letters.find letterId = some now) (saved : s.quarantine.find (.letters, letterId) = some copy)
    (live : letterShelf.live was) (clears : letterShelf.clears was now) (saves : letterShelf.saves was copy) :
    ∃ s' back, restoreQuarantinedContentWithClient s (.letters, letterId) = .ok (.restored, s') ∧
      s'.letters.find letterId = some back ∧ letterShelf.putsBack copy now back ∧
      s'.quarantine.find (.letters, letterId) = none := by
  obtain ⟨at_, rfl⟩ := clears
  have back : (was.redacted at_).ofSaved copy.content = some was.unprinted := by
    rw [saves.content]
    exact letter_ofSaved was at_ live
  refine ⟨{ s with letters := s.letters.put was.unprinted, quarantine := s.quarantine.erase (.letters, letterId) },
    was.unprinted, ?_, Table.find_put_over found rfl, back, Table.find_erase_self _ _⟩
  have redacted : (was.redacted at_).redactedAt.isSome = true := rfl
  unfold restoreQuarantinedContentWithClient
  simp only [saved, found, Option.filter_some, redacted, if_true, back]

theorem restore_draft {was now : DraftRow} {copy : SavedCopy} {draftId : DraftId}
    (found : s.drafts.find draftId = some now) (saved : s.quarantine.find (.letterDrafts, draftId) = some copy)
    (live : draftShelf.live was) (clears : draftShelf.clears was now) (saves : draftShelf.saves was copy) :
    ∃ s' back, restoreQuarantinedContentWithClient s (.letterDrafts, draftId) = .ok (.restored, s') ∧
      s'.drafts.find draftId = some back ∧ draftShelf.putsBack copy now back ∧
      s'.quarantine.find (.letterDrafts, draftId) = none := by
  obtain ⟨at_, rfl⟩ := clears
  have back : (was.redacted at_).ofSaved copy.content = some was := by
    rw [saves.content]
    exact draft_ofSaved was at_ live
  refine ⟨{ s with drafts := s.drafts.put was, quarantine := s.quarantine.erase (.letterDrafts, draftId) },
    was, ?_, Table.find_put_over found rfl, back, Table.find_erase_self _ _⟩
  have redacted : (was.redacted at_).redactedAt.isSome = true := rfl
  unfold restoreQuarantinedContentWithClient
  simp only [saved, found, Option.filter_some, redacted, if_true, back]

abbrev LetterAccounted (letter : LetterRow) (s : Store) : Prop :=
  Accounted letterShelf letter (.letters, letter.letterId) letter.saved letter.clock
    (fun s => s.letters.find letter.letterId) s

abbrev DraftAccounted (draft : DraftRow) (s : Store) : Prop :=
  Accounted draftShelf draft (.letterDrafts, draft.draftId) draft.content.saved draft.clock
    (fun s => s.drafts.find draft.draftId) s

theorem letter_accounted (reach : Reach step anyStep start s) (unswept : Unswept start) {letter : LetterRow}
    (member : letter ∈ start.letters.rows) (live : letter.redactedAt = none) : LetterAccounted letter s := by
  refine accounted (letter_kept reach unswept member live) ?_ fun was now copy => restore_letter
  rintro was copy (rfl | rfl) saves
  · exact saves
  · exact saves

theorem draft_accounted (reach : Reach step anyStep start s) (unswept : Unswept start) {draft : DraftRow}
    (member : draft ∈ start.drafts.rows) (live : draft.redactedAt = none) : DraftAccounted draft s := by
  refine accounted (draft_kept reach unswept member live) ?_ fun was now copy => restore_draft
  rintro was copy rfl saves
  exact saves

/-! A copy is of a row that was live. -/

theorem letter_bare (reach : Reach step anyStep start s) (unswept : Unswept start) {letterId : LetterId}
    (never : ∀ letter ∈ start.letters.rows, letter.letterId = letterId → letter.redactedAt ≠ none) :
    letterShelf.Bare (s.letters.find letterId) (s.quarantine.find (.letters, letterId)) := by
  induction reach with
  | start =>
    rw [unswept.copy]
    refine .bare fun letter found => ?_
    exact (unswept.letters letter (Table.find_mem found)).resolve_left (never letter (Table.find_mem found) (Table.find_key found))
  | next _ _ committed ih => exact ih.move (letter_moves committed letterId)

theorem draft_bare (reach : Reach step anyStep start s) (unswept : Unswept start) {draftId : DraftId}
    (never : ∀ draft ∈ start.drafts.rows, draft.draftId = draftId → draft.redactedAt ≠ none) :
    draftShelf.Bare (s.drafts.find draftId) (s.quarantine.find (.letterDrafts, draftId)) := by
  induction reach with
  | start =>
    rw [unswept.copy]
    refine .bare fun draft found => ?_
    exact (unswept.drafts draft (Table.find_mem found)).resolve_left (never draft (Table.find_mem found) (Table.find_key found))
  | next _ _ committed ih => exact ih.move (draft_moves committed draftId)

theorem copy_origin (reach : Reach step anyStep start s) (unswept : Unswept start) {copy : SavedCopy}
    (member : copy ∈ s.quarantine.rows) :
    (∃ letter ∈ start.letters.rows, letter.redactedAt = none ∧ copy.source = (.letters, letter.letterId)) ∨
      ∃ draft ∈ start.drafts.rows, draft.redactedAt = none ∧ copy.source = (.letterDrafts, draft.draftId) := by
  have found := Table.find_of_mem member
  by_contra apart
  rw [not_or] at apart
  obtain ⟨noLetter, noDraft⟩ := apart
  generalize named : copy.source = source at found
  obtain ⟨name, id⟩ := source
  cases name with
  | letters =>
    have bare := letter_bare reach unswept fun letter inRows same live =>
      noLetter ⟨letter, inRows, live, by rw [named, same]⟩
    rw [found] at bare
    cases bare
  | letterDrafts =>
    have bare := draft_bare reach unswept fun draft inRows same live =>
      noDraft ⟨draft, inRows, live, by rw [named, same]⟩
    rw [found] at bare
    cases bare

theorem splitRetentionWindow_sum (totalDays : Int) :
    (splitRetentionWindow totalDays).1 + (splitRetentionWindow totalDays).2 = totalDays :=
  Int.sub_add_cancel _ _

/-- What a sweep clears of a letter and does not save decides nothing about a later sweep. -/
theorem unprinted_due (letter : LetterRow) (now : Time) (live : Nat) (sweep : Sweep) :
    letter.unprinted.due now live sweep = letter.due now live sweep := by
  cases sweep <;> rfl

theorem retention_keeps_content (reach : Reach step anyStep start s) (unswept : Unswept start) :
    (∀ letter ∈ start.letters.rows, letter.redactedAt = none → LetterAccounted letter s) ∧
    (∀ draft ∈ start.drafts.rows, draft.redactedAt = none → DraftAccounted draft s) ∧
    (∀ copy ∈ s.quarantine.rows,
      (∃ letter ∈ start.letters.rows, letter.redactedAt = none ∧ copy.source = (.letters, letter.letterId)) ∨
        ∃ draft ∈ start.drafts.rows, draft.redactedAt = none ∧ copy.source = (.letterDrafts, draft.draftId)) ∧
    (∀ (letter : LetterRow) now live sweep, letter.unprinted.due now live sweep = letter.due now live sweep) ∧
    ∀ totalDays, (splitRetentionWindow totalDays).1 + (splitRetentionWindow totalDays).2 = totalDays :=
  ⟨fun _ => letter_accounted reach unswept, fun _ => draft_accounted reach unswept, fun _ => copy_origin reach unswept,
    unprinted_due, splitRetentionWindow_sum⟩

/-! A letter swept, put back, swept again and purged. -/

/-- A sent letter with a record of its print, and a draft of an abandoned checkout. -/
def keptRows : Store where
  letters := Table.empty.insert
    { letterId := 40, userId := 7, status := .delivered, content := .string "body".toList, recipient := .null
      printLayoutFingerprint := some "fp1".toList, printLayoutEngine := some "layout-1".toList
      sentAt := some 10, createdAt := 0 } (by decide)
  drafts := Table.empty.insert
    { draftId := 3, userId := 7, createdAt := 0
      content := { sender := .null, recipient := .object [], bodyText := "body".toList } } (by decide)

theorem keptRows_unswept : Unswept keptRows where
  letters letter member := by
    rw [List.mem_singleton.mp member]
    exact .inl rfl
  drafts draft member := by
    rw [List.mem_singleton.mp member]
    exact .inl rfl
  copies := rfl

theorem swept_draft_accounted : ∃ s : Store, Reach step anyStep keptRows s ∧ s.quarantine.rows.length = 1 ∧
    ∀ draft ∈ keptRows.drafts.rows, draft.redactedAt = none → DraftAccounted draft s := by
  obtain ⟨s, reach, passes⟩ := exists_reach step keptRows (fun s => s.quarantine.rows.length == 1)
    [.wait (days 5), .sweep .abandonedDrafts 7 500 [3], .restore (.letterDrafts, 3), .sweep .abandonedDrafts 7 500 [3],
      .wait (days 100), .sweep .expiredLetters 90 500 [40], .purge 500 [(.letterDrafts, 3)]] (by decide)
  exact ⟨s, reach, by simpa using passes, (retention_keeps_content reach keptRows_unswept).2.1⟩

/-- The record of the print goes with the content, and is neither saved nor put back. -/
theorem print_record_not_restored : ∃ s s' : Store, Reach step anyStep keptRows s ∧
    step s (.restore (.letters, 40)) = .ok s' ∧
    (∃ copy, s.quarantine.find (.letters, 40) = some copy ∧
      (arrow "print_layout_fingerprint".toList copy.content).isNone = true) ∧
    (keptRows.letters.find 40).map LetterRow.printLayoutFingerprint = some (some "fp1".toList) ∧
    (s'.letters.find 40).map LetterRow.redactedAt = some none ∧
    (s'.letters.find 40).map LetterRow.printLayoutFingerprint = some none := by
  obtain ⟨s, s', reach, committed, passes⟩ := exists_step step keptRows
    (fun s s' => (s.quarantine.find (.letters, 40)).any (fun copy =>
        (arrow "print_layout_fingerprint".toList copy.content).isNone) &&
      (keptRows.letters.find 40).map LetterRow.printLayoutFingerprint == some (some "fp1".toList) &&
      (s'.letters.find 40).map LetterRow.redactedAt == some none &&
      (s'.letters.find 40).map LetterRow.printLayoutFingerprint == some none)
    [.wait (days 84), .sweep .expiredLetters 90 500 [40]] (.restore (.letters, 40)) (by decide)
  simp only [Bool.and_eq_true, beq_iff_eq] at passes
  obtain ⟨copy, saved, absent⟩ := (Option.any_eq_true _ _).mp passes.1.1.1
  exact ⟨s, s', reach, committed, ⟨copy, saved, absent⟩, passes.1.1.2, passes.1.2, passes.2⟩

end LetterIRL.Retention
