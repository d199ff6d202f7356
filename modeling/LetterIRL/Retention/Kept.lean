import LetterIRL.Retention.Sweeps
import LetterIRL.Lib.Shelf

namespace LetterIRL.Retention
open Lib Lib.Json Commerce Mail
open Content (Text)

/-! What the sweeps, the restores, the purges and the erasures leave of a row and of its copy. -/

variable {s s' : Store} {event : Event} {now : Time}

/-- A letter without what a sweep clears and does not save: the record of its print. -/
def LetterRow.unprinted (letter : LetterRow) : LetterRow :=
  { letter with printPdfSha256 := none, printLayoutFingerprint := none, printLayoutEngine := none }

/-- A copy is of its row, and kept for the period its sweep published and for a day at least. -/
structure SavedCopy.Of (copy : SavedCopy) (content : Value) (clock : Sweep → Option Time) : Prop where
  content : copy.content = content
  clocked : (clock copy.sweep).isSome = true
  period : copy.purgeAfter = Retention.purgeAfter copy.quarantinedAt copy.retentionDays (clock copy.sweep)

theorem letter_ofSaved (letter : LetterRow) (now : Time) (live : letter.redactedAt = none) :
    (letter.redacted now).ofSaved letter.saved = some letter.unprinted := by
  have preview : arrowText "preview_html".toList letter.saved = letter.previewHtml := arrowText_textJson rfl
  have assigned : (letter.redacted now).ofSaved letter.saved = some
      { letter.redacted now with
        content := letter.content, recipient := letter.recipient
        previewHtml := arrowText "preview_html".toList letter.saved, redactedAt := none } := rfl
  rw [assigned, preview, ← live]
  rfl

theorem draft_ofSaved (draft : DraftRow) (now : Time) (live : draft.redactedAt = none) :
    (draft.redacted now).ofSaved draft.content.saved = some draft := by
  unfold DraftRow.ofSaved
  rw [ofSaved_saved, Option.map_some, ← live]
  rfl

structure LetterRow.Emptied (letter : LetterRow) : Prop where
  redacted : letter.redactedAt.isSome = true
  content : letter.content = .object []
  recipient : letter.recipient = .object []
  preview : letter.previewHtml = none

/-- Redacted, and emptied by `DRAFT_REDACTION_SET`. -/
structure DraftRow.Emptied (draft : DraftRow) : Prop where
  redacted : draft.redactedAt.isSome = true
  content : ∃ content : DraftContent, draft.content = content.redacted

theorem live_unredacted {at_ : Option Time} (redacted : at_.isSome = true) : at_ ≠ none := by
  rintro rfl
  cases redacted

def letterShelf : Shelf LetterRow SavedCopy where
  live letter := letter.redactedAt = none
  same first letter := letter = first ∨ letter = first.unprinted
  clears letter letter' := ∃ now, letter' = letter.redacted now
  saves letter copy := copy.Of letter.saved letter.clock
  putsBack copy letter letter' := letter.ofSaved copy.content = some letter'
  empty := LetterRow.Emptied
  refl _ := .inl rfl
  trans := by
    rintro first row row' (rfl | rfl) (rfl | rfl)
    · exact .inl rfl
    · exact .inr rfl
    · exact .inr rfl
    · exact .inr rfl
  cleared_empty := by
    rintro letter letter' ⟨now, rfl⟩
    exact ⟨rfl, rfl, rfl, rfl⟩
  empty_unlive _ empty := live_unredacted empty.redacted
  roundTrip := by
    rintro letter letter' letter'' copy live ⟨now, rfl⟩ saves back
    rw [saves.content, letter_ofSaved letter now live] at back
    cases back
    exact ⟨.inr rfl, live⟩

def draftShelf : Shelf DraftRow SavedCopy where
  live draft := draft.redactedAt = none
  same first draft := draft = first
  clears draft draft' := ∃ now, draft' = draft.redacted now
  saves draft copy := copy.Of draft.content.saved draft.clock
  putsBack copy draft draft' := draft.ofSaved copy.content = some draft'
  empty := DraftRow.Emptied
  refl _ := rfl
  trans _ _ _ first second := second.trans first
  cleared_empty := by
    rintro draft draft' ⟨now, rfl⟩
    exact ⟨rfl, draft.content, rfl⟩
  empty_unlive _ empty := live_unredacted empty.redacted
  roundTrip := by
    rintro draft draft' draft'' copy live ⟨now, rfl⟩ saves back
    rw [saves.content, draft_ofSaved draft now live] at back
    cases back
    exact ⟨rfl, live⟩

/-! One step, seen at one row. -/

theorem find_copies {α : Type} {key : α → Nat} {table : Table key} {quarantine : Table SavedCopy.source}
    {picked : α → Bool} {copyOf : α → SavedCopy} {name : SourceTable}
    (named : ∀ row, (copyOf row).source = (name, key row)) (id : Nat) :
    (quarantine.insertAll ((table.rows.filter picked).map copyOf)).find (name, id) =
      (quarantine.find (name, id)).or (((table.find id).filter picked).map copyOf) := by
  rw [Table.find_insertAll, ← Table.find_filter, List.find?_map]
  congr 2
  unfold Table.find
  rw [Table.filter_rows]
  congr 1
  funext row
  show decide ((copyOf row).source = (name, id)) = decide (key row = id)
  rw [named, decide_eq_decide, Prod.mk.injEq]
  exact and_iff_right rfl

/-- A sweep of one table leaves the copies of the other's rows. -/
theorem find_copies_other {α : Type} {key : α → Nat} {rows : List α} {quarantine : Table SavedCopy.source}
    {copyOf : α → SavedCopy} {name other : SourceTable} (named : ∀ row, (copyOf row).source = (name, key row))
    (apart : name ≠ other) (id : Nat) :
    (quarantine.insertAll (rows.map copyOf)).find (other, id) = quarantine.find (other, id) := by
  rw [Table.find_insertAll, List.find?_eq_none.mpr, Option.or_none]
  intro copy member
  obtain ⟨row, -, rfl⟩ := List.mem_map.mp member
  show ¬decide ((copyOf row).source = (other, id)) = true
  rw [named, decide_eq_true_eq, Prod.mk.injEq]
  exact fun same => apart same.1

theorem due_of_mem {α : Type} {key : α → Nat} {table : Table key} {due : α → Bool} {selected : List Nat} {batchLimit : Nat}
    {id : Nat} {row : α} (found : table.find id = some row) (member : id ∈ dueIds table due selected batchLimit) :
    due row = true := by
  have passes := (List.mem_filter.mp (List.mem_of_mem_take member)).2
  rw [found] at passes
  exact passes

theorem clocked_of_past {live : Nat} {clock : Option Time} (past : pastWindow now live clock = true) :
    clock.isSome = true := by
  cases clock with
  | none => cases past
  | some => rfl

theorem due_letter {live : Nat} {sweep : Sweep} {letter : LetterRow} (retentionDays : Nat)
    (due : letter.due now live sweep = true) :
    letterShelf.live letter ∧ letterShelf.saves letter (letter.copy now sweep retentionDays) := by
  unfold LetterRow.due at due
  simp only [Bool.and_eq_true, Option.isNone_iff_eq_none] at due
  exact ⟨due.1.1, rfl, clocked_of_past due.1.2, rfl⟩

theorem due_draft {live : Nat} {sweep : Sweep} {draft : DraftRow} (retentionDays : Nat)
    (due : draft.due now live sweep = true) :
    draftShelf.live draft ∧ draftShelf.saves draft (draft.copy now sweep retentionDays) := by
  unfold DraftRow.due at due
  simp only [Bool.and_eq_true, Option.isNone_iff_eq_none] at due
  exact ⟨due.1.1, rfl, clocked_of_past due.1.2, rfl⟩

theorem sweep_moves {α : Type} {key : α → Nat} {table : Table key} {quarantine : Table SavedCopy.source}
    {shelf : Shelf α SavedCopy} {expired : SavedCopy → Prop} {ids : List Nat} {copyOf : α → SavedCopy} {clear : α → α}
    {name : SourceTable} (kept : ∀ row, key (clear row) = key row) (named : ∀ row, (copyOf row).source = (name, key row))
    (due : ∀ id row, table.find id = some row → id ∈ ids → shelf.live row ∧ shelf.saves row (copyOf row))
    (clears : ∀ row, shelf.clears row (clear row)) (id : Nat) :
    shelf.Move expired (table.find id) (quarantine.find (name, id))
      ((table.update (key · ∈ ids) clear kept).find id)
      ((quarantine.insertAll ((table.rows.filter (key · ∈ ids)).map copyOf)).find (name, id)) := by
  rw [find_copies named, Table.find_update]
  cases found : table.find id with
  | none =>
    simp only [Option.filter_none, Option.map_none, Option.or_none]
    exact .still
  | some row =>
    have keyed := Table.find_key found
    by_cases member : id ∈ ids
    · obtain ⟨live, saves⟩ := due id row found member
      have moved : shelf.Move expired (some row) (quarantine.find (name, id)) (some (clear row))
          (some ((quarantine.find (name, id)).getD (copyOf row))) := .cleared live (clears row) saves
      simp only [Option.filter_some, Option.map_some, keyed, member, decide_true, if_true]
      cases here : quarantine.find (name, id) with
      | none =>
        rw [here] at moved
        exact moved
      | some copy =>
        rw [here] at moved
        exact moved
    · simp only [Option.filter_some, Option.map_some, keyed, member, decide_false, Bool.false_eq_true, if_false,
        Option.map_none, Option.or_none]
      exact .still

/-- The step's copies that are past their day. -/
abbrev Late (s : Store) (copy : SavedCopy) : Prop := copy.purgeAfter ≤ s.now

theorem purge_find {batchLimit : Nat} {selected : List (SourceTable × Nat)}
    (committed : purgeExpiredQuarantine s batchLimit selected = .ok s') (source : SourceTable × Nat) :
    s'.letters = s.letters ∧ s'.drafts = s.drafts ∧
      (s'.quarantine.find source = s.quarantine.find source ∨
        ∃ copy, s.quarantine.find source = some copy ∧ Late s copy ∧ s'.quarantine.find source = none) := by
  unfold purgeExpiredQuarantine at committed
  split at committed
  · cases committed
    refine ⟨rfl, rfl, ?_⟩
    rw [Table.find_filter]
    cases found : s.quarantine.find source with
    | none => exact .inl rfl
    | some copy =>
      obtain rfl := Table.find_key found
      rw [Option.filter_some]
      split
      · exact .inl rfl
      · rename_i taken
        refine .inr ⟨copy, rfl, ?_, rfl⟩
        rw [decide_eq_true_eq, not_not] at taken
        have passes := (List.mem_filter.mp (List.mem_of_mem_take taken)).2
        rw [found] at passes
        exact of_decide_eq_true passes
  · cases committed

/-- What a restore did. -/
inductive Restored (s : Store) (source : SourceTable × Nat) : RestoreOutcome × Store → Prop
  | noCopy (none : s.quarantine.find source = none) : Restored s source (.noCopy, s)
  | notRedacted : Restored s source (.notRedacted, s)
  | letter {copy : SavedCopy} {letter letter' : LetterRow} (named : source.1 = .letters)
      (saved : s.quarantine.find source = some copy) (found : s.letters.find source.2 = some letter)
      (redacted : letter.redactedAt.isSome = true) (back : letter.ofSaved copy.content = some letter') :
      Restored s source
        (.restored, { s with letters := s.letters.put letter', quarantine := s.quarantine.erase source })
  | draft {copy : SavedCopy} {draft draft' : DraftRow} (named : source.1 = .letterDrafts)
      (saved : s.quarantine.find source = some copy) (found : s.drafts.find source.2 = some draft)
      (redacted : draft.redactedAt.isSome = true) (back : draft.ofSaved copy.content = some draft') :
      Restored s source
        (.restored, { s with drafts := s.drafts.put draft', quarantine := s.quarantine.erase source })

theorem restore_cases {source : SourceTable × Nat} {result : RestoreOutcome × Store}
    (committed : restoreQuarantinedContentWithClient s source = .ok result) : Restored s source result := by
  unfold restoreQuarantinedContentWithClient at committed
  split at committed
  · rename_i none
    cases committed
    exact .noCopy none
  · rename_i copy saved
    split at committed
    · rename_i named
      split at committed
      · cases committed
        exact .notRedacted
      · rename_i letter found
        obtain ⟨there, redacted⟩ := Option.filter_eq_some_iff.mp found
        split at committed
        · cases committed
        · rename_i letter' back
          cases committed
          exact .letter named saved there redacted back
    · rename_i named
      split at committed
      · cases committed
        exact .notRedacted
      · rename_i draft found
        obtain ⟨there, redacted⟩ := Option.filter_eq_some_iff.mp found
        split at committed
        · cases committed
        · rename_i draft' back
          cases committed
          exact .draft named saved there redacted back

theorem letter_ofSaved_key {content : Value} {letter letter' : LetterRow} (back : letter.ofSaved content = some letter') :
    letter'.letterId = letter.letterId := by
  unfold LetterRow.ofSaved at back
  split at back
  · cases back
    rfl
  · cases back

theorem draft_ofSaved_key {content : Value} {draft draft' : DraftRow} (back : draft.ofSaved content = some draft') :
    draft'.draftId = draft.draftId := by
  obtain ⟨content', -, rfl⟩ := Option.map_eq_some_iff.mp back
  rfl

theorem restore_moves {α : Type} {key : α → Nat} {table : Table key} {quarantine : Table SavedCopy.source}
    {shelf : Shelf α SavedCopy} {expired : SavedCopy → Prop} {name : SourceTable} {source : SourceTable × Nat}
    {row row' : α} {copy : SavedCopy} (named : source.1 = name) (saved : quarantine.find source = some copy)
    (found : table.find source.2 = some row) (keyed : key row' = key row) (back : shelf.putsBack copy row row') (id : Nat) :
    shelf.Move expired (table.find id) (quarantine.find (name, id)) ((table.put row').find id)
      ((quarantine.erase source).find (name, id)) := by
  obtain ⟨_, there⟩ := source
  obtain rfl := named
  by_cases same : id = there
  · subst same
    rw [Table.find_put_over found keyed, Table.find_erase_self, found, saved]
    exact .restored back
  · have apart : id ≠ key row' := by
      rw [keyed, Table.find_key found]
      exact same
    have elsewhere : ∀ name : SourceTable, (name, id) ≠ (name, there) := fun name here => same (Prod.mk.inj here).2
    rw [Table.find_put_of_ne apart, Table.find_erase_of_ne (elsewhere _)]
    exact .still

/-- A restore of one table leaves the copies of the other's rows. -/
theorem restore_copies_other {quarantine : Table SavedCopy.source} {source : SourceTable × Nat} {other : SourceTable}
    (apart : other ≠ source.1) (id : Nat) : (quarantine.erase source).find (other, id) = quarantine.find (other, id) :=
  Table.find_erase_of_ne fun same => apart (congrArg Prod.fst same)

theorem letter_clears (now : Time) (letter : LetterRow) : letterShelf.clears letter (letter.redacted now) := ⟨now, rfl⟩

theorem draft_clears (now : Time) (draft : DraftRow) : draftShelf.clears draft (draft.redacted now) := ⟨now, rfl⟩

/-! An erasure, seen at one row. -/

theorem erase_moves {α : Type} {shelf : Shelf α SavedCopy} {expired : SavedCopy → Prop} {row row' : Option α}
    {copy : Option SavedCopy} {ofAccount : SavedCopy → Bool} {ours : Bool}
    (owned : ∀ saved, copy = some saved → ofAccount saved = ours)
    (emptied : ours = true → ∀ left, row' = some left → shelf.empty left) (others : ours = false → row' = row) :
    shelf.Move expired row copy row' (copy.filter fun saved => !ofAccount saved) := by
  cases ours with
  | true =>
    have none : (copy.filter fun saved => !ofAccount saved) = none :=
      Option.filter_eq_none_iff.mpr fun saved here => by rw [owned saved here]; decide
    rw [none]
    exact .erased (emptied rfl)
  | false =>
    have all : (copy.filter fun saved => !ofAccount saved) = copy := by
      cases copy with
      | none => rfl
      | some saved => rw [Option.filter_some, owned saved rfl]; rfl
    rw [all, others rfl]
    exact .still

theorem erased_emptied (now : Time) (letter : LetterRow) : (letter.erased now).Emptied := by
  refine ⟨?_, rfl, rfl, rfl⟩
  unfold LetterRow.erased
  cases letter.redactedAt <;> rfl

theorem erase_letter_moves (s : Store) (userId : UserId) (held : List LetterId) (ordered : List DraftId) (id : LetterId) :
    letterShelf.Move (Late s) (s.letters.find id) (s.quarantine.find (.letters, id))
      ((eraseAccount s userId held ordered).letters.find id)
      ((eraseAccount s userId held ordered).quarantine.find (.letters, id)) := by
  have after : (eraseLetters s userId held).find id = (s.letters.find id).map fun letter =>
      if letter.userId == userId then
        (if letter.userId == userId && letter.letterId ∈ held then letter.cancelled else letter).erased s.now
      else letter := by
    unfold eraseLetters
    rw [Table.find_update, Table.find_update, Option.map_map]
    congr 1
    funext letter
    by_cases ours : (letter.userId == userId) = true
    · by_cases cancelled : letter.letterId ∈ held
      · simp only [Function.comp_apply, ours, cancelled, decide_true, Bool.and_self, if_true, LetterRow.cancelled]
      · simp only [Function.comp_apply, ours, cancelled, decide_false, Bool.and_false, Bool.false_eq_true, if_false, if_true]
    · simp only [Function.comp_apply, ours, Bool.false_and, Bool.false_eq_true, if_false]
  have copies : (eraseAccount s userId held ordered).quarantine.find (.letters, id) =
      (s.quarantine.find (.letters, id)).filter fun copy => !copy.ofAccount s userId := Table.find_filter
  rw [copies]
  show letterShelf.Move (Late s) _ _ ((eraseLetters s userId held).find id) _
  rw [after]
  refine @erase_moves _ _ _ _ _ _ _ ((s.letters.find id).any (·.userId == userId)) ?_ ?_ ?_
  · intro copy here
    unfold SavedCopy.ofAccount
    rw [Table.find_key here]
  · intro ours left here
    obtain ⟨letter, found, rfl⟩ := Option.map_eq_some_iff.mp here
    rw [found, Option.any_some] at ours
    rw [if_pos ours]
    exact erased_emptied s.now _
  · intro others
    cases found : s.letters.find id with
    | none => rfl
    | some letter =>
      rw [found, Option.any_some] at others
      simp only [Option.map_some, others, Bool.false_eq_true, if_false]

theorem erase_draft_moves (s : Store) (userId : UserId) (held : List LetterId) (ordered : List DraftId) (id : DraftId) :
    draftShelf.Move (Late s) (s.drafts.find id) (s.quarantine.find (.letterDrafts, id))
      ((eraseAccount s userId held ordered).drafts.find id)
      ((eraseAccount s userId held ordered).quarantine.find (.letterDrafts, id)) := by
  have after : (eraseDrafts s userId ordered).find id =
      ((s.drafts.find id).filter fun draft => draft.userId != userId || draft.draftId ∈ ordered).map fun draft =>
        if draft.userId == userId then draft.redacted s.now else draft := by
    unfold eraseDrafts
    rw [Table.find_update, Table.find_filter]
  have copies : (eraseAccount s userId held ordered).quarantine.find (.letterDrafts, id) =
      (s.quarantine.find (.letterDrafts, id)).filter fun copy => !copy.ofAccount s userId := Table.find_filter
  rw [copies]
  show draftShelf.Move (Late s) _ _ ((eraseDrafts s userId ordered).find id) _
  rw [after]
  refine @erase_moves _ _ _ _ _ _ _ ((s.drafts.find id).any (·.userId == userId)) ?_ ?_ ?_
  · intro copy here
    unfold SavedCopy.ofAccount
    rw [Table.find_key here]
  · intro ours left here
    obtain ⟨draft, kept, rfl⟩ := Option.map_eq_some_iff.mp here
    obtain ⟨found, -⟩ := Option.filter_eq_some_iff.mp kept
    rw [found, Option.any_some] at ours
    rw [if_pos ours]
    exact ⟨rfl, draft.content, rfl⟩
  · intro others
    cases found : s.drafts.find id with
    | none => rfl
    | some draft =>
      rw [found, Option.any_some] at others
      simp only [Option.filter_some, bne, others, Bool.not_false, Bool.true_or, if_true, Option.map_some,
        Bool.false_eq_true, if_false]

end LetterIRL.Retention
