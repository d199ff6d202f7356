import LetterIRL.Provider.PostGrid

namespace LetterIRL.Provider

open Lib.Json

/-! A submission's outcome is a rejection exactly when the provider rejected it, but for a message that has no text. -/

/-- The provider answered with a status that proves a rejection. -/
def rejected (timeoutMs : Nat) : Exchange → Bool
  | .responds headersAt status _ _ => decide (headersAt < timeoutMs) &&
      (decide (400 ≤ status) && (decide (status < 500) && !AMBIGUOUS_SUBMISSION_STATUS_CODES.contains status))
  | _ => false

/-- It answered 2xx, with an id and a status. -/
def accepted (timeoutMs : Nat) : Exchange → Bool
  | .responds headersAt status _ body => decide (headersAt < timeoutMs) && (ok status &&
      match readJsonWithinDeadline timeoutMs body with
      | .ok payload => isUsableSubmissionResponse payload
      | .error _ => false)
  | _ => false

/-- The message of its refusal cannot be written out. -/
def unsayable (timeoutMs : Nat) : Exchange → Bool
  | .responds _ status statusText body => (toText (refusalMessage timeoutMs status statusText body)).isNone
  | _ => false

variable {timeoutMs : Nat} {exchange : Exchange} {error : PostGridRequestError} {payload : Value}

theorem classified_outcome (message : Text) (status : Nat) (retryable : Bool) :
    (PostGridRequestError.classified message (some status) retryable).submissionOutcome = .definiteRejection ↔
      400 ≤ status ∧ status < 500 ∧ status ∉ AMBIGUOUS_SUBMISSION_STATUS_CODES := by
  change classifySubmissionOutcome (some status) = _ ↔ _
  simp only [classifySubmissionOutcome]
  split
  · rename_i server
    exact ⟨fun same => (nomatch same), fun client => absurd client.2.1 (Nat.not_lt.mpr server)⟩
  · rename_i below
    split
    · rename_i doubtful
      exact ⟨fun same => (nomatch same), fun client => absurd doubtful client.2.2⟩
    · rename_i sure
      split
      · rename_i client
        exact ⟨fun _ => ⟨client, Nat.lt_of_not_le below, sure⟩, fun _ => rfl⟩
      · rename_i less
        exact ⟨fun same => (nomatch same), fun client => absurd client.1 less⟩

theorem transportError_outcome (timeoutMs : Nat) (isError : Bool) (name message : Text) :
    (transportError timeoutMs isError name message).submissionOutcome = .ambiguous := by
  unfold transportError
  split <;> rfl

theorem rejected_iff {headersAt status : Nat} {statusText : Text} {body : Body} :
    rejected timeoutMs (.responds headersAt status statusText body) = true ↔
      headersAt < timeoutMs ∧ 400 ≤ status ∧ status < 500 ∧ status ∉ AMBIGUOUS_SUBMISSION_STATUS_CODES := by
  simp only [rejected, Bool.and_eq_true, decide_eq_true_eq, Bool.not_eq_true', List.contains_eq_mem, decide_eq_false_iff_not]

/-- A request that succeeds was answered as a success is, and no rejection. -/
theorem apiRequest_ok (came : apiRequest timeoutMs exchange = .ok payload) :
    accepted timeoutMs exchange = true ∧ rejected timeoutMs exchange = false := by
  unfold apiRequest at came
  cases exchange with
  | fails isError name message => nomatch came
  | silent => nomatch came
  | responds headersAt status statusText body =>
    simp only at came
    split at came
    · nomatch came
    · rename_i early
      split at came
      · rename_i success
        have below : ¬ 400 ≤ status := by
          simp only [ok, Bool.and_eq_true, decide_eq_true_eq] at success
          omega
        refine ⟨?_, Bool.eq_false_iff.mpr fun client => below (rejected_iff.mp client).2.1⟩
        split at came
        · nomatch came
        · rename_i answered parsed
          split at came
          · rename_i usable
            simp only [accepted, parsed, success, usable, Bool.and_true, decide_eq_true_eq]
            exact Nat.lt_of_not_le early
          · nomatch came
      · split at came
        · nomatch came
        · nomatch came

/-- One that fails is a rejection exactly when the provider rejected it in words. -/
theorem apiRequest_error (came : apiRequest timeoutMs exchange = .error error) :
    error.submissionOutcome = .definiteRejection ↔ rejected timeoutMs exchange = true ∧ unsayable timeoutMs exchange = false := by
  unfold apiRequest at came
  cases exchange with
  | fails isError name message =>
    obtain rfl := Except.error.inj came
    rw [transportError_outcome]
    exact ⟨fun same => (nomatch same), fun client => (nomatch client.1)⟩
  | silent =>
    obtain rfl := Except.error.inj came
    rw [transportError_outcome]
    exact ⟨fun same => (nomatch same), fun client => (nomatch client.1)⟩
  | responds headersAt status statusText body =>
    simp only at came
    split at came
    · rename_i late
      obtain rfl := Except.error.inj came
      rw [transportError_outcome]
      exact ⟨fun same => (nomatch same), fun client => absurd (rejected_iff.mp client.1).1 (Nat.not_lt.mpr late)⟩
    · rename_i early
      split at came
      · rename_i success
        have below : ¬ 400 ≤ status := by
          simp only [ok, Bool.and_eq_true, decide_eq_true_eq] at success
          omega
        have doubtful : error.submissionOutcome = .ambiguous := by
          split at came
          · obtain rfl := Except.error.inj came
            rfl
          · split at came
            · nomatch came
            · obtain rfl := Except.error.inj came
              rfl
        rw [doubtful]
        exact ⟨fun same => (nomatch same), fun client => absurd (rejected_iff.mp client.1).2.1 below⟩
      · split at came
        · rename_i message said
          obtain rfl := Except.error.inj came
          rw [classified_outcome, rejected_iff, unsayable, said]
          exact ⟨fun client => ⟨⟨Nat.lt_of_not_le early, client⟩, rfl⟩, fun client => client.1.2⟩
        · rename_i unsaid
          obtain rfl := Except.error.inj came
          rw [transportError_outcome, unsayable, unsaid]
          exact ⟨fun same => (nomatch same), fun client => (nomatch client.2)⟩

theorem taken_ok {result : SubmissionResult} (came : taken payload = .ok result) :
    result.success = true ∧ result.submissionOutcome = none := by
  unfold taken at came
  simp only at came
  split at came
  · nomatch came
  · split at came
    · obtain rfl := Except.ok.inj came
      exact ⟨rfl, rfl⟩
    · nomatch came

theorem taken_error {thrown : Thrown} (came : taken payload = .error thrown) :
    thrown = .drawing (.error CANNOT_CONVERT) := by
  unfold taken at came
  simp only at came
  split at came
  · exact (Except.error.inj came).symm
  · split at came
    · nomatch came
    · exact (Except.error.inj came).symm

/-- What a submission comes to, of the time its request was given, if it was made. -/
structure Submitted (asked : Option Nat) (exchange : Exchange) (result : SubmissionResult) : Prop where
  success : result.success = true → asked.any (accepted · exchange) = true
  said : result.success = false →
    result.submissionOutcome = some .definiteRejection ∨ result.submissionOutcome = some .ambiguous
  definite : result.submissionOutcome = some .definiteRejection ↔
    asked.any (fun timeoutMs => rejected timeoutMs exchange && !unsayable timeoutMs exchange) = true

theorem failed_said (thrown : Thrown) : (failed thrown).success = false ∧
    ((failed thrown).submissionOutcome = some .definiteRejection ∨ (failed thrown).submissionOutcome = some .ambiguous) := by
  cases thrown with
  | drawing error => cases error <;> exact ⟨rfl, .inr rfl⟩
  | request error =>
    refine ⟨rfl, ?_⟩
    cases outcome : error.submissionOutcome with
    | definiteRejection => exact .inl (congrArg some outcome)
    | ambiguous => exact .inr (congrArg some outcome)

theorem failed_drawing (error : DrawError) : (failed (.drawing error)).submissionOutcome = some .ambiguous := by
  cases error <;> rfl

theorem submitted_failed {asked : Option Nat} {thrown : Thrown}
    (definite : (failed thrown).submissionOutcome = some .definiteRejection ↔
      asked.any (fun timeoutMs => rejected timeoutMs exchange && !unsayable timeoutMs exchange) = true) :
    Submitted asked exchange (failed thrown) where
  success := fun success => by
    rw [(failed_said thrown).1] at success
    nomatch success
  said := fun _ => (failed_said thrown).2
  definite := definite

theorem submit_request (came : apiRequest timeoutMs exchange = .error error) :
    submit (.ok timeoutMs) exchange = failed (.request error) := by
  simp only [submit, bind, Except.bind, Except.mapError, came]

theorem submit_taken (came : apiRequest timeoutMs exchange = .ok payload) :
    submit (.ok timeoutMs) exchange = match taken payload with
      | .ok result => result
      | .error thrown => failed thrown := by
  cases result : taken payload with
  | ok result' => simp only [submit, bind, Except.bind, Except.mapError, came, result]
  | error thrown => simp only [submit, bind, Except.bind, Except.mapError, came, result]

/-- The try both submissions share. -/
theorem submit_submitted (prepared : Except DrawError Nat) (exchange : Exchange) :
    Submitted prepared.toOption exchange (submit prepared exchange) := by
  cases prepared with
  | error error =>
    refine submitted_failed ?_
    rw [failed_drawing]
    exact ⟨fun same => (nomatch same), fun none_ => (nomatch none_)⟩
  | ok timeoutMs =>
    cases came : apiRequest timeoutMs exchange with
    | error error =>
      rw [submit_request came]
      refine submitted_failed ?_
      have outcome := apiRequest_error came
      simp only [failed, Option.some.injEq, Except.toOption, Option.any_some, Bool.and_eq_true, Bool.not_eq_true']
      exact outcome
    | ok payload =>
      obtain ⟨success, unrejected⟩ := apiRequest_ok came
      have none_ : ¬ (Except.toOption (.ok timeoutMs : Except DrawError Nat)).any
          (fun timeoutMs => rejected timeoutMs exchange && !unsayable timeoutMs exchange) = true := by
        simp only [Except.toOption, Option.any_some, unrejected, Bool.false_and]
        exact Bool.false_ne_true
      cases made : taken payload with
      | error thrown =>
        rw [submit_taken came, made, taken_error made]
        refine submitted_failed ?_
        rw [failed_drawing]
        exact ⟨fun same => (nomatch same), fun client => absurd client none_⟩
      | ok result =>
        obtain ⟨well, silent⟩ := taken_ok made
        rw [submit_taken came, made]
        refine ⟨fun _ => success, fun failed_ => ?_, ?_⟩
        · rw [well] at failed_
          nomatch failed_
        · rw [silent]
          exact ⟨fun same => (nomatch same), fun client => absurd client none_⟩

/-- The time a letter's request is given, if one is made. -/
def askedLetter (timeoutMs : Nat) (params : LetterParams) (draw : Except DrawError Unit) : Option Nat :=
  if refusedService params then none else (prepareLetter timeoutMs params draw).toOption

def askedPostcard (timeoutMs : Nat) (params : PostcardParams) (draw : Except DrawError Unit) : Option Nat :=
  (preparePostcard timeoutMs params draw).toOption

/-- A sound outcome: a success has an id and a status from a 2xx answer, a failure is said to be a rejection or not to be
one, and is a rejection exactly when nothing was asked of the provider or it rejected the mail; what is read as one to
give the money back for is one. -/
structure Sound (refused : Bool) (asked : Option Nat) (exchange : Exchange) (result : SubmissionResult) : Prop where
  success : result.success = true → asked.any (accepted · exchange) = true
  said : result.success = false →
    result.submissionOutcome = some .definiteRejection ∨ result.submissionOutcome = some .ambiguous
  definite : result.submissionOutcome = some .definiteRejection ↔
    refused = true ∨ asked.any (rejected · exchange) = true
  money : result.answer = .definiteRejection → refused = true ∨ asked.any (rejected · exchange) = true

/-- A rejection whose message cannot be written out. -/
def lost (asked : Option Nat) (exchange : Exchange) : Bool :=
  asked.any fun timeoutMs => rejected timeoutMs exchange && unsayable timeoutMs exchange

theorem answer_definite {result : SubmissionResult} (answer : result.answer = .definiteRejection) :
    result.submissionOutcome = some .definiteRejection := by
  unfold SubmissionResult.answer at answer
  split at answer
  · nomatch answer
  · split at answer
    · assumption
    · nomatch answer

theorem Submitted.sound_iff {asked : Option Nat} {result : SubmissionResult} (submitted : Submitted asked exchange result) :
    Sound false asked exchange result ↔ lost asked exchange = false := by
  have narrow : result.submissionOutcome = some .definiteRejection → asked.any (rejected · exchange) = true := by
    intro definite
    have worded := submitted.definite.mp definite
    cases asked with
    | none => nomatch worded
    | some timeoutMs => exact (Bool.and_eq_true_iff.mp worded).1
  constructor
  · intro sound
    cases asked with
    | none => rfl
    | some timeoutMs =>
      refine Bool.eq_false_iff.mpr fun lost_ => ?_
      obtain ⟨client, unsaid⟩ := Bool.and_eq_true_iff.mp lost_
      have worded := submitted.definite.mp (sound.definite.mpr (.inr client))
      obtain ⟨_, said⟩ := Bool.and_eq_true_iff.mp worded
      rw [unsaid] at said
      nomatch said
  · intro kept
    refine ⟨submitted.success, submitted.said, ⟨fun definite => .inr (narrow definite), fun client => ?_⟩,
      fun answer => .inr (narrow (answer_definite answer))⟩
    rcases client with none_ | client
    · nomatch none_
    · refine submitted.definite.mpr ?_
      cases asked with
      | none => nomatch client
      | some timeoutMs =>
        have said : unsayable timeoutMs exchange = false := by
          refine Bool.eq_false_iff.mpr fun unsaid => ?_
          have both : lost (some timeoutMs) exchange = true := Bool.and_eq_true_iff.mpr ⟨client, unsaid⟩
          rw [kept] at both
          nomatch both
        refine Bool.and_eq_true_iff.mpr ⟨client, ?_⟩
        rw [said]
        rfl

/-- The outcome of a letter or a postcard is sound exactly when it is no rejection whose message cannot be written out. -/
theorem outcome_sound_iff (timeoutMs : Nat) (draw : Except DrawError Unit) (exchange : Exchange) :
    (∀ params : LetterParams,
      Sound (refusedService params) (askedLetter timeoutMs params draw) exchange (sendLetter timeoutMs params draw exchange) ↔
        lost (askedLetter timeoutMs params draw) exchange = false) ∧
    ∀ params : PostcardParams,
      Sound false (askedPostcard timeoutMs params draw) exchange (sendPostcard timeoutMs params draw exchange) ↔
        lost (askedPostcard timeoutMs params draw) exchange = false := by
  refine ⟨fun params => ?_, fun params => (submit_submitted _ exchange).sound_iff⟩
  unfold askedLetter sendLetter
  cases refused : refusedService params with
  | true =>
    refine ⟨fun _ => rfl, fun _ => ⟨fun success => (nomatch success), fun _ => .inl rfl, ?_, fun _ => .inl rfl⟩⟩
    exact ⟨fun _ => .inl rfl, fun _ => rfl⟩
  | false =>
    exact (submit_submitted (prepareLetter timeoutMs params draw) exchange).sound_iff

/-- A rejection whose body says why by an object with a member named `toString`. -/
def oddRejection : Exchange := .responds 120 422 "Unprocessable Entity".toList {
  arrivesAt := some 130
  content := .ok (.object [("error".toList, .object [("message".toList, .object [("toString".toList, .null)])])]) }

/-- It is held as if the letter might have been mailed. -/
theorem odd_rejection_held :
    (sendLetter 10000 { extraService := none, rendererVersion := some RENDERER_VERSION } (.ok ()) oddRejection).submissionOutcome =
      some .ambiguous ∧
    (askedLetter 10000 { extraService := none, rendererVersion := some RENDERER_VERSION } (.ok ())).any
      (rejected · oddRejection) = true := by
  decide +kernel

end LetterIRL.Provider
