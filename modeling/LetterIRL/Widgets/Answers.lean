import LetterIRL.Widgets.Style

namespace LetterIRL.Widgets

open Lib Editor

/-! What the card's editors report, whenever the answers to their changes come. -/

/-- A card as it is drawn first, its editors on no draft. -/
def Arrives.initially (host : Host) : State (Arrives.picker host) := { shown := none, rest := {} }

def Style.initially (card : Style.Card) : State (Style.style card) := { shown := {}, rest := {} }

/-- While no editor is brought back to a draft with a change of it under way, each is busy exactly while one is awaited,
and reports what the answers told in the order the changes started, with what was adopted meanwhile. The first step that
brings one back so ends that. -/
theorem editors_fresh (host : Host) (card : Style.Card) :
    (∀ state, Reach step Settled (Arrives.initially host) state →
      state.Fresh ∧ ∀ event after, step state event = .ok after → (after.Fresh ↔ Settled state event)) ∧
    ∀ state, Reach step Settled (Style.initially card) state →
      state.Fresh ∧ ∀ event after, step state event = .ok after → (after.Fresh ↔ Settled state event) :=
  ⟨fun _ reach => Editor.Reach.fresh reach, fun _ reach => Editor.Reach.fresh reach⟩

/-- A host that reads errors as they are. -/
def plainHost : Host := { callable := true, readableError := id }

def springCard : Style.Card := { plainHost with hasSwitch := true, hasServices := true }

/-- Dates on offer from April 1 to June 30. -/
def springWindow : Arrives.Dates where
  earliestArrival := some "2026-04-01".toList
  latestArrival := some "2026-06-30".toList

def offered (arriveBy mailOn : String) : Arrives.Dates :=
  { springWindow with arriveBy := some arriveBy.toList, mailOn := some mailOn.toList }

def spring : Arrives.Output where
  enabled := true
  arrivalWindow := some springWindow
  schedule := none

def arrives (date : String) : Event (Arrives.picker plainHost) := .press (.change 0 date.toList true)

def answered (serial : Nat) (arriveBy mailOn : String) : Event (Arrives.picker plainHost) :=
  .answer serial (.result { schedule := some (offered arriveBy mailOn) })

/-- A draft is left before its change is answered. -/
theorem left_draft_fresh :
    (match runAll step (Arrives.initially plainHost)
        [.show ['a'] spring, arrives "2026-05-01", .show ['b'] spring, answered 0 "2026-05-01" "2026-04-24", .finish 0] with
      | .ok state => state.Fresh
      | .error _ => False) := by
  have first : Reach step Settled (Arrives.initially plainHost) (Arrives.initially plainHost) := .start
  have shown := first.after (.show ['a'] spring) (fun _ _ _ _ there => (nomatch there)) rfl
  have asked := shown.after (arrives "2026-05-01") trivial rfl
  have left := asked.after (.show ['b'] spring) ?_ rfl
  · have told := left.after (answered 0 "2026-05-01" "2026-04-24") trivial rfl
    exact ((editors_fresh plainHost springCard).1 _ (told.after (.finish 0) trivial rfl)).1
  · intro _ _ serial call there own
    have here : Function.update (fun _ => none) 0 _ serial = some call := there
    rw [Function.update_apply] at here
    split at here
    · rw [← Option.some.inj here] at own
      nomatch own
    · nomatch here

/-- A draft left with a change under way and come back to: the editor is not busy, takes another change, and when both
are answered it reports the first. -/
theorem brought_back_stale : ∃ state, Reach step anyStep (Arrives.initially plainHost) state ∧
    (decide (state.key = some ['a']) && (!state.busy && decide (state.heard.map Prod.fst = [1, 0])) &&
      decide (state.shown = Arrives.scheduleOf (some (offered "2026-05-01" "2026-04-24")))) = true :=
  exists_reach step (Arrives.initially plainHost) _
    [.show ['a'] spring, arrives "2026-05-01", .show ['b'] spring, .show ['a'] spring, arrives "2026-06-01",
      answered 1 "2026-06-01" "2026-05-22", .finish 1, answered 0 "2026-05-01" "2026-04-24"]
    (by decide +kernel)

end LetterIRL.Widgets
