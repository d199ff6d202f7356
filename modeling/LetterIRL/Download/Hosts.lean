import LetterIRL.Lib.Runs
import LetterIRL.Download.Public

namespace LetterIRL.Download
open Lib

/-! `resolvePublicAddress`: the addresses a download may connect to, as its queries answer. -/

inductive Family
  | four
  | six
  deriving DecidableEq

structure PinnedAddress where
  address : Text
  family : Family
  deriving DecidableEq

/-- How a query ended: with addresses, or with an error and its code where it has one. -/
inductive Answer
  | found (addresses : List Text)
  | failed (code : Option String)

def NO_RECORD : List String := ["ENODATA", "ENOTFOUND"]

/-- The platform's own: the lower case of a text, and whether one is an IPv6 address. -/
structure Platform where
  toLowerCase : Text → Text
  isIPv6 : Text → Bool

structure Platform.Sound (platform : Platform) : Prop where
  lowers : ∀ text, Lowered text (platform.toLowerCase text)
  isIPv6 : ∀ text groups, Denotes text groups → platform.isIPv6 text = true

inductive Stage
  | first
  | second (four : List Text)
  | done (result : Option (List PinnedAddress))
  deriving DecidableEq

/-- A call, where it is and what has come of its queries. -/
structure Resolving where
  stage : Stage
  aborted : Bool
  a : Option Answer := none
  aaaa : Option Answer := none
  /-- What the second wait was settled with: the AAAA query's answer, or the grace's. -/
  settled : Option Answer := none
  /-- The addresses it looked at. -/
  considered : List Text := []

inductive HostEvent
  | abort
  | answerA (answer : Answer)
  | answerAaaa (answer : Answer)
  | graceOver
  /-- The call goes on after its first wait, or its second. -/
  | resumeFirst
  | resumeSecond

section
variable (platform : Platform)

def isUnsafeIpAddress (address : Text) : Bool :=
  if isIPv4 address then isUnsafeIpv4Address address
  else if platform.isIPv6 address then isUnsafeIpv6Address platform.toLowerCase address
  else false

def Answer.addresses : Answer → List Text
  | .found addresses => addresses
  | .failed _ => []

/-- A query that found its host has no such record, or found addresses. -/
def Answer.usable : Answer → Bool
  | .found _ => true
  | .failed code => NO_RECORD.contains (code.getD "")

namespace Resolving

def begun (aborted : Bool) : Resolving := { stage := if aborted then .done none else .first, aborted }

/-- After the A answer. -/
def afterFirst (call : Resolving) (answer : Answer) : Resolving :=
  if answer.usable then { call with stage := .second answer.addresses, settled := call.aaaa }
  else { call with stage := .done none }

/-- After the AAAA answer, or the grace. -/
def afterSecond (call : Resolving) (four : List Text) (answer : Answer) : Resolving :=
  let six := answer.addresses
  if call.aborted then { call with stage := .done none }
  else if four.length + six.length = 0 then { call with stage := .done none }
  else if (four ++ six).any (isUnsafeIpAddress platform) then { call with stage := .done none, considered := four ++ six }
  else
    { call with
      stage := .done (some (four.map (⟨·, .four⟩) ++ six.map (⟨·, .six⟩)))
      considered := four ++ six }

/-- One event; an error where it cannot come. -/
def step (call : Resolving) : HostEvent → Except Unit Resolving
  | .abort => .ok { call with aborted := true }
  | .answerA answer => if call.a.isNone then .ok { call with a := some answer } else .error ()
  | .answerAaaa answer =>
    if call.aaaa.isNone then
      match call.stage with
      | .second _ => .ok { call with aaaa := some answer, settled := call.settled.or (some answer) }
      | _ => .ok { call with aaaa := some answer }
    else .error ()
  | .graceOver =>
    match call.stage with
    -- With no IPv4 address the AAAA query alone is waited for.
    | .second four => if four = [] then .error () else .ok { call with settled := call.settled.or (some (.failed none)) }
    | _ => .error ()
  | .resumeFirst =>
    match call.stage, call.a with
    | .first, some answer => .ok (call.afterFirst answer)
    | _, _ => .error ()
  | .resumeSecond =>
    match call.stage, call.settled with
    | .second four, some answer => .ok (call.afterSecond platform four answer)
    | _, _ => .error ()

end Resolving

end

/-- The resolver answers A queries with IPv4 addresses, and AAAA queries with IPv6 ones. -/
def HostEvent.Genuine : HostEvent → Prop
  | .answerA (.found addresses) => ∀ address ∈ addresses, ∃ a b c d, IsQuad address a b c d
  | .answerAaaa (.found addresses) => ∀ address ∈ addresses, ∃ groups, Denotes address groups
  | _ => True

/-- A public address of its family. -/
def PinnedAddress.Public : PinnedAddress → Prop
  | ⟨address, .four⟩ => ∃ a b c d, IsQuad address a b c d ∧ PublicIpv4 (ipv4 a b c d)
  | ⟨address, .six⟩ => ∃ groups, Denotes address groups ∧ PublicIpv6 (ipv6 groups)

/-- A public address, of either family. -/
def IsPublic (address : Text) : Prop := PinnedAddress.Public ⟨address, .four⟩ ∨ PinnedAddress.Public ⟨address, .six⟩

section
variable {platform : Platform} {address : Text} {groups : List Nat} {a b c d : Nat}

theorem Written.length_one {parts : List Text} (written : Written parts groups) (many : 2 < groups.length) :
    COLON ∈ [COLON].intercalate parts := by
  cases written with
  | none => exact absurd many (by decide)
  | @group part value parts values group rest =>
    cases parts with
    | nil =>
      cases rest
      exact absurd many (by simp)
    | cons second parts => simp [List.intercalate_cons_cons]
  | quad _ => exact absurd many (by simp)

theorem Denotes.colon (denotes : Denotes address groups) : COLON ∈ address := by
  have inLower : COLON ∈ address.map lowerUnit := by
    unfold Denotes at denotes
    generalize address.map lowerUnit = text at denotes
    cases denotes with
    | full written eight => exact written.length_one (by omega)
    | elided before after fewer => simp
  obtain ⟨unit, member, same⟩ := List.mem_map.mp inLower
  have own : unit = COLON := by
    unfold lowerUnit COLON at *
    split at same
    · omega
    · exact same
  exact own ▸ member

/-- An address of one family is none of the other. -/
theorem Denotes.not_quad (denotes : Denotes address groups) : ¬ ∃ a b c d, IsQuad address a b c d := by
  rintro ⟨a, b, c, d, quad⟩
  exact quad.plain.2 denotes.colon

theorem IsQuad.public_iff (quad : IsQuad address a b c d) : IsPublic address ↔ PinnedAddress.Public ⟨address, .four⟩ := by
  constructor
  · rintro (public_ | ⟨groups, denotes, -⟩)
    · exact public_
    · exact absurd ⟨a, b, c, d, quad⟩ denotes.not_quad
  · exact .inl

theorem Denotes.public_iff (denotes : Denotes address groups) : IsPublic address ↔ PinnedAddress.Public ⟨address, .six⟩ := by
  constructor
  · rintro (⟨a, b, c, d, quad, -⟩ | public_)
    · exact absurd ⟨a, b, c, d, quad⟩ denotes.not_quad
    · exact public_
  · exact .inr

theorem isUnsafeIpAddress_quad (quad : IsQuad address a b c d) : isUnsafeIpAddress platform address = false ↔ IsPublic address := by
  unfold isUnsafeIpAddress
  rw [quad.isIPv4.1, if_pos rfl, quad.public_iff]
  constructor
  · intro safe
    exact ⟨a, b, c, d, quad, (isUnsafeIpv4Address_quad quad).mp safe⟩
  · rintro ⟨a', b', c', d', quad', public_⟩
    exact (isUnsafeIpv4Address_quad quad').mpr public_

theorem isUnsafeIpAddress_groups (sound : platform.Sound) (denotes : Denotes address groups) :
    isUnsafeIpAddress platform address = false ↔ IsPublic address := by
  have other : isIPv4 address = false := by
    by_contra four
    exact denotes.not_quad (isIPv4_quad (by simpa using four))
  unfold isUnsafeIpAddress
  rw [other, if_neg (by decide), sound.isIPv6 address groups denotes, if_pos rfl, denotes.public_iff]
  constructor
  · intro safe
    exact ⟨groups, denotes, (isUnsafeIpv6Address_address sound.lowers (.bare denotes)).mp safe⟩
  · rintro ⟨groups', denotes', public_⟩
    exact (isUnsafeIpv6Address_address sound.lowers (.bare denotes')).mpr public_

end

/-- What a call that has returned says of its answers. -/
structure Returned (call : Resolving) (result : Option (List PinnedAddress)) : Prop where
  refused : (∃ address ∈ call.considered, ¬ IsPublic address) → result = none
  listed : ∀ pinned, result = some pinned → pinned ≠ [] ∧ (∀ each ∈ pinned, each.Public) ∧
    ∃ a six, call.a = some a ∧ a.usable = true ∧ (six = [] ∨ ∃ aaaa, call.aaaa = some aaaa ∧ six = aaaa.addresses) ∧
      pinned = a.addresses.map (⟨·, .four⟩) ++ six.map (⟨·, .six⟩) ∧ call.considered = a.addresses ++ six

/-- What holds of a call at every event. -/
structure Resolving.Sound (call : Resolving) : Prop where
  a : ∀ answer, call.a = some answer → ∀ address ∈ answer.addresses, ∃ a b c d, IsQuad address a b c d
  aaaa : ∀ answer, call.aaaa = some answer → ∀ address ∈ answer.addresses, ∃ groups, Denotes address groups
  settled : ∀ answer, call.settled = some answer → answer.addresses = [] ∨ call.aaaa = some answer
  second : ∀ four, call.stage = .second four → ∃ answer, call.a = some answer ∧ answer.usable = true ∧ answer.addresses = four
  returned : ∀ result, call.stage = .done result → Returned call result
  fresh : (∀ result, call.stage ≠ .done result) → call.considered = []

namespace Resolving
variable {platform : Platform} {call after : Resolving} {event : HostEvent}

theorem begun_sound (aborted : Bool) : (begun aborted).Sound where
  a := nofun
  aaaa := nofun
  settled := nofun
  second := by
    intro four stage
    unfold begun at stage
    cases aborted with
    | true => cases stage
    | false => cases stage
  returned := by
    intro result stage
    unfold begun at stage
    cases aborted with
    | true =>
      cases stage
      exact ⟨fun _ => rfl, nofun⟩
    | false => cases stage
  fresh _ := rfl

/-- Queries that settle later change no answer a call has used. -/
theorem Sound.of_answers (sound : call.Sound) (stage : after.stage = call.stage) (considered : after.considered = call.considered)
    (a : ∀ answer, call.a = some answer → after.a = some answer) (aaaa : ∀ answer, call.aaaa = some answer → after.aaaa = some answer)
    (quads : ∀ answer, after.a = some answer → ∀ address ∈ answer.addresses, ∃ a b c d, IsQuad address a b c d)
    (groups : ∀ answer, after.aaaa = some answer → ∀ address ∈ answer.addresses, ∃ groups, Denotes address groups)
    (settled : ∀ answer, after.settled = some answer → answer.addresses = [] ∨ after.aaaa = some answer) : after.Sound := by
  refine ⟨quads, groups, settled, ?_, ?_, ?_⟩
  all_goals rw [stage]
  · intro four second
    obtain ⟨answer, found, usable, same⟩ := sound.second four second
    exact ⟨answer, a answer found, usable, same⟩
  · intro result done
    obtain ⟨refused, listed⟩ := sound.returned result done
    rw [← considered] at refused
    refine ⟨refused, ?_⟩
    intro pinned same
    obtain ⟨some_, public_, four, six, found, usable, from_, rfl, looked⟩ := listed pinned same
    refine ⟨some_, public_, four, six, a four found, usable, ?_, rfl, considered.trans looked⟩
    rcases from_ with none_ | ⟨answer, found, same⟩
    · exact .inl none_
    · exact .inr ⟨answer, aaaa answer found, same⟩
  · intro running
    exact considered.trans (sound.fresh running)

/-- The call's end: it looks at every A answer, and at the AAAA answers or none. -/
theorem afterSecond_returned (own : platform.Sound) (sound : call.Sound) {four : List Text} {answer : Answer}
    (stage : call.stage = .second four) (settled : call.settled = some answer) :
    ∃ result considered, call.afterSecond platform four answer = { call with stage := .done result, considered } ∧
      Returned { call with stage := .done result, considered } result := by
  obtain ⟨a, found, usable, rfl⟩ := sound.second four stage
  have quads := sound.a a found
  have from_ := sound.settled answer settled
  have groups : ∀ address ∈ answer.addresses, ∃ groups, Denotes address groups := by
    rcases from_ with none_ | same
    · rw [none_]
      exact fun _ member => (nomatch member)
    · exact sound.aaaa answer same
  -- An address looked at is safe where it is public.
  have verdict : ∀ address ∈ a.addresses ++ answer.addresses, isUnsafeIpAddress platform address = false ↔ IsPublic address := by
    intro address member
    rcases List.mem_append.mp member with inFour | inSix
    · obtain ⟨p, q, r, s, quad⟩ := quads address inFour
      exact isUnsafeIpAddress_quad quad
    · obtain ⟨values, denotes⟩ := groups address inSix
      exact isUnsafeIpAddress_groups own denotes
  unfold afterSecond
  simp only
  split
  · exact ⟨none, call.considered, rfl, fun _ => rfl, nofun⟩
  · split
    · exact ⟨none, call.considered, rfl, fun _ => rfl, nofun⟩
    · rename_i some_
      split
      · exact ⟨none, _, rfl, fun _ => rfl, nofun⟩
      · rename_i safe
        have public_ : ∀ address ∈ a.addresses ++ answer.addresses, IsPublic address := by
          intro address member
          refine (verdict address member).mp ?_
          by_contra unsafe_
          exact safe (List.any_eq_true.mpr ⟨address, member, by simpa using unsafe_⟩)
        refine ⟨_, _, rfl, ?_, ?_⟩
        · rintro ⟨address, member, not_⟩
          exact absurd (public_ address member) not_
        · intro pinned same
          obtain rfl := Option.some.inj same
          refine ⟨?_, ?_, a, answer.addresses, found, usable, ?_, rfl, rfl⟩
          · intro empty
            have lengths := congrArg List.length empty
            simp only [List.length_append, List.length_map, List.length_nil] at lengths
            exact some_ lengths
          · intro each member
            rcases List.mem_append.mp member with inFour | inSix
            · obtain ⟨address, own, rfl⟩ := List.mem_map.mp inFour
              obtain ⟨p, q, r, s, quad⟩ := quads address own
              exact quad.public_iff.mp (public_ address (List.mem_append_left _ own))
            · obtain ⟨address, own, rfl⟩ := List.mem_map.mp inSix
              obtain ⟨values, denotes⟩ := groups address own
              exact denotes.public_iff.mp (public_ address (List.mem_append_right _ own))
          · rcases from_ with none_ | same
            · exact .inl none_
            · exact .inr ⟨answer, same, rfl⟩

/-- One event keeps what holds of a call. -/
theorem step_sound (own : platform.Sound) (sound : call.Sound) (genuine : event.Genuine)
    (stepped : call.step platform event = .ok after) : after.Sound := by
  unfold step at stepped
  cases event with
  | abort =>
    cases stepped
    exact sound.of_answers rfl rfl (fun _ same => same) (fun _ same => same) sound.a sound.aaaa sound.settled
  | answerA answer =>
    simp only at stepped
    split at stepped
    · rename_i first
      have none_ := Option.isNone_iff_eq_none.mp first
      cases stepped
      refine sound.of_answers rfl rfl ?_ (fun _ same => same) ?_ sound.aaaa sound.settled
      · intro before found
        rw [none_] at found
        cases found
      · intro later same
        obtain rfl := Option.some.inj same
        cases answer with
        | found addresses => exact genuine
        | failed code => exact fun _ member => (nomatch member)
    · cases stepped
  | answerAaaa answer =>
    simp only at stepped
    split at stepped
    · rename_i first
      have none_ := Option.isNone_iff_eq_none.mp first
      have kept : ∀ before, call.aaaa = some before → some answer = some before := by
        intro before found
        rw [none_] at found
        cases found
      have groups : ∀ later, some answer = some later → ∀ address ∈ later.addresses, ∃ groups, Denotes address groups := by
        intro later same
        obtain rfl := Option.some.inj same
        cases answer with
        | found addresses => exact genuine
        | failed code => exact fun _ member => (nomatch member)
      split at stepped
      · cases stepped
        refine sound.of_answers rfl rfl (fun _ same => same) kept sound.a groups ?_
        intro later same
        cases before : call.settled with
        | none =>
          have same : call.settled.or (some answer) = some later := same
          rw [before, Option.none_or] at same
          exact .inr same
        | some winner =>
          have same : call.settled.or (some answer) = some later := same
          rw [before, Option.some_or] at same
          obtain rfl := Option.some.inj same
          rcases sound.settled winner before with empty | found
          · exact .inl empty
          · rw [none_] at found
            cases found
      · cases stepped
        refine sound.of_answers rfl rfl (fun _ same => same) kept sound.a groups ?_
        intro later same
        rcases sound.settled later same with empty | found
        · exact .inl empty
        · rw [none_] at found
          cases found
    · cases stepped
  | graceOver =>
    simp only at stepped
    split at stepped
    · split at stepped
      · cases stepped
      · cases stepped
        refine sound.of_answers rfl rfl (fun _ same => same) (fun _ same => same) sound.a sound.aaaa ?_
        intro later same
        have same : call.settled.or (some (.failed none)) = some later := same
        cases before : call.settled with
        | none =>
          rw [before, Option.none_or] at same
          cases same
          exact .inl rfl
        | some winner =>
          rw [before, Option.some_or] at same
          exact sound.settled later (before.trans same)
    · cases stepped
  | resumeFirst =>
    simp only at stepped
    split at stepped
    · rename_i answer stage found
      have fresh := sound.fresh (by rw [stage]; exact nofun)
      cases stepped
      unfold afterFirst
      split
      · rename_i usable
        refine ⟨sound.a, sound.aaaa, fun _ same => .inr same, ?_, nofun, fun _ => fresh⟩
        intro four same
        cases same
        exact ⟨answer, found, usable, rfl⟩
      · refine ⟨sound.a, sound.aaaa, sound.settled, nofun, ?_, fun _ => fresh⟩
        intro result same
        cases same
        exact ⟨fun _ => rfl, nofun⟩
    · cases stepped
  | resumeSecond =>
    simp only at stepped
    split at stepped
    · rename_i four answer stage settled
      cases stepped
      obtain ⟨result, considered, same, returned⟩ := afterSecond_returned own sound stage settled
      rw [same]
      refine ⟨sound.a, sound.aaaa, sound.settled, nofun, ?_, ?_⟩
      · intro other done
        cases done
        exact returned
      · intro running
        exact absurd rfl (running result)
    · cases stepped

/-- And so in every run. -/
theorem reach_sound (own : platform.Sound) {aborted : Bool}
    (reach : Reach (fun call event => call.step platform event) (fun _ event => event.Genuine) (begun aborted) call) : call.Sound :=
  reach.invariant (begun_sound aborted) fun _ _ _ sound genuine stepped => step_sound own sound genuine stepped

end Resolving

/-- Addresses are read as their grammar has them, and a call gives public ones only, in any order of its queries' answers. -/
theorem addresses_checked (platform : Platform) (own : platform.Sound) :
    (∀ text groups, IsAddress text groups → ipv6Groups platform.toLowerCase text = some groups) ∧
    (∀ text text' groups, IsAddress text groups → IsAddress text' groups →
      isUnsafeIpv6Address platform.toLowerCase text = isUnsafeIpv6Address platform.toLowerCase text') ∧
    (∀ text groups, IsAddress text groups →
      (isUnsafeIpv6Address platform.toLowerCase text = false ↔ PublicIpv6 (ipv6 groups))) ∧
    (∀ text, PERCENT ∉ text → (¬ ∃ groups, Denotes text groups) →
      ipv6Groups platform.toLowerCase text = none ∧ isUnsafeIpv6Address platform.toLowerCase text = true) ∧
    ∀ aborted call, Reach (fun call event => call.step platform event) (fun _ event => event.Genuine) (Resolving.begun aborted) call →
      ∀ result, call.stage = .done result → Returned call result := by
  refine ⟨fun _ _ => ipv6Groups_address own.lowers, ?_, fun _ _ => isUnsafeIpv6Address_address own.lowers, ?_, ?_⟩
  · intro text text' groups address address'
    unfold isUnsafeIpv6Address
    rw [ipv6Groups_address own.lowers address, ipv6Groups_address own.lowers address']
  · intro text zone none_
    have unread : ipv6Groups platform.toLowerCase text = none := by
      cases read : ipv6Groups platform.toLowerCase text with
      | none => rfl
      | some groups => exact absurd ⟨groups, ipv6Groups_some own.lowers zone read⟩ none_
    refine ⟨unread, ?_⟩
    unfold isUnsafeIpv6Address
    rw [unread]
  · intro aborted call reach
    exact (Resolving.reach_sound own reach).returned

/-- A platform that lowers ASCII only. -/
def asciiPlatform : Platform where
  toLowerCase := List.map lowerUnit
  isIPv6 text := (ipv6Groups (List.map lowerUnit) text).isSome

theorem ascii_lowers (text : Text) : Lowered text (text.map lowerUnit) := by
  induction text with
  | nil => exact .none
  | cons unit text ih =>
    by_cases ascii : unit < 128
    · exact .ascii ascii ih
    · have same : lowerUnit unit = unit := if_neg (by omega)
      have own : Lowered (unit :: text) ([unit] ++ text.map lowerUnit) := by
        refine .other (by omega) (List.cons_ne_nil _ _) ?_ ih
        intro other member
        obtain rfl := List.mem_singleton.mp member
        refine ⟨?_, by unfold COLON; omega, by unfold DOT; omega, by unfold PERCENT; omega⟩
        by_contra digit
        have bounds := isHexDigit_iff.mp (by simpa using digit)
        omega
      rw [List.map_cons, same]
      exact own

theorem asciiPlatform_sound : asciiPlatform.Sound where
  lowers := ascii_lowers
  isIPv6 text groups denotes := by
    show (ipv6Groups (List.map lowerUnit) text).isSome = true
    rw [ipv6Groups_address ascii_lowers (.bare denotes)]
    rfl

/-- `FE80::1%e`, and a host with `8.8.8.8` and no AAAA record. -/
theorem asciiPlatform_checked :
    ipv6Groups asciiPlatform.toLowerCase [70, 69, 56, 48, 58, 58, 49, 37, 101] = some [0xfe80, 0, 0, 0, 0, 0, 0, 1] ∧
      ∃ call result, Reach (fun call event => call.step asciiPlatform event) (fun _ event => event.Genuine)
          (Resolving.begun false) call ∧ call.stage = .done (some result) ∧ Returned call (some result) := by
  obtain ⟨reads, -, -, -, returns⟩ := addresses_checked asciiPlatform asciiPlatform_sound
  have spelled := @Spelled.elided [[102, 101, 56, 48]] [[49]] [0xfe80] [1] (.cons ⟨by decide, by decide⟩ .nil)
    (.group ⟨by decide, by decide⟩ .none) (by decide)
  have denotes : Denotes [70, 69, 56, 48, 58, 58, 49] [0xfe80, 0, 0, 0, 0, 0, 0, 1] := spelled
  have quad : IsQuad [56, 46, 56, 46, 56, 46, 56] 8 8 8 8 := ⟨by decide, by decide⟩
  have ran : runAll (fun call event => Resolving.step asciiPlatform call event) (Resolving.begun false)
      [.answerA (.found [[56, 46, 56, 46, 56, 46, 56]]), .resumeFirst, .answerAaaa (.failed (some "ENODATA")), .resumeSecond] =
      .ok _ := rfl
  have genuine : ∀ s : Resolving, ∀ event ∈ [HostEvent.answerA (.found [[56, 46, 56, 46, 56, 46, 56]]), .resumeFirst,
      .answerAaaa (.failed (some "ENODATA")), .resumeSecond], event.Genuine := by
    intro _ event member
    simp only [List.mem_cons, List.not_mem_nil, or_false] at member
    rcases member with rfl | rfl | rfl | rfl
    · intro address member
      obtain rfl := List.mem_singleton.mp member
      exact ⟨8, 8, 8, 8, quad⟩
    · trivial
    · trivial
    · trivial
  have reach := reach_of_runAll ran genuine
  refine ⟨reads _ _ (.zoned denotes [101]), _, [⟨[56, 46, 56, 46, 56, 46, 56], .four⟩], reach, ?_, ?_⟩
  · rfl
  · exact returns false _ reach _ rfl

end LetterIRL.Download
