import LetterIRL.Guards.ConcurrencyGate

namespace LetterIRL.Guards
open Lib

/-! The gate over any order of calls, timeouts and completions. -/

namespace Gate
variable {κ : Type} [DecidableEq κ] {options : ConcurrencyGateOptions} {gate after : Gate κ} {caller : Caller κ}

/-- How many of a key's callers are running or waiting. -/
def holding (gate : Gate κ) (key : κ) : Nat :=
  (gate.waiters ++ gate.granted ++ gate.running).countP fun caller => caller.key == some key

/-- Every caller, by what came of it. -/
def known (gate : Gate κ) : List (Caller κ) :=
  gate.started ++ gate.granted ++ gate.waiters ++ gate.rejected.map (·.1)

/-- What holds of the gate's variables and its callers after any events. -/
structure Sound (options : ConcurrencyGateOptions) (gate : Gate κ) : Prop where
  slots : gate.active = gate.granted.length + gate.running.length
  limit : gate.active ≤ options.limit
  queue : gate.waiters.length ≤ options.maxQueue
  full : gate.waiters ≠ [] → gate.active = options.limit
  counts : ∀ key, gate.inFlight key = gate.holding key
  counted : ∀ key, gate.inFlightByKey key ≠ some 0
  share : ∀ key most, options.perKeyLimit = some most → gate.inFlight key ≤ most
  timers : gate.timers = gate.waiters
  order : ((gate.started ++ gate.granted).filter (· ∈ gate.queued) ++ gate.waiters).Sublist gate.queued
  distinct : gate.known.Nodup
  numbered : ∀ caller ∈ gate.known ++ gate.queued, caller.id < gate.calls
  every : gate.known.length = gate.calls
  ended : gate.started.Perm (gate.running ++ gate.settled)

theorem sound_start : Sound options ({} : Gate κ) where
  slots := rfl
  limit := Nat.zero_le _
  queue := Nat.zero_le _
  full := fun some_ => absurd rfl some_
  counts := fun _ => rfl
  counted := fun _ => nofun
  share := fun _ _ _ => Nat.zero_le _
  timers := rfl
  order := .slnil
  distinct := .nil
  numbered := fun _ member => (nomatch member)
  every := rfl
  ended := .nil

/-! What one event does. -/

/-- One of a caller's own key. -/
def one (caller : Caller κ) (key : κ) : Nat := if caller.key = some key then 1 else 0

theorem countKeyUp_getD (gate : Gate κ) (caller : Caller κ) (key : κ) :
    ((gate.countKeyUp caller.key) key).getD 0 = gate.inFlight key + one caller key := by
  unfold countKeyUp one inFlight
  cases named : caller.key with
  | none => simp
  | some own =>
    by_cases same : own = key
    · subst same
      simp
    · have other : key ≠ own := fun same' => same same'.symm
      simp [Function.update_of_ne other, same]

theorem countKeyDown_getD (gate : Gate κ) (caller : Caller κ) (key : κ) :
    ((gate.countKeyDown caller.key) key).getD 0 = gate.inFlight key - one caller key := by
  unfold countKeyDown one
  cases named : caller.key with
  | none => simp [inFlight]
  | some own =>
    by_cases same : own = key
    · subst same
      simp only [Function.update_self, if_true]
      split
      · rfl
      · simp only [Option.getD_none]
        omega
    · have other : key ≠ own := fun same' => same same'.symm
      simp [Function.update_of_ne other, same, inFlight]

theorem countKeyUp_some (counted : ∀ key, gate.inFlightByKey key ≠ some 0) (own : Option κ) (key : κ) :
    gate.countKeyUp own key ≠ some 0 := by
  unfold countKeyUp
  cases own with
  | none => exact counted key
  | some own =>
    by_cases same : key = own
    · subst same
      simp
    · simpa [Function.update_of_ne same] using counted key

theorem countKeyDown_some (counted : ∀ key, gate.inFlightByKey key ≠ some 0) (own : Option κ) (key : κ) :
    gate.countKeyDown own key ≠ some 0 := by
  unfold countKeyDown
  cases own with
  | none => exact counted key
  | some own =>
    by_cases same : key = own
    · subst same
      simp only [Function.update_self]
      split
      · simp only [ne_eq, Option.some.injEq]
        omega
      · exact nofun
    · simpa [Function.update_of_ne same] using counted key

theorem countP_singleton (caller : Caller κ) (key : κ) :
    [caller].countP (fun caller => caller.key == some key) = one caller key := by
  unfold one
  by_cases same : caller.key = some key
  · simp [same]
  · simp [same]

theorem overShare_false (caller : Caller κ) (open_ : gate.overShare options caller.key = false) {key : κ} {most : Nat}
    (limited : options.perKeyLimit = some most) (held : gate.inFlight key ≤ most) :
    gate.inFlight key + one caller key ≤ most := by
  unfold one
  split
  · rename_i own
    unfold overShare at open_
    rw [own, limited] at open_
    simp only [decide_eq_false_iff_not, not_le] at open_
    omega
  · exact held

/-- A new caller is none of those known. -/
theorem Sound.fresh (sound : gate.Sound options) {key : Option κ} {added : List (Caller κ)}
    (perm : added.Perm (gate.known ++ [{ id := gate.calls, key }])) :
    added.Nodup ∧ (∀ caller ∈ added, caller.id < gate.calls + 1) ∧ added.length = gate.calls + 1 := by
  have unknown : ({ id := gate.calls, key } : Caller κ) ∉ gate.known := fun member => by
    have less := sound.numbered _ (List.mem_append_left _ member)
    exact absurd less (lt_irrefl _)
  refine ⟨perm.nodup_iff.mpr ?_, fun caller member => ?_, ?_⟩
  · exact List.nodup_append.mpr ⟨sound.distinct, List.nodup_singleton _, fun old inKnown new single => by
      rw [List.mem_singleton.mp single]
      rintro rfl
      exact unknown inKnown⟩
  · rcases List.mem_append.mp (perm.mem_iff.mp member) with old | new
    · have less := sound.numbered _ (List.mem_append_left _ old)
      omega
    · rw [List.mem_singleton.mp new]
      exact Nat.lt_succ_self _
  · rw [perm.length_eq, List.length_append, sound.every, List.length_singleton]

/-- Callers known the same, in some order. -/
theorem Sound.same (sound : gate.Sound options) {moved : List (Caller κ)} (perm : moved.Perm gate.known) :
    moved.Nodup ∧ (∀ caller ∈ moved, caller.id < gate.calls) ∧ moved.length = gate.calls :=
  ⟨perm.nodup_iff.mpr sound.distinct,
    fun _ member => sound.numbered _ (List.mem_append_left _ (perm.mem_iff.mp member)),
    perm.length_eq.trans sound.every⟩

omit [DecidableEq κ] in
theorem numbered_of {calls : Nat} {known queued : List (Caller κ)} (first : ∀ caller ∈ known, caller.id < calls)
    (second : ∀ caller ∈ queued, caller.id < calls) : ∀ caller ∈ known ++ queued, caller.id < calls := fun caller member =>
  (List.mem_append.mp member).elim (first caller) (second caller)

theorem Sound.queuedBefore (sound : gate.Sound options) {caller : Caller κ} (member : caller ∈ gate.queued) :
    caller.id < gate.calls := sound.numbered _ (List.mem_append_right _ member)

theorem Sound.acquire (sound : gate.Sound options) (key : Option κ) :
    ({ gate with calls := gate.calls + 1 }.acquire options { id := gate.calls, key }).Sound options := by
  have notQueued : ({ id := gate.calls, key } : Caller κ) ∉ gate.queued := fun member => by
    have less := sound.queuedBefore member
    exact absurd less (lt_irrefl _)
  have later : ∀ caller ∈ gate.queued, caller.id < gate.calls + 1 := fun caller member => by
    have less := sound.queuedBefore member
    omega
  have refused : ∀ why, Sound options { gate with
      calls := gate.calls + 1, rejected := gate.rejected ++ [({ id := gate.calls, key }, why)] } := by
    intro why
    have added : ({ gate with calls := gate.calls + 1, rejected := gate.rejected ++ [({ id := gate.calls, key }, why)] } :
        Gate κ).known = gate.known ++ [{ id := gate.calls, key }] := by
      simp [known]
    obtain ⟨distinct, numbered, every⟩ := sound.fresh (.of_eq added)
    exact { sound with distinct, numbered := numbered_of numbered later, every }
  unfold Gate.acquire
  split
  · exact refused _
  · rename_i within
    have open_ : gate.overShare options key = false := Bool.eq_false_iff.mpr within
    have share : ∀ other most, options.perKeyLimit = some most →
        ((gate.countKeyUp key) other).getD 0 ≤ most := fun other most limited =>
      (countKeyUp_getD gate { id := gate.calls, key } other).le.trans
        (overShare_false { id := gate.calls, key } open_ limited (sound.share other most limited))
    split
    · rename_i free
      have free : gate.active < options.limit := free
      have perm : List.Perm (gate.started ++ (gate.granted ++ [{ id := gate.calls, key }]) ++ gate.waiters ++
          gate.rejected.map (·.1)) (gate.known ++ [{ id := gate.calls, key }]) := by
        unfold known
        simp only [List.append_assoc]
        refine .append_left _ (.append_left _ ?_)
        refine List.perm_append_comm.trans ?_
        simp only [List.append_assoc]
        exact .refl _
      obtain ⟨distinct, numbered, every⟩ := sound.fresh perm
      have slots := sound.slots
      refine {
        slots := ?_
        limit := free
        queue := sound.queue
        full := fun waiting => absurd (sound.full waiting) (by omega)
        counts := fun other => ?_
        counted := countKeyUp_some sound.counted key
        share
        timers := sound.timers
        order := ?_
        distinct
        numbered := numbered_of numbered later
        every
        ended := sound.ended }
      · show gate.active + 1 = (gate.granted ++ [_]).length + gate.running.length
        rw [List.length_append, List.length_singleton]
        omega
      · have counts := sound.counts other
        unfold holding at counts ⊢
        refine (countKeyUp_getD gate { id := gate.calls, key } other).trans ?_
        simp only [List.countP_append, countP_singleton] at counts ⊢
        omega
      · show (((gate.started ++ (gate.granted ++ [_])).filter (· ∈ gate.queued)) ++ gate.waiters).Sublist gate.queued
        rw [← List.append_assoc, List.filter_append, List.filter_singleton, decide_eq_false notQueued]
        simpa using sound.order
    · rename_i full
      split
      · exact refused _
      · rename_i room
        have full : ¬gate.active < options.limit := full
        have room : ¬options.maxQueue ≤ gate.waiters.length := room
        have perm : List.Perm (gate.started ++ gate.granted ++ (gate.waiters ++ [{ id := gate.calls, key }]) ++
            gate.rejected.map (·.1)) (gate.known ++ [{ id := gate.calls, key }]) := by
          unfold known
          simp only [List.append_assoc]
          refine .append_left _ (.append_left _ (.append_left _ ?_))
          exact List.perm_append_comm
        obtain ⟨distinct, numbered, every⟩ := sound.fresh perm
        refine {
          slots := sound.slots
          limit := sound.limit
          queue := ?_
          full := fun _ => le_antisymm sound.limit (not_lt.mp full)
          counts := fun other => ?_
          counted := countKeyUp_some sound.counted key
          share
          timers := ?_
          order := ?_
          distinct
          numbered := numbered_of numbered fun caller member => ?_
          every
          ended := sound.ended }
        · show (gate.waiters ++ [_]).length ≤ options.maxQueue
          rw [List.length_append, List.length_singleton]
          omega
        · have counts := sound.counts other
          unfold holding at counts ⊢
          refine (countKeyUp_getD gate { id := gate.calls, key } other).trans ?_
          simp only [List.countP_append, countP_singleton] at counts ⊢
          omega
        · show gate.timers ++ [_] = gate.waiters ++ [_]
          rw [sound.timers]
        · have held : (gate.started ++ gate.granted).filter (· ∈ gate.queued ++ [{ id := gate.calls, key }]) =
              (gate.started ++ gate.granted).filter (· ∈ gate.queued) := by
            refine List.filter_congr fun caller member => ?_
            have less : caller.id < gate.calls := by
              refine sound.numbered _ (List.mem_append_left _ ?_)
              unfold known
              simp only [List.append_assoc]
              rw [← List.append_assoc]
              exact List.mem_append_left _ member
            have differs : caller ≠ { id := gate.calls, key } := fun same => by
              rw [same] at less
              exact absurd less (lt_irrefl _)
            simp [differs]
          have kept : List.Sublist ((gate.started ++ gate.granted).filter
              (· ∈ gate.queued ++ [{ id := gate.calls, key }]) ++ (gate.waiters ++ [{ id := gate.calls, key }]))
              (gate.queued ++ [{ id := gate.calls, key }]) := by
            rw [held, ← List.append_assoc]
            exact sound.order.append (.refl _)
          exact kept
        · rcases List.mem_append.mp member with old | new
          · exact later caller old
          · rw [List.mem_singleton.mp new]
            exact Nat.lt_succ_self _

theorem Sound.resume (sound : gate.Sound options) {rest : List (Caller κ)} (next : gate.granted = caller :: rest) :
    Sound options { gate with
      granted := rest, running := gate.running ++ [caller], started := gate.started ++ [caller] } := by
  have slots := sound.slots
  have begun : gate.started ++ [caller] ++ rest = gate.started ++ gate.granted := by
    rw [next, List.append_assoc, List.singleton_append]
  have perm : List.Perm (gate.started ++ [caller] ++ rest ++ gate.waiters ++ gate.rejected.map (·.1)) gate.known := by
    rw [begun]
    exact .refl _
  obtain ⟨distinct, numbered, every⟩ := sound.same perm
  refine { sound with
    slots := ?_
    counts := fun key => ?_
    order := ?_
    distinct
    numbered := numbered_of numbered fun _ => sound.queuedBefore
    every
    ended := ?_ }
  · show gate.active = rest.length + (gate.running ++ [caller]).length
    rw [next, List.length_cons] at slots
    rw [List.length_append, List.length_singleton]
    omega
  · have counts := sound.counts key
    have split := countP_singleton caller key
    unfold holding at counts ⊢
    rw [next, ← List.singleton_append] at counts
    refine counts.trans ?_
    simp only [List.countP_append]
    omega
  · show ((gate.started ++ [caller] ++ rest).filter (· ∈ gate.queued) ++ gate.waiters).Sublist gate.queued
    rw [begun]
    exact sound.order
  · refine (sound.ended.append_right [caller]).trans ?_
    show List.Perm _ (gate.running ++ [caller] ++ gate.settled)
    simp only [List.append_assoc]
    exact .append_left _ List.perm_append_comm

theorem Sound.expire (sound : gate.Sound options) (waiting : caller ∈ gate.timers) :
    (gate.expire caller).Sound options := by
  rw [sound.timers] at waiting
  have perm : List.Perm (gate.started ++ gate.granted ++ gate.waiters.erase caller ++
      (gate.rejected ++ [(caller, ConcurrencyGateRejection.queueTimeout)]).map (·.1)) gate.known := by
    unfold known
    rw [List.map_append, List.map_singleton]
    simp only [List.append_assoc]
    refine .append_left _ (.append_left _ ?_)
    refine (List.Perm.append_left _ List.perm_append_comm).trans ?_
    rw [← List.append_assoc]
    refine .append_right _ (List.perm_append_comm.trans ?_)
    exact (List.perm_cons_erase waiting).symm
  obtain ⟨distinct, numbered, every⟩ := sound.same perm
  refine { sound with
    queue := ?_
    full := fun some_ => ?_
    counts := fun key => ?_
    counted := countKeyDown_some sound.counted caller.key
    share := fun key most limited => ?_
    timers := ?_
    order := ?_
    distinct
    numbered := numbered_of numbered fun _ => sound.queuedBefore
    every }
  · exact (List.erase_sublist).length_le.trans sound.queue
  · exact sound.full (List.ne_nil_of_mem waiting)
  · have counts := sound.counts key
    have split := (List.perm_cons_erase waiting).countP_eq fun caller => caller.key == some key
    have single := countP_singleton caller key
    rw [← List.singleton_append, List.countP_append] at split
    unfold holding at counts ⊢
    refine (countKeyDown_getD gate caller key).trans ?_
    show _ = (gate.waiters.erase caller ++ gate.granted ++ gate.running).countP _
    simp only [List.countP_append] at counts ⊢
    omega
  · have held := sound.share key most limited
    refine (countKeyDown_getD gate caller key).le.trans ?_
    omega
  · show gate.timers.erase caller = gate.waiters.erase caller
    rw [sound.timers]
  · exact ((List.Sublist.refl _).append List.erase_sublist).trans sound.order

theorem Sound.settle (sound : gate.Sound options) (runs : caller ∈ gate.running) :
    ({ gate with running := gate.running.erase caller, settled := gate.settled ++ [caller] }.release
      caller.key).Sound options := by
  have slots := sound.slots
  have length := List.length_erase_of_mem runs
  have some_ := List.length_pos_of_mem runs
  have ended : List.Perm gate.started (gate.running.erase caller ++ (gate.settled ++ [caller])) := by
    refine sound.ended.trans ?_
    refine ((List.perm_cons_erase runs).append_right _).trans ?_
    rw [← List.append_assoc]
    exact (List.perm_append_singleton _ _).symm
  have down : ∀ key, ((gate.countKeyDown caller.key) key).getD 0 = gate.inFlight key - one caller key :=
    countKeyDown_getD gate caller
  have share : ∀ key most, options.perKeyLimit = some most → ((gate.countKeyDown caller.key) key).getD 0 ≤ most := by
    intro key most limited
    have held := sound.share key most limited
    have less := down key
    omega
  have ran : ∀ key, gate.running.countP (fun caller => caller.key == some key) =
      one caller key + (gate.running.erase caller).countP fun caller => caller.key == some key := by
    intro key
    have split := (List.perm_cons_erase runs).countP_eq fun caller => caller.key == some key
    rw [← List.singleton_append, List.countP_append, countP_singleton] at split
    exact split
  cases waiting : gate.waiters with
  | nil =>
    unfold Gate.release
    simp only
    refine { sound with
      slots := ?_
      limit := ?_
      queue := Nat.zero_le _
      full := fun some_ => absurd rfl some_
      counts := fun key => ?_
      counted := countKeyDown_some sound.counted caller.key
      share
      timers := sound.timers.trans waiting
      order := ?_
      ended
      distinct := ?_
      numbered := ?_
      every := ?_ }
    · show gate.active - 1 = gate.granted.length + (gate.running.erase caller).length
      omega
    · exact (Nat.sub_le _ _).trans sound.limit
    · have counts := sound.counts key
      have split := ran key
      unfold holding at counts ⊢
      rw [waiting] at counts
      refine (down key).trans ?_
      show _ = ([] ++ gate.granted ++ gate.running.erase caller).countP _
      simp only [List.countP_append] at counts ⊢
      omega
    · have order := sound.order
      rw [waiting] at order
      exact order
    · have distinct := sound.distinct
      unfold known at distinct ⊢
      rw [waiting] at distinct
      exact distinct
    · have numbered := sound.numbered
      unfold known at numbered ⊢
      rw [waiting] at numbered
      exact numbered
    · have every := sound.every
      unfold known at every ⊢
      rw [waiting] at every
      exact every
  | cons next rest =>
    have queued : next ∈ gate.queued :=
      sound.order.subset (List.mem_append_right _ (waiting ▸ List.mem_cons_self))
    have moved : gate.granted ++ gate.waiters = gate.granted ++ [next] ++ rest := by
      rw [waiting, List.append_assoc, List.singleton_append]
    have perm : List.Perm (gate.started ++ (gate.granted ++ [next]) ++ rest ++ gate.rejected.map (·.1)) gate.known := by
      unfold known
      rw [List.append_assoc gate.started gate.granted, moved, List.append_assoc gate.started]
    obtain ⟨distinct, numbered, every⟩ := sound.same perm
    have queue := sound.queue
    rw [waiting, List.length_cons] at queue
    unfold Gate.release
    simp only
    refine { sound with
      slots := ?_
      queue := (Nat.le_succ _).trans queue
      full := fun _ => sound.full (waiting ▸ List.cons_ne_nil _ _)
      counts := fun key => ?_
      counted := countKeyDown_some sound.counted caller.key
      share
      timers := ?_
      order := ?_
      ended
      distinct
      numbered := numbered_of numbered fun _ => sound.queuedBefore
      every }
    · show gate.active = (gate.granted ++ [next]).length + (gate.running.erase caller).length
      rw [List.length_append, List.length_singleton]
      omega
    · have counts := sound.counts key
      have split := ran key
      unfold holding at counts ⊢
      refine (down key).trans ?_
      show _ = (rest ++ (gate.granted ++ [next]) ++ gate.running.erase caller).countP _
      rw [waiting, ← List.singleton_append] at counts
      simp only [List.countP_append] at counts ⊢
      omega
    · show gate.timers.erase next = rest
      rw [sound.timers, waiting, List.erase_cons_head]
    · have kept : List.Sublist ((gate.started ++ (gate.granted ++ [next])).filter (· ∈ gate.queued) ++ rest)
          gate.queued := by
        have order := sound.order
        rw [waiting] at order
        rw [← List.append_assoc, List.filter_append, List.filter_singleton, decide_eq_true queued, List.append_assoc]
        exact order
      exact kept

theorem Sound.step (sound : gate.Sound options) {event : GateEvent κ} (committed : gate.step options event = .ok after) :
    after.Sound options := by
  cases event with
  | run key =>
    cases committed
    exact sound.acquire key
  | resume =>
    simp only [Gate.step] at committed
    split at committed
    · cases committed
    · rename_i next
      cases committed
      exact sound.resume next
  | timeout caller =>
    simp only [Gate.step] at committed
    split at committed
    · rename_i waiting
      cases committed
      exact sound.expire waiting
    · cases committed
  | settle caller succeeded =>
    simp only [Gate.step] at committed
    split at committed
    · rename_i runs
      cases committed
      exact sound.settle runs
    · cases committed

theorem sound_of_reach (reach : Reach (Gate.step options) anyStep ({} : Gate κ) gate) : gate.Sound options :=
  reach.invariant sound_start fun _ _ _ sound _ committed => sound.step committed

/-- Whoever is refused stays so. -/
theorem rejected_step {event : GateEvent κ} (committed : gate.step options event = .ok after)
    {why : ConcurrencyGateRejection} (refused : (caller, why) ∈ gate.rejected) : (caller, why) ∈ after.rejected := by
  cases event with
  | run key =>
    cases committed
    unfold Gate.acquire
    split
    · exact List.mem_append_left _ refused
    · split
      · exact refused
      · split
        · exact List.mem_append_left _ refused
        · exact refused
  | resume =>
    simp only [Gate.step] at committed
    split at committed
    · cases committed
    · cases committed
      exact refused
  | timeout caller =>
    simp only [Gate.step] at committed
    split at committed
    · cases committed
      exact List.mem_append_left _ refused
    · cases committed
  | settle caller succeeded =>
    simp only [Gate.step] at committed
    split at committed
    · cases committed
      unfold Gate.release
      simp only
      split
      · exact refused
      · exact refused
    · cases committed

/-- What the gate promises of its callers; one with a slot whose work is about to begin counts as running. -/
structure Gated (options : ConcurrencyGateOptions) (gate : Gate κ) : Prop where
  running : gate.active = (gate.granted ++ gate.running).length ∧ gate.active ≤ options.limit
  waiting : gate.waiters.length ≤ options.maxQueue
  full : gate.waiters ≠ [] → gate.active = options.limit
  counts : ∀ key, gate.inFlight key = gate.holding key
  share : ∀ key most, options.perKeyLimit = some most → gate.inFlight key ≤ most
  ordered : (gate.started.filter (· ∈ gate.queued)).Sublist gate.queued
  /-- Each caller that ran has freed one slot, or is running. -/
  freed : gate.settled.Nodup ∧ (∀ caller ∈ gate.settled, caller ∈ gate.started) ∧
    gate.active + gate.settled.length = (gate.started ++ gate.granted).length
  /-- Once every call has settled, nothing is left. -/
  atRest : gate.settled.length + gate.rejected.length = gate.calls →
    gate.active = 0 ∧ gate.waiters = [] ∧ ∀ key, gate.inFlightByKey key = none

theorem Sound.gated (sound : gate.Sound options) : gate.Gated options := by
  have slots := sound.slots
  have ended := sound.ended.length_eq
  rw [List.length_append] at ended
  refine {
    running := ⟨by rw [List.length_append]; exact slots, sound.limit⟩
    waiting := sound.queue
    full := sound.full
    counts := sound.counts
    share := sound.share
    ordered := ?_
    freed := ⟨?_, fun caller member => sound.ended.mem_iff.mpr (List.mem_append_right _ member), ?_⟩
    atRest := fun over_ => ?_ }
  · have order := sound.order
    rw [List.filter_append, List.append_assoc] at order
    exact (List.sublist_append_left _ _).trans order
  · have distinct := sound.distinct
    unfold known at distinct
    simp only [List.append_assoc] at distinct
    have began := (List.nodup_append.mp distinct).1
    exact (List.nodup_append.mp (sound.ended.nodup_iff.mp began)).2.1
  · rw [List.length_append]
    omega
  · have every := sound.every
    unfold known at every
    simp only [List.length_append, List.length_map] at every
    have waiters : gate.waiters = [] := List.length_eq_zero_iff.mp (by omega)
    have granted : gate.granted = [] := List.length_eq_zero_iff.mp (by omega)
    have running : gate.running = [] := List.length_eq_zero_iff.mp (by omega)
    refine ⟨by omega, waiters, fun key => ?_⟩
    have counts := sound.counts key
    have counted := sound.counted key
    unfold inFlight holding at counts
    rw [waiters, granted, running] at counts
    cases found : gate.inFlightByKey key with
    | none => rfl
    | some count =>
      rw [found] at counts counted
      exact absurd (congrArg some counts) counted

/-- Over any calls, timeouts and completions in any order, the gate keeps its promises, and a caller refused or timed
out never runs its work. -/
theorem gate_gated (reach : Reach (Gate.step options) anyStep ({} : Gate κ) gate) :
    gate.Gated options ∧ ∀ later, Reach (Gate.step options) anyStep gate later →
      ∀ caller why, (caller, why) ∈ gate.rejected → caller ∉ later.started := by
  refine ⟨(sound_of_reach reach).gated, fun later rest caller why refused began => ?_⟩
  have stays : (caller, why) ∈ later.rejected := rest.invariant refused fun _ _ _ kept _ committed =>
    rejected_step committed kept
  have distinct := (sound_of_reach (reach.trans rest)).distinct
  unfold known at distinct
  rw [List.append_assoc, List.append_assoc] at distinct
  exact (List.nodup_append.mp distinct).2.2 caller began caller
    (List.mem_append_right _ (List.mem_append_right _ (List.mem_map.mpr ⟨_, stays, rfl⟩))) rfl

/-- One slot, one place to wait, two callers to a key. -/
def smallGate : ConcurrencyGateOptions where
  limit := 1
  maxQueue := 1
  perKeyLimit := some 2
  some_ := Nat.one_pos
  share := by
    intro most same
    cases same
    exact Nat.two_pos

/-- Two callers of one key run one after the other, a third is over its share, and all settle. -/
theorem smallGate_gated : ∃ gate, Reach (Gate.step smallGate) anyStep ({} : Gate Nat) gate ∧
    gate.Gated smallGate ∧ gate.settled.length + gate.rejected.length = gate.calls := by
  have ran : runAll (Gate.step smallGate) ({} : Gate Nat) [.run (some 7), .run (some 7), .run (some 7), .resume,
    .settle ⟨0, some 7⟩ true, .resume, .settle ⟨1, some 7⟩ false] = .ok _ := rfl
  have reach : Reach (Gate.step smallGate) anyStep ({} : Gate Nat) _ := reach_of_runAll ran fun _ _ _ => trivial
  exact ⟨_, reach, (gate_gated reach).1, rfl⟩

end Gate

end LetterIRL.Guards
