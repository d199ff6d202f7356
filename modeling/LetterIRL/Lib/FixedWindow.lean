import Mathlib.Data.List.Basic
import Mathlib.Logic.Function.Basic
import Mathlib.Tactic

namespace LetterIRL.Lib.FixedWindow

/-! Counters kept for keys over fixed windows, and the sweep that forgets old ones. -/

structure Entry where
  count : Nat
  windowStart : Int
  deriving DecidableEq

structure Verdict where
  allowed : Bool
  limit : Int
  remaining : Int
  resetMs : Int
  deriving DecidableEq

abbrev Store (K : Type) := K → Option Entry

/-- The entry of a key whose window still runs. -/
def standing (windowMs now : Int) (entry : Option Entry) : Option Entry :=
  entry.filter fun entry => decide (now - entry.windowStart < windowMs)

/-- One place of the key's window is taken, where it has one left: the verdict, and the key's entry then. -/
def takePlace (windowMs limit now : Int) (entry : Option Entry) : Verdict × Option Entry :=
  match standing windowMs now entry with
  | none => (⟨true, limit, limit - 1, windowMs⟩, some ⟨1, now⟩)
  | some running =>
    let resetMs := windowMs - (now - running.windowStart)
    if running.count ≥ limit then (⟨false, limit, 0, resetMs⟩, entry)
    else (⟨true, limit, limit - (running.count + 1 : Nat), resetMs⟩, some ⟨running.count + 1, running.windowStart⟩)

inductive Op (K : Type)
  | take (key : K) (windowMs limit now : Int)
  /-- Entries that started longer ago than `age` are dropped. -/
  | sweep (age now : Int)

section
variable {K C : Type} [DecidableEq K]

def Op.now : Op K → Int
  | .take _ _ _ now => now
  | .sweep _ now => now

def Op.run (store : Store K) : Op K → Option Verdict × Store K
  | .take key windowMs limit now =>
    let taken := takePlace windowMs limit now (store key)
    (some taken.1, Function.update store key taken.2)
  | .sweep age now => (none, fun key => (store key).filter fun entry => !decide (now - entry.windowStart > age))

/-- A place is taken of one of the keys. -/
def Op.takes (keys : K → Bool) : Op K → Bool
  | .take key _ _ _ => keys key
  | .sweep _ _ => false

/-- Calls run in their order, each with what it asks of the store, and each with the verdict it got. -/
def verdicts (op : C → Option (Op K)) (store : Store K) : List C → List (C × Option Verdict)
  | [] => []
  | call :: rest =>
    match op call with
    | none => (call, none) :: verdicts op store rest
    | some asked => (call, (asked.run store).1) :: verdicts op (asked.run store).2 rest

/-- Two entries are one, or neither has a window that runs still, however long it is. -/
def Alike (longest now : Int) (entry other : Option Entry) : Prop := standing longest now entry = standing longest now other

/-- Windows no longer than `longest`, and no sweep of an entry whose window may still run. -/
def Op.Within (longest : Int) : Op K → Prop
  | .take _ windowMs _ _ => windowMs ≤ longest
  | .sweep age _ => longest ≤ age

/-- Calls that ask at nondecreasing times. -/
def Ordered (op : C → Option (Op K)) (calls : List C) : Prop :=
  (calls.filterMap op).Pairwise (·.now ≤ ·.now)

variable {windowMs longest limit now later : Int} {entry other : Option Entry} {running : Entry} {store store' : Store K}
  {keys : K → Bool} {key : K} {op : C → Option (Op K)} {asked : Op K} {call : C} {calls rest : List C}

omit [DecidableEq K] in
theorem standing_some : standing windowMs now entry = some running ↔ entry = some running ∧ now - running.windowStart < windowMs := by
  simp [standing, Option.filter_eq_some_iff]

/-- A window no longer than the longest, asked about no earlier, is settled by the longest. -/
theorem standing_standing (entry : Option Entry) (shorter : windowMs ≤ longest) (ordered : now ≤ later) :
    standing windowMs later (standing longest now entry) = standing windowMs later entry := by
  cases entry with
  | none => rfl
  | some running =>
    by_cases runs : now - running.windowStart < longest
    · simp [standing, Option.filter, runs]
    · have ended : ¬ later - running.windowStart < windowMs := by omega
      simp [standing, Option.filter, runs, ended]

theorem Alike.standing_eq (alike : Alike longest now entry other) (shorter : windowMs ≤ longest) (ordered : now ≤ later) :
    standing windowMs later entry = standing windowMs later other := by
  rw [← standing_standing entry shorter ordered, alike, standing_standing other shorter ordered]

theorem Alike.mono (alike : Alike longest now entry other) (ordered : now ≤ later) : Alike longest later entry other :=
  alike.standing_eq le_rfl ordered

/-- The verdict, and the entry that stays, are settled by the window that runs. -/
theorem takePlace_alike (limit : Int) (alike : Alike longest now entry other) (shorter : windowMs ≤ longest) :
    (takePlace windowMs limit now entry).1 = (takePlace windowMs limit now other).1 ∧
      Alike longest now (takePlace windowMs limit now entry).2 (takePlace windowMs limit now other).2 := by
  have same := alike.standing_eq shorter le_rfl
  unfold takePlace
  rw [← same]
  cases standing windowMs now entry with
  | none => exact ⟨rfl, rfl⟩
  | some running =>
    dsimp only
    by_cases full : (running.count : Int) ≥ limit
    · rw [if_pos full, if_pos full]
      exact ⟨rfl, alike⟩
    · rw [if_neg full, if_neg full]
      exact ⟨rfl, rfl⟩

theorem sweep_alike {age : Int} (longer : longest ≤ age) (ordered : now ≤ later) (entry : Option Entry) :
    Alike longest later (entry.filter fun entry => !decide (now - entry.windowStart > age)) entry := by
  unfold Alike
  cases entry with
  | none => rfl
  | some running =>
    by_cases old : now - running.windowStart > age
    · have ended : ¬ later - running.windowStart < longest := by omega
      simp [standing, Option.filter, old, ended]
    · simp [Option.filter, old]

/-- What one operation leaves of a key, where it does not take a place of it. -/
theorem Op.run_alike (store : Store K) (within : asked.Within longest) (apart : asked.takes (· == key) = false) :
    Alike longest asked.now ((asked.run store).2 key) (store key) := by
  cases asked with
  | take taken windowMs limit now =>
    have different : key ≠ taken := by
      rintro rfl
      simp [Op.takes] at apart
    show Alike longest now (Function.update store taken _ key) (store key)
    rw [Function.update_of_ne different]
    rfl
  | sweep age now => exact sweep_alike within le_rfl (store key)

omit [DecidableEq K] in
theorem Op.takes_of_not {key : K} (own : keys key = true) (apart : asked.takes keys = false) [BEq K] [LawfulBEq K] :
    asked.takes (· == key) = false := by
  cases asked with
  | sweep age now => rfl
  | take taken windowMs limit now =>
    simp only [Op.takes, beq_eq_false_iff_ne, ne_eq] at apart ⊢
    rintro rfl
    rw [own] at apart
    cases apart

omit [DecidableEq K] in
theorem Ordered.cons (ordered : Ordered op (call :: rest)) :
    Ordered op rest ∧ ∀ asked, op call = some asked → ∀ later ∈ rest, ∀ next, op later = some next → asked.now ≤ next.now := by
  unfold Ordered at ordered
  cases present : op call with
  | none =>
    rw [List.filterMap_cons_none present] at ordered
    exact ⟨ordered, by rintro _ ⟨⟩⟩
  | some asked =>
    rw [List.filterMap_cons_some present] at ordered
    obtain ⟨first, sorted⟩ := List.pairwise_cons.mp ordered
    refine ⟨sorted, ?_⟩
    rintro _ ⟨⟩ later member next asks
    exact first next (List.mem_filterMap.mpr ⟨later, member, asks⟩)

theorem verdicts_none (asks : op call = none) :
    verdicts op store (call :: rest) = (call, none) :: verdicts op store rest := by
  rw [verdicts, asks]

theorem verdicts_some (asks : op call = some asked) :
    verdicts op store (call :: rest) = (call, (asked.run store).1) :: verdicts op (asked.run store).2 rest := by
  rw [verdicts, asks]

/-- What is answered about some keys is settled by the places taken of them, in their order. -/
theorem verdicts_own (keys : K → Bool) (mine : C → Bool) (store store' : Store K) (ordered : Ordered op calls)
    (within : ∀ call ∈ calls, ∀ asked, op call = some asked → asked.Within longest)
    (own : ∀ call ∈ calls, ∀ asked, op call = some asked → asked.takes keys = mine call)
    (alike : ∀ key, keys key = true → ∀ call ∈ calls, ∀ asked, op call = some asked →
      Alike longest asked.now (store key) (store' key)) :
    (verdicts op store calls).filter (fun got => mine got.1) = verdicts op store' (calls.filter mine) := by
  induction calls generalizing store store' with
  | nil => rfl
  | cons call rest ih =>
    obtain ⟨sorted, first⟩ := ordered.cons
    have within' := fun later member => within later (List.mem_cons_of_mem call member)
    have own' := fun later member => own later (List.mem_cons_of_mem call member)
    have alike' := fun key chosen later member => alike key chosen later (List.mem_cons_of_mem call member)
    cases asks : op call with
    | none =>
      rw [verdicts_none asks, List.filter_cons, List.filter_cons, ih _ _ sorted within' own' alike']
      by_cases mine_ : mine call = true
      · rw [if_pos mine_, if_pos mine_, verdicts_none asks]
      · rw [if_neg mine_, if_neg mine_]
    | some asked =>
      have here := within call List.mem_cons_self asked asks
      have mine_ := own call List.mem_cons_self asked asks
      rw [verdicts_some asks, List.filter_cons, List.filter_cons]
      by_cases takes : asked.takes keys = true
      · rw [takes] at mine_
        rw [if_pos mine_.symm, if_pos mine_.symm, verdicts_some asks]
        cases asked with
        | sweep age now => cases takes
        | take taken windowMs limit now =>
          obtain ⟨verdict, entries⟩ :=
            takePlace_alike limit (alike taken takes call List.mem_cons_self _ asks) here
          refine congrArg₂ List.cons (congrArg (fun verdict => (call, some verdict)) verdict) (ih _ _ sorted within' own' ?_)
          intro key chosen later member next nextAsks
          by_cases same : key = taken
          · subst same
            have kept := entries.mono (first _ asks later member next nextAsks)
            simpa only [Op.run, Op.now, Function.update_self] using kept
          · simpa only [Op.run, Function.update_of_ne same] using alike' key chosen later member next nextAsks
      · rw [Bool.not_eq_true] at takes
        have others : ¬ mine call = true := by
          rw [← mine_, takes]
          exact Bool.false_ne_true
        rw [if_neg others, if_neg others]
        refine ih _ _ sorted within' own' fun key chosen later member next nextAsks => ?_
        exact ((Op.run_alike store here (Op.takes_of_not chosen takes)).mono
          (first asked asks later member next nextAsks)).trans (alike' key chosen later member next nextAsks)

end

/-! One key, of which places are taken. -/

structure Ask (C : Type) where
  call : C
  limit : Int
  now : Int

/-- A place taken, of the window that began then. -/
structure Slot (C : Type) extends Ask C where
  windowStart : Int

section
variable {K C : Type} {windowMs now last start most longest : Int} {entry other : Option Entry} {running : Entry} {ask : Ask C}
  {asks : List (Ask C)} {log : List (Slot C)}

/-- The places that a key's windows let each of them take, in their order. -/
def slots (windowMs : Int) (entry : Option Entry) : List (Ask C) → List (Slot C)
  | [] => []
  | ask :: rest =>
    let taken := takePlace windowMs ask.limit ask.now entry
    (if taken.1.allowed then taken.2.toList.map fun entry => ⟨ask, entry.windowStart⟩ else []) ++
      slots windowMs taken.2 rest

/-- Places of windows no nearer to each other than they are long, each opened by its first place, none taken past its
limit. -/
structure Packed (windowMs : Int) (log : List (Slot C)) : Prop where
  inWindow : ∀ slot ∈ log, slot.windowStart ≤ slot.now ∧ slot.now < slot.windowStart + windowMs
  apart : log.Pairwise fun slot later => slot.windowStart = later.windowStart ∨ slot.windowStart + windowMs ≤ later.windowStart
  opened : ∀ before slot after, log = before ++ slot :: after →
    slot.now = slot.windowStart ∨ ∃ first ∈ before, first.windowStart = slot.windowStart ∧ first.now = slot.windowStart
  room : ∀ before slot after, log = before ++ slot :: after →
    ((before.filter fun other => other.windowStart = slot.windowStart).length : Int) + 1 ≤ slot.limit

/-- The entry counts the places of the newest window. -/
structure Counts (windowMs last : Int) (entry : Option Entry) (log : List (Slot C)) : Prop where
  packed : Packed windowMs log
  ended : entry = none → ∀ slot ∈ log, slot.windowStart + windowMs ≤ last
  begun : ∀ running, entry = some running → running.windowStart ≤ last
  older : ∀ running, entry = some running → ∀ slot ∈ log,
    slot.windowStart = running.windowStart ∨ slot.windowStart + windowMs ≤ running.windowStart
  counted : ∀ running, entry = some running →
    (log.filter fun slot => slot.windowStart = running.windowStart).length = running.count
  first_ : ∀ running, entry = some running → ∃ first ∈ log, first.windowStart = running.windowStart ∧
    first.now = running.windowStart

theorem Packed.concat {slot : Slot C} (packed : Packed windowMs log)
    (inWindow : slot.windowStart ≤ slot.now ∧ slot.now < slot.windowStart + windowMs)
    (older : ∀ other ∈ log, other.windowStart = slot.windowStart ∨ other.windowStart + windowMs ≤ slot.windowStart)
    (opened : slot.now = slot.windowStart ∨ ∃ first ∈ log, first.windowStart = slot.windowStart ∧ first.now = slot.windowStart)
    (room : ((log.filter fun other => other.windowStart = slot.windowStart).length : Int) + 1 ≤ slot.limit) :
    Packed windowMs (log ++ [slot]) := by
  have split : ∀ before other after, log ++ [slot] = before ++ other :: after →
      (before = log ∧ other = slot) ∨ ∃ front, log = before ++ other :: front := by
    intro before other after whole
    rcases List.eq_nil_or_concat after with rfl | ⟨front, final, rfl⟩
    · obtain ⟨same, final⟩ := List.append_inj' whole rfl
      exact .inl ⟨same.symm, (List.head_eq_of_cons_eq final).symm⟩
    · rw [List.concat_eq_append, ← List.cons_append, ← List.append_assoc] at whole
      exact .inr ⟨front, (List.append_inj' whole rfl).1⟩
  constructor
  · intro other member
    rcases List.mem_append.mp member with old | new
    · exact packed.inWindow other old
    · rwa [List.mem_singleton.mp new]
  · refine List.pairwise_append.mpr ⟨packed.apart, List.pairwise_singleton _ _, fun other member later new => ?_⟩
    rw [List.mem_singleton.mp new]
    exact older other member
  · intro before other after whole
    rcases split before other after whole with ⟨rfl, rfl⟩ | ⟨front, whole⟩
    · exact opened
    · exact packed.opened before other front whole
  · intro before other after whole
    rcases split before other after whole with ⟨rfl, rfl⟩ | ⟨front, whole⟩
    · exact room
    · exact packed.room before other front whole

/-- A place of a new window, of the one that runs, or none. -/
theorem takePlace_cases (windowMs : Int) (entry : Option Entry) (ask : Ask C) :
    (standing windowMs ask.now entry = none ∧ (takePlace windowMs ask.limit ask.now entry).2 = some ⟨1, ask.now⟩ ∧
        slots windowMs entry [ask] = [⟨ask, ask.now⟩]) ∨
      ∃ running, standing windowMs ask.now entry = some running ∧
        ((ask.limit ≤ running.count ∧ (takePlace windowMs ask.limit ask.now entry).2 = entry ∧ slots windowMs entry [ask] = []) ∨
          ((running.count : Int) < ask.limit ∧
            (takePlace windowMs ask.limit ask.now entry).2 = some ⟨running.count + 1, running.windowStart⟩ ∧
            slots windowMs entry [ask] = [⟨ask, running.windowStart⟩])) := by
  unfold slots slots takePlace
  cases standing windowMs ask.now entry with
  | none => exact .inl ⟨rfl, rfl, rfl⟩
  | some running =>
    refine .inr ⟨running, rfl, ?_⟩
    dsimp only
    by_cases full : (running.count : Int) ≥ ask.limit
    · rw [if_pos full]
      exact .inl ⟨full, rfl, rfl⟩
    · rw [if_neg full]
      exact .inr ⟨by omega, rfl, rfl⟩

theorem Counts.take (counts : Counts windowMs last entry log) (ask : Ask C) (positive : 0 < windowMs) (some_ : 0 < ask.limit)
    (ordered : last ≤ ask.now) :
    Counts windowMs ask.now (takePlace windowMs ask.limit ask.now entry).2 (log ++ slots windowMs entry [ask]) := by
  rcases takePlace_cases windowMs entry ask with ⟨stands, kept, taken⟩ | ⟨running, stands, cases_⟩
  · have before : ∀ slot ∈ log, slot.windowStart + windowMs ≤ ask.now := by
      intro slot member
      cases present : entry with
      | none =>
        exact (counts.ended present slot member).trans ordered
      | some running =>
        have ended : ¬ ask.now - running.windowStart < windowMs := fun runs => by
          rw [standing_some.mpr ⟨present, runs⟩] at stands
          cases stands
        rcases counts.older running present slot member with same | earlier <;> omega
    have fresh : (log.filter fun other => other.windowStart = ask.now) = [] := by
      refine List.filter_eq_nil_iff.mpr fun slot member => ?_
      have := before slot member
      simp only [decide_eq_true_eq]
      omega
    rw [kept, taken]
    refine ⟨counts.packed.concat ⟨le_rfl, by dsimp only; omega⟩ (fun slot member => .inr (before slot member)) (.inl rfl) ?_,
      (by rintro ⟨⟩), ?_, ?_, ?_, ?_⟩
    · dsimp only
      rw [fresh]
      exact some_
    · rintro _ ⟨⟩
      exact le_rfl
    · rintro _ ⟨⟩ slot member
      rcases List.mem_append.mp member with old | new
      · exact .inr (before slot old)
      · rw [List.mem_singleton.mp new]
        exact .inl rfl
    · rintro _ ⟨⟩
      rw [List.filter_append, fresh]
      simp
    · rintro _ ⟨⟩
      exact ⟨⟨ask, ask.now⟩, by simp, rfl, rfl⟩
  · obtain ⟨present, runs⟩ := standing_some.mp stands
    have begun := counts.begun running present
    have older := counts.older running present
    have counted := counts.counted running present
    have first := counts.first_ running present
    rcases cases_ with ⟨full, kept, taken⟩ | ⟨room, kept, taken⟩
    · rw [kept, taken, List.append_nil, present]
      refine ⟨counts.packed, (by rintro ⟨⟩), ?_, ?_, ?_, ?_⟩
      · rintro _ ⟨⟩
        exact begun.trans ordered
      · rintro _ ⟨⟩
        exact older
      · rintro _ ⟨⟩
        exact counted
      · rintro _ ⟨⟩
        exact first
    · rw [kept, taken]
      refine ⟨counts.packed.concat ⟨begun.trans ordered, by dsimp only; omega⟩ older (.inr first) (by dsimp only; omega),
        (by rintro ⟨⟩), ?_, ?_, ?_, ?_⟩
      · rintro _ ⟨⟩
        exact begun.trans ordered
      · rintro _ ⟨⟩ slot member
        rcases List.mem_append.mp member with old | new
        · exact older slot old
        · rw [List.mem_singleton.mp new]
          exact .inl rfl
      · rintro _ ⟨⟩
        rw [List.filter_append, List.length_append, List.filter_cons_of_pos (by simp), List.filter_nil, List.length_singleton]
        rw [counted]
      · rintro _ ⟨⟩
        obtain ⟨slot, member, same, opens⟩ := first
        exact ⟨slot, List.mem_append_left _ member, same, opens⟩

theorem Counts.slots (counts : Counts windowMs last entry log) (positive : 0 < windowMs)
    (some_ : ∀ ask ∈ asks, 0 < ask.limit) (ordered : asks.Pairwise (·.now ≤ ·.now)) (after : ∀ ask ∈ asks, last ≤ ask.now) :
    Packed windowMs (log ++ slots windowMs entry asks) := by
  induction asks generalizing last entry log with
  | nil => simpa [FixedWindow.slots] using counts.packed
  | cons ask rest ih =>
    obtain ⟨first, sorted⟩ := List.pairwise_cons.mp ordered
    have taken := counts.take ask positive (some_ ask List.mem_cons_self) (after ask List.mem_cons_self)
    have whole := ih taken (fun later member => some_ later (List.mem_cons_of_mem _ member)) sorted first
    simpa only [FixedWindow.slots, List.append_nil, List.append_assoc] using whole

theorem Counts.empty (windowMs last : Int) : Counts (C := C) windowMs last none [] :=
  ⟨⟨by simp, .nil, by simp, by simp⟩, by simp, by rintro _ ⟨⟩, by rintro _ ⟨⟩, by rintro _ ⟨⟩, by rintro _ ⟨⟩⟩

theorem Counts.mono (counts : Counts windowMs last entry log) (ordered : last ≤ now) : Counts windowMs now entry log where
  packed := counts.packed
  ended none_ slot member := (counts.ended none_ slot member).trans ordered
  begun running present := (counts.begun running present).trans ordered
  older := counts.older
  counted := counts.counted
  first_ := counts.first_

/-- An entry swept away has no window that runs. -/
theorem Counts.sweep {age : Int} (counts : Counts windowMs last entry log) (longer : windowMs ≤ age) (ordered : last ≤ now) :
    Counts windowMs now (entry.filter fun entry => !decide (now - entry.windowStart > age)) log := by
  have counts := counts.mono ordered
  cases present : entry with
  | none => rwa [present] at counts
  | some running =>
    rw [present] at counts
    by_cases old : now - running.windowStart > age
    · rw [Option.filter_some, if_neg (by simp [old])]
      refine ⟨counts.packed, fun _ slot member => ?_, by rintro _ ⟨⟩, by rintro _ ⟨⟩, by rintro _ ⟨⟩, by rintro _ ⟨⟩⟩
      have begun := counts.begun running rfl
      rcases counts.older running rfl slot member with same | earlier <;> omega
    · rwa [Option.filter_some, if_pos (by simp [old])]

theorem slots_packed (positive : 0 < windowMs) (some_ : ∀ ask ∈ asks, 0 < ask.limit)
    (ordered : asks.Pairwise (·.now ≤ ·.now)) : Packed windowMs (slots windowMs none asks) := by
  cases asks with
  | nil => exact (Counts.empty windowMs 0).packed
  | cons ask rest =>
    refine (Counts.empty windowMs ask.now).slots positive some_ ordered fun other member => ?_
    rcases List.mem_cons.mp member with rfl | later
    · exact le_rfl
    · exact (List.pairwise_cons.mp ordered).1 other later

/-- The last of those that pass a test. -/
theorem last_of_filter {α : Type} {test : α → Bool} {log : List α} (some_ : log.filter test ≠ []) :
    ∃ before last after, log = before ++ last :: after ∧ test last = true ∧ log.filter test = before.filter test ++ [last] := by
  induction log using List.reverseRecOn with
  | nil => exact absurd rfl some_
  | append_singleton front final ih =>
    by_cases passes : test final = true
    · exact ⟨front, final, [], rfl, passes, by rw [List.filter_append, List.filter_cons_of_pos passes, List.filter_nil]⟩
    · have same : (front ++ [final]).filter test = front.filter test := by
        rw [List.filter_append, List.filter_cons_of_neg passes, List.filter_nil, List.append_nil]
      rw [same] at some_
      obtain ⟨before, last, after, whole, passes, filtered⟩ := ih some_
      exact ⟨before, last, after ++ [final], by rw [whole, List.append_assoc, List.cons_append], passes, same.trans filtered⟩

/-- Places of one window, taken within the same limit; one fewer where they all come after its first. -/
theorem Packed.window (packed : Packed windowMs log) (test : Slot C → Bool) (begun : Int) (least : 1 ≤ most)
    (one : ∀ slot ∈ log, test slot = true → slot.windowStart = begun ∧ slot.limit ≤ most) :
    ((log.filter test).length : Int) ≤ most ∧
      ((∀ slot ∈ log, test slot = true → slot.now ≠ begun) → ((log.filter test).length : Int) ≤ most - 1) := by
  by_cases none_ : log.filter test = []
  · rw [none_]
    exact ⟨by simp; omega, fun _ => by simp; omega⟩
  obtain ⟨before, slot, after, whole, passes, filtered⟩ := last_of_filter none_
  obtain ⟨same, within⟩ := one slot (by rw [whole]; simp) passes
  have chosen : ∀ other ∈ before, test other = true → decide (other.windowStart = slot.windowStart) = true := by
    intro other member passes
    rw [same]
    exact decide_eq_true (one other (by rw [whole]; simp [member]) passes).1
  have inside : before.filter test = (before.filter fun other => other.windowStart = slot.windowStart).filter test := by
    rw [List.filter_filter]
    refine List.filter_congr fun other member => ?_
    by_cases passes : test other = true
    · rw [passes, chosen other member passes, Bool.and_self]
    · rw [Bool.not_eq_true] at passes
      rw [passes, Bool.false_and]
  have room := packed.room before slot after whole
  rw [filtered, List.length_append, List.length_singleton, inside]
  push_cast
  refine ⟨?_, fun later => ?_⟩
  · have fewer := List.length_filter_le test (before.filter fun other => other.windowStart = slot.windowStart)
    omega
  rcases packed.opened before slot after whole with opens | ⟨first, member, window, opens⟩
  · exact absurd (opens.trans same) (later slot (by rw [whole]; simp) passes)
  · -- the place that opened the window is not among them
    have skipped : ¬ test first = true := fun passes =>
      later first (by rw [whole]; simp [member]) passes (opens.trans same)
    have fewer : ((before.filter fun other => other.windowStart = slot.windowStart).filter test).length <
        (before.filter fun other => other.windowStart = slot.windowStart).length :=
      List.length_filter_lt_length_iff_exists.mpr ⟨first, List.mem_filter.mpr ⟨member, decide_eq_true window⟩, skipped⟩
    omega

theorem Packed.either {slot other : Slot C} (packed : Packed windowMs log) (member : slot ∈ log) (member' : other ∈ log) :
    slot.windowStart = other.windowStart ∨ slot.windowStart + windowMs ≤ other.windowStart ∨
      other.windowStart + windowMs ≤ slot.windowStart := by
  have forth : log.Pairwise fun slot other => slot.windowStart = other.windowStart ∨
      slot.windowStart + windowMs ≤ other.windowStart ∨ other.windowStart + windowMs ≤ slot.windowStart :=
    packed.apart.imp fun near => near.imp_right .inl
  have back : log.Pairwise (flip fun slot other => slot.windowStart = other.windowStart ∨
      slot.windowStart + windowMs ≤ other.windowStart ∨ other.windowStart + windowMs ≤ slot.windowStart) :=
    packed.apart.imp fun near => near.imp Eq.symm .inr
  exact forth.forall_of_forall_of_flip (fun _ _ => .inl rfl) back member member'

/-- No interval meets more than two windows, nor the first place of the earlier one. -/
theorem Packed.interval (packed : Packed windowMs log) (test : Slot C → Bool) (start : Int) (least : 1 ≤ most)
    (inside : ∀ slot ∈ log, test slot = true → start ≤ slot.now ∧ slot.now < start + windowMs ∧ slot.limit ≤ most) :
    ((log.filter test).length : Int) ≤ 2 * most - 1 := by
  have near : ∀ slot ∈ log, test slot = true → start - windowMs < slot.windowStart ∧ slot.windowStart < start + windowMs := by
    intro slot member passes
    have inWindow := packed.inWindow slot member
    have within := inside slot member passes
    omega
  by_cases none_ : log.filter test = []
  · rw [none_, List.length_nil]
    omega
  obtain ⟨first, chosen⟩ := List.exists_mem_of_ne_nil _ none_
  obtain ⟨member, passes⟩ := List.mem_filter.mp chosen
  have split := List.length_eq_length_filter_add (l := log.filter test) fun slot => decide (slot.windowStart = first.windowStart)
  rw [List.filter_filter, List.filter_filter] at split
  have early := packed.window (fun slot => decide (slot.windowStart = first.windowStart) && test slot) first.windowStart
    least fun slot there both => by
      obtain ⟨same, passes⟩ := Bool.and_eq_true_iff.mp both
      exact ⟨of_decide_eq_true same, (inside slot there passes).2.2⟩
  by_cases one : (log.filter fun slot => !decide (slot.windowStart = first.windowStart) && test slot) = []
  · have := early.1
    rw [one, List.length_nil] at split
    omega
  obtain ⟨second, chosen⟩ := List.exists_mem_of_ne_nil _ one
  obtain ⟨member', both⟩ := List.mem_filter.mp chosen
  obtain ⟨apart, passes'⟩ := Bool.and_eq_true_iff.mp both
  rw [Bool.not_eq_true', decide_eq_false_iff_not] at apart
  have first_ := near first member passes
  have second_ := near second member' passes'
  have late := packed.window (fun slot => !decide (slot.windowStart = first.windowStart) && test slot) second.windowStart
    least fun slot there both => by
      obtain ⟨other, passes''⟩ := Bool.and_eq_true_iff.mp both
      rw [Bool.not_eq_true', decide_eq_false_iff_not] at other
      -- three windows do not fit in an interval of one's length
      have third_ := near slot there passes''
      have room := packed.either member member'
      have room' := packed.either member there
      have room'' := packed.either member' there
      exact ⟨by omega, (inside slot there passes'').2.2⟩
  rcases packed.either member member' with same | earlier | earlier
  · exact absurd same.symm apart
  · have fewer := early.2 fun slot there both opens => by
      have within := inside slot there (Bool.and_eq_true_iff.mp both).2
      omega
    have := late.1
    omega
  · have fewer := late.2 fun slot there both opens => by
      have within := inside slot there (Bool.and_eq_true_iff.mp both).2
      omega
    have := early.1
    omega

theorem slots_asked {slot : Slot C} (member : slot ∈ slots windowMs entry asks) : slot.toAsk ∈ asks := by
  induction asks generalizing entry with
  | nil => cases member
  | cons ask rest ih =>
    rw [slots] at member
    rcases List.mem_append.mp member with here | later
    · by_cases allowed : (takePlace windowMs ask.limit ask.now entry).1.allowed = true
      · rw [if_pos allowed] at here
        obtain ⟨running, -, rfl⟩ := List.mem_map.mp here
        exact List.mem_cons_self
      · rw [if_neg allowed] at here
        cases here
    · exact List.mem_cons_of_mem _ (ih later)

/-- As many places as the running window has left. -/
theorem slots_burst {limit : Int} {call : C} {count number : Nat} {windowStart : Int} (runs : now - windowStart < windowMs)
    (room : ((count + number : Nat) : Int) ≤ limit) :
    slots windowMs (some ⟨count, windowStart⟩) (List.replicate number ⟨call, limit, now⟩ ++ asks) =
      List.replicate number ⟨⟨call, limit, now⟩, windowStart⟩ ++ slots windowMs (some ⟨count + number, windowStart⟩) asks := by
  induction number generalizing count with
  | zero => rfl
  | succ number ih =>
    have stands : standing windowMs now (some ⟨count, windowStart⟩) = some ⟨count, windowStart⟩ := standing_some.mpr ⟨rfl, runs⟩
    have more : ¬ (count : Int) ≥ limit := by omega
    have taken : takePlace windowMs limit now (some ⟨count, windowStart⟩) =
        (⟨true, limit, limit - (count + 1 : Nat), windowMs - (now - windowStart)⟩, some ⟨count + 1, windowStart⟩) := by
      simp only [takePlace, stands, if_neg more]
    rw [List.replicate_succ, List.replicate_succ, List.cons_append, slots]
    dsimp only
    rw [taken, ih (by omega), Nat.add_right_comm, Nat.add_assoc]
    rfl

/-- A window's first place, as many as it has left at its end, and as many again of the next. -/
def burst (windowMs : Int) (number : Nat) : List Int :=
  0 :: (List.replicate number (windowMs - 1) ++ windowMs :: List.replicate number windowMs)

theorem burst_ordered (number : Nat) (positive : 0 < windowMs) : (burst windowMs number).Pairwise (· ≤ ·) := by
  have later : ∀ now ∈ burst windowMs number, 0 ≤ now := by
    intro now member
    simp only [burst, List.mem_cons, List.mem_append, List.mem_replicate] at member
    omega
  refine List.pairwise_cons.mpr ⟨fun now member => later now (List.mem_cons_of_mem _ member), List.pairwise_append.mpr ⟨?_, ?_, ?_⟩⟩
  · exact List.pairwise_replicate.mpr (.inr le_rfl)
  · refine List.pairwise_cons.mpr ⟨fun now member => ?_, List.pairwise_replicate.mpr (.inr le_rfl)⟩
    rw [(List.mem_replicate.mp member).2]
  · intro now member next follows
    simp only [List.mem_cons, List.mem_replicate] at member follows
    omega

/-- All of them are let through, all but the first within one window's length. -/
theorem slots_interval (number : Nat) (call : Int → C) (long : 1 < windowMs) :
    ((slots windowMs none ((burst windowMs number).map fun now => ⟨call now, number + 1, now⟩)).countP fun slot =>
      decide (windowMs - 1 ≤ slot.now) && decide (slot.now < windowMs - 1 + windowMs)) = number + 1 + number := by
  have ended : takePlace windowMs (number + 1) windowMs (some ⟨1 + number, 0⟩) =
      (⟨true, number + 1, number + 1 - 1, windowMs⟩, some ⟨1, windowMs⟩) := by
    simp [takePlace, standing, Option.filter]
  have rest : slots windowMs (some ⟨1, windowMs⟩) (List.replicate number ⟨call windowMs, number + 1, windowMs⟩ ++ []) =
      List.replicate number ⟨⟨call windowMs, number + 1, windowMs⟩, windowMs⟩ ++ slots windowMs (some ⟨1 + number, windowMs⟩) [] :=
    slots_burst (by omega) (by push_cast; omega)
  rw [List.append_nil, slots, List.append_nil] at rest
  have whole : slots windowMs none ((burst windowMs number).map fun now => ⟨call now, number + 1, now⟩) =
      ⟨⟨call 0, number + 1, 0⟩, 0⟩ :: (List.replicate number ⟨⟨call (windowMs - 1), number + 1, windowMs - 1⟩, 0⟩ ++
        ⟨⟨call windowMs, number + 1, windowMs⟩, windowMs⟩ ::
          List.replicate number ⟨⟨call windowMs, number + 1, windowMs⟩, windowMs⟩) := by
    rw [burst, List.map_cons, List.map_append, List.map_cons, List.map_replicate, List.map_replicate, slots]
    dsimp only [takePlace, standing, Option.filter]
    rw [slots_burst (by omega) (by push_cast; omega), slots]
    dsimp only
    rw [ended]
    dsimp only
    rw [rest]
    rfl
  rw [whole, List.countP_cons_of_neg (by dsimp only; simp; omega), List.countP_append, List.countP_replicate,
    if_pos (by dsimp only; simp; omega), List.countP_cons_of_pos (by dsimp only; simp; omega), List.countP_replicate,
    if_pos (by dsimp only; simp; omega)]
  omega

/-- A call let through has an entry. -/
theorem takePlace_allowed {limit : Int} (allowed : (takePlace windowMs limit now entry).1.allowed = true) :
    ∃ running, (takePlace windowMs limit now entry).2 = some running := by
  unfold takePlace at allowed ⊢
  cases stands : standing windowMs now entry with
  | none => exact ⟨_, rfl⟩
  | some running =>
    rw [stands] at allowed
    dsimp only at allowed ⊢
    by_cases full : (running.count : Int) ≥ limit
    · rw [if_pos full] at allowed
      cases allowed
    · rw [if_neg full]
      exact ⟨_, rfl⟩

theorem slots_single (windowMs : Int) (entry : Option Entry) (ask : Ask C) :
    ((takePlace windowMs ask.limit ask.now entry).1.allowed = false ∧ slots windowMs entry [ask] = []) ∨
      (takePlace windowMs ask.limit ask.now entry).1.allowed = true ∧ ∃ begun, slots windowMs entry [ask] = [⟨ask, begun⟩] := by
  rw [slots, slots, List.append_nil]
  by_cases allowed : (takePlace windowMs ask.limit ask.now entry).1.allowed = true
  · obtain ⟨running, kept⟩ := takePlace_allowed allowed
    refine .inr ⟨allowed, running.windowStart, ?_⟩
    rw [if_pos allowed, kept]
    rfl
  · exact .inl ⟨Bool.eq_false_iff.mpr allowed, by rw [if_neg allowed]⟩

theorem slots_calls : (slots windowMs entry (ask :: asks)).map (·.call) =
    (if (takePlace windowMs ask.limit ask.now entry).1.allowed then [ask.call] else []) ++
      (slots windowMs (takePlace windowMs ask.limit ask.now entry).2 asks).map (·.call) := by
  rw [slots, List.map_append]
  by_cases allowed : (takePlace windowMs ask.limit ask.now entry).1.allowed = true
  · obtain ⟨running, kept⟩ := takePlace_allowed allowed
    rw [if_pos allowed, if_pos allowed, kept]
    rfl
  · rw [if_neg allowed, if_neg allowed]
    rfl

variable [DecidableEq K] {op : C → Option (Op K)} {key : K} {store : Store K} {asked : Op K} {calls rest : List C} {call : C}

/-- What a call asks of one key. -/
def askOf (op : C → Option (Op K)) (key : K) (call : C) : Option (Ask C) :=
  match op call with
  | some (.take taken _ limit now) => if taken = key then some ⟨call, limit, now⟩ else none
  | _ => none

def asksOf (op : C → Option (Op K)) (key : K) (calls : List C) : List (Ask C) := calls.filterMap (askOf op key)

/-- The call takes a place of the key. -/
def takesOf (op : C → Option (Op K)) (key : K) (call : C) : Bool := (op call).any (·.takes (· == key))

theorem askOf_some : askOf op key call = some ask ↔
    ask.call = call ∧ ∃ windowMs, op call = some (.take key windowMs ask.limit ask.now) := by
  unfold askOf
  split
  next taken windowMs limit now asks =>
    rw [asks]
    by_cases same : taken = key
    · subst same
      rw [if_pos rfl]
      constructor
      · rintro ⟨⟩
        exact ⟨rfl, windowMs, rfl⟩
      · rintro ⟨rfl, _, ⟨⟩⟩
        rfl
    · simp [same]
  next apart =>
    refine ⟨by rintro ⟨⟩, ?_⟩
    rintro ⟨-, windowMs, asks⟩
    exact absurd asks (apart key windowMs ask.limit ask.now)

theorem askOf_none (apart : takesOf op key call = false) : askOf op key call = none := by
  refine Option.eq_none_iff_forall_ne_some.mpr fun ask asks => ?_
  obtain ⟨-, windowMs, present⟩ := askOf_some.mp asks
  rw [takesOf, present] at apart
  simp [Op.takes] at apart

theorem mem_asksOf : ask ∈ asksOf op key calls ↔
    ask.call ∈ calls ∧ ∃ windowMs, op ask.call = some (.take key windowMs ask.limit ask.now) := by
  simp only [asksOf, List.mem_filterMap, askOf_some]
  constructor
  · rintro ⟨call, member, rfl, asks⟩
    exact ⟨member, asks⟩
  · rintro ⟨member, asks⟩
    exact ⟨ask.call, member, rfl, asks⟩

theorem asksOf_ordered (key : K) (ordered : Ordered op calls) : (asksOf op key calls).Pairwise (·.now ≤ ·.now) := by
  induction calls with
  | nil => exact .nil
  | cons call rest ih =>
    obtain ⟨sorted, first⟩ := ordered.cons
    unfold asksOf
    cases asks : askOf op key call with
    | none =>
      rw [List.filterMap_cons_none asks]
      exact ih sorted
    | some ask =>
      rw [List.filterMap_cons_some asks]
      obtain ⟨rfl, windowMs, present⟩ := askOf_some.mp asks
      refine List.pairwise_cons.mpr ⟨fun other member => ?_, ih sorted⟩
      obtain ⟨there, windowMs', present'⟩ := mem_asksOf.mp member
      exact first _ present _ there _ present'

/-- The calls let through to one key are those that its windows let take a place. -/
theorem verdicts_slots (key : K) (store : Store K) (entry : Option Entry) (ordered : Ordered op calls) (within : ∀ call ∈ calls, ∀ asked, op call = some asked → asked.Within longest)
    (windows : ∀ call ∈ calls, ∀ length limit now, op call = some (.take key length limit now) → length = windowMs)
    (alike : ∀ call ∈ calls, ∀ asked, op call = some asked → Alike longest asked.now (store key) entry) :
    ((verdicts op store calls).filter fun got => takesOf op key got.1 && got.2.any (·.allowed)).map Prod.fst =
      (slots windowMs entry (asksOf op key calls)).map (·.call) := by
  induction calls generalizing store entry with
  | nil => rfl
  | cons call rest ih =>
    obtain ⟨sorted, first⟩ := ordered.cons
    have within' := fun later member => within later (List.mem_cons_of_mem call member)
    have windows' := fun later member => windows later (List.mem_cons_of_mem call member)
    have alike' := fun later member => alike later (List.mem_cons_of_mem call member)
    unfold asksOf
    cases asks : op call with
    | none =>
      have apart : takesOf op key call = false := by
        rw [takesOf, asks]
        rfl
      rw [verdicts_none asks, List.filter_cons, apart, Bool.false_and, if_neg Bool.false_ne_true,
        List.filterMap_cons_none (askOf_none apart)]
      exact ih _ _ sorted within' windows' alike'
    | some asked =>
      have here := within call List.mem_cons_self asked asks
      have alike_ := alike call List.mem_cons_self asked asks
      rw [verdicts_some asks, List.filter_cons]
      by_cases takes : asked.takes (· == key) = true
      · cases asked with
        | sweep age now => cases takes
        | take taken length limit now =>
          obtain rfl := eq_of_beq takes
          obtain rfl := windows call List.mem_cons_self _ _ _ asks
          have own : takesOf op taken call = true := by
            rw [takesOf, asks]
            exact takes
          have asks' : askOf op taken call = some ⟨call, limit, now⟩ := askOf_some.mpr ⟨rfl, length, asks⟩
          obtain ⟨verdict, entries⟩ := takePlace_alike limit alike_ here
          have after := ih ((Op.take taken length limit now).run store).2 (takePlace length limit now entry).2
            sorted within' windows' fun later member next nextAsks => by
              have kept := entries.mono (first _ asks later member next nextAsks)
              simpa only [Op.run, Op.now, Function.update_self] using kept
          have said : (((Op.take taken length limit now).run store).1.any (·.allowed)) =
              (takePlace length limit now entry).1.allowed := congrArg Verdict.allowed verdict
          rw [List.filterMap_cons_some asks', slots_calls, ← asksOf, ← after, own, Bool.true_and, said]
          by_cases allowed : (takePlace length limit now entry).1.allowed = true
          · rw [if_pos allowed, if_pos allowed]
            rfl
          · rw [if_neg allowed, if_neg allowed]
            rfl
      · rw [Bool.not_eq_true] at takes
        have apart : takesOf op key call = false := by
          rw [takesOf, asks]
          exact takes
        rw [apart, Bool.false_and, if_neg Bool.false_ne_true, List.filterMap_cons_none (askOf_none apart)]
        refine ih _ _ sorted within' windows' fun later member next nextAsks => ?_
        exact ((Op.run_alike store here takes).mono (first asked asks later member next nextAsks)).trans
          (alike' later member next nextAsks)

end

end LetterIRL.Lib.FixedWindow
