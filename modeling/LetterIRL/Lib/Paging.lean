import LetterIRL.Lib.Loops

namespace LetterIRL.Lib

/-! Lines laid over numbered pages, each page as full as it may be. -/

/-- A stretch of lines, from `start` up to `stop`. -/
structure Span where
  start : Nat
  stop : Nat
  deriving DecidableEq

/-- What is laid over pages: its lines, those a later page never starts with, how many lines each page has room for,
and how many of the lines that would fill a page stay on it. -/
structure Galley (α : Type) where
  lines : List α
  dropped : α → Bool
  room : Nat → Nat
  keep : Nat → Nat → Nat

namespace Galley
variable {α : Type} {g h : Galley α} {left more index next ahead start stop last : Nat} {pages : List Span}

/-- Where a page starts: a later one past the lines dropped at its top. -/
def top (g : Galley α) (index next : Nat) : Nat :=
  if index = 0 then next else next + ((g.lines.drop next).takeWhile g.dropped).length

/-- How many lines a page takes that is not the last. -/
def fill (g : Galley α) (index start : Nat) : Nat := g.keep start (min (g.room index) (g.lines.length - start))

/-- The pages from page `index` on, at most `left` of them, and how many lines run past the last: it takes all there
are left. -/
def lay (g : Galley α) : Nat → Nat → Nat → List Span × Nat
  | 0, _, _ => ([], 0)
  | left + 1, index, next =>
    let start := g.top index next
    if start < g.lines.length then
      if left = 0 then ([{ start, stop := g.lines.length }], g.lines.length - start - g.room index)
      else
        let stop := start + g.fill index start
        let rest := g.lay left (index + 1) stop
        ({ start, stop } :: rest.1, rest.2)
    else ([], 0)

/-- Pages that hold every line from `next` on, in order and each within its page's room, but those dropped at the top
of a later page. -/
inductive Laid (g : Galley α) : Nat → Nat → Nat → List Span → Prop
  | done {left index : Nat} : Laid g left index g.lines.length []
  | blank {left index next : Nat} (later : 0 < index) (before : next ≤ g.lines.length)
      (dropped : ∀ i (inList : i < g.lines.length), next ≤ i → g.dropped g.lines[i] = true) :
      Laid g (left + 1) index next []
  | page {left index next start stop : Nat} {rest : List Span} (from_ : next ≤ start)
      (dropped : ∀ i (inList : i < g.lines.length), next ≤ i → i < start → 0 < index ∧ g.dropped g.lines[i] = true)
      (ordered : start ≤ stop) (within : stop ≤ g.lines.length) (room : stop ≤ start + g.room index)
      (laid : Laid g left (index + 1) stop rest) : Laid g (left + 1) index next ({ start, stop } :: rest)

theorem le_top (g : Galley α) (index next : Nat) : next ≤ g.top index next := by
  unfold top
  split
  · exact le_rfl
  · omega

theorem top_le (index : Nat) (before : next ≤ g.lines.length) : g.top index next ≤ g.lines.length := by
  unfold top
  split
  · exact before
  · have atMost := (List.takeWhile_sublist g.dropped (l := g.lines.drop next)).length_le
    rw [List.length_drop] at atMost
    omega

/-- What stands before a page's top is dropped. -/
theorem dropped_of_top (index : Nat) {i : Nat} (inList : i < g.lines.length) (from_ : next ≤ i) (above : i < g.top index next) :
    0 < index ∧ g.dropped g.lines[i] = true := by
  unfold top at above
  split at above
  · omega
  · refine ⟨by omega, ?_⟩
    have inTaken : i - next < ((g.lines.drop next).takeWhile g.dropped).length := by omega
    have all := List.all_takeWhile (l := g.lines.drop next) (p := g.dropped)
    have same : ((g.lines.drop next).takeWhile g.dropped)[i - next] = g.lines[i] := by
      have front := List.takeWhile_prefix g.dropped (l := g.lines.drop next)
      rw [front.getElem inTaken, List.getElem_drop]
      congr 1
      omega
    rw [← same]
    exact List.all_eq_true.mp all _ (List.getElem_mem inTaken)

/-- A later page starts with a line that is not dropped. -/
theorem top_kept (later : 0 < index) (inList : g.top index next < g.lines.length) :
    g.dropped g.lines[g.top index next] = false := by
  have at_ : g.top index next = next + ((g.lines.drop next).takeWhile g.dropped).length := by
    unfold top
    rw [if_neg (by omega)]
  have within : ((g.lines.drop next).takeWhile g.dropped).length < (g.lines.drop next).length := by
    rw [List.length_drop]
    omega
  have stops := takeWhile_stops within
  rw [List.getElem_drop] at stops
  rw [← stops]
  congr 2

/-- A line that is not dropped never stands before its page's top. -/
theorem top_le_of_kept {i : Nat} (inList : i < g.lines.length) (from_ : next ≤ i)
    (kept : 0 < index → g.dropped g.lines[i] = false) : g.top index next ≤ i := by
  by_contra above
  obtain ⟨later, dropped⟩ := dropped_of_top index inList from_ (by omega)
  rw [kept later] at dropped
  cases dropped

/-- No page is empty, and none takes more than fills it. -/
structure Fills (g : Galley α) : Prop where
  room : ∀ index, 0 < g.room index
  some : ∀ start count, 0 < count → 0 < g.keep start count
  atMost : ∀ start count, g.keep start count ≤ count

theorem Fills.fill (fills : g.Fills) (index : Nat) (inList : start < g.lines.length) : 0 < g.fill index start ∧
    start + g.fill index start ≤ g.lines.length ∧ g.fill index start ≤ g.room index := by
  have room := fills.room index
  have some := fills.some start (min (g.room index) (g.lines.length - start)) (by omega)
  have atMost := fills.atMost start (min (g.room index) (g.lines.length - start))
  unfold Galley.fill
  omega

/-- Where nothing runs past the last page, the pages hold every line. -/
theorem lay_laid (fills : g.Fills) (pages : 0 < left) (before : next ≤ g.lines.length)
    (fits : (g.lay left index next).2 = 0) : Laid g left index next (g.lay left index next).1 := by
  induction left generalizing index next with
  | zero => omega
  | succ left ih =>
    have from_ := g.le_top index next
    have upTo := top_le index before
    by_cases inList : g.top index next < g.lines.length
    · have skipped : ∀ i (inList : i < g.lines.length), next ≤ i → i < g.top index next →
          0 < index ∧ g.dropped g.lines[i] = true := fun i inList from_ above => dropped_of_top index inList from_ above
      unfold lay at fits ⊢
      simp only [inList, if_true] at fits ⊢
      by_cases last : left = 0
      · simp only [last, if_true] at fits ⊢
        exact .page from_ skipped upTo le_rfl (by omega) .done
      · simp only [last, if_false] at fits ⊢
        obtain ⟨-, within, room⟩ := fills.fill index inList
        exact .page from_ skipped (by omega) within (by omega) (ih (by omega) within fits)
    · unfold lay
      simp only [inList, if_false]
      by_cases first : index = 0
      · have same : next = g.lines.length := by
          unfold top at inList
          rw [if_pos first] at inList
          omega
        rw [same]
        exact .done
      · exact .blank (by omega) before fun i inList' from_ => (dropped_of_top index inList' from_ (by omega)).2

/-- Each of the pages is within the lines, and within its room. -/
theorem Laid.get (laid : Laid g left index next pages) {i : Nat} {span : Span} (found : pages[i]? = some span) :
    next ≤ span.start ∧ span.start ≤ span.stop ∧ span.stop ≤ g.lines.length ∧
      span.stop ≤ span.start + g.room (index + i) := by
  induction laid generalizing i with
  | done => cases found
  | blank later before dropped => cases found
  | @page left index next start stop rest from_ dropped ordered within room laid ih =>
    cases i with
    | zero =>
      cases found
      exact ⟨from_, ordered, within, room⟩
    | succ i =>
      obtain ⟨past, rest⟩ := ih (by simpa using found)
      rw [Nat.add_right_comm, Nat.add_assoc] at rest
      exact ⟨by omega, rest⟩

theorem Laid.ordered (laid : Laid g left index next pages) :
    pages.Pairwise fun earlier later => earlier.stop ≤ later.start := by
  induction laid with
  | done => exact .nil
  | blank => exact .nil
  | page from_ dropped ordered within room laid ih =>
    refine List.pairwise_cons.mpr ⟨fun later member => ?_, ih⟩
    obtain ⟨i, found⟩ := List.getElem?_of_mem member
    exact (laid.get found).1

/-- Where one of the pages holds a stretch wholly, each other ends before it or starts after it. -/
theorem Laid.apart (laid : Laid g left index next pages) {i j : Nat} {span other : Span} (found : pages[i]? = some span)
    (at_ : pages[j]? = some other) (differ : j ≠ i) : other.stop ≤ span.start ∨ span.stop ≤ other.start := by
  obtain ⟨inPages, rfl⟩ := List.getElem?_eq_some_iff.mp found
  obtain ⟨inPages', rfl⟩ := List.getElem?_eq_some_iff.mp at_
  have ordered := List.pairwise_iff_getElem.mp laid.ordered
  rcases Nat.lt_or_gt_of_ne differ with before | after
  · exact .inl (ordered j i inPages' inPages before)
  · exact .inr (ordered i j inPages inPages' after)

theorem Laid.some (laid : Laid g left 0 next pages) (left_ : next < g.lines.length) : pages ≠ [] := by
  cases laid with
  | done => omega
  | blank later => omega
  | page => exact List.cons_ne_nil _ _

theorem lay_length (g : Galley α) (left index next : Nat) : (g.lay left index next).1.length ≤ left := by
  induction left generalizing index next with
  | zero => exact le_rfl
  | succ left ih =>
    unfold lay
    simp only
    split
    · split
      · simp
      · simpa using ih _ _
    · exact Nat.zero_le _

theorem lay_ne_nil (pages : 0 < left) (inList : g.top index next < g.lines.length) : (g.lay left index next).1 ≠ [] := by
  obtain ⟨rest, rfl⟩ : ∃ rest, left = rest + 1 := ⟨left - 1, by omega⟩
  unfold lay
  simp only [inList, if_true]
  split <;> exact List.cons_ne_nil _ _

/-- After the last line, a page more may follow, with none. -/
theorem Laid.and_empty (laid : Laid g left index next pages) (few : pages.length < left) :
    Laid g left index next (pages ++ [{ start := g.lines.length, stop := g.lines.length }]) := by
  induction laid with
  | @done left index =>
    obtain ⟨rest, rfl⟩ : ∃ rest, left = rest + 1 := ⟨left - 1, by simp at few; omega⟩
    exact .page le_rfl (fun i _ from_ before => absurd before (by omega)) le_rfl le_rfl (Nat.le_add_right _ _) .done
  | blank later before dropped =>
    exact .page before (fun i inList from_ _ => ⟨later, dropped i inList from_⟩) le_rfl le_rfl (Nat.le_add_right _ _)
      .done
  | page from_ dropped ordered within room laid ih =>
    exact .page from_ dropped ordered within room (ih (by simpa using few))

/-- Each page: where it starts, and where it stops. -/
theorem lay_get (fills : g.Fills) (before : next ≤ g.lines.length) {i : Nat} {span : Span}
    (found : (g.lay left index next).1[i]? = some span) :
    ∃ from_, next ≤ from_ ∧ span.start = g.top (index + i) from_ ∧ span.start < span.stop ∧
      span.stop ≤ g.lines.length ∧ (i + 1 < left → span.stop = span.start + g.fill (index + i) span.start) := by
  induction left generalizing index next i with
  | zero => cases found
  | succ left ih =>
    have from_ := g.le_top index next
    unfold lay at found
    by_cases inList : g.top index next < g.lines.length
    · simp only [inList, if_true] at found
      by_cases last : left = 0
      · simp only [last, if_true] at found
        cases i with
        | zero =>
          cases found
          exact ⟨next, le_rfl, rfl, inList, le_rfl, by omega⟩
        | succ i => cases found
      · simp only [last, if_false] at found
        obtain ⟨some, within, -⟩ := fills.fill index inList
        cases i with
        | zero =>
          cases found
          exact ⟨next, le_rfl, rfl, Nat.lt_add_of_pos_right some, within, fun _ => rfl⟩
        | succ i =>
          obtain ⟨later, past, start, rest, stop, more⟩ := ih within (by simpa using found)
          refine ⟨later, by omega, ?_, rest, stop, fun few => ?_⟩
          · rw [start]
            congr 1
            omega
          · rw [more (by omega)]
            congr 2
            omega
    · simp only [inList, if_false] at found
      cases found

/-- Each page starts where those before it have stopped. -/
theorem lay_ordered (fills : g.Fills) (before : next ≤ g.lines.length) :
    (g.lay left index next).1.Pairwise fun earlier later => earlier.stop ≤ later.start := by
  induction left generalizing index next with
  | zero => exact .nil
  | succ left ih =>
    unfold lay
    by_cases inList : g.top index next < g.lines.length
    · simp only [inList, if_true]
      by_cases last : left = 0
      · simp only [last, if_true]
        exact List.pairwise_singleton _ _
      · simp only [last, if_false]
        obtain ⟨-, within, -⟩ := fills.fill index inList
        refine List.pairwise_cons.mpr ⟨fun later member => ?_, ih within⟩
        obtain ⟨i, found⟩ := List.getElem?_of_mem member
        obtain ⟨from_, past, start, -⟩ := lay_get fills within found
        have least := g.le_top (index + 1 + i) from_
        show g.top index next + g.fill index (g.top index next) ≤ later.start
        omega
    · simp only [inList, if_false]
      exact .nil

/-- Lines a page never stops among are on one page, but for a first of them that is dropped at its top. -/
theorem lay_together (g : Galley α) (index next : Nat) {first high : Nat} (pages : 0 < left) (inLines : high ≤ g.lines.length)
    (apart : first + 1 < high) (kept : ∀ inList : first + 1 < g.lines.length, g.dropped g.lines[first + 1] = false)
    (joined : ∀ index start, start ≤ first + 1 → high ≤ start + g.fill index start ∨ start + g.fill index start ≤ first)
    (ahead : next ≤ first) :
    ∃ i span, (g.lay left index next).1[i]? = some span ∧ high ≤ span.stop ∧
      (span.start ≤ first ∨ span.start = first + 1 ∧ 0 < index + i ∧
        ∀ inList : first < g.lines.length, g.dropped g.lines[first] = true) := by
  induction left generalizing index next with
  | zero => omega
  | succ left ih =>
    have atMost : g.top index next ≤ first + 1 :=
      top_le_of_kept (by omega) (by omega) fun _ => kept (by omega)
    have inList : g.top index next < g.lines.length := by omega
    have start : g.top index next ≤ first ∨ g.top index next = first + 1 ∧ 0 < index + 0 ∧
        ∀ inList : first < g.lines.length, g.dropped g.lines[first] = true := by
      by_cases held : g.top index next ≤ first
      · exact .inl held
      · have dropped := dropped_of_top (g := g) index (i := first) (by omega) ahead (by omega)
        exact .inr ⟨by omega, dropped.1, fun _ => dropped.2⟩
    unfold lay
    simp only [inList, if_true]
    by_cases last : left = 0
    · simp only [last, if_true]
      exact ⟨0, _, rfl, inLines, start⟩
    · simp only [last, if_false]
      rcases joined index (g.top index next) atMost with whole | later
      · exact ⟨0, _, rfl, whole, start⟩
      · obtain ⟨i, span, found, past, place⟩ := ih (index + 1) _ (by omega) later
        refine ⟨i + 1, span, by simpa using found, past, place.imp_right ?_⟩
        rintro ⟨same, -, dropped⟩
        exact ⟨same, by omega, dropped⟩

/-- Greedy pages run past no page limit that some pages keep to, where pages may stop only at places `allowed` and
what stays on a page reaches past every such place that it could. -/
theorem lay_fits (allowed : Nat → Prop)
    (reaches : ∀ start count stop, allowed stop → stop ≤ start + count → stop ≤ start + g.keep start count)
    (laid : Laid g left index next pages) (stops : ∀ page ∈ pages, allowed page.stop) (further : next ≤ ahead) :
    (g.lay left index ahead).2 = 0 := by
  induction laid generalizing ahead with
  | @done left index =>
    have from_ := g.le_top index ahead
    cases left with
    | zero => rfl
    | succ left =>
      unfold lay
      rw [if_neg (by omega)]
  | @blank left index next later before dropped =>
    have from_ := g.le_top index ahead
    unfold lay
    rw [if_neg]
    intro inList
    have kept := top_kept later inList
    rw [dropped _ inList (by omega)] at kept
    cases kept
  | @page left index next start stop rest from_ dropped ordered within room laid ih =>
    have least := g.le_top index ahead
    -- What the other pages drop is dropped here too, so this page starts no earlier.
    have later : g.top index ahead < g.lines.length → start ≤ g.top index ahead := by
      intro inList
      by_contra above
      obtain ⟨past, blank⟩ := dropped (g.top index ahead) inList (by omega) (by omega)
      rw [top_kept past inList] at blank
      cases blank
    unfold lay
    by_cases inList : g.top index ahead < g.lines.length
    · have ordered' := later inList
      simp only [inList, if_true]
      by_cases last : left = 0
      · subst last
        have whole : stop = g.lines.length := by
          cases laid
          rfl
        simp only [if_true]
        omega
      · simp only [last, if_false]
        refine ih (fun page member => stops page (List.mem_cons_of_mem _ member)) ?_
        exact reaches _ _ _ (stops _ List.mem_cons_self) (by omega)
    · simp only [inList, if_false]

/-- Pages nothing runs past are the same with more pages allowed, where a page that holds all that is left keeps it. -/
theorem lay_more (whole : ∀ start, start < g.lines.length →
      g.keep start (g.lines.length - start) = g.lines.length - start)
    (pages : 0 < left) (atLeast : left ≤ more) (fits : (g.lay left index next).2 = 0) :
    g.lay more index next = g.lay left index next := by
  induction left generalizing index next more with
  | zero => omega
  | succ left ih =>
    obtain ⟨more, rfl⟩ : ∃ rest, more = rest + 1 := ⟨more - 1, by omega⟩
    by_cases inList : g.top index next < g.lines.length
    · unfold lay at fits ⊢
      simp only [inList, if_true] at fits ⊢
      by_cases last : left = 0
      · simp only [last, if_true] at fits ⊢
        by_cases same : more = 0
        · rw [if_pos same, fits]
        · have count : g.fill index (g.top index next) = g.lines.length - g.top index next := by
            unfold fill
            rw [min_eq_right (by omega)]
            exact whole _ inList
          have none : g.lay more (index + 1) g.lines.length = ([], 0) := by
            obtain ⟨rest, rfl⟩ : ∃ rest, more = rest + 1 := ⟨more - 1, by omega⟩
            have past := g.le_top (index + 1) g.lines.length
            unfold lay
            rw [if_neg (by omega)]
          have stop : g.top index next + (g.lines.length - g.top index next) = g.lines.length := by omega
          rw [if_neg same, count, stop, none, fits]
      · simp only [last, if_false] at fits ⊢
        rw [if_neg (by omega), ih (by omega) (by omega) fits]
    · unfold lay
      simp only [inList, if_false]

/-- The last page allowed is begun, at this line. -/
inductive Begun (g : Galley α) : Nat → Nat → Nat → Nat → Prop
  | last {index next : Nat} (inList : g.top index next < g.lines.length) : Begun g 1 index next (g.top index next)
  | later {left index next last : Nat} (inList : g.top index next < g.lines.length)
      (begun : Begun g (left + 1) (index + 1) (g.top index next + g.fill index (g.top index next)) last) :
      Begun g (left + 2) index next last

theorem Begun.bounds (begun : Begun g left index next last) : next ≤ last ∧ last < g.lines.length := by
  induction begun with
  | @last index next inList => exact ⟨g.le_top index next, inList⟩
  | @later left index next last inList begun ih =>
    have from_ := g.le_top index next
    omega

/-- The pages where the last is begun: it takes all there are left, and what it has no room for runs past. -/
theorem Begun.lays (begun : Begun g left index next last) : (g.lay left index next).1.length = left ∧
    (g.lay left index next).1.getLast? = some { start := last, stop := g.lines.length } ∧
      (g.lay left index next).2 = g.lines.length - last - g.room (index + left - 1) := by
  induction begun with
  | @last index next inList =>
    unfold lay
    simp [inList]
  | @later left index next last inList begun ih =>
    obtain ⟨length, ends, past⟩ := ih
    unfold lay
    simp only [inList, if_true, Nat.add_one_ne_zero, if_false]
    refine ⟨by simp [length], ?_, ?_⟩
    · rw [List.getLast?_cons, ends]
      rfl
    · rw [past]
      congr 2
      omega

theorem begun_or_short (g : Galley α) (left index next : Nat) (pages : 0 < left) : (∃ last, Begun g left index next last) ∨
    (g.lay left index next).1.length < left ∧ (g.lay left index next).2 = 0 := by
  induction left generalizing index next with
  | zero => omega
  | succ left ih =>
    by_cases inList : g.top index next < g.lines.length
    · cases left with
      | zero => exact .inl ⟨_, .last inList⟩
      | succ left =>
        rcases ih (index + 1) (g.top index next + g.fill index (g.top index next)) (by omega) with
          ⟨last, begun⟩ | ⟨short, fits⟩
        · exact .inl ⟨last, .later inList begun⟩
        · refine .inr ?_
          unfold lay
          simp only [inList, if_true, Nat.add_one_ne_zero, if_false]
          exact ⟨by simpa using short, fits⟩
    · refine .inr ?_
      unfold lay
      simp only [inList, if_false]
      exact ⟨by simp, trivial⟩

/-- Where a galley agrees with another up to its last page, and no page of its own reaches further than that of the
other from no later a line, it begins that page too, no later. -/
theorem Begun.earlier (begun : Begun g left index next last) {behind : Nat} (inOther : last < h.lines.length)
    (kept : ∀ i (inList : i < g.lines.length) (inOther : i < h.lines.length), i ≤ last →
      g.dropped g.lines[i] = false → h.dropped h.lines[i] = false)
    (fills : ∀ index start earlier, earlier ≤ start → start + g.fill index start ≤ last →
      earlier + h.fill index earlier ≤ start + g.fill index start)
    (before : behind ≤ next) : ∃ first ≤ last, Begun h left index behind first := by
  induction begun generalizing behind with
  | @last index next inList =>
    have ordered : h.top index behind ≤ g.top index next :=
      top_le_of_kept inOther (before.trans (g.le_top index next)) fun later =>
        kept _ inList inOther le_rfl (top_kept later inList)
    exact ⟨_, ordered, .last (by omega)⟩
  | @later left index next last inList begun ih =>
    have bounds := begun.bounds
    have inH : g.top index next < h.lines.length := by omega
    have ordered : h.top index behind ≤ g.top index next :=
      top_le_of_kept inH (before.trans (g.le_top index next)) fun later =>
        kept _ inList inH (by omega) (top_kept later inList)
    obtain ⟨first, earlier, rest⟩ := ih inOther kept fills (fills index _ _ ordered bounds.1)
    exact ⟨first, earlier, .later (by omega) rest⟩

end Galley

end LetterIRL.Lib
