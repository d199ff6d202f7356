import LetterIRL.Lib.Fifo

namespace LetterIRL.Lib
variable {α κ : Type}

/-- A table with a primary key: rows in the order they were inserted, no two
with one key. -/
structure Table (key : α → κ) where
  rows : List α
  unique : (rows.map key).Nodup

namespace Table
variable {key : α → κ}

theorem ext_rows {first second : Table key} (same : first.rows = second.rows) : first = second := by
  cases first
  cases second
  cases same
  rfl

def empty : Table key := ⟨[], List.nodup_nil⟩

/-- `UPDATE … SET change WHERE selected`, of columns other than the key. -/
def update (table : Table key) (selected : α → Bool) (change : α → α)
    (kept : ∀ row, key (change row) = key row) : Table key :=
  ⟨updateWhere selected change table.rows, by rw [map_updateWhere _ kept]; exact table.unique⟩

@[simp] theorem update_rows (table : Table key) (selected : α → Bool) (change : α → α)
    (kept : ∀ row, key (change row) = key row) :
    (table.update selected change kept).rows = updateWhere selected change table.rows := rfl

/-- `INSERT` of a row whose key no row has. -/
def insert (table : Table key) (row : α) (fresh : key row ∉ table.rows.map key) : Table key :=
  ⟨table.rows ++ [row], by
    rw [List.map_append, List.nodup_append]
    refine ⟨table.unique, List.nodup_singleton _, ?_⟩
    intro k old k' new
    simp only [List.map_cons, List.map_nil, List.mem_singleton] at new
    rintro rfl
    exact fresh (new ▸ old)⟩

@[simp] theorem insert_rows (table : Table key) (row : α) (fresh : key row ∉ table.rows.map key) :
    (table.insert row fresh).rows = table.rows ++ [row] := rfl

variable [DecidableEq κ]

/-- `SELECT … WHERE key = k`. -/
def find (table : Table key) (k : κ) : Option α :=
  table.rows.find? fun row => key row == k

theorem find_eq_some {table : Table key} {k : κ} {row : α} :
    table.find k = some row ↔ row ∈ table.rows ∧ key row = k := by
  unfold find
  constructor
  · intro found
    exact ⟨List.mem_of_find?_eq_some found, by simpa using List.find?_some found⟩
  · rintro ⟨member, rfl⟩
    cases at_ : table.rows.find? fun r => key r == key row with
    | none =>
      have miss := List.find?_eq_none.mp at_ row member
      simp at miss
    | some other =>
      have same : key other = key row := by simpa using List.find?_some at_
      rw [eq_of_key_eq table.unique (List.mem_of_find?_eq_some at_) member same]

theorem find_mem {table : Table key} {k : κ} {row : α} (found : table.find k = some row) :
    row ∈ table.rows :=
  (find_eq_some.mp found).1

theorem find_key {table : Table key} {k : κ} {row : α} (found : table.find k = some row) :
    key row = k :=
  (find_eq_some.mp found).2

theorem find_of_mem {table : Table key} {row : α} (member : row ∈ table.rows) :
    table.find (key row) = some row :=
  find_eq_some.mpr ⟨member, rfl⟩

theorem find_eq_none {table : Table key} {k : κ} :
    table.find k = none ↔ ∀ row ∈ table.rows, key row ≠ k := by
  simp [find, List.find?_eq_none]

/-- Write a whole row back over the row with its key. -/
def put (table : Table key) (row : α) : Table key :=
  ⟨updateWhere (fun r => key r == key row) (fun _ => row) table.rows, by
    have column : (updateWhere (fun r => key r == key row) (fun _ => row) table.rows).map key =
        table.rows.map key := by
      simp only [updateWhere, List.map_map]
      exact List.map_congr_left fun r _ => by
        by_cases hit : key r = key row <;> simp [hit]
    rw [column]
    exact table.unique⟩

theorem put_rows (table : Table key) (row : α) :
    (table.put row).rows = updateWhere (fun r => key r == key row) (fun _ => row) table.rows := rfl

theorem mem_put {table : Table key} {row other : α} :
    other ∈ (table.put row).rows ↔
      (other ∈ table.rows ∧ key other ≠ key row) ∨ (other = row ∧ ∃ old ∈ table.rows, key old = key row) := by
  rw [put_rows, mem_updateWhere]
  constructor
  · rintro (⟨member, miss⟩ | ⟨old, member, hit, rfl⟩)
    · exact .inl ⟨member, by simpa using miss⟩
    · exact .inr ⟨rfl, old, member, by simpa using hit⟩
  · rintro (⟨member, miss⟩ | ⟨rfl, old, member, hit⟩)
    · exact .inl ⟨member, by simpa using miss⟩
    · exact .inr ⟨old, member, by simpa using hit, rfl⟩

@[simp] theorem put_keys (table : Table key) (row : α) :
    (table.put row).rows.map key = table.rows.map key := by
  rw [put_rows]
  simp only [updateWhere, List.map_map]
  exact List.map_congr_left fun r _ => by
    by_cases hit : key r = key row <;> simp [hit]

/-- A second write over a row is the only one that lasts. -/
theorem put_put {table : Table key} {first : α} (second : α) (same : key first = key second) :
    (table.put first).put second = table.put second := by
  apply ext_rows
  simp only [put_rows, updateWhere, List.map_map]
  refine List.map_congr_left fun row _ => ?_
  by_cases hit : key row = key second
  · simp [same, hit]
  · simp [same, hit]

/-- Writing a row back as it is changes nothing. -/
theorem put_self {table : Table key} {row : α} (found : table.find (key row) = some row) :
    table.put row = table := by
  apply ext_rows
  rw [put_rows, updateWhere]
  refine (List.map_congr_left fun other member => ?_).trans (List.map_id _)
  by_cases hit : key other = key row
  · have same := eq_of_key_eq table.unique member (find_mem found) hit
    simp [same]
  · simp [hit]

/-- An update that selects one row of the table writes that row back. -/
theorem update_eq_put {table : Table key} {selected : α → Bool} {change : α → α}
    {kept : ∀ row, key (change row) = key row} {row : α} (member : row ∈ table.rows)
    (hit : selected row = true) (only : ∀ other ∈ table.rows, selected other = true → key other = key row) :
    table.update selected change kept = table.put (change row) := by
  apply ext_rows
  rw [update_rows, put_rows, updateWhere, updateWhere]
  refine List.map_congr_left fun other inTable => ?_
  by_cases same : key other = key row
  · have this : other = row := eq_of_key_eq table.unique inTable member same
    simp [this, hit, kept]
  · have miss : selected other = false := by
      by_contra picked
      exact same (only other inTable (by simpa using picked))
    simp [miss, kept, same]

theorem find_put_self {table : Table key} (row : α) {old : α} (found : table.find (key row) = some old) :
    (table.put row).find (key row) = some row :=
  find_eq_some.mpr ⟨mem_put.mpr (.inr ⟨rfl, old, find_mem found, find_key found⟩), rfl⟩

theorem find_put_of_ne {table : Table key} {row : α} {k : κ} (differ : k ≠ key row) :
    (table.put row).find k = table.find k := by
  cases at_ : table.find k with
  | none =>
    rw [find_eq_none] at at_ ⊢
    intro other member
    rcases mem_put.mp member with ⟨old, -⟩ | ⟨rfl, -⟩
    · exact at_ other old
    · exact differ.symm
  | some other =>
    obtain ⟨member, rfl⟩ := find_eq_some.mp at_
    exact find_eq_some.mpr ⟨mem_put.mpr (.inl ⟨member, differ⟩), rfl⟩

theorem find_put {table : Table key} {row old : α} {k : κ} (found : table.find (key row) = some old) :
    (table.put row).find k = if k = key row then some row else table.find k := by
  by_cases same : k = key row
  · rw [if_pos same, same, find_put_self row found]
  · rw [if_neg same, find_put_of_ne same]

/-- Putting one row changes a sum by that row. -/
theorem total_put {table : Table key} {row old : α} (f : α → Nat)
    (found : table.find (key row) = some old) :
    total f (table.put row).rows + f old = total f table.rows + f row := by
  have same := find_key found
  have step := total_updateKey f (fun _ => row) table.unique (find_mem found)
  rw [put_rows, ← same]
  exact step

/-- `INSERT … ON CONFLICT DO NOTHING`. -/
def insertNew (table : Table key) (row : α) : Table key :=
  if fresh : key row ∈ table.rows.map key then table else table.insert row fresh

theorem insertNew_of_mem {table : Table key} {row : α} (taken : key row ∈ table.rows.map key) :
    table.insertNew row = table := by
  simp [insertNew, taken]

theorem insertNew_of_not_mem {table : Table key} {row : α} (fresh : key row ∉ table.rows.map key) :
    table.insertNew row = table.insert row fresh := by
  simp [insertNew, fresh]

theorem mem_insertNew {table : Table key} {row other : α} :
    other ∈ (table.insertNew row).rows ↔
      other ∈ table.rows ∨ (other = row ∧ key row ∉ table.rows.map key) := by
  by_cases taken : key row ∈ table.rows.map key
  · simp [insertNew_of_mem taken, taken]
  · rw [insertNew_of_not_mem taken, insert_rows, List.mem_append, List.mem_singleton]
    constructor
    · rintro (old | new)
      · exact .inl old
      · exact .inr ⟨new, taken⟩
    · rintro (old | ⟨new, -⟩)
      · exact .inl old
      · exact .inr new

theorem find_insert {table : Table key} {row : α} {k : κ} (fresh : key row ∉ table.rows.map key) :
    (table.insert row fresh).find k = if k = key row then some row else table.find k := by
  by_cases same : k = key row
  · subst same
    rw [if_pos rfl]
    exact find_eq_some.mpr ⟨by simp, rfl⟩
  · rw [if_neg same]
    unfold find
    rw [insert_rows, List.find?_append]
    have miss : ([row].find? fun r => key r == k) = none := by
      simp [Ne.symm same]
    rw [miss, Option.or_none]

/-- `DELETE … WHERE NOT selected`, and `Map.delete` for every key whose row is not selected. -/
def filter (table : Table key) (selected : α → Bool) : Table key :=
  ⟨table.rows.filter selected, table.unique.sublist (List.filter_sublist.map key)⟩

omit [DecidableEq κ] in
@[simp] theorem filter_rows (table : Table key) (selected : α → Bool) :
    (table.filter selected).rows = table.rows.filter selected := rfl

theorem find_filter {table : Table key} {selected : α → Bool} {k : κ} :
    (table.filter selected).find k = (table.find k).filter selected := by
  cases found : table.find k with
  | none =>
    refine find_eq_none.mpr fun row member => ?_
    exact find_eq_none.mp found row (List.mem_filter.mp member).1
  | some row =>
    cases kept : selected row with
    | true =>
      rw [Option.filter_some, if_pos kept]
      exact find_eq_some.mpr ⟨List.mem_filter.mpr ⟨find_mem found, kept⟩, find_key found⟩
    | false =>
      rw [Option.filter_some, if_neg (by simp [kept])]
      refine find_eq_none.mpr fun other member same => ?_
      obtain ⟨inTable, chosen⟩ := List.mem_filter.mp member
      have there := find_eq_some.mpr ⟨inTable, same⟩
      rw [found] at there
      cases there
      rw [kept] at chosen
      cases chosen

/-- `Map.delete`. -/
def erase (table : Table key) (k : κ) : Table key := table.filter fun row => key row ≠ k

theorem mem_erase {table : Table key} {k : κ} {row : α} :
    row ∈ (table.erase k).rows ↔ row ∈ table.rows ∧ key row ≠ k := by
  simp [erase]

theorem find_erase_of_ne {table : Table key} {k other : κ} (differ : k ≠ other) :
    (table.erase other).find k = table.find k := by
  cases found : table.find k with
  | none =>
    refine find_eq_none.mpr fun row member => ?_
    exact find_eq_none.mp found row (mem_erase.mp member).1
  | some row =>
    refine find_eq_some.mpr ⟨mem_erase.mpr ⟨find_mem found, ?_⟩, find_key found⟩
    rw [find_key found]
    exact differ

theorem find_erase_self (table : Table key) (k : κ) : (table.erase k).find k = none :=
  find_eq_none.mpr fun _ member => (mem_erase.mp member).2

/-- `Map.set`; the row set comes last. -/
def set (table : Table key) (row : α) : Table key :=
  (table.erase (key row)).insert row fun taken => by
    obtain ⟨other, member, same⟩ := List.mem_map.mp taken
    exact (mem_erase.mp member).2 same

theorem mem_set {table : Table key} {row other : α} :
    other ∈ (table.set row).rows ↔ (other ∈ table.rows ∧ key other ≠ key row) ∨ other = row := by
  simp [set, mem_erase]

theorem total_filter_key (f : α → Nat) {rows : List α} {row : α} (unique : (rows.map key).Nodup) (member : row ∈ rows) :
    total f rows = total f (rows.filter fun other => key other ≠ key row) + f row := by
  induction rows with
  | nil => cases member
  | cons first rest ih =>
    obtain ⟨apart, distinct⟩ := List.nodup_cons.mp unique
    rcases List.mem_cons.mp member with rfl | later
    · have kept : rest.filter (fun other => key other ≠ key row) = rest := by
        refine List.filter_eq_self.mpr fun other inRest => ?_
        have differ : key other ≠ key row := fun same => apart (List.mem_map.mpr ⟨other, inRest, same⟩)
        simpa using differ
      rw [List.filter_cons_of_neg (by simp), kept, total_cons]
      omega
    · have differ : key first ≠ key row := fun same => apart (List.mem_map.mpr ⟨row, later, same.symm⟩)
      rw [List.filter_cons_of_pos (by simpa using differ), total_cons, total_cons, ih distinct later]
      omega

/-- What an erased key held. -/
theorem total_erase (f : α → Nat) {table : Table key} {k : κ} {row : α} (found : table.find k = some row) :
    total f table.rows = total f (table.erase k).rows + f row := by
  obtain ⟨member, rfl⟩ := find_eq_some.mp found
  exact total_filter_key f table.unique member

theorem erase_of_none {table : Table key} {k : κ} (none : table.find k = none) : table.erase k = table := by
  refine ext_rows (List.filter_eq_self.mpr fun row member => ?_)
  simpa using find_eq_none.mp none row member

omit [DecidableEq κ] in
theorem total_filter_le (f : α → Nat) (table : Table key) (selected : α → Bool) :
    total f (table.filter selected).rows ≤ total f table.rows :=
  Lib.total_filter_le f selected table.rows

theorem total_set (f : α → Nat) (table : Table key) (row : α) :
    total f (table.set row).rows = total f (table.erase (key row)).rows + f row := by
  simp [set]

theorem find_set {table : Table key} {row : α} {k : κ} :
    (table.set row).find k = if k = key row then some row else table.find k := by
  unfold set
  rw [find_insert]
  by_cases same : k = key row
  · rw [if_pos same, if_pos same]
  · rw [if_neg same, if_neg same, find_erase_of_ne same]

theorem find_set_self (table : Table key) (row : α) : (table.set row).find (key row) = some row := by
  rw [find_set, if_pos rfl]

theorem find_update {table : Table key} {selected : α → Bool} {change : α → α} {kept : ∀ row, key (change row) = key row}
    {k : κ} : (table.update selected change kept).find k =
      (table.find k).map fun row => if selected row then change row else row := by
  have keyed : ∀ row, key (if selected row then change row else row) = key row := by
    intro row
    split
    · exact kept row
    · rfl
  cases found : table.find k with
  | none =>
    refine find_eq_none.mpr fun row member => ?_
    obtain ⟨old, inTable, rfl⟩ := List.mem_map.mp member
    rw [keyed]
    exact find_eq_none.mp found old inTable
  | some row =>
    obtain ⟨member, same⟩ := find_eq_some.mp found
    exact find_eq_some.mpr ⟨List.mem_map_of_mem member, (keyed row).trans same⟩

theorem find_put_over {table : Table key} {k : κ} {old row : α} (found : table.find k = some old)
    (same : key row = key old) : (table.put row).find k = some row := by
  obtain rfl : key row = k := same.trans (find_key found)
  exact find_put_self row found

theorem find_insert_kept {table : Table key} {row old : α} {k : κ} (fresh : key row ∉ table.rows.map key)
    (found : table.find k = some old) : (table.insert row fresh).find k = some old := by
  rw [find_insert, if_neg, found]
  rintro rfl
  exact fresh (List.mem_map.mpr ⟨old, find_mem found, find_key found⟩)

theorem find_isSome_of_key {before after : Table key} (same : after.rows.map key = before.rows.map key) {k : κ} {row : α}
    (found : after.find k = some row) : ∃ old, before.find k = some old := by
  have inKeys : k ∈ after.rows.map key := List.mem_map.mpr ⟨row, find_mem found, find_key found⟩
  rw [same] at inKeys
  obtain ⟨old, member, rfl⟩ := List.mem_map.mp inKeys
  exact ⟨old, find_of_mem member⟩

omit [DecidableEq κ] in
theorem any_update {table : Table key} {selected test : α → Bool} {change : α → α}
    (kept : ∀ row, key (change row) = key row) (same : ∀ row, test (change row) = test row) :
    (table.update selected change kept).rows.any test = table.rows.any test := by
  rw [update_rows, updateWhere, List.any_map]
  congr 1
  funext row
  simp only [Function.comp_apply]
  split
  · exact same row
  · rfl

/-- The rows of `INSERT … SELECT … ON CONFLICT DO NOTHING`. -/
def insertAll (table : Table key) (rows : List α) : Table key := rows.foldl insertNew table

theorem find_insertNew {table : Table key} {row : α} {k : κ} :
    (table.insertNew row).find k = (table.find k).or (if k = key row then some row else none) := by
  by_cases taken : key row ∈ table.rows.map key
  · rw [insertNew_of_mem taken]
    obtain ⟨old, member, same⟩ := List.mem_map.mp taken
    cases found : table.find k with
    | some other => rfl
    | none =>
      rw [if_neg]
      · rfl
      · rintro rfl
        exact find_eq_none.mp found old member same
  · rw [insertNew_of_not_mem taken, find_insert]
    split
    · rename_i same
      have none : table.find k = none := find_eq_none.mpr fun other member here =>
        taken (List.mem_map.mpr ⟨other, member, here.trans same⟩)
      rw [none]
      rfl
    · cases table.find k <;> rfl

theorem find_insertAll {table : Table key} {rows : List α} {k : κ} :
    (table.insertAll rows).find k = (table.find k).or (rows.find? fun row => key row == k) := by
  induction rows generalizing table with
  | nil => exact Option.or_none.symm
  | cons row rows ih =>
    have rest : (table.insertAll (row :: rows)).find k = ((table.insertNew row).insertAll rows).find k := rfl
    rw [rest, ih, find_insertNew, List.find?_cons]
    by_cases same : k = key row
    · rw [if_pos same, beq_iff_eq.mpr same.symm]
      cases table.find k <;> rfl
    · rw [if_neg same, beq_eq_false_iff_ne.mpr (Ne.symm same)]
      cases table.find k <;> rfl

omit [DecidableEq κ] in
/-- The rows of a table, seen as others of the same keys. -/
theorem unique_map {β : Type} {key' : β → κ} (table : Table key) (view : α → β) (same : ∀ row, key' (view row) = key row) :
    ((table.rows.map view).map key').Nodup := by
  rw [List.map_map, show key' ∘ view = key from funext same]
  exact table.unique

def map {β : Type} {key' : β → κ} (table : Table key) (view : α → β) (same : ∀ row, key' (view row) = key row) :
    Table key' := ⟨table.rows.map view, table.unique_map view same⟩

theorem find_map {β : Type} {key' : β → κ} (table : Table key) (view : α → β) (same : ∀ row, key' (view row) = key row)
    (k : κ) : (table.map view same).find k = (table.find k).map view := by
  unfold find map
  rw [List.find?_map]
  congr 1
  refine congrArg (table.rows.find? ·) (funext fun row => ?_)
  show (key' (view row) == k) = (key row == k)
  rw [same]

/-- A key larger than every key in use. -/
def nextKey {key : α → Nat} (table : Table key) : Nat :=
  (table.rows.map key).foldr max 0 + 1

theorem lt_nextKey {key : α → Nat} {table : Table key} {row : α} (member : row ∈ table.rows) :
    key row < table.nextKey := by
  unfold nextKey
  have bound : ∀ (keys : List Nat) (k : Nat), k ∈ keys → k ≤ keys.foldr max 0 := by
    intro keys
    induction keys with
    | nil => intro k none; exact absurd none List.not_mem_nil
    | cons head keys ih =>
      intro k here
      rw [List.foldr_cons]
      rcases List.mem_cons.mp here with rfl | later
      · exact Nat.le_max_left _ _
      · exact (ih k later).trans (Nat.le_max_right _ _)
  exact Nat.lt_succ_of_le (bound _ _ (List.mem_map_of_mem member))

theorem nextKey_fresh {key : α → Nat} (table : Table key) : table.nextKey ∉ table.rows.map key := by
  intro taken
  obtain ⟨row, member, same⟩ := List.mem_map.mp taken
  have below := lt_nextKey member
  omega

end Table
end LetterIRL.Lib
