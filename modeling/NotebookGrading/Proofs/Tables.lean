import Mathlib.Data.List.Sort
import NotebookGrading.Table

/-
  Laws of tables.

  The entries of a table are exactly its lookups, because
  no key stands in a table twice, so tables with the same
  lookups are equal. A table is built again from its
  entries.

  Key definitions include:
    * `Table.insertAll`

  Main statements:
    * `Table.find?_eq_some_iff`
    * `Table.ext_find?`
    * `Table.mem_values_iff`
    * `Table.insert_insert`
    * `Table.erase_erase`
    * `Table.ofList_entries`
    * `Table.find?_ofList`
    * `Table.insertAll_insertAll`
    * `Table.insertAll_perm`
-/

namespace NotebookGrading

------------------------------------------------------------
-- Entry Lists
------------------------------------------------------------

namespace Entries

variable {α : Type}

theorem mem_of_find?_eq_some
    {key : String}
    {value : α}
    {entries : List (String × α)}
    (h : find? key entries = some value) :
    (key, value) ∈ entries := by
  induction entries with
  | nil => simp [find?] at h
  | cons head rest ih =>
      rcases head with ⟨k, v⟩
      by_cases hKey : k = key
      · have hValue : v = value := by
          simpa [find?, hKey] using h
        simp [hKey, hValue]
      · have hRest : find? key rest = some value := by
          simpa [find?, hKey] using h
        exact List.mem_cons_of_mem _ (ih hRest)

/- In an ascending list every entry is found. -/
theorem find?_of_mem
    {key : String}
    {value : α}
    {entries : List (String × α)}
    (hAscending : Ascending entries)
    (hMem : (key, value) ∈ entries) :
    find? key entries = some value := by
  induction entries with
  | nil => simp at hMem
  | cons head rest ih =>
      rcases head with ⟨k, v⟩
      have hHead : ∀ entry ∈ rest, k < entry.1 :=
        fun _ hEntry =>
          List.rel_of_pairwise_cons hAscending hEntry
      rcases List.mem_cons.1 hMem with hEq | hRest
      · have hKey : k = key := (congrArg Prod.fst hEq).symm
        have hValue : v = value :=
          (congrArg Prod.snd hEq).symm
        simp [find?, hKey, hValue]
      · have hNe : k ≠ key :=
          String.ne_of_lt (hHead _ hRest)
        simpa [find?, hNe] using
          ih (List.Pairwise.of_cons hAscending) hRest

/- Storing a key above all others appends its entry. -/
theorem insert_of_forall_lt
    {key : String}
    (value : α)
    {entries : List (String × α)}
    (h : ∀ entry ∈ entries, entry.1 < key) :
    insert key value entries =
      entries ++ [(key, value)] := by
  induction entries with
  | nil => rfl
  | cons head rest ih =>
      rcases head with ⟨k, v⟩
      have hLt : k < key := h (k, v) List.mem_cons_self
      have hNotLt : ¬ key < k := String.lt_asymm hLt
      have hNe : key ≠ k := (String.ne_of_lt hLt).symm
      have hRest : ∀ entry ∈ rest, entry.1 < key :=
        fun entry hEntry =>
          h entry (List.mem_cons_of_mem _ hEntry)
      simp [insert, hNotLt, hNe, ih hRest]

/- Of two values stored under one key the later stays. -/
theorem insert_insert
    (key : String)
    (first second : α)
    (entries : List (String × α)) :
    insert key second (insert key first entries) =
      insert key second entries := by
  induction entries with
  | nil => simp [insert]
  | cons head rest ih =>
      rcases head with ⟨k, v⟩
      by_cases hLt : key < k
      · simp [insert, hLt]
      · by_cases hEq : key = k
        · simp [insert, hEq]
        · simp [insert, hLt, hEq, ih]

/- A lookup goes on behind the first entries. -/
theorem find?_append
    (key : String)
    (front back : List (String × α)) :
    find? key (front ++ back) =
      (find? key front).or (find? key back) := by
  induction front with
  | nil => rfl
  | cons entry rest ih =>
      rcases entry with ⟨k, v⟩
      by_cases hKey : k = key
      · simp [find?, hKey]
      · simp [find?, hKey, ih]

theorem find?_eq_none_iff
    {key : String}
    {entries : List (String × α)} :
    find? key entries = none ↔
      key ∉ entries.map Prod.fst := by
  induction entries with
  | nil => simp [find?]
  | cons entry rest ih =>
      rcases entry with ⟨k, v⟩
      by_cases hKey : k = key
      · simp [find?, hKey]
      · simp [find?, hKey, ih, Ne.symm hKey]

/- Entries of other keys make no difference. -/
theorem find?_filter
    {keep : String → Bool}
    {key : String}
    (h : keep key = true)
    (entries : List (String × α)) :
    find? key (entries.filter (fun entry => keep entry.1)) =
      find? key entries := by
  induction entries with
  | nil => rfl
  | cons entry rest ih =>
      rcases entry with ⟨k, v⟩
      by_cases hKey : k = key
      · subst hKey
        simp [h, find?]
      · cases hKeep : keep k <;>
          simp [hKeep, find?, hKey, ih]

/- Among different keys every entry is found. -/
theorem find?_of_mem_of_nodup
    {key : String}
    {value : α}
    {entries : List (String × α)}
    (hNodup : (entries.map Prod.fst).Nodup)
    (hMem : (key, value) ∈ entries) :
    find? key entries = some value := by
  induction entries with
  | nil => exact absurd hMem List.not_mem_nil
  | cons entry rest ih =>
      rcases entry with ⟨k, v⟩
      rcases List.nodup_cons.1 hNodup with ⟨hNew, hRest⟩
      rcases List.mem_cons.1 hMem with hHead | hTail
      · cases hHead
        simp [find?]
      · have hKey : key ∈ rest.map Prod.fst :=
          List.mem_map.2 ⟨(key, value), hTail, rfl⟩
        have hNe : k ≠ key := by
          rintro rfl
          exact hNew hKey
        simp [find?, hNe, ih hRest hTail]

/- Without repeated keys the order makes no difference. -/
theorem find?_perm
    {entries others : List (String × α)}
    (hPerm : entries.Perm others)
    (hNodup : (entries.map Prod.fst).Nodup)
    (key : String) :
    find? key entries = find? key others := by
  have hKeys := hPerm.map Prod.fst
  cases hFind : find? key others with
  | none =>
      rw [find?_eq_none_iff] at hFind ⊢
      rw [hKeys.mem_iff]
      exact hFind
  | some value =>
      exact
        find?_of_mem_of_nodup hNodup
          (hPerm.symm.subset (mem_of_find?_eq_some hFind))

theorem find?_reverse
    {entries : List (String × α)}
    (hNodup : (entries.map Prod.fst).Nodup)
    (key : String) :
    find? key entries.reverse = find? key entries :=
  (find?_perm (List.reverse_perm entries).symm hNodup
    key).symm

end Entries

------------------------------------------------------------
-- Lookups And Values
------------------------------------------------------------

namespace Table

variable {α : Type}

theorem find?_eq_some_iff
    {table : Table α}
    {key : String}
    {value : α} :
    table.find? key = some value ↔
      (key, value) ∈ table.entries :=
  ⟨Entries.mem_of_find?_eq_some,
    Entries.find?_of_mem table.ascending⟩

/- Tables with the same lookups are equal. -/
theorem ext_find?
    {left right : Table α}
    (h : ∀ key, left.find? key = right.find? key) :
    left = right := by
  let before := fun a b : String × α => a.1 < b.1
  have hAntisymm : Std.Antisymm before :=
    ⟨fun _ _ hLt hGt => absurd hGt (String.lt_asymm hLt)⟩
  have hIrrefl : Std.Irrefl before :=
    ⟨fun entry => String.lt_irrefl entry.1⟩
  apply ext_entries
  apply
    List.Pairwise.eq_of_mem_iff (r := before) left.ascending
      right.ascending
  rintro ⟨key, value⟩
  rw [← find?_eq_some_iff, ← find?_eq_some_iff, h]

/- The values are what the keys lead to. -/
theorem mem_values_iff
    {table : Table α}
    {value : α} :
    value ∈ table.values ↔
      ∃ key, table.find? key = some value := by
  constructor
  · intro hMem
    rcases List.mem_map.1 hMem with ⟨entry, hEntry, hValue⟩
    refine ⟨entry.1, ?_⟩
    rw [find?_eq_some_iff, ← hValue]
    exact hEntry
  · rintro ⟨key, hFind⟩
    exact List.mem_map.2
      ⟨(key, value), find?_eq_some_iff.1 hFind, rfl⟩

theorem mem_values_insert
    {table : Table α}
    {key : String}
    {stored value : α}
    (hMem : value ∈ (table.insert key stored).values) :
    value = stored ∨ value ∈ table.values := by
  rcases List.mem_map.1 hMem with ⟨entry, hEntry, hValue⟩
  rcases Entries.mem_insert hEntry with hNew | hOld
  · left
    rw [← hValue, hNew]
  · right
    exact List.mem_map.2 ⟨entry, hOld, hValue⟩

theorem mem_keys_iff
    {table : Table α}
    {key : String} :
    key ∈ table.keys ↔ table.contains key := by
  rw [contains, Option.isSome_iff_exists]
  constructor
  · intro hMem
    rcases List.mem_map.1 hMem with ⟨entry, hEntry, hKey⟩
    refine ⟨entry.2, ?_⟩
    rw [find?_eq_some_iff, ← hKey]
    exact hEntry
  · rintro ⟨value, hFind⟩
    exact List.mem_map.2
      ⟨(key, value), find?_eq_some_iff.1 hFind, rfl⟩

/- The keys are ascending, so none stands there twice. -/
theorem pairwise_keys
    (table : Table α) :
    table.keys.Pairwise (fun first second => first < second) :=
  List.pairwise_map.2 table.ascending

theorem isEmpty_iff
    {table : Table α} :
    table.isEmpty ↔ ∀ key, table.find? key = none := by
  rw [isEmpty, List.isEmpty_iff]
  constructor
  · intro hNil key
    simp [find?, hNil, Entries.find?]
  · intro hNone
    apply List.eq_nil_iff_forall_not_mem.2
    intro entry hMem
    have hFind := find?_eq_some_iff.2 hMem
    simp [hNone] at hFind

/- Of two values stored under one key the later stays. -/
@[simp]
theorem insert_insert
    (table : Table α)
    (key : String)
    (first second : α) :
    (table.insert key first).insert key second =
      table.insert key second :=
  ext_entries
    (Entries.insert_insert key first second table.entries)

/- A key that is gone cannot be forgotten again. -/
theorem erase_erase
    (table : Table α)
    (key : String) :
    (table.erase key).erase key = table.erase key := by
  apply ext_find?
  intro other
  by_cases hKey : key = other
  · rw [← hKey, find?_erase_self, find?_erase_self]
  · rw [find?_erase_ne _ hKey]

------------------------------------------------------------
-- Tables From Their Entries
------------------------------------------------------------

/-
  Storing ascending entries behind those of a table appends
  them.
-/
theorem foldl_insert_entries
    (entries : List (String × α))
    (table : Table α)
    (hAscending :
      Entries.Ascending (table.entries ++ entries)) :
    (entries.foldl
      (fun table entry => table.insert entry.1 entry.2)
      table).entries = table.entries ++ entries := by
  induction entries generalizing table with
  | nil => simp
  | cons entry rest ih =>
      have hLt : ∀ e ∈ table.entries, e.1 < entry.1 := by
        intro e hMem
        exact (List.pairwise_append.1 hAscending).2.2
          e hMem entry List.mem_cons_self
      have hInsert :
          (table.insert entry.1 entry.2).entries =
            table.entries ++ [entry] :=
        Entries.insert_of_forall_lt entry.2 hLt
      rw [List.foldl_cons, ih]
      · simp [hInsert]
      · simpa [hInsert] using hAscending

/- A table is built again from its entries. -/
theorem ofList_entries
    (table : Table α) :
    ofList table.entries = table := by
  apply ext_entries
  have hFold :=
    foldl_insert_entries table.entries empty
      (by simpa [empty] using table.ascending)
  simpa [ofList, empty] using hFold

theorem find?_foldl_insert
    (entries : List (String × α))
    (table : Table α)
    (key : String) :
    (entries.foldl
      (fun table entry => table.insert entry.1 entry.2)
      table).find? key =
      (Entries.find? key entries.reverse).or
        (table.find? key) := by
  induction entries generalizing table with
  | nil => rfl
  | cons entry rest ih =>
      rw [List.foldl_cons, ih, List.reverse_cons,
        Entries.find?_append, Option.or_assoc]
      by_cases hKey : entry.1 = key
      · simp [Entries.find?, hKey]
      · simp [Entries.find?, hKey, find?_insert_ne]

/- Of several entries with one key the last counts. -/
theorem find?_ofList
    (entries : List (String × α))
    (key : String) :
    (ofList entries).find? key =
      Entries.find? key entries.reverse := by
  rw [ofList, find?_foldl_insert, find?_empty,
    Option.or_none]

theorem contains_ofList_iff
    {entries : List (String × α)}
    {key : String} :
    (ofList entries).contains key ↔
      key ∈ entries.map Prod.fst := by
  have hNone :
      Entries.find? key entries.reverse = none ↔
        key ∉ entries.reverse.map Prod.fst :=
    Entries.find?_eq_none_iff
  rw [List.map_reverse, List.mem_reverse] at hNone
  rw [contains, find?_ofList, Option.isSome_iff_ne_none,
    Ne, hNone, Decidable.not_not]

/- The keys of a table are those it was built from. -/
theorem exists_of_mem_keys_ofList
    {entries : List (String × α)}
    {key : String}
    (hMem : key ∈ (ofList entries).keys) :
    ∃ entry ∈ entries, entry.1 = key := by
  rw [mem_keys_iff, contains, find?_ofList,
    Option.isSome_iff_exists] at hMem
  rcases hMem with ⟨value, hFind⟩
  exact
    ⟨(key, value),
      List.mem_reverse.1
        (Entries.mem_of_find?_eq_some hFind), rfl⟩

theorem mem_values_foldl_insert
    {entries : List (String × α)}
    {table : Table α}
    {value : α}
    (hMem : value ∈
      (entries.foldl
        (fun table entry => table.insert entry.1 entry.2)
        table).values) :
    value ∈ table.values ∨
      ∃ entry ∈ entries, entry.2 = value := by
  induction entries generalizing table with
  | nil => exact .inl hMem
  | cons entry rest ih =>
      rw [List.foldl_cons] at hMem
      rcases ih hMem with hTable | ⟨other, hOther, hValue⟩
      · rcases mem_values_insert hTable with hNew | hOld
        · exact .inr
            ⟨entry, List.mem_cons_self, hNew.symm⟩
        · exact .inl hOld
      · exact .inr
          ⟨other, List.mem_cons_of_mem entry hOther, hValue⟩

/- The values of a table are those it was built from. -/
theorem mem_values_ofList
    {entries : List (String × α)}
    {value : α}
    (hMem : value ∈ (ofList entries).values) :
    ∃ entry ∈ entries, entry.2 = value := by
  rcases mem_values_foldl_insert hMem with hEmpty | hEntry
  · cases hEmpty
  · exact hEntry

------------------------------------------------------------
-- Several Entries
------------------------------------------------------------

/- Store entries in turn; a later entry wins. -/
def insertAll
    (table : Table α)
    (entries : List (String × α)) : Table α :=
  entries.foldl
    (fun table entry => table.insert entry.1 entry.2)
    table

theorem find?_insertAll
    (table : Table α)
    (entries : List (String × α))
    (key : String) :
    (table.insertAll entries).find? key =
      (Entries.find? key entries.reverse).or
        (table.find? key) :=
  find?_foldl_insert entries table key

/- Entries that are stored once more change nothing. -/
@[simp]
theorem insertAll_insertAll
    (table : Table α)
    (entries : List (String × α)) :
    (table.insertAll entries).insertAll entries =
      table.insertAll entries := by
  apply ext_find?
  intro key
  rw [find?_insertAll, find?_insertAll]
  cases Entries.find? key entries.reverse with
  | none => rfl
  | some value => rfl

/- Entries of different keys can be stored in any order. -/
theorem insertAll_perm
    (table : Table α)
    {entries others : List (String × α)}
    (hPerm : entries.Perm others)
    (hNodup : (entries.map Prod.fst).Nodup) :
    table.insertAll entries = table.insertAll others := by
  apply ext_find?
  intro key
  have hOthers : (others.map Prod.fst).Nodup :=
    (hPerm.map Prod.fst).nodup_iff.1 hNodup
  rw [find?_insertAll, find?_insertAll,
    Entries.find?_reverse hNodup,
    Entries.find?_reverse hOthers,
    Entries.find?_perm hPerm hNodup]

end Table

end NotebookGrading
