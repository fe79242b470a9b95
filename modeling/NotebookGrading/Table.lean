/-
  Tables: finite maps from text keys, kept in ascending key
  order.

  Keys are ordered by code point, which is also the order
  of their UTF-8 bytes. The order is part of the type, so
  two tables with the same lookups are equal.

  Key definitions include:
    * `Table`
    * `Table.find?`
    * `Table.insert`
    * `Table.erase`
    * `Table.ofList`
    * `Table.keys`
    * `Table.values`

  Key theorems include:
    * `Table.find?_insert_self`
    * `Table.find?_insert_ne`
    * `Table.find?_erase_self`
    * `Table.find?_erase_ne`
-/

namespace NotebookGrading

------------------------------------------------------------
-- Ascending Entry Lists
------------------------------------------------------------

namespace Entries

variable {α : Type}

/- Keys grow strictly from each entry to every later one. -/
def Ascending
    (entries : List (String × α)) : Prop :=
  entries.Pairwise (fun a b => a.1 < b.1)

/- The value stored under a key. -/
def find?
    (key : String) :
    List (String × α) → Option α
  | [] => none
  | (k, v) :: rest =>
      if k = key then some v else find? key rest

/-
  Store a value in front of the first larger key,
  replacing the entry that has the same key.
-/
def insert
    (key : String)
    (value : α) :
    List (String × α) → List (String × α)
  | [] => [(key, value)]
  | (k, v) :: rest =>
      if key < k then
        (key, value) :: (k, v) :: rest
      else if key = k then
        (key, value) :: rest
      else
        (k, v) :: insert key value rest

/- Drop the entries of a key. -/
def erase
    (key : String)
    (entries : List (String × α)) :
    List (String × α) :=
  entries.filter (fun entry => entry.1 ≠ key)

theorem mem_insert
    {key : String}
    {value : α}
    {entry : String × α}
    {entries : List (String × α)}
    (h : entry ∈ insert key value entries) :
    entry = (key, value) ∨ entry ∈ entries := by
  induction entries with
  | nil => simpa [insert] using h
  | cons head rest ih =>
      obtain ⟨k, v⟩ := head
      unfold insert at h
      split at h
      · simpa using h
      · split at h
        · rcases List.mem_cons.1 h with h | h
          · exact Or.inl h
          · exact Or.inr (List.mem_cons_of_mem _ h)
        · rcases List.mem_cons.1 h with h | h
          · exact Or.inr (h ▸ List.mem_cons_self)
          · rcases ih h with h | h
            · exact Or.inl h
            · exact Or.inr (List.mem_cons_of_mem _ h)

theorem lt_of_not_lt_of_ne
    {a b : String}
    (hLt : ¬ a < b)
    (hNe : a ≠ b) :
    b < a := by
  apply Decidable.byContradiction
  intro h
  exact hNe
    (String.le_antisymm
      (String.not_lt.1 h) (String.not_lt.1 hLt))

/- Insertion keeps the keys ascending. -/
theorem insert_ascending
    (key : String)
    (value : α)
    {entries : List (String × α)}
    (h : Ascending entries) :
    Ascending (insert key value entries) := by
  induction entries with
  | nil => simp [insert, Ascending]
  | cons head rest ih =>
      obtain ⟨k, v⟩ := head
      have hHead : ∀ entry ∈ rest, k < entry.1 :=
        fun _ hEntry => List.rel_of_pairwise_cons h hEntry
      have hRest : Ascending rest :=
        List.Pairwise.of_cons h
      unfold insert
      split
      · rename_i hLt
        refine List.Pairwise.cons ?_ h
        intro entry hEntry
        rcases List.mem_cons.1 hEntry with hEntry | hEntry
        · exact hEntry ▸ hLt
        · exact String.lt_trans hLt (hHead _ hEntry)
      · split
        · rename_i _ hEq
          subst hEq
          exact List.Pairwise.cons
            hHead hRest
        · rename_i hLt hNe
          refine List.Pairwise.cons ?_ (ih hRest)
          intro entry hEntry
          rcases mem_insert hEntry with hEntry | hEntry
          · exact hEntry ▸ lt_of_not_lt_of_ne hLt hNe
          · exact hHead _ hEntry

/- Erasing keeps the keys ascending. -/
theorem erase_ascending
    (key : String)
    {entries : List (String × α)}
    (h : Ascending entries) :
    Ascending (erase key entries) :=
  List.Pairwise.filter _ h

theorem find?_insert_self
    (key : String)
    (value : α)
    (entries : List (String × α)) :
    find? key (insert key value entries) =
      some value := by
  induction entries with
  | nil => simp [insert, find?]
  | cons head rest ih =>
      obtain ⟨k, v⟩ := head
      unfold insert
      split
      · simp [find?]
      · split
        · simp [find?]
        · rename_i hNe
          simp [find?, Ne.symm hNe, ih]

theorem find?_insert_ne
    {key other : String}
    (hNe : key ≠ other)
    (value : α)
    (entries : List (String × α)) :
    find? other (insert key value entries) =
      find? other entries := by
  induction entries with
  | nil => simp [insert, find?, hNe]
  | cons head rest ih =>
      obtain ⟨k, v⟩ := head
      unfold insert
      split
      · simp [find?, hNe]
      · split
        · rename_i hEq
          subst hEq
          simp [find?, hNe]
        · simp only [find?, ih]

theorem find?_erase_self
    (key : String)
    (entries : List (String × α)) :
    find? key (erase key entries) = none := by
  induction entries with
  | nil => simp [erase, find?]
  | cons head rest ih =>
      obtain ⟨k, v⟩ := head
      by_cases hEq : k = key
      · simpa [erase, hEq] using ih
      · simpa [erase, hEq, find?] using ih

theorem find?_erase_ne
    {key other : String}
    (hNe : key ≠ other)
    (entries : List (String × α)) :
    find? other (erase key entries) =
      find? other entries := by
  induction entries with
  | nil => simp [erase, find?]
  | cons head rest ih =>
      obtain ⟨k, v⟩ := head
      by_cases hEq : k = key
      · have hOther : k ≠ other := hEq ▸ hNe
        simpa [erase, hEq, find?, hOther, hNe] using ih
      · by_cases hOther : k = other
        · simp [erase, find?, hOther, Ne.symm hNe]
        · simpa [erase, hEq, find?, hOther] using ih

end Entries

------------------------------------------------------------
-- Tables
------------------------------------------------------------

/- A finite map from text keys in ascending key order. -/
structure Table (α : Type) where
  entries : List (String × α)
  ascending : Entries.Ascending entries
deriving DecidableEq

namespace Table

variable {α : Type}

theorem ext_entries
    {left right : Table α}
    (h : left.entries = right.entries) :
    left = right := by
  cases left
  cases right
  cases h
  rfl

/- The table without entries. -/
def empty : Table α :=
  ⟨[], List.Pairwise.nil⟩

instance : Inhabited (Table α) :=
  ⟨empty⟩

def isEmpty
    (table : Table α) : Bool :=
  table.entries.isEmpty

/- The value stored under a key. -/
def find?
    (table : Table α)
    (key : String) : Option α :=
  Entries.find? key table.entries

def contains
    (table : Table α)
    (key : String) : Bool :=
  (table.find? key).isSome

/- Store a value under a key, replacing the earlier one. -/
def insert
    (table : Table α)
    (key : String)
    (value : α) : Table α :=
  ⟨Entries.insert key value table.entries,
    Entries.insert_ascending key value table.ascending⟩

/- Forget a key. -/
def erase
    (table : Table α)
    (key : String) : Table α :=
  ⟨Entries.erase key table.entries,
    Entries.erase_ascending key table.ascending⟩

/- The table of a list of entries; a later entry wins. -/
def ofList
    (entries : List (String × α)) : Table α :=
  entries.foldl
    (fun table entry => table.insert entry.1 entry.2)
    empty

/- The keys in ascending order. -/
def keys
    (table : Table α) : List String :=
  table.entries.map Prod.fst

/- The values in ascending order of their keys. -/
def values
    (table : Table α) : List α :=
  table.entries.map Prod.snd

------------------------------------------------------------
-- Lookups
------------------------------------------------------------

@[simp]
theorem find?_empty
    (key : String) :
    (empty : Table α).find? key = none := by
  rfl

@[simp]
theorem find?_insert_self
    (table : Table α)
    (key : String)
    (value : α) :
    (table.insert key value).find? key = some value :=
  Entries.find?_insert_self key value table.entries

theorem find?_insert_ne
    (table : Table α)
    {key other : String}
    (hNe : key ≠ other)
    (value : α) :
    (table.insert key value).find? other =
      table.find? other :=
  Entries.find?_insert_ne hNe value table.entries

@[simp]
theorem find?_erase_self
    (table : Table α)
    (key : String) :
    (table.erase key).find? key = none :=
  Entries.find?_erase_self key table.entries

theorem find?_erase_ne
    (table : Table α)
    {key other : String}
    (hNe : key ≠ other) :
    (table.erase key).find? other = table.find? other :=
  Entries.find?_erase_ne hNe table.entries

end Table

end NotebookGrading
