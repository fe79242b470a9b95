import NotebookGrading.Json.Record
import NotebookGrading.Proofs.Json.Tokens
import NotebookGrading.Proofs.Tables

/-
  Records and leaves read back from the documents that
  spell them.

  Main statements:
    * `Json.Document.record?_ofMembers`
    * `Json.Document.list?_ofList`
    * `Json.Document.table?_entryMembers`
    * `Json.Document.float?_ofFloat`
    * `Json.Document.readsBack_ofMembers`
-/

namespace NotebookGrading

namespace Json

namespace Document

variable {α : Type}

------------------------------------------------------------
-- Members
------------------------------------------------------------

theorem keyedMembers?_ofMembers
    (members : List (String × Document)) :
    keyedMembers?
        (members.map (fun m => (some m.1, m.2))) =
      some members := by
  unfold keyedMembers?
  induction members with
  | nil => rfl
  | cons m rest ih => simp [member?, ih]

/-
  An object whose members are declared and named
  differently is a record of them.
-/
theorem record?_ofMembers
    {names : List String}
    {members : List (String × Document)}
    (hDeclared : ∀ m ∈ members, m.1 ∈ names)
    (hNodup : (members.map Prod.fst).Nodup) :
    record? names (ofMembers members) =
      some ⟨members, [], false⟩ := by
  have hAll :
      members.filter (fun m => names.contains m.1) =
        members := by
    rw [List.filter_eq_self]
    simpa using hDeclared
  have hNone :
      members.filter (fun m => !names.contains m.1) = [] := by
    rw [List.filter_eq_nil_iff]
    simpa using hDeclared
  simp only [record?, ofMembers, objectRecord?,
    keyedMembers?_ofMembers, Option.bind_eq_bind,
    Option.bind_some, hAll, hNone, hNodup, if_true]

------------------------------------------------------------
-- Leaves
------------------------------------------------------------

@[simp]
theorem text?_ofText
    (text : String) :
    text? (ofText text) = some text :=
  rfl

@[simp]
theorem bool?_bool
    (value : Bool) :
    bool? (bool value) = some value :=
  rfl

/- A double that is not finite has no value any more. -/
theorem float?_ofFloat
    (value : Float) :
    float? (ofFloat value) =
      if value.isFinite then some value else none := by
  unfold ofFloat
  split <;> rfl

theorem optional?_ofOption_ofText
    (value : Option String) :
    optional? text? (ofOption ofText value) =
      some value := by
  cases value <;> rfl

theorem optional?_ofOption_ofFloat
    {value : Option Float}
    (h : ∀ x ∈ value, x.isFinite) :
    optional? float? (ofOption ofFloat value) =
      some value := by
  cases value with
  | none => rfl
  | some x =>
      have hFinite : x.isFinite := h x rfl
      simp [ofOption, ofFloat, hFinite, optional?, float?,
        Number.toFloat]

------------------------------------------------------------
-- Lists And Tables
------------------------------------------------------------

theorem mapM_map_eq_some_map
    {β γ : Type}
    {read? : β → Option γ}
    {write : α → β}
    {change : α → γ}
    {values : List α}
    (h : ∀ value ∈ values,
      read? (write value) = some (change value)) :
    (values.map write).mapM read? =
      some (values.map change) := by
  induction values with
  | nil => rfl
  | cons value rest ih =>
      have hRest := ih (fun v hMem =>
        h v (List.mem_cons_of_mem value hMem))
      simp [h value List.mem_cons_self, hRest]

theorem mapM_map_eq_some
    {β : Type}
    {read? : β → Option α}
    {write : α → β}
    {values : List α}
    (h : ∀ value ∈ values,
      read? (write value) = some value) :
    (values.map write).mapM read? = some values := by
  rw [mapM_map_eq_some_map h, List.map_id']

theorem mapM_map_eq_none
    {β : Type}
    {read? : β → Option α}
    {write : α → β}
    {values : List α}
    {value : α}
    (hMem : value ∈ values)
    (h : read? (write value) = none) :
    (values.map write).mapM read? = none := by
  induction values with
  | nil => simp at hMem
  | cons head rest ih =>
      rcases List.mem_cons.1 hMem with hHead | hRest
      · simp [← hHead, h]
      · simp [ih hRest]

theorem list?_ofList
    {read? : Document → Option α}
    {write : α → Document}
    {values : List α}
    (h : ∀ value ∈ values,
      read? (write value) = some value) :
    list? read? (ofList write values) = some values :=
  mapM_map_eq_some h

/- The members that spell the entries of a table. -/
def entryMembers
    (write : α → Document)
    (table : Table α) : List (String × Document) :=
  table.entries.map (fun entry => (entry.1, write entry.2))

theorem table?_entryMembers_eq
    (read? : Document → Option α)
    (write : α → Document)
    (table : Table α) :
    table? read? (ofMembers (entryMembers write table)) =
      ((table.entries.map (fun entry =>
        (some entry.1, write entry.2))).mapM
          (member? read?)).map Table.ofList := by
  simp only [table?, ofMembers, entryMembers, List.map_map]
  rfl

/- A table is read back if its values are. -/
theorem table?_entryMembers
    {read? : Document → Option α}
    {write : α → Document}
    {table : Table α}
    (h : ∀ value ∈ table.values,
      read? (write value) = some value) :
    table? read? (ofMembers (entryMembers write table)) =
      some table := by
  have hEntries :
      (table.entries.map (fun entry =>
        (some entry.1, write entry.2))).mapM
          (member? read?) = some table.entries := by
    apply mapM_map_eq_some
    intro entry hMem
    have hValue :=
      h entry.2 (List.mem_map_of_mem hMem)
    simp [member?, hValue]
  rw [table?_entryMembers_eq, hEntries]
  simp [Table.ofList_entries]

/- A table with a value that is not read back is refused. -/
theorem table?_entryMembers_eq_none
    {read? : Document → Option α}
    {write : α → Document}
    {table : Table α}
    {value : α}
    (hMem : value ∈ table.values)
    (h : read? (write value) = none) :
    table? read? (ofMembers (entryMembers write table)) =
      none := by
  rcases List.mem_map.1 hMem with ⟨entry, hEntry, rfl⟩
  have hEntries :
      (table.entries.map (fun entry =>
        (some entry.1, write entry.2))).mapM
          (member? read?) = none := by
    apply mapM_map_eq_none hEntry
    simp [member?, h]
  rw [table?_entryMembers_eq, hEntries]
  rfl

------------------------------------------------------------
-- Documents That Read Back
------------------------------------------------------------

theorem readsBack_ofMembers
    {members : List (String × Document)}
    (h : ∀ m ∈ members, m.2.ReadsBack) :
    (ofMembers members).ReadsBack := by
  change
    MembersReadBack
      (members.map (fun m => (some m.1, m.2)))
  induction members with
  | nil => trivial
  | cons m rest ih =>
      refine ⟨rfl, h m List.mem_cons_self, ih ?_⟩
      intro other hMem
      exact h other (List.mem_cons_of_mem m hMem)

theorem readsBack_entryMembers
    {write : α → Document}
    {table : Table α}
    (h : ∀ value ∈ table.values, (write value).ReadsBack) :
    (ofMembers (entryMembers write table)).ReadsBack := by
  apply readsBack_ofMembers
  intro m hMem
  rcases List.mem_map.1 hMem with ⟨entry, hEntry, rfl⟩
  exact h entry.2 (List.mem_map_of_mem hEntry)

theorem readsBack_ofList
    {write : α → Document}
    {values : List α}
    (h : ∀ value ∈ values, (write value).ReadsBack) :
    (ofList write values).ReadsBack := by
  change ItemsReadBack (values.map write)
  induction values with
  | nil => trivial
  | cons value rest ih =>
      refine ⟨h value List.mem_cons_self, ih ?_⟩
      intro other hMem
      exact h other (List.mem_cons_of_mem value hMem)

theorem readsBack_ofOption
    {write : α → Document}
    {value : Option α}
    (h : ∀ x ∈ value, (write x).ReadsBack) :
    (ofOption write value).ReadsBack := by
  cases value with
  | none => trivial
  | some x => exact h x rfl

theorem readsBack_ofText
    (text : String) :
    (ofText text).ReadsBack :=
  rfl

/- A double that is not finite is written as null. -/
theorem readsBack_ofFloat
    {value : Float}
    (h : value.isFinite → (Number.real value).ReadsBack) :
    (ofFloat value).ReadsBack := by
  unfold ofFloat
  split
  · rename_i hFinite
    exact h hFinite
  · trivial

end Document

end Json

end NotebookGrading
