import NotebookGrading.Proofs.Json.Values

/-
  Records that carry undeclared members along.

  The declared members come first and the carried ones
  behind them, under other keys, so reading the record again
  sets the same members apart.

  Key definitions include:
    * `Json.IsCarried`
    * `Json.present`

  Main statements:
    * `Json.Record.isCarried_extra?`
    * `Json.Document.exists_record_ofMembers`
    * `Json.Document.table?_ofMembers`
-/

namespace NotebookGrading

namespace Json

variable {α : Type}
variable {names : List String}
variable {members : List (String × Document)}
variable {depth : Nat}
variable {table : Table Json}

------------------------------------------------------------
-- Carried Members
------------------------------------------------------------

/-
  A table of members that were set apart: their keys are not
  declared and their values are spelled.
-/
structure IsCarried
    (names : List String)
    (depth : Nat)
    (table : Table Json) : Prop where
  undeclared : ∀ key ∈ table.keys, key ∉ names
  spelled : ∀ value ∈ table.values, IsSpelled depth value

theorem isCarried_empty
    (names : List String)
    (depth : Nat) :
    IsCarried names depth Table.empty := by
  constructor <;> intro x hMem <;> cases hMem

namespace Document

/- What a record read from an object is made of. -/
theorem objectRecord?_eq_some
    {document : Document}
    {record : Record}
    (h : document.objectRecord? names = some record) :
    ∃ given keyed,
      document = .object given ∧
      keyedMembers? given = some keyed ∧
      record.declared =
        keyed.filter (fun m => names.contains m.1) ∧
      record.others =
        keyed.filter (fun m => !names.contains m.1) ∧
      (record.declared.map Prod.fst).Nodup := by
  cases document with
  | object given =>
      rcases Option.bind_eq_some_iff.1 h with
        ⟨keyed, hKeyed, hRecord⟩
      simp only at hRecord
      split at hRecord
      · rename_i hNodup
        rw [← Option.some.inj hRecord]
        exact ⟨given, keyed, rfl, hKeyed, rfl, rfl, hNodup⟩
      · cases hRecord
  | _ => cases h

theorem record?_of_objectRecord?
    {document : Document}
    {record : Record}
    (h : document.objectRecord? names = some record) :
    document.record? names = some record := by
  rcases objectRecord?_eq_some h with
    ⟨given, keyed, rfl, -⟩
  exact h

end Document

namespace Record

/- The undeclared members stand in the document. -/
theorem numbersFinite_others
    {document : Document}
    {record : Record}
    (hDocument : document.NumbersFinite)
    (h : document.objectRecord? names = some record) :
    ∀ m ∈ record.others,
      m.1 ∉ names ∧ m.2.NumbersFinite := by
  intro m hMem
  rcases Document.objectRecord?_eq_some h with
    ⟨given, keyed, rfl, hKeyed, -, hOthers, -⟩
  rw [hOthers, List.mem_filter] at hMem
  rcases exists_of_mem_mapM hKeyed hMem.1 with
    ⟨source, hSource, hSome⟩
  have hSame : source.2 = m.2 :=
    Option.some.inj (read?_of_member? hSome)
  cases hDocument with
  | object hMembers =>
      refine ⟨by simpa using hMem.2, ?_⟩
      rw [← hSame]
      exact hMembers source hSource

/- The undeclared members that a record carries along. -/
theorem isCarried_extra?
    {document : Document}
    {record : Record}
    (hDocument : document.NumbersFinite)
    (hRecord : document.objectRecord? names = some record)
    (h : record.extra? depth = some table) :
    IsCarried names depth table := by
  have hOthers := numbersFinite_others hDocument hRecord
  rcases Option.map_eq_some_iff.1 h with
    ⟨entries, hEntries, rfl⟩
  -- An entry has the key of a member and its value.
  have hSource :
      ∀ entry ∈ entries,
        ∃ m ∈ record.others,
          m.2.value? depth = some entry.2 ∧
            m.1 = entry.1 := by
    intro entry hEntry
    rcases exists_of_mem_mapM hEntries hEntry with
      ⟨m, hMem, hRead⟩
    rcases Option.map_eq_some_iff.1 hRead with
      ⟨value, hValue, rfl⟩
    exact ⟨m, hMem, hValue, rfl⟩
  constructor
  · intro key hKey
    rcases Table.exists_of_mem_keys_ofList hKey with
      ⟨entry, hEntry, rfl⟩
    rcases hSource entry hEntry with ⟨m, hMem, -, hName⟩
    rw [← hName]
    exact (hOthers m hMem).1
  · intro value hValue
    rcases Table.mem_values_ofList hValue with
      ⟨entry, hEntry, rfl⟩
    rcases hSource entry hEntry with ⟨m, hMem, hRead, -⟩
    exact
      reads_value? depth m.2 entry.2 (hOthers m hMem).2
        hRead

/- Carried members are read back. -/
theorem extra?_tableMembers
    (h : IsCarried names depth table)
    (positional : Bool) :
    extra? ⟨members, tableMembers table, positional⟩ depth =
      some table := by
  have hEntries :
      (tableMembers table).mapM
          (fun m =>
            (m.2.value? depth).map
              (fun value => (m.1, value))) =
        some table.entries := by
    apply Document.mapM_map_eq_some
    intro entry hMem
    have hSpelled :=
      h.spelled entry.2 (List.mem_map_of_mem hMem)
    simp [hSpelled.value?_eq]
  rw [extra?, hEntries, Option.map_some,
    Table.ofList_entries]

/- A member that is there is read. -/
theorem required?_of_find?
    {record : Record}
    {name : String}
    {document : Document}
    (hFind : record.find? name = some document)
    (read? : Document → Option α) :
    record.required? name read? = read? document := by
  rw [required?, hFind, Option.bind_some]

theorem defaulted?_of_find?
    {record : Record}
    {name : String}
    {document : Document}
    (hFind : record.find? name = some document)
    (absent : α)
    (read? : Document → Option α) :
    record.defaulted? name absent read? =
      read? document := by
  simp [defaulted?, hFind]

/- A member that may be absent is read back. -/
theorem defaulted?_of_find?_map
    {β : Type}
    {record : Record}
    {name : String}
    {value : Option α}
    {write : α → Document}
    {read? : Document → Option (Option β)}
    {change : α → β}
    (hFind : record.find? name = value.map write)
    (hRead :
      ∀ x ∈ value,
        read? (write x) = some (some (change x))) :
    record.defaulted? name none read? =
      some (value.map change) := by
  cases value with
  | none => simp [defaulted?, hFind]
  | some x => simp [defaulted?, hFind, hRead x rfl]

theorem defaulted?_of_find?_unchanged
    {record : Record}
    {name : String}
    {value : Option α}
    {write : α → Document}
    {read? : Document → Option (Option α)}
    (hFind : record.find? name = value.map write)
    (hRead :
      ∀ x ∈ value, read? (write x) = some (some x)) :
    record.defaulted? name none read? = some value := by
  rw [defaulted?_of_find?_map hFind hRead, Option.map_id']

end Record

------------------------------------------------------------
-- Declared Members That May Be Absent
------------------------------------------------------------

/- The members that are there, in the order of the names. -/
def present :
    List (String × Option Document) →
      List (String × Document)
  | [] => []
  | (_, none) :: rest => present rest
  | (name, some document) :: rest =>
      (name, document) :: present rest

variable {declared : List (String × Option Document)}

theorem present_map_cons
    (name : String)
    (write : α → Document)
    (value : Option α)
    (rest : List (String × Option Document)) :
    present ((name, value.map write) :: rest) =
      Document.optionalMember name write value ++
        present rest := by
  cases value <;> rfl

theorem sublist_keys_present
    (declared : List (String × Option Document)) :
    ((present declared).map Prod.fst).Sublist
      (declared.map Prod.fst) := by
  induction declared with
  | nil => exact List.Sublist.slnil
  | cons m rest ih =>
      rcases m with ⟨name, none | document⟩
      · exact ih.cons name
      · exact ih.cons_cons name

/- What a name leads to among the members that are there. -/
theorem find?_present
    (hNodup : (declared.map Prod.fst).Nodup)
    (key : String) :
    Entries.find? key (present declared) =
      (Entries.find? key declared).join := by
  induction declared with
  | nil => rfl
  | cons m rest ih =>
      rcases List.nodup_cons.1 hNodup with ⟨hNew, hRest⟩
      rcases m with ⟨name, none | document⟩
      · rw [present, ih hRest]
        by_cases hName : name = key
        · subst hName
          simp [Entries.find?,
            Entries.find?_eq_none_iff.2 hNew]
        · simp [Entries.find?, hName]
      · by_cases hName : name = key
        · simp [present, Entries.find?, hName]
        · simp [present, Entries.find?, hName, ih hRest]

theorem forall_mem_map
    {good : Document → Prop}
    {write : α → Document}
    {value : Option α} :
    (∀ d ∈ value.map write, good d) ↔
      ∀ x ∈ value, good (write x) := by
  cases value <;> simp

/- What holds of the declared members that are there. -/
theorem forall_mem_present
    {good : Document → Prop}
    (h : ∀ m ∈ declared, ∀ d ∈ m.2, good d) :
    ∀ m ∈ present declared, good m.2 := by
  induction declared with
  | nil =>
      intro m hMem
      cases hMem
  | cons m rest ih =>
      rcases List.forall_mem_cons.1 h with ⟨hHead, hRest⟩
      rcases m with ⟨name, none | document⟩
      · exact ih hRest
      · exact
          List.forall_mem_cons.2
            ⟨hHead document rfl, ih hRest⟩

------------------------------------------------------------
-- Written Members
------------------------------------------------------------

namespace Document

/-
  Declared members followed by carried ones are set apart
  again.
-/
theorem exists_record_ofMembers
    (hKeys : declared.map Prod.fst = names)
    (hNames : names.Nodup)
    (hCarried : IsCarried names depth table) :
    ∃ record,
      objectRecord? names
          (ofMembers
            (present declared ++ tableMembers table)) =
        some record ∧
      record.extra? depth = some table ∧
      ∀ key,
        record.find? key =
          (Entries.find? key declared).join := by
  let members := present declared
  have hSublist :
      (members.map Prod.fst).Sublist names := by
    rw [← hKeys]
    exact sublist_keys_present declared
  have hMembers : ∀ m ∈ members, m.1 ∈ names := by
    intro m hMem
    exact hSublist.subset (List.mem_map_of_mem hMem)
  have hOthers : ∀ m ∈ tableMembers table, m.1 ∉ names := by
    intro m hMem
    rcases List.mem_map.1 hMem with ⟨entry, hEntry, rfl⟩
    exact
      hCarried.undeclared entry.1
        (List.mem_map_of_mem hEntry)
  have hNodup : (members.map Prod.fst).Nodup :=
    hSublist.nodup hNames
  have hFilter :
      (members ++ tableMembers table).filter
          (fun m => names.contains m.1) = members := by
    rw [List.filter_append,
      List.filter_eq_self.2 (by simpa using hMembers),
      List.filter_eq_nil_iff.2 (by simpa using hOthers),
      List.append_nil]
  have hRest :
      (members ++ tableMembers table).filter
          (fun m => !names.contains m.1) =
        tableMembers table := by
    rw [List.filter_append,
      List.filter_eq_nil_iff.2 (by simpa using hMembers),
      List.filter_eq_self.2 (by simpa using hOthers),
      List.nil_append]
  refine
    ⟨⟨members, tableMembers table, false⟩, ?_,
      Record.extra?_tableMembers hCarried false, ?_⟩
  · change
      objectRecord? names
          (ofMembers (members ++ tableMembers table)) =
        some ⟨members, tableMembers table, false⟩
    simp only [ofMembers, objectRecord?,
      keyedMembers?_ofMembers, Option.bind_eq_bind,
      Option.bind_some, hFilter, hRest, hNodup, if_true]
  · exact find?_present (hKeys ▸ hNames)

theorem complete_ofMembers_present
    (hDeclared :
      ∀ m ∈ declared, ∀ d ∈ m.2, Complete d)
    (hCarried : IsCarried names depth table) :
    (ofMembers
      (present declared ++ tableMembers table)).Complete := by
  apply complete_ofMembers
  intro m hMem
  rcases List.mem_append.1 hMem with hMem | hMem
  · exact forall_mem_present hDeclared m hMem
  · exact complete_tableMembers hCarried.spelled m hMem

/- A table is read from members with different names. -/
theorem table?_ofMembers
    {read? : Document → Option α}
    (hNodup : (members.map Prod.fst).Nodup)
    (hRead : ∀ m ∈ members, (read? m.2).isSome) :
    ∃ read : Table α,
      table? read? (ofMembers members) = some read ∧
      ∀ key,
        read.find? key =
          (Entries.find? key members).bind read? := by
  have hEntries :
      ∃ entries : List (String × α),
        (members.map (fun m => (some m.1, m.2))).mapM
            (member? read?) = some entries ∧
        entries.map Prod.fst = members.map Prod.fst ∧
        ∀ key,
          Entries.find? key entries =
            (Entries.find? key members).bind read? := by
    clear hNodup
    induction members with
    | nil => exact ⟨[], rfl, rfl, fun _ => rfl⟩
    | cons m rest ih =>
        rcases List.forall_mem_cons.1 hRead with
          ⟨hHead, hOthers⟩
        rcases Option.isSome_iff_exists.1 hHead with
          ⟨value, hValue⟩
        rcases ih hOthers with
          ⟨entries, hMapM, hKeys, hFind⟩
        refine ⟨(m.1, value) :: entries, ?_, ?_, ?_⟩
        · simp [member?, hValue, hMapM]
        · simp [hKeys]
        · intro key
          by_cases hKey : m.1 = key
          · simp [Entries.find?, hKey, hValue]
          · simp [Entries.find?, hKey, hFind]
  rcases hEntries with ⟨entries, hMapM, hKeys, hFind⟩
  refine ⟨Table.ofList entries, ?_, ?_⟩
  · rw [ofMembers, table?, hMapM]
    rfl
  · intro key
    rw [Table.find?_ofList,
      Entries.find?_reverse (hKeys ▸ hNodup), hFind]

/- What is not there has no doubles. -/
theorem doubles_ofMembers_present
    (declared : List (String × Option Document))
    (others : List (String × Document)) :
    (ofMembers (present declared ++ others)).doubles =
      declared.flatMap
          (fun m => m.2.toList.flatMap doubles) ++
        others.flatMap (fun m => doubles m.2) := by
  rw [doubles_ofMembers, List.flatMap_append]
  congr 1
  induction declared with
  | nil => rfl
  | cons m rest ih =>
      rcases m with ⟨name, none | document⟩
      · exact ih
      · simp [present, ih]

end Document

end Json

end NotebookGrading
