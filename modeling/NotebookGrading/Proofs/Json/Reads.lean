import NotebookGrading.Json.Record
import NotebookGrading.Proofs.Json.FiniteNumbers
import NotebookGrading.Proofs.Tables

/-
  What can be read from a document of finite numbers.

  A reader that gives values of some kind for the parts of
  such a document gives them for the whole: for optional
  values, lists, tables and the members of records.

  Key definitions include:
    * `Json.Reads`

  Main statements:
    * `Json.reads_float?`
    * `Json.reads_list?`
    * `Json.reads_table?`
    * `Json.Record.reads_required?`
    * `Json.Record.reads_defaulted?`
-/

namespace NotebookGrading

namespace Json

variable {α : Type}
variable {read? : Document → Option α}
variable {good : α → Prop}

/-
  Whether a reader gives good values only, when it reads
  from a document of finite numbers.
-/
def Reads
    (read? : Document → Option α)
    (good : α → Prop) : Prop :=
  ∀ document value,
    document.NumbersFinite →
      read? document = some value → good value

------------------------------------------------------------
-- Leaves
------------------------------------------------------------

theorem reads_float? :
    Reads Document.float? (fun x => x.isFinite = true) := by
  intro document x hDocument h
  cases hDocument with
  | number hNumber =>
      rcases Option.map_eq_some_iff.1 h with
        ⟨n, hValue, hFloat⟩
      rw [← hFloat]
      exact (hNumber n hValue).toFloat
  | null => cases h
  | bool value => cases h
  | string value => cases h
  | array hItems => cases h
  | object hMembers => cases h

theorem reads_optional?
    (hRead : Reads read? good) :
    Reads (Document.optional? read?)
      (fun value => ∀ v ∈ value, good v) := by
  intro document value hDocument h v hMem
  unfold Document.optional? at h
  split at h
  · injection h with h
    rw [← h] at hMem
    cases hMem
  · rcases Option.map_eq_some_iff.1 h with
      ⟨read, hSome, hValue⟩
    rw [← hValue] at hMem
    injection hMem with hMem
    rw [← hMem]
    exact hRead document read hDocument hSome

------------------------------------------------------------
-- Lists And Tables
------------------------------------------------------------

theorem exists_of_mem_mapM
    {β : Type}
    {f : β → Option α}
    {sources : List β}
    {values : List α}
    {value : α}
    (h : sources.mapM f = some values)
    (hMem : value ∈ values) :
    ∃ source ∈ sources, f source = some value := by
  induction sources generalizing values with
  | nil =>
      injection h with h
      rw [← h] at hMem
      cases hMem
  | cons source rest ih =>
      rw [List.mapM_cons] at h
      rcases Option.bind_eq_some_iff.1 h with
        ⟨first, hFirst, hRest⟩
      rcases Option.bind_eq_some_iff.1 hRest with
        ⟨others, hOthers, hValues⟩
      injection hValues with hValues
      rw [← hValues] at hMem
      rcases List.mem_cons.1 hMem with hHead | hTail
      · refine ⟨source, List.mem_cons_self, ?_⟩
        rw [hHead]
        exact hFirst
      · rcases ih hOthers hTail with ⟨s, hSource, hRead⟩
        exact ⟨s, List.mem_cons_of_mem source hSource,
          hRead⟩

theorem reads_list?
    (hRead : Reads read? good) :
    Reads (Document.list? read?)
      (fun values => ∀ v ∈ values, good v) := by
  intro document values hDocument h v hMem
  cases hDocument with
  | array hItems =>
      rcases exists_of_mem_mapM h hMem with
        ⟨item, hItem, hSome⟩
      exact hRead item v (hItems item hItem) hSome
  | null => cases h
  | bool value => cases h
  | number hNumber => cases h
  | string value => cases h
  | object hMembers => cases h

/- The value of a member is read from its document. -/
theorem read?_of_member?
    {member : Option String × Document}
    {entry : String × α}
    (h : member? read? member = some entry) :
    read? member.2 = some entry.2 := by
  rcases Option.bind_eq_some_iff.1 h with ⟨key, -, hRest⟩
  rcases Option.bind_eq_some_iff.1 hRest with
    ⟨value, hValue, hEntry⟩
  injection hEntry with hEntry
  rw [← hEntry]
  exact hValue

theorem reads_table?
    (hRead : Reads read? good) :
    Reads (Document.table? read?)
      (fun table => ∀ v ∈ table.values, good v) := by
  intro document table hDocument h v hMem
  cases hDocument with
  | object hMembers =>
      rcases Option.map_eq_some_iff.1 h with
        ⟨entries, hEntries, hTable⟩
      rw [← hTable] at hMem
      rcases Table.mem_values_ofList hMem with
        ⟨entry, hEntry, hValue⟩
      rcases exists_of_mem_mapM hEntries hEntry with
        ⟨member, hMember, hSome⟩
      rw [← hValue]
      exact hRead member.2 entry.2
        (hMembers member hMember)
        (read?_of_member? hSome)
  | null => cases h
  | bool value => cases h
  | number hNumber => cases h
  | string value => cases h
  | array hItems => cases h

------------------------------------------------------------
-- Records
------------------------------------------------------------

namespace Record

variable {record : Record}
variable {name : String}

/- The declared members stand in the document. -/
theorem numbersFinite_declared
    {names : List String}
    {document : Document}
    (hDocument : document.NumbersFinite)
    (h : document.record? names = some record) :
    ∀ member ∈ record.declared, member.2.NumbersFinite := by
  intro member hMem
  cases hDocument with
  | array hItems =>
      simp only [Document.record?] at h
      split at h
      · injection h with h
        rw [← h] at hMem
        exact hItems member.2 (List.of_mem_zip hMem).2
      · cases h
  | object hMembers =>
      rcases Option.bind_eq_some_iff.1 h with
        ⟨members, hKeyed, hRecord⟩
      simp only at hRecord
      split at hRecord
      · injection hRecord with hRecord
        rw [← hRecord] at hMem
        rcases exists_of_mem_mapM hKeyed
            (List.mem_filter.1 hMem).1 with
          ⟨source, hSource, hSome⟩
        have hSame := read?_of_member? hSome
        injection hSame with hSame
        rw [← hSame]
        exact hMembers source hSource
      · cases hRecord
  | null => cases h
  | bool value => cases h
  | number hNumber => cases h
  | string value => cases h

theorem numbersFinite_find?
    {document : Document}
    (hRecord :
      ∀ member ∈ record.declared, member.2.NumbersFinite)
    (h : record.find? name = some document) :
    document.NumbersFinite :=
  hRecord (name, document) (Entries.mem_of_find?_eq_some h)

theorem reads_required?
    {value : α}
    (hRecord :
      ∀ member ∈ record.declared, member.2.NumbersFinite)
    (hRead : Reads read? good)
    (h : record.required? name read? = some value) :
    good value := by
  rcases Option.bind_eq_some_iff.1 h with
    ⟨document, hFind, hSome⟩
  exact hRead document value
    (numbersFinite_find? hRecord hFind) hSome

theorem reads_defaulted?
    {absent value : α}
    (hRecord :
      ∀ member ∈ record.declared, member.2.NumbersFinite)
    (hRead : Reads read? good)
    (hAbsent : good absent)
    (h : record.defaulted? name absent read? =
      some value) :
    good value := by
  unfold defaulted? at h
  split at h
  · injection h with h
    rw [← h]
    exact hAbsent
  · rename_i document hFind
    exact hRead document value
      (numbersFinite_find? hRecord hFind) h

end Record

end Json

end NotebookGrading
