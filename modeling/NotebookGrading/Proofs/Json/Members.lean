import Mathlib.Data.List.Forall2
import NotebookGrading.Proofs.Json.OpenRecords

/-
  Documents at places inside other documents.

  A place is given by keys of objects and indices of arrays.
  A key leads to the last member that has it. Two documents
  of which a record of the same names carries the same table
  along have the same values under all undeclared keys.

  Key definitions include:
    * `Json.Document.Step`
    * `Json.Document.at?`
    * `Json.Document.KeepsUndeclared`

  Main statements:
    * `Json.Document.step?_of_mem`
    * `Json.Record.find?_extra?`
    * `Json.Document.keepsUndeclared_of_extra?`
-/

namespace NotebookGrading

namespace Json

variable {α : Type}
variable {names : List String}
variable {key : String}
variable {depth : Nat}
variable {table : Table Json}
variable {record : Record}

------------------------------------------------------------
-- Places
------------------------------------------------------------

namespace Document

/- One step into a document. -/
inductive Step
  | key (name : String)
  | index (position : Nat)
deriving DecidableEq, Repr

/- The members whose keys have a value. -/
def named
    (members : List (Option String × Document)) :
    List (String × Document) :=
  members.filterMap (fun member =>
    member.1.map (fun name => (name, member.2)))

/- The document that a step leads to. -/
def step? :
    Step → Document → Option Document
  | .key name, .object members =>
      Entries.find? name (named members).reverse
  | .index position, .array items => items[position]?
  | _, _ => none

/- The document at a place. -/
def at? :
    List Step → Document → Option Document
  | [], document => some document
  | step :: rest, document =>
      (step? step document).bind (at? rest)

theorem at?_append
    (front back : List Step)
    (document : Document) :
    at? (front ++ back) document =
      (at? front document).bind (at? back) := by
  induction front generalizing document with
  | nil => rfl
  | cons step rest ih =>
      cases hStep : step? step document with
      | none => simp [at?, hStep]
      | some next => simp [at?, hStep, ih]

theorem at?_single
    (step : Step)
    (document : Document) :
    at? [step] document = step? step document := by
  cases hStep : step? step document <;> simp [at?, hStep]

theorem step?_index_ofList
    (write : α → Document)
    (values : List α)
    (position : Nat) :
    step? (.index position) (ofList write values) =
      values[position]?.map write := by
  simp [ofList, step?]

/- A list is read item by item. -/
theorem exists_of_list?
    {read? : Document → Option α}
    {document item : Document}
    {values : List α}
    {position : Nat}
    (h : list? read? document = some values)
    (hItem : step? (.index position) document = some item) :
    ∃ value,
      values[position]? = some value ∧
      read? item = some value := by
  cases document with
  | array items =>
      change items.mapM read? = some values at h
      change items[position]? = some item at hItem
      induction items generalizing values position with
      | nil => cases hItem
      | cons first rest ih =>
          rw [List.mapM_cons] at h
          rcases Option.bind_eq_some_iff.1 h with
            ⟨value, hValue, hRest⟩
          rcases Option.bind_eq_some_iff.1 hRest with
            ⟨others, hOthers, hValues⟩
          cases hValues
          cases position with
          | zero =>
              cases hItem
              exact ⟨value, rfl, hValue⟩
          | succ position =>
              have hLater := ih hOthers hItem
              exact hLater
  | _ => cases h

------------------------------------------------------------
-- Members Of Records
------------------------------------------------------------

/- Keys that all have a value are all named. -/
theorem named_of_keyedMembers?
    {given : List (Option String × Document)}
    {keyed : List (String × Document)}
    (h : keyedMembers? given = some keyed) :
    named given = keyed := by
  unfold keyedMembers? at h
  induction given generalizing keyed with
  | nil => exact Option.some.inj h
  | cons member rest ih =>
      rw [List.mapM_cons] at h
      rcases Option.bind_eq_some_iff.1 h with
        ⟨first, hFirst, hRest⟩
      rcases Option.bind_eq_some_iff.1 hRest with
        ⟨others, hOthers, hKeyed⟩
      rcases Option.bind_eq_some_iff.1 hFirst with
        ⟨name, hName, hSome⟩
      cases hSome
      cases hKeyed
      simp [named, hName, ← ih hOthers]

/- A declared key leads to its only member. -/
theorem step?_of_mem
    {document : Document}
    (h : document.objectRecord? names = some record)
    (hKey : key ∈ names) :
    step? (.key key) document = record.find? key := by
  rcases objectRecord?_eq_some h with
    ⟨given, keyed, rfl, hKeyed, hDeclared, -, hNodup⟩
  rw [step?, named_of_keyedMembers? hKeyed, Record.find?,
    ← Entries.find?_reverse hNodup, hDeclared,
    ← List.filter_reverse]
  exact
    (@Entries.find?_filter _
      (fun name => names.contains name) key
      (by simpa using hKey) keyed.reverse).symm

/- An undeclared key leads to the last of its members. -/
theorem step?_of_not_mem
    {document : Document}
    (h : document.objectRecord? names = some record)
    (hKey : key ∉ names) :
    step? (.key key) document =
      Entries.find? key record.others.reverse := by
  rcases objectRecord?_eq_some h with
    ⟨given, keyed, rfl, hKeyed, -, hOthers, -⟩
  rw [step?, named_of_keyedMembers? hKeyed, hOthers,
    ← List.filter_reverse]
  exact
    (@Entries.find?_filter _
      (fun name => !names.contains name) key
      (by simpa using hKey) keyed.reverse).symm

end Document

------------------------------------------------------------
-- Carried Members By Key
------------------------------------------------------------

/- Each entry that is read has the key of its member. -/
theorem forall₂_of_mapM
    {members : List (String × Document)}
    {entries : List (String × Json)}
    (h :
      members.mapM
          (fun m =>
            (m.2.value? depth).map
              (fun value => (m.1, value))) =
        some entries) :
    List.Forall₂
      (fun m entry =>
        m.1 = entry.1 ∧ m.2.value? depth = some entry.2)
      members entries := by
  induction members generalizing entries with
  | nil =>
      cases h
      exact .nil
  | cons m rest ih =>
      rw [List.mapM_cons] at h
      rcases Option.bind_eq_some_iff.1 h with
        ⟨first, hFirst, hRest⟩
      rcases Option.bind_eq_some_iff.1 hRest with
        ⟨others, hOthers, hEntries⟩
      rcases Option.map_eq_some_iff.1 hFirst with
        ⟨value, hValue, rfl⟩
      cases hEntries
      exact .cons ⟨rfl, hValue⟩ (ih hOthers)

/- Lookups lead to a member and to its value. -/
theorem find?_of_forall₂
    {members : List (String × Document)}
    {entries : List (String × Json)}
    (h :
      List.Forall₂
        (fun m entry =>
          m.1 = entry.1 ∧ m.2.value? depth = some entry.2)
        members entries) :
    Entries.find? key entries =
        (Entries.find? key members).bind
          (Document.value? depth) ∧
      ∀ document,
        Entries.find? key members = some document →
          (document.value? depth).isSome := by
  induction h with
  | nil => simp [Entries.find?]
  | @cons m entry members entries hHead _ ih =>
      rcases hHead with ⟨hName, hValue⟩
      by_cases hKey : m.1 = key
      · simp [Entries.find?, ← hName, hKey, hValue]
      · simpa [Entries.find?, ← hName, hKey] using ih

/- What is carried under a key is the value of its member. -/
theorem Record.find?_extra?
    (h : record.extra? depth = some table)
    (key : String) :
    table.find? key =
        (Entries.find? key record.others.reverse).bind
          (Document.value? depth) ∧
      ∀ document,
        Entries.find? key record.others.reverse =
            some document →
          (document.value? depth).isSome := by
  rcases Option.map_eq_some_iff.1 h with
    ⟨entries, hEntries, rfl⟩
  rw [Table.find?_ofList]
  exact
    find?_of_forall₂
      (List.rel_reverse (forall₂_of_mapM hEntries))

namespace Document

/-
  Whether one document has the values of another under all
  keys that are not declared.
-/
def KeepsUndeclared
    (names : List String)
    (given written : Document) : Prop :=
  ∀ key ∉ names,
    ∀ document, step? (.key key) given = some document →
      ∃ depth value kept,
        document.value? depth = some value ∧
        step? (.key key) written = some kept ∧
        kept.value? depth = some value

/- Records that carry one table have it under their keys. -/
theorem keepsUndeclared_of_extra?
    {given written : Document}
    {before after : Record}
    (hGiven : given.objectRecord? names = some before)
    (hWritten : written.objectRecord? names = some after)
    (hBefore : before.extra? depth = some table)
    (hAfter : after.extra? depth = some table) :
    KeepsUndeclared names given written := by
  intro key hKey document hStep
  rw [step?_of_not_mem hGiven hKey] at hStep
  rcases Record.find?_extra? hBefore key with
    ⟨hFound, hSome⟩
  rcases Option.isSome_iff_exists.1 (hSome document hStep)
    with ⟨value, hValue⟩
  rw [hStep, Option.bind_some, hValue,
    (Record.find?_extra? hAfter key).1] at hFound
  rcases Option.bind_eq_some_iff.1 hFound with
    ⟨kept, hKept, hSame⟩
  refine ⟨depth, value, kept, hValue, ?_, hSame⟩
  rw [step?_of_not_mem hWritten hKey, hKept]

end Document

end Json

end NotebookGrading
