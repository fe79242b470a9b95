import NotebookGrading.Proofs.Json.Reads
import NotebookGrading.Proofs.Json.Records
import NotebookGrading.Proofs.Json.WholeNumbers

/-
  Values that are spelled by their documents.

  A value that was read from a document stands in it with
  all its numbers and texts, and its objects are in
  ascending order of their keys. Its own document therefore
  has the same value, at the same depth, and its text is
  read back if those of its doubles are.

  Key definitions include:
    * `Json.Document.doubles`
    * `Json.Document.Complete`
    * `Json.IsSpelled`

  Main statements:
    * `Json.Document.Complete.readsBack`
    * `Json.reads_value?`
-/

namespace NotebookGrading

namespace Json

------------------------------------------------------------
-- Complete Documents
------------------------------------------------------------

namespace Document

mutual

/- The numbers of a document that are doubles. -/
def doubles : Document → List Float
  | .null => []
  | .bool _ => []
  | .number none => []
  | .number (some (.whole _)) => []
  | .number (some (.real value)) => [value]
  | .string _ => []
  | .array items => itemDoubles items
  | .object members => memberDoubles members

def itemDoubles : List Document → List Float
  | [] => []
  | item :: rest => doubles item ++ itemDoubles rest

def memberDoubles :
    List (Option String × Document) → List Float
  | [] => []
  | (_, value) :: rest =>
      doubles value ++ memberDoubles rest

end

theorem itemDoubles_eq
    (items : List Document) :
    itemDoubles items = items.flatMap doubles := by
  induction items with
  | nil => rfl
  | cons item rest ih =>
      rw [itemDoubles, ih, List.flatMap_cons]

theorem memberDoubles_eq
    (members : List (Option String × Document)) :
    memberDoubles members =
      members.flatMap (fun m => doubles m.2) := by
  induction members with
  | nil => rfl
  | cons m rest ih =>
      rcases m with ⟨key, value⟩
      rw [memberDoubles, ih, List.flatMap_cons]

theorem doubles_ofMembers
    (members : List (String × Document)) :
    (ofMembers members).doubles =
      members.flatMap (fun m => doubles m.2) := by
  rw [ofMembers, doubles, memberDoubles_eq,
    List.flatMap_map]

theorem doubles_ofList
    {α : Type}
    (write : α → Document)
    (values : List α) :
    (ofList write values).doubles =
      values.flatMap (fun value => doubles (write value)) :=
    by
  rw [ofList, doubles, itemDoubles_eq, List.flatMap_map]

/-
  Whether no text, key or number of a document is absent,
  and no number too large.
-/
inductive Complete : Document → Prop
  | null : Complete .null
  | bool (value : Bool) : Complete (.bool value)
  | number
      {value : Number}
      (h : value.IsFinite) :
      Complete (.number (some value))
  | string (value : String) :
      Complete (.string (some value))
  | array
      {items : List Document}
      (h : ∀ item ∈ items, Complete item) :
      Complete (.array items)
  | object
      {members : List (Option String × Document)}
      (hKeys : ∀ member ∈ members, member.1.isSome)
      (hValues : ∀ member ∈ members, Complete member.2) :
      Complete (.object members)

/- Whole numbers are read back whatever they are. -/
theorem readsBack_number
    {value : Number}
    (h : value.IsFinite)
    (hDoubles :
      DoublesReadBack (doubles (.number (some value)))) :
    value.ReadsBack := by
  cases h with
  | whole hLow hHigh =>
      exact Number.readsBack_whole hLow hHigh
  | real hFinite =>
      exact hDoubles _ List.mem_cons_self hFinite

mutual

theorem Complete.readsBack
    {document : Document}
    (h : document.Complete)
    (hDoubles : DoublesReadBack document.doubles) :
    document.ReadsBack := by
  cases document with
  | null => trivial
  | bool value => trivial
  | number value =>
      cases h with
      | number hFinite =>
          exact readsBack_number hFinite hDoubles
  | string value =>
      cases h
      rfl
  | array items =>
      cases h with
      | array hItems =>
          exact itemsReadBack_of_complete hItems hDoubles
  | object members =>
      cases h with
      | object hKeys hValues =>
          exact
            membersReadBack_of_complete hKeys hValues
              hDoubles

theorem itemsReadBack_of_complete
    {items : List Document}
    (h : ∀ item ∈ items, item.Complete)
    (hDoubles : DoublesReadBack (itemDoubles items)) :
    ItemsReadBack items := by
  cases items with
  | nil => trivial
  | cons item rest =>
      rcases List.forall_mem_cons.1 h with ⟨hItem, hRest⟩
      rcases List.forall_mem_append.1 hDoubles with
        ⟨hFirst, hOthers⟩
      exact
        ⟨hItem.readsBack hFirst,
          itemsReadBack_of_complete hRest hOthers⟩

theorem membersReadBack_of_complete
    {members : List (Option String × Document)}
    (hKeys : ∀ member ∈ members, member.1.isSome)
    (hValues : ∀ member ∈ members, member.2.Complete)
    (hDoubles : DoublesReadBack (memberDoubles members)) :
    MembersReadBack members := by
  cases members with
  | nil => trivial
  | cons member rest =>
      rcases member with ⟨key, value⟩
      rcases List.forall_mem_cons.1 hKeys with
        ⟨hKey, hOtherKeys⟩
      rcases List.forall_mem_cons.1 hValues with
        ⟨hValue, hOtherValues⟩
      rcases List.forall_mem_append.1 hDoubles with
        ⟨hFirst, hOthers⟩
      exact
        ⟨hKey, hValue.readsBack hFirst,
          membersReadBack_of_complete hOtherKeys
            hOtherValues hOthers⟩

end

/- What is written as members in their order. -/
theorem complete_ofMembers
    {members : List (String × Document)}
    (h : ∀ m ∈ members, m.2.Complete) :
    (ofMembers members).Complete := by
  apply Complete.object
  · intro member hMem
    rcases List.mem_map.1 hMem with ⟨m, -, rfl⟩
    rfl
  · intro member hMem
    rcases List.mem_map.1 hMem with ⟨m, hMember, rfl⟩
    exact h m hMember

theorem complete_ofList
    {α : Type}
    {write : α → Document}
    {values : List α}
    (h : ∀ value ∈ values, (write value).Complete) :
    (ofList write values).Complete := by
  apply Complete.array
  intro item hMem
  rcases List.mem_map.1 hMem with ⟨value, hValue, rfl⟩
  exact h value hValue

theorem complete_ofText
    (text : String) :
    (ofText text).Complete :=
  .string text

/- A double that is not finite is written as null. -/
theorem complete_ofFloat
    (value : Float) :
    (ofFloat value).Complete := by
  unfold ofFloat
  split
  · rename_i hFinite
    exact .number (.real hFinite)
  · exact .null

/- Words of 32 bits are whole numbers of 64 bits. -/
theorem complete_word
    (word : UInt32) :
    (ofInt word.toNat).Complete := by
  have hLt : word.toNat < 2 ^ 32 := word.toNat_lt
  exact .number (.whole (by omega) (by omega))

end Document

------------------------------------------------------------
-- Values
------------------------------------------------------------

theorem itemDocuments_eq
    (items : List Json) :
    itemDocuments items = items.map toDocument := by
  induction items with
  | nil => rfl
  | cons item rest ih => rw [itemDocuments, ih, List.map_cons]

theorem memberDocuments_eq
    (members : List (String × Json)) :
    memberDocuments members =
      members.map (fun m => (some m.1, toDocument m.2)) := by
  induction members with
  | nil => rfl
  | cons m rest ih =>
      rcases m with ⟨key, value⟩
      rw [memberDocuments, ih, List.map_cons]

/- The document of an object is that of its table. -/
theorem toDocument_object
    (table : Table Json) :
    toDocument (.object table.entries) =
      tableDocument table := by
  rw [toDocument, memberDocuments_eq]
  simp [tableDocument, tableMembers, Document.ofMembers]

/- Leaves have their values at every depth. -/
@[simp]
theorem value?_null
    (depth : Nat) :
    Document.null.value? depth = some .null := by
  cases depth <;> rfl

@[simp]
theorem value?_bool
    (depth : Nat)
    (value : Bool) :
    (Document.bool value).value? depth =
      some (.bool value) := by
  cases depth <;> rfl

@[simp]
theorem value?_number
    (depth : Nat)
    (value : Option Number) :
    (Document.number value).value? depth =
      value.map .number := by
  cases depth <;> rfl

@[simp]
theorem value?_string
    (depth : Nat)
    (value : Option String) :
    (Document.string value).value? depth =
      value.map .string := by
  cases depth <;> rfl

@[simp]
theorem value?_ofText
    (depth : Nat)
    (text : String) :
    (Document.ofText text).value? depth =
      some (.string text) := by
  simp [Document.ofText]

@[simp]
theorem value?_ofInt
    (depth : Nat)
    (value : Int) :
    (Document.ofInt value).value? depth =
      some (.number (.whole value)) := by
  simp [Document.ofInt]

/- A double that is not finite has no value any more. -/
theorem value?_ofFloat
    (depth : Nat)
    (value : Float) :
    (Document.ofFloat value).value? depth =
      some
        (if value.isFinite then
          .number (.real value)
        else
          .null) := by
  unfold Document.ofFloat
  split <;> simp

/- The value of an object is the table that it spells. -/
theorem value?_object
    (depth : Nat)
    (members : List (Option String × Document)) :
    (Document.object members).value? (depth + 1) =
      (Document.table? (Document.value? depth)
        (.object members)).map
          (fun table => .object table.entries) := by
  simp [Document.value?, Document.table?, Function.comp_def]

/-
  Whether a value is that of its own document, in which
  everything is present.
-/
structure IsSpelled
    (depth : Nat)
    (value : Json) : Prop where
  value?_eq :
    (toDocument value).value? depth = some value
  complete : (toDocument value).Complete

theorem isSpelled_array
    {depth : Nat}
    {items : List Json}
    (h : ∀ item ∈ items, IsSpelled depth item) :
    IsSpelled (depth + 1) (.array items) := by
  constructor
  · have hItems :
        (items.map toDocument).mapM
          (Document.value? depth) = some items :=
      Document.mapM_map_eq_some
        (fun item hMem => (h item hMem).value?_eq)
    simp [toDocument, itemDocuments_eq, Document.value?,
      hItems]
  · rw [toDocument, itemDocuments_eq]
    exact
      Document.complete_ofList
        (fun item hMem => (h item hMem).complete)

/- A table of values that are spelled is read back. -/
theorem table?_tableDocument
    {depth : Nat}
    {table : Table Json}
    (h : ∀ value ∈ table.values, IsSpelled depth value) :
    Document.table? (Document.value? depth)
        (tableDocument table) = some table :=
  Document.table?_entryMembers
    (fun value hMem => (h value hMem).value?_eq)

theorem complete_tableMembers
    {depth : Nat}
    {table : Table Json}
    (h : ∀ value ∈ table.values, IsSpelled depth value) :
    ∀ m ∈ tableMembers table, m.2.Complete := by
  intro m hMem
  rcases List.mem_map.1 hMem with ⟨entry, hEntry, rfl⟩
  exact (h entry.2 (List.mem_map_of_mem hEntry)).complete

theorem isSpelled_object
    {depth : Nat}
    {table : Table Json}
    (h : ∀ value ∈ table.values, IsSpelled depth value) :
    IsSpelled (depth + 1) (.object table.entries) := by
  constructor
  · rw [toDocument_object, tableDocument,
      Document.ofMembers, value?_object]
    have hTable := table?_tableDocument h
    rw [tableDocument, Document.ofMembers] at hTable
    rw [hTable]
    rfl
  · rw [toDocument_object]
    exact
      Document.complete_ofMembers (complete_tableMembers h)

/-
  What is read from a document is spelled at its depth, by
  induction on the depth, which containers use up.
-/
theorem reads_value?
    (depth : Nat) :
    Reads (Document.value? depth) (IsSpelled depth) := by
  intro document value hDocument h
  cases hDocument with
  | null =>
      rw [value?_null] at h
      cases h
      exact ⟨value?_null depth, .null⟩
  | bool b =>
      rw [value?_bool] at h
      cases h
      exact ⟨value?_bool depth b, .bool b⟩
  | number hNumber =>
      rw [value?_number] at h
      rcases Option.map_eq_some_iff.1 h with ⟨n, hSome, rfl⟩
      exact
        ⟨value?_number depth (some n),
          .number (hNumber n hSome)⟩
  | string text =>
      rw [value?_string] at h
      rcases Option.map_eq_some_iff.1 h with ⟨t, -, rfl⟩
      exact ⟨value?_string depth (some t), .string t⟩
  | array hItems =>
      cases depth with
      | zero => cases h
      | succ depth =>
          rcases Option.map_eq_some_iff.1 h with
            ⟨values, hValues, rfl⟩
          apply isSpelled_array
          intro v hMem
          rcases exists_of_mem_mapM hValues hMem with
            ⟨item, hItem, hRead⟩
          exact
            reads_value? depth item v (hItems item hItem)
              hRead
  | object hMembers =>
      cases depth with
      | zero => cases h
      | succ depth =>
          rw [value?_object] at h
          rcases Option.map_eq_some_iff.1 h with
            ⟨table, hTable, rfl⟩
          exact
            isSpelled_object
              (reads_table? (reads_value? depth) _ table
                (.object hMembers) hTable)

end Json

end NotebookGrading
