import Mathlib.Data.List.Forall2
import NotebookGrading.Json.Record
import NotebookGrading.Proofs.Tables

/-
  Documents that differ under some of their keys.

  Objects have the same keys in the same order, and for each
  key it is said how the documents under it may differ. A
  reader takes such documents alike if it refuses both or
  gives values that differ as it is said for them. Lists,
  tables and records carry this from parts to the whole.

  Key definitions include:
    * `Json.TakesAlike`
    * `Json.Document.ObjectVaries`
    * `Json.Document.ItemsVary`
    * `Json.Document.RecordVaries`
    * `Json.Record.Varies`

  Main statements:
    * `Json.Document.takesAlike_list?`
    * `Json.Document.takesAlike_optional?_table?`
    * `Json.Document.takesAlike_objectRecord?`
    * `Json.Document.takesAlike_record?`
    * `Json.Record.Varies.defaulted?`
    * `Json.Record.Varies.extra?_same`
-/

namespace NotebookGrading

namespace Json

variable {α β γ δ : Type}

/- A reader refuses both of two documents or takes both. -/
def TakesAlike
    (vary : Document → Document → Prop)
    (differ : α → α → Prop)
    (read? : Document → Option α) : Prop :=
  ∀ before after,
    vary before after →
      Option.Rel differ (read? before) (read? after)

------------------------------------------------------------
-- Results That Differ
------------------------------------------------------------

section Results

variable {differ : α → α → Prop}
variable {differ' : β → β → Prop}

theorem rel_refl
    (hRefl : ∀ value, differ value value)
    (result : Option α) :
    Option.Rel differ result result := by
  cases result with
  | none => exact .none
  | some value => exact .some (hRefl value)

theorem forall₂_refl
    (hRefl : ∀ value, differ value value)
    (values : List α) :
    List.Forall₂ differ values values :=
  List.forall₂_same.2 (fun value _ => hRefl value)

theorem rel_bind
    {before after : Option α}
    {next next' : α → Option β}
    (h : Option.Rel differ before after)
    (hNext :
      ∀ value other,
        differ value other →
          Option.Rel differ' (next value) (next' other)) :
    Option.Rel differ' (before.bind next)
      (after.bind next') := by
  cases h with
  | none => exact .none
  | some hValue => exact hNext _ _ hValue

theorem rel_map
    {before after : Option α}
    {change : α → β}
    (h : Option.Rel differ before after)
    (hChange :
      ∀ value other,
        differ value other →
          differ' (change value) (change other)) :
    Option.Rel differ' (before.map change)
      (after.map change) := by
  cases h with
  | none => exact .none
  | some hValue => exact .some (hChange _ _ hValue)

theorem rel_mono
    {weaker : α → α → Prop}
    {before after : Option α}
    (hMono :
      ∀ value other,
        differ value other → weaker value other)
    (h : Option.Rel differ before after) :
    Option.Rel weaker before after := by
  cases h with
  | none => exact .none
  | some hValue => exact .some (hMono _ _ hValue)

theorem eq_of_rel
    {before after : Option α}
    (hEq :
      ∀ value other, differ value other → value = other)
    (h : Option.Rel differ before after) :
    before = after := by
  cases h with
  | none => rfl
  | some hValue => rw [hEq _ _ hValue]

theorem rel_eq_iff
    {before after : Option α} :
    Option.Rel Eq before after ↔ before = after := by
  constructor
  · exact eq_of_rel (fun _ _ => id)
  · rintro rfl
    exact rel_refl (fun _ => rfl) before

theorem eq_of_forall₂
    {before after : List α}
    (hEq :
      ∀ value other, differ value other → value = other)
    (h : List.Forall₂ differ before after) :
    before = after := by
  rw [← List.forall₂_eq_eq_eq]
  exact h.imp hEq

/- Items that are taken alike make lists that are. -/
theorem rel_mapM
    {vary : γ → δ → Prop}
    {read? : γ → Option α}
    {read?' : δ → Option α}
    {before : List γ}
    {after : List δ}
    (h : List.Forall₂ vary before after)
    (hRead :
      ∀ item other,
        vary item other →
          Option.Rel differ (read? item) (read?' other)) :
    Option.Rel (List.Forall₂ differ) (before.mapM read?)
      (after.mapM read?') := by
  induction h with
  | nil => exact .some .nil
  | cons hItem _ ih =>
      rw [List.mapM_cons, List.mapM_cons]
      refine rel_bind (hRead _ _ hItem) ?_
      intro value other hValue
      refine rel_bind ih ?_
      intro values others hValues
      exact .some (.cons hValue hValues)

end Results

------------------------------------------------------------
-- Entries That Differ
------------------------------------------------------------

/- Entries of one key whose values differ as it says. -/
def EntryVaries
    (differ : String → α → α → Prop)
    (before after : String × α) : Prop :=
  after.1 = before.1 ∧
    differ before.1 before.2 after.2

section EntryLists

variable {differ : String → α → α → Prop}
variable {before after : List (String × α)}

theorem map_fst_of_varies
    (h : List.Forall₂ (EntryVaries differ) before after) :
    after.map Prod.fst = before.map Prod.fst := by
  induction h with
  | nil => rfl
  | cons hEntry _ ih =>
      rw [List.map_cons, List.map_cons, hEntry.1, ih]

theorem filter_of_varies
    (h : List.Forall₂ (EntryVaries differ) before after)
    (keep : String → Bool) :
    List.Forall₂ (EntryVaries differ)
      (before.filter (fun entry => keep entry.1))
      (after.filter (fun entry => keep entry.1)) := by
  apply List.rel_filter _ h
  intro entry other hEntry
  simp only [hEntry.1]

/- Where no value may differ the entries are the same. -/
theorem eq_of_varies
    (h : List.Forall₂ (EntryVaries differ) before after)
    (hSame :
      ∀ entry ∈ before,
        ∀ value,
          differ entry.1 entry.2 value →
            value = entry.2) :
    after = before := by
  induction h with
  | nil => rfl
  | @cons entry other _ _ hEntry _ ih =>
      have hValue : other.2 = entry.2 :=
        hSame entry List.mem_cons_self other.2 hEntry.2
      rw [ih (fun e hMem =>
        hSame e (List.mem_cons_of_mem entry hMem))]
      exact
        congrArg (fun e => e :: _)
          (Prod.ext hEntry.1 hValue)

theorem find?_of_varies
    (h : List.Forall₂ (EntryVaries differ) before after)
    (name : String) :
    Option.Rel (differ name) (Entries.find? name before)
      (Entries.find? name after) := by
  induction h with
  | nil => exact .none
  | @cons entry other _ _ hEntry _ ih =>
      rw [Entries.find?, Entries.find?, hEntry.1]
      split
      · rename_i hName
        rw [← hName]
        exact .some hEntry.2
      · exact ih

end EntryLists

------------------------------------------------------------
-- Objects And Arrays That Differ
------------------------------------------------------------

/- A part that is the same or differs as its key says. -/
def MayVary
    (parts : String → Document → Document → Prop)
    (name : String)
    (before after : Document) : Prop :=
  after = before ∨ parts name before after

namespace Document

/- Members of one key, of which the value may differ. -/
inductive MemberVaries
    (parts : String → Document → Document → Prop) :
    Option String × Document →
      Option String × Document → Prop
  | same (member : Option String × Document) :
      MemberVaries parts member member
  | part
      {name : String}
      {before after : Document}
      (h : parts name before after) :
      MemberVaries parts (some name, before)
        (some name, after)

/- Objects whose members may differ one by one. -/
inductive ObjectVaries
    (parts : String → Document → Document → Prop) :
    Document → Document → Prop
  | same (document : Document) :
      ObjectVaries parts document document
  | members
      {before after : List (Option String × Document)}
      (h :
        List.Forall₂ (MemberVaries parts) before after) :
      ObjectVaries parts (.object before) (.object after)

/- Arrays whose items may differ one by one. -/
inductive ItemsVary
    (item : Document → Document → Prop) :
    Document → Document → Prop
  | same (document : Document) :
      ItemsVary item document document
  | items
      {before after : List Document}
      (h : List.Forall₂ item before after) :
      ItemsVary item (.array before) (.array after)

variable {parts : String → Document → Document → Prop}
variable {item : Document → Document → Prop}
variable {read? : Document → Option α}
variable {names : List String}

/- A member is taken alike if its document is. -/
theorem rel_member?
    {differ : String → α → α → Prop}
    {before after : Option String × Document}
    (h : MemberVaries parts before after)
    (hRead :
      ∀ name document other,
        MayVary parts name document other →
          Option.Rel (differ name) (read? document)
            (read? other)) :
    Option.Rel (EntryVaries differ) (member? read? before)
      (member? read? after) := by
  cases h with
  | same =>
      rcases before with ⟨_ | name, document⟩
      · exact .none
      · refine rel_bind (hRead name _ _ (.inl rfl)) ?_
        exact fun _ _ hValue => .some ⟨rfl, hValue⟩
  | @part name _ _ hPart =>
      refine rel_bind (hRead name _ _ (.inr hPart)) ?_
      exact fun _ _ hValue => .some ⟨rfl, hValue⟩

theorem takesAlike_list?
    {differ : α → α → Prop}
    (hRefl : ∀ value, differ value value)
    (hRead : TakesAlike item differ read?) :
    TakesAlike (ItemsVary item) (List.Forall₂ differ)
      (list? read?) := by
  rintro _ _ (document | hItems)
  · exact rel_refl (forall₂_refl hRefl) _
  · exact rel_mapM hItems hRead

/- Null is no array, so it is not taken for one. -/
theorem takesAlike_optional?_list?
    {differ : α → α → Prop}
    (hRefl : ∀ value, differ value value)
    (hRead : TakesAlike item differ read?) :
    TakesAlike (ItemsVary item)
      (Option.Rel (List.Forall₂ differ))
      (optional? (list? read?)) := by
  rintro _ _ (document | hItems)
  · exact rel_refl (rel_refl (forall₂_refl hRefl)) _
  · exact
      rel_map
        (takesAlike_list? hRefl hRead _ _ (.items hItems))
        (fun _ _ => .some)

/- Tables differ under the keys of the object. -/
theorem takesAlike_optional?_table?
    {differ : String → α → α → Prop}
    (hRefl : ∀ name value, differ name value value)
    (hRead :
      ∀ name document other,
        MayVary parts name document other →
          Option.Rel (differ name) (read? document)
            (read? other)) :
    TakesAlike (ObjectVaries parts)
      (Option.Rel (fun table other =>
        ∀ name,
          Option.Rel (differ name) (table.find? name)
            (other.find? name)))
      (optional? (table? read?)) := by
  rintro _ _ (document | hMembers)
  · exact
      rel_refl
        (rel_refl (fun table name =>
          rel_refl (hRefl name) (table.find? name)))
        _
  · have hEntries :=
      rel_mapM hMembers
        (fun _ _ hMember => rel_member? hMember hRead)
    refine rel_map (rel_map hEntries ?_) (fun _ _ => .some)
    intro entries others hVary name
    rw [Table.find?_ofList, Table.find?_ofList]
    exact find?_of_varies (List.rel_reverse hVary) name

end Document

------------------------------------------------------------
-- Records That Differ
------------------------------------------------------------

/-
  Records in which the documents of declared members may
  differ.
-/
structure Record.Varies
    (parts : String → Document → Document → Prop)
    (before after : Record) : Prop where
  find? :
    ∀ name,
      Option.Rel (MayVary parts name) (before.find? name)
        (after.find? name)
  others : after.others = before.others

theorem Record.Varies.refl
    {parts : String → Document → Document → Prop}
    (record : Record) :
    Record.Varies parts record record :=
  ⟨fun name =>
      rel_refl (fun _ => .inl rfl) (record.find? name),
    rfl⟩

namespace Document

variable {parts : String → Document → Document → Prop}
variable {names : List String}

/-
  Documents of a record that differ under its keys. In an
  array it is the position of an item that gives its key.
-/
inductive RecordVaries
    (names : List String)
    (parts : String → Document → Document → Prop) :
    Document → Document → Prop
  | named
      {before after : Document}
      (h : ObjectVaries parts before after) :
      RecordVaries names parts before after
  | positional
      {before after : List Document}
      (hLength : after.length = before.length)
      (h :
        List.Forall₂ (EntryVaries (MayVary parts))
          (names.zip before) (names.zip after)) :
      RecordVaries names parts (.array before)
        (.array after)

/- A record stays one when declared members differ. -/
theorem takesAlike_objectRecord?
    (hParts :
      ∀ name before after,
        parts name before after → name ∈ names) :
    TakesAlike (ObjectVaries parts) (Record.Varies parts)
      (objectRecord? names) := by
  rintro _ _ (document | hMembers)
  · exact rel_refl Record.Varies.refl _
  · refine
      rel_bind
        (rel_mapM hMembers
          (fun _ _ hMember =>
            rel_member? hMember
              (fun _ _ _ hPart => .some hPart))) ?_
    intro keyed others hKeyed
    have hDeclared :=
      filter_of_varies hKeyed (fun k => names.contains k)
    have hOthers :
        others.filter (fun m => !names.contains m.1) =
          keyed.filter (fun m => !names.contains m.1) := by
      apply eq_of_varies
        (filter_of_varies hKeyed
          (fun k => !names.contains k))
      rintro entry hMem document (rfl | hPart)
      · rfl
      · have hName := hParts _ _ _ hPart
        simp [hName] at hMem
    simp only [map_fst_of_varies hDeclared]
    split
    · exact .some ⟨find?_of_varies hDeclared, hOthers⟩
    · exact .none

theorem takesAlike_record?
    (hParts :
      ∀ name before after,
        parts name before after → name ∈ names) :
    TakesAlike (RecordVaries names parts)
      (Record.Varies parts) (record? names) := by
  rintro _ _ (hObject | ⟨hLength, hItems⟩)
  · rcases hObject with document | hMembers
    · exact rel_refl Record.Varies.refl _
    · exact
        takesAlike_objectRecord? hParts _ _
          (.members hMembers)
  · simp only [record?, hLength]
    split
    · exact .some ⟨find?_of_varies hItems, rfl⟩
    · exact .none

end Document

namespace Record.Varies

variable {parts : String → Document → Document → Prop}
variable {before after : Record}
variable {read? : Document → Option α}
variable {name : String}
variable {absent : α}

/- Members that cannot differ are found as before. -/
theorem find?_eq
    (h : Varies parts before after)
    (hNone :
      ∀ document other, ¬ parts name document other) :
    after.find? name = before.find? name := by
  have hFind := h.find? name
  generalize before.find? name = found at hFind
  generalize after.find? name = found' at hFind
  cases hFind with
  | none => rfl
  | some hPart =>
      rcases hPart with rfl | hPart
      · rfl
      · exact absurd hPart (hNone _ _)

theorem required?_same
    (h : Varies parts before after)
    (hNone :
      ∀ document other, ¬ parts name document other) :
    Option.Rel Eq (before.required? name read?)
      (after.required? name read?) := by
  rw [rel_eq_iff, required?, required?, h.find?_eq hNone]

theorem defaulted?_same
    (h : Varies parts before after)
    (hNone :
      ∀ document other, ¬ parts name document other) :
    Option.Rel Eq (before.defaulted? name absent read?)
      (after.defaulted? name absent read?) := by
  rw [rel_eq_iff, Record.defaulted?, Record.defaulted?,
    h.find?_eq hNone]

theorem extra?_same
    (h : Varies parts before after)
    (depth : Nat) :
    Option.Rel Eq (before.extra? depth)
      (after.extra? depth) := by
  rw [rel_eq_iff, extra?, extra?, h.others]

/- A member that may differ is taken alike. -/
theorem defaulted?
    {differ : α → α → Prop}
    (h : Varies parts before after)
    (hRefl : ∀ value, differ value value)
    (hRead : TakesAlike (parts name) differ read?) :
    Option.Rel differ (before.defaulted? name absent read?)
      (after.defaulted? name absent read?) := by
  unfold Record.defaulted?
  have hFind := h.find? name
  generalize before.find? name = found at hFind
  generalize after.find? name = found' at hFind
  cases hFind with
  | none => exact .some (hRefl absent)
  | some hPart =>
      rcases hPart with rfl | hPart
      · exact rel_refl hRefl _
      · exact hRead _ _ hPart

end Record.Varies

end Json

end NotebookGrading
