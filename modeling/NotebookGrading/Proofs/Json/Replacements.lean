import NotebookGrading.Proofs.Json.Members

/-
  Documents that differ from others at one place only.

  What is put at a place may replace what stood there or be
  new, and a new member may stand anywhere in its object.
  Objects on the way that are absent are created. All that
  stands elsewhere is read as before.

  Key definitions include:
    * `Entries.Replaces`
    * `Json.Document.Put`
    * `Json.Record.DiffersAt`

  Main statements:
    * `Entries.Replaces.mapM`
    * `Json.Document.exists_record_of_replaces`
    * `Json.Document.exists_value_of_replaces`
    * `Json.Document.exists_put`
    * `Json.Document.Put.exists_record`
    * `Json.Document.Put.exists_list`
-/

namespace NotebookGrading

open Json (Document)

------------------------------------------------------------
-- Entries That Differ Under One Key
------------------------------------------------------------

namespace Entries

/-
  Lists of entries of which the later one has exactly one
  entry of a key, while the entries of all other keys are
  the same in the same order.
-/
structure Replaces
    {κ α : Type}
    [DecidableEq κ]
    (key : κ)
    (value : α)
    (before after : List (κ × α)) : Prop where
  own :
    after.filter (fun entry => decide (entry.1 = key)) =
      [(key, value)]
  others :
    after.filter (fun entry => decide (entry.1 ≠ key)) =
      before.filter (fun entry => decide (entry.1 ≠ key))

namespace Replaces

variable {κ α : Type}
variable [DecidableEq κ]
variable {key : κ}
variable {value : α}
variable {before after : List (κ × α)}

/- The entries of any key can be replaced. -/
theorem exists_replaces
    (key : κ)
    (value : α)
    (before : List (κ × α)) :
    ∃ after, Replaces key value before after := by
  refine
    ⟨before.filter (fun entry => decide (entry.1 ≠ key)) ++
        [(key, value)], ?_, ?_⟩ <;>
    simp [List.filter_append, List.filter_filter]

theorem reverse
    (h : Replaces key value before after) :
    Replaces key value before.reverse after.reverse := by
  constructor
  · rw [List.filter_reverse, h.own]
    rfl
  · rw [List.filter_reverse, List.filter_reverse, h.others]

/- Keys that are dropped may be dropped beforehand. -/
theorem filter
    (h : Replaces key value before after)
    (keep : κ → Bool)
    (hKeep : keep key = true) :
    Replaces key value
      (before.filter (fun entry => keep entry.1))
      (after.filter (fun entry => keep entry.1)) := by
  constructor
  · rw [List.filter_comm, h.own]
    simp [hKeep]
  · rw [List.filter_comm, h.others, List.filter_comm]

/- Where the key is dropped there is no difference. -/
theorem filter_eq
    (h : Replaces key value before after)
    (keep : κ → Bool)
    (hDrop : keep key = false) :
    after.filter (fun entry => keep entry.1) =
      before.filter (fun entry => keep entry.1) := by
  have hOther :
      ∀ entries : List (κ × α),
        entries.filter (fun entry => keep entry.1) =
          (entries.filter
              (fun entry => decide (entry.1 ≠ key))).filter
            (fun entry => keep entry.1) := by
    intro entries
    rw [List.filter_filter]
    apply List.filter_congr
    intro entry _
    by_cases hKey : entry.1 = key
    · simp [hKey, hDrop]
    · simp [hKey]
  rw [hOther after, hOther before, h.others]

/- Keys that differ from one another still do. -/
theorem nodup
    (h : Replaces key value before after)
    (hNodup : (before.map Prod.fst).Nodup) :
    (after.map Prod.fst).Nodup := by
  have hParts :=
    (List.filter_append_perm
      (fun entry : κ × α => decide (entry.1 = key))
      after).map Prod.fst
  have hRest :
      (after.filter (fun entry => !decide (entry.1 = key))) =
        before.filter
          (fun entry => decide (entry.1 ≠ key)) := by
    rw [← h.others]
    apply List.filter_congr
    intro entry _
    simp
  rw [h.own, hRest] at hParts
  rw [← hParts.nodup_iff, List.map_append,
    List.map_singleton, List.singleton_append,
    List.nodup_cons]
  constructor
  · simp
  · exact
      hNodup.sublist (List.filter_sublist.map Prod.fst)

end Replaces

variable {α : Type}
variable {key : String}
variable {value : α}
variable {before after : List (String × α)}

theorem Replaces.find?_self
    (h : Replaces key value before after) :
    Entries.find? key after = some value := by
  rw [← @find?_filter _ (fun k => decide (k = key)) key
    (by simp) after, h.own]
  simp [Entries.find?]

theorem Replaces.find?_of_ne
    (h : Replaces key value before after)
    {other : String}
    (hOther : other ≠ key) :
    Entries.find? other after =
      Entries.find? other before := by
  have hOthers :=
    @find?_filter α (fun k => decide (k ≠ key)) other
      (by simpa using hOther)
  rw [← hOthers after, h.others, hOthers before]

end Entries

------------------------------------------------------------
-- Members That Are Read
------------------------------------------------------------

namespace Json

/- Reading a list is reading each of its items. -/
theorem mapM_eq_some_iff
    {α β : Type}
    {read? : α → Option β}
    {items : List α}
    {values : List β} :
    items.mapM read? = some values ↔
      (∀ item ∈ items, (read? item).isSome = true) ∧
        items.filterMap read? = values := by
  induction items generalizing values with
  | nil => simp
  | cons item rest ih =>
      rw [List.mapM_cons]
      cases hItem : read? item with
      | none => simp [hItem]
      | some value =>
          cases hRest : rest.mapM read? with
          | none =>
              have hNot :
                  ¬∀ x ∈ rest, (read? x).isSome = true := by
                intro hAll
                have hSome := ih.2 ⟨hAll, rfl⟩
                rw [hRest] at hSome
                cases hSome
              simpa [hItem] using fun h => absurd h hNot
          | some others =>
              rcases ih.1 hRest with ⟨hAll, hOthers⟩
              simpa [hItem, hOthers] using fun _ => hAll

/- Members can be chosen by their keys before reading. -/
theorem filter_filterMap_member?
    {α : Type}
    {read? : Document → Option α}
    {keep : String → Bool}
    {given : Option String → Bool}
    (h : ∀ name, given (some name) = keep name)
    (members : List (Option String × Document)) :
    (members.filterMap (member? read?)).filter
        (fun entry => keep entry.1) =
      (members.filter (fun m => given m.1)).filterMap
        (member? read?) := by
  rw [List.filter_filterMap, List.filterMap_filter]
  apply List.filterMap_congr
  rintro ⟨_ | name, document⟩ _
  · simp [member?]
  · rw [h]
    cases hRead : read? document <;>
      cases hKeep : keep name <;>
        simp [member?, hRead, hKeep, Option.filter]

end Json

/-
  Members that can be read still can if one of them is
  replaced by what can be read as well.
-/
theorem Entries.Replaces.mapM
    {α : Type}
    {read? : Document → Option α}
    {name : String}
    {part : Document}
    {value : α}
    {before after : List (Option String × Document)}
    {entries : List (String × α)}
    (h : Replaces (some name) part before after)
    (hEntries :
      before.mapM (Json.member? read?) = some entries)
    (hPart : read? part = some value) :
    ∃ changed,
      after.mapM (Json.member? read?) = some changed ∧
        Replaces name value entries changed := by
  rcases Json.mapM_eq_some_iff.1 hEntries with ⟨hAll, rfl⟩
  have hOwn :
      Json.member? read? (some name, part) =
        some (name, value) := by
    simp [Json.member?, hPart]
  refine
    ⟨_, Json.mapM_eq_some_iff.2 ⟨?_, rfl⟩, ?_, ?_⟩
  · intro m hMem
    by_cases hKey : m.1 = some name
    · have hFound :
          m ∈ after.filter
            (fun e => decide (e.1 = some name)) := by
        simpa [hKey] using hMem
      rw [h.own, List.mem_singleton] at hFound
      rw [hFound, hOwn]
      rfl
    · have hFound :
          m ∈ after.filter
            (fun e => decide (e.1 ≠ some name)) := by
        simpa [hKey] using hMem
      rw [h.others] at hFound
      exact hAll m (List.mem_filter.1 hFound).1
  · rw [@Json.filter_filterMap_member? _ _
      (fun k => decide (k = name))
      (fun k => decide (k = some name)) (by simp),
      h.own]
    simp [hOwn]
  · have hOthers :=
      @Json.filter_filterMap_member? _ read?
        (fun k => decide (k ≠ name))
        (fun k => decide (k ≠ some name)) (by simp)
    rw [hOthers after, hOthers before, h.others]

------------------------------------------------------------
-- Records That Differ In One Member
------------------------------------------------------------

namespace Json

variable {names : List String}
variable {name : String}
variable {part : Document}

/- A record in which another document has a name. -/
structure Record.DiffersAt
    (name : String)
    (part : Document)
    (before after : Record) : Prop where
  find?_self : after.find? name = some part
  find?_of_ne :
    ∀ other, other ≠ name →
      after.find? other = before.find? other
  others : after.others = before.others

namespace Record

variable {α : Type}
variable {before after : Record}
variable {other : String}
variable {absent : α}
variable {read? : Document → Option α}

/- An absent object is read as one without members. -/
theorem read?_getD
    {value : α}
    (hValue :
      before.defaulted? name absent read? = some value)
    (hAbsent : read? (.object []) = some absent) :
    read? ((before.find? name).getD (.object [])) =
      some value := by
  unfold defaulted? at hValue
  cases hFind : before.find? name with
  | none =>
      rw [hFind] at hValue
      exact hAbsent.trans hValue
  | some document =>
      rw [hFind] at hValue
      exact hValue

namespace DiffersAt

theorem defaulted?_self
    (h : DiffersAt name part before after) :
    after.defaulted? name absent read? = read? part :=
  defaulted?_of_find? h.find?_self absent read?

theorem defaulted?_of_ne
    (h : DiffersAt name part before after)
    (hOther : other ≠ name) :
    after.defaulted? other absent read? =
      before.defaulted? other absent read? := by
  unfold defaulted?
  rw [h.find?_of_ne other hOther]

theorem required?_of_ne
    (h : DiffersAt name part before after)
    (hOther : other ≠ name) :
    after.required? other read? =
      before.required? other read? := by
  unfold required?
  rw [h.find?_of_ne other hOther]

theorem extra?_eq
    (h : DiffersAt name part before after)
    (depth : Nat) :
    after.extra? depth = before.extra? depth := by
  unfold extra?
  rw [h.others]

end DiffersAt

end Record

namespace Document

/- A record stays one when a declared member is replaced. -/
theorem exists_record_of_replaces
    {record : Record}
    {before after : List (Option String × Document)}
    (hRecord :
      objectRecord? names (.object before) = some record)
    (hName : name ∈ names)
    (h : Entries.Replaces (some name) part before after) :
    ∃ changed,
      objectRecord? names (.object after) = some changed ∧
        Record.DiffersAt name part record changed := by
  rcases objectRecord?_eq_some hRecord with
    ⟨given, keyed, hGiven, hKeyed, hDeclared, hOthers,
      hNodup⟩
  cases hGiven
  rcases h.mapM hKeyed rfl with ⟨keys, hKeys, hReplaces⟩
  have hKept :
      Entries.Replaces name part record.declared
        (keys.filter (fun m => names.contains m.1)) := by
    rw [hDeclared]
    exact
      hReplaces.filter (fun k => names.contains k)
        (by simpa using hName)
  have hDropped :
      keys.filter (fun m => !names.contains m.1) =
        record.others := by
    rw [hOthers]
    exact
      hReplaces.filter_eq (fun k => !names.contains k)
        (by simpa using hName)
  refine
    ⟨⟨keys.filter (fun m => names.contains m.1),
        keys.filter (fun m => !names.contains m.1),
        false⟩, ?_, hKept.find?_self, ?_, hDropped⟩
  · unfold objectRecord? keyedMembers?
    simp only [hKeys, Option.bind_eq_bind, Option.bind_some]
    rw [if_pos (hKept.nodup hNodup)]
  · intro other hOther
    exact hKept.find?_of_ne hOther

------------------------------------------------------------
-- Values That Differ In One Member
------------------------------------------------------------

/- The value of an object is an object. -/
theorem exists_object_of_value?
    {depth : Nat}
    {value : Json}
    {members : List (Option String × Document)}
    (h : (object members).value? depth = some value) :
    ∃ entries, value = .object entries := by
  cases depth with
  | zero => cases h
  | succ depth =>
      rcases Option.map_eq_some_iff.1 h with
        ⟨entries, -, rfl⟩
      exact ⟨_, rfl⟩

/- Replacing a member of an object changes its value so. -/
theorem exists_value_of_replaces
    {depth : Nat}
    {value : Json}
    {entries : List (String × Json)}
    {before after : List (Option String × Document)}
    (hBefore :
      (object before).value? (depth + 1) =
        some (.object entries))
    (hPart : part.value? depth = some value)
    (h : Entries.Replaces (some name) part before after) :
    ∃ changed,
      (object after).value? (depth + 1) =
          some (.object changed) ∧
        Entries.find? name changed = some value ∧
        ∀ other, other ≠ name →
          Entries.find? other changed =
            Entries.find? other entries := by
  rcases Option.map_eq_some_iff.1 hBefore with
    ⟨given, hGiven, hEntries⟩
  rcases h.mapM hGiven hPart with
    ⟨changed, hChanged, hReplaces⟩
  have hReversed := hReplaces.reverse
  refine ⟨(Table.ofList changed).entries, ?_, ?_, ?_⟩
  · rw [value?, hChanged, Option.map_some]
  · rw [← hReversed.find?_self]
    exact Table.find?_ofList changed name
  · intro other hOther
    cases hEntries
    have hSame := hReversed.find?_of_ne hOther
    rw [← Table.find?_ofList, ← Table.find?_ofList] at hSame
    exact hSame

------------------------------------------------------------
-- Items Of Lists
------------------------------------------------------------

/- Replacing an item of a list changes one value of it. -/
theorem mapM_set
    {α : Type}
    {read? : Document → Option α}
    {items : List Document}
    {values : List α}
    {value : α}
    (h : items.mapM read? = some values)
    (hPart : read? part = some value)
    (index : Nat) :
    (items.set index part).mapM read? =
      some (values.set index value) := by
  induction items generalizing values index with
  | nil =>
      cases h
      rfl
  | cons item rest ih =>
      rw [List.mapM_cons] at h
      rcases Option.bind_eq_some_iff.1 h with
        ⟨first, hFirst, hRest⟩
      rcases Option.bind_eq_some_iff.1 hRest with
        ⟨others, hOthers, hValues⟩
      cases hValues
      cases index with
      | zero => simp [hPart, hOthers]
      | succ index =>
          simp [hFirst, ih hOthers index]

------------------------------------------------------------
-- Documents That Differ At One Place
------------------------------------------------------------

/-
  The later document has an item at a place and is like the
  earlier one elsewhere. A member of an object may be new,
  and if it is on the way then it starts as an empty object;
  an item of an array has to be there.
-/
inductive Put
    (item : Document) :
    List Step → Document → Document → Prop
  | here (before : Document) : Put item [] before item
  | member
      {name : String}
      {rest : List Step}
      {before after : List (Option String × Document)}
      {part : Document}
      (hReplaces :
        Entries.Replaces (some name) part before after)
      (hPart :
        Put item rest
          ((step? (.key name) (.object before)).getD
            (.object []))
          part) :
      Put item (.key name :: rest) (.object before)
        (.object after)
  | index
      {position : Nat}
      {rest : List Step}
      {items : List Document}
      {old part : Document}
      (hOld : items[position]? = some old)
      (hPart : Put item rest old part) :
      Put item (.index position :: rest) (.array items)
        (.array (items.set position part))

/- What stands at a place can be replaced. -/
theorem exists_put
    (item : Document)
    {place : List Step}
    {document : Document}
    (h : (at? place document).isSome = true) :
    ∃ changed, Put item place document changed := by
  induction place generalizing document with
  | nil => exact ⟨item, .here document⟩
  | cons step rest ih =>
      rcases Option.isSome_iff_exists.1 h with
        ⟨found, hFound⟩
      rcases Option.bind_eq_some_iff.1 hFound with
        ⟨next, hStep, hRest⟩
      rcases ih (Option.isSome_iff_exists.2 ⟨found, hRest⟩)
        with ⟨part, hPart⟩
      cases step with
      | key name =>
          cases document with
          | object members =>
              rcases
                  Entries.Replaces.exists_replaces
                    (some name) part members
                with ⟨after, hReplaces⟩
              refine ⟨.object after, .member hReplaces ?_⟩
              rw [hStep]
              exact hPart
          | _ => cases hStep
      | index position =>
          cases document with
          | array items => exact ⟨_, .index hStep hPart⟩
          | _ => cases hStep

/- Putting something into a member of a record. -/
theorem Put.exists_record
    {item given changed : Document}
    {rest : List Step}
    {record : Record}
    (h : Put item (.key name :: rest) given changed)
    (hRecord : objectRecord? names given = some record)
    (hName : name ∈ names) :
    ∃ part after,
      Put item rest
          ((record.find? name).getD (.object [])) part ∧
        objectRecord? names changed = some after ∧
        Record.DiffersAt name part record after := by
  cases h with
  | member hReplaces hPart =>
      rcases exists_record_of_replaces hRecord hName
          hReplaces
        with ⟨after, hAfter, hDiffers⟩
      rw [step?_of_mem hRecord hName] at hPart
      exact ⟨_, after, hPart, hAfter, hDiffers⟩

/- The first member of a record is given by its position. -/
theorem find?_of_first
    {record : Record}
    {items : List Document}
    (h :
      record? (name :: names) (.array items) =
        some record) :
    record.find? name = items[0]? := by
  unfold record? at h
  simp only at h
  split at h
  · cases h
    cases items <;> simp [Record.find?, Entries.find?]
  · cases h

theorem Put.exists_record_of_first
    {item given changed : Document}
    {rest : List Step}
    {record : Record}
    (h : Put item (.index 0 :: rest) given changed)
    (hRecord :
      record? (name :: names) given = some record) :
    ∃ old part after,
      record.find? name = some old ∧
        Put item rest old part ∧
        record? (name :: names) changed = some after ∧
        Record.DiffersAt name part record after := by
  cases h with
  | @index _ _ items old part hOld hPart =>
      have hFind := find?_of_first hRecord
      rw [hOld] at hFind
      cases items with
      | nil => cases hOld
      | cons first others =>
          unfold record? at hRecord ⊢
          simp only [List.set_cons_zero, List.length_cons]
            at hRecord ⊢
          split at hRecord
          · rename_i hLength
            cases hRecord
            refine
              ⟨old, part, _, hFind, hPart, if_pos hLength,
                ?_, ?_, rfl⟩
            · simp [Record.find?, Entries.find?]
            · intro other hOther
              simp [Record.find?, Entries.find?,
                hOther.symm]
          · cases hRecord

/- A list has one value in place of another. -/
theorem Put.exists_list
    {α : Type}
    {read? : Document → Option α}
    {item given changed : Document}
    {rest : List Step}
    {position : Nat}
    {values : List α}
    (h : Put item (.index position :: rest) given changed)
    (hValues : list? read? given = some values) :
    ∃ old part value,
      Put item rest old part ∧
        read? old = some value ∧
        values[position]? = some value ∧
        ∀ other,
          read? part = some other →
            list? read? changed =
              some (values.set position other) := by
  cases h with
  | @index _ _ items old part hOld hPart =>
      rcases exists_of_list? hValues hOld with
        ⟨value, hValue, hRead⟩
      exact
        ⟨old, part, value, hPart, hRead, hValue,
          fun other hOther =>
            mapM_set hValues hOther position⟩

end Document

end Json

end NotebookGrading
