import Mathlib.Data.List.Induction
import NotebookGrading.Proofs.Gradebook.Entries

/-
  Lists that are revised entry by entry.

  A revision changes the entry with its id, or makes one
  from a fresh entry. Where later revisions of an id make up
  for all earlier ones, a row of revisions that is made once
  more changes nothing, though the same id may be revised
  many times and stand in the list more than once.

  Revisions of different entries can be made in any order:
  only the new entries, which go behind the others, then
  stand in another order.

  Key definitions include:
    * `Revision`
    * `Revision.apply`
    * `Revision.applyAll`
    * `Revision.Overwrite`
    * `Revision.SameBehind`

  Main statements:
    * `upsert_congr`
    * `Revision.apply_comm`
    * `Revision.Overwrite.applyAll_applyAll`
    * `Revision.KeepKeys.applyAll_eq_append`
    * `Revision.KeepKeys.sameBehind`
-/

namespace NotebookGrading

------------------------------------------------------------
-- Changes Of The First Entry
------------------------------------------------------------

/- Only the change of the first entry with the key counts. -/
theorem upsert_congr
    {α : Type}
    {key : α → String}
    {id : String}
    {change other : α → α}
    {new fresh : α}
    {values : List α}
    (hChange :
      ∀ value,
        values.find? (fun v => key v == id) = some value →
          change value = other value)
    (hNew :
      values.find? (fun v => key v == id) = none →
        new = fresh) :
    upsert key id change new values =
      upsert key id other fresh values := by
  induction values with
  | nil => simp [upsert, hNew List.find?_nil]
  | cons value rest ih =>
      by_cases hKey : key value = id
      · simp [upsert, hKey, hChange value (by simp [hKey])]
      · have hSkip :
            (value :: rest).find? (fun v => key v == id) =
              rest.find? (fun v => key v == id) := by
          simp [hKey]
        rw [hSkip] at hChange hNew
        simp [upsert, hKey, ih hChange hNew]

------------------------------------------------------------
-- Revisions
------------------------------------------------------------

/- A change of the entry with an id. -/
structure Revision (α : Type) where
  id : String
  change : α → α

namespace Revision

section Laws

variable {α : Type}
variable (key : α → String)
variable (fresh : String → α)

/- Change the first entry with the id, or a fresh one. -/
def apply
    (values : List α)
    (revision : Revision α) : List α :=
  upsert key revision.id revision.change
    (revision.change (fresh revision.id)) values

def applyAll
    (values : List α)
    (revisions : List (Revision α)) : List α :=
  revisions.foldl (apply key fresh) values

/-
  Revisions that keep the keys of entries, and of which a
  later one with the same id makes up for an earlier.
-/
structure Overwrite
    (revisions : List (Revision α)) : Prop where
  key_fresh : ∀ id, key (fresh id) = id
  key_change :
    ∀ revision ∈ revisions, ∀ value,
      key (revision.change value) = key value
  overwrites :
    ∀ earlier ∈ revisions, ∀ later ∈ revisions,
      earlier.id = later.id →
        ∀ value,
          later.change (earlier.change value) =
            later.change value

variable {key : α → String}
variable {fresh : String → α}
variable {revisions : List (Revision α)}
variable {earlier later : Revision α}

theorem Overwrite.mono
    {some : List (Revision α)}
    (h : Overwrite key fresh revisions)
    (hSome : some ⊆ revisions) :
    Overwrite key fresh some where
  key_fresh := h.key_fresh
  key_change := fun revision hMem =>
    h.key_change revision (hSome hMem)
  overwrites := fun first hFirst second hSecond =>
    h.overwrites first (hSome hFirst) second (hSome hSecond)

/- The later of two revisions of one entry counts. -/
theorem apply_apply_of_id_eq
    (hFresh : key (fresh earlier.id) = earlier.id)
    (hKey :
      ∀ value, key (earlier.change value) = key value)
    (hId : earlier.id = later.id)
    (hOver :
      ∀ value,
        later.change (earlier.change value) =
          later.change value)
    (values : List α) :
    apply key fresh (apply key fresh values earlier) later =
      apply key fresh values later := by
  unfold apply
  rw [← hId]
  induction values with
  | nil => simp [upsert, hKey, hFresh, hOver]
  | cons value rest ih =>
      by_cases hValue : key value = earlier.id
      · simp [upsert, hValue, hKey, hOver]
      · simp [upsert, hValue, ih]

/- Revisions of different entries may change places. -/
theorem apply_comm
    (hNe : earlier.id ≠ later.id)
    (hEarlier :
      ∀ value, key (earlier.change value) = key value)
    (hLater :
      ∀ value, key (later.change value) = key value)
    {values : List α}
    (hPresent : later.id ∈ values.map key) :
    apply key fresh (apply key fresh values earlier) later =
      apply key fresh (apply key fresh values later)
        earlier := by
  unfold apply
  induction values with
  | nil => exact absurd hPresent List.not_mem_nil
  | cons value rest ih =>
      by_cases hFirst : key value = earlier.id
      · have hSecond : key value ≠ later.id := by
          rw [hFirst]
          exact hNe
        simp [upsert, hFirst, hNe, hEarlier]
      · by_cases hSecond : key value = later.id
        · simp [upsert, hSecond, Ne.symm hNe, hLater]
        · have hRest : later.id ∈ rest.map key := by
            rcases List.mem_cons.1 hPresent with
              hHead | hTail
            · exact absurd hHead.symm hSecond
            · exact hTail
          simp [upsert, hFirst, hSecond, ih hRest]

/- Nothing is lost, and the revised entry is there. -/
theorem mem_map_key_apply
    (hFresh : key (fresh later.id) = later.id)
    (hKey : ∀ value, key (later.change value) = key value)
    {values : List α}
    {id : String} :
    id ∈ (apply key fresh values later).map key ↔
      id ∈ values.map key ∨ id = later.id := by
  have hMap :=
    map_upsert key later.id later.change
      (later.change (fresh later.id))
      (fun value hValue => (hKey value).trans hValue)
      ((hKey _).trans hFresh) values
  unfold apply
  rw [hMap]
  split
  · rename_i hMem
    constructor
    · exact Or.inl
    · rintro (hOld | rfl)
      · exact hOld
      · exact hMem
  · simp

theorem Overwrite.mem_map_key_applyAll
    (h : Overwrite key fresh revisions)
    {values : List α}
    {id : String} :
    id ∈ (applyAll key fresh values revisions).map key ↔
      id ∈ values.map key ∨
        ∃ revision ∈ revisions, id = revision.id := by
  induction revisions generalizing values with
  | nil => simp [applyAll]
  | cons revision rest ih =>
      have hStep :
          id ∈ (apply key fresh values revision).map key ↔
            id ∈ values.map key ∨ id = revision.id :=
        mem_map_key_apply (h.key_fresh revision.id)
          (h.key_change revision List.mem_cons_self)
      have hRest :=
        h.mono (List.subset_cons_self revision rest)
      refine (ih hRest).trans ?_
      rw [hStep]
      simp [or_assoc]

/-
  A revision in front of a row of revisions is lost if it
  also follows them and all entries are there: it moves
  along the row up to one with the same id, or to its end.
-/
theorem Overwrite.apply_applyAll_apply
    (h : Overwrite key fresh (later :: revisions))
    {values : List α}
    (hPresent :
      ∀ revision ∈ revisions,
        revision.id ∈ values.map key) :
    apply key fresh
        (applyAll key fresh (apply key fresh values later)
          revisions) later =
      apply key fresh
        (applyAll key fresh values revisions) later := by
  have hLater := h.key_change later List.mem_cons_self
  have hOver := h.overwrites later List.mem_cons_self
  induction revisions generalizing values with
  | nil =>
      exact
        apply_apply_of_id_eq (h.key_fresh later.id) hLater
          rfl (hOver later List.mem_cons_self rfl) values
  | cons revision rest ih =>
      have hMem : revision ∈ later :: revision :: rest := by
        simp
      have hRest : Overwrite key fresh (later :: rest) :=
        h.mono
          (List.cons_subset_cons later
            (List.subset_cons_self revision rest))
      have hKey := h.key_change revision hMem
      by_cases hId : later.id = revision.id
      · have hLost :
            apply key fresh (apply key fresh values later)
                revision =
              apply key fresh values revision :=
          apply_apply_of_id_eq (h.key_fresh later.id) hLater
            hId (hOver revision hMem hId) values
        simp only [applyAll, List.foldl_cons, hLost]
      · have hMoved :
            apply key fresh (apply key fresh values later)
                revision =
              apply key fresh
                (apply key fresh values revision) later :=
          apply_comm hId hLater hKey
            (hPresent revision List.mem_cons_self)
        have hStill :
            ∀ other ∈ rest,
              other.id ∈
                (apply key fresh values revision).map
                  key := by
          intro other hOther
          rw [mem_map_key_apply (h.key_fresh revision.id)
            hKey]
          exact
            .inl
              (hPresent other
                (List.mem_cons_of_mem revision hOther))
        have hEnd :=
          ih hRest hStill
            (fun other hOther =>
              h.overwrites later List.mem_cons_self other
                (by grind))
        simp only [applyAll, List.foldl_cons, hMoved]
        exact hEnd

/- A row of revisions that is made again changes nothing. -/
theorem Overwrite.applyAll_applyAll
    (h : Overwrite key fresh revisions)
    (values : List α) :
    applyAll key fresh (applyAll key fresh values revisions)
        revisions =
      applyAll key fresh values revisions := by
  induction revisions using List.reverseRecOn with
  | nil => rfl
  | append_singleton front last ih =>
      have hFront : Overwrite key fresh front :=
        h.mono (List.subset_append_left front [last])
      have hBoth : Overwrite key fresh (last :: front) :=
        h.mono (by simp)
      have hPresent :
          ∀ revision ∈ front,
            revision.id ∈
              (applyAll key fresh values front).map key := by
        intro revision hMem
        exact
          hFront.mem_map_key_applyAll.2
            (.inr ⟨revision, hMem, rfl⟩)
      have hSplit :
          ∀ list,
            applyAll key fresh list (front ++ [last]) =
              apply key fresh (applyAll key fresh list front)
                last := by
        intro list
        simp [applyAll]
      rw [hSplit, hSplit,
        hBoth.apply_applyAll_apply hPresent, ih hFront]

end Laws

------------------------------------------------------------
-- Revisions In Another Order
------------------------------------------------------------

section Order

variable {α : Type}
variable {key : α → String}
variable {fresh : String → α}
variable {values : List α}
variable {revisions others : List (Revision α)}

/- The entry that a revision makes from a fresh one. -/
def made
    (fresh : String → α)
    (revision : Revision α) : α :=
  revision.change (fresh revision.id)

/- Revisions that keep the keys of entries. -/
structure KeepKeys
    (key : α → String)
    (fresh : String → α)
    (revisions : List (Revision α)) : Prop where
  key_fresh : ∀ id, key (fresh id) = id
  key_change :
    ∀ revision ∈ revisions, ∀ value,
      key (revision.change value) = key value

theorem KeepKeys.mono
    (h : KeepKeys key fresh revisions)
    (hSome : others ⊆ revisions) :
    KeepKeys key fresh others where
  key_fresh := h.key_fresh
  key_change := fun revision hMem =>
    h.key_change revision (hSome hMem)

theorem KeepKeys.key_made
    (h : KeepKeys key fresh revisions)
    {revision : Revision α}
    (hMem : revision ∈ revisions) :
    key (made fresh revision) = revision.id :=
  (h.key_change revision hMem _).trans
    (h.key_fresh revision.id)

/- A known entry is changed where it stands. -/
theorem apply_append_of_mem
    {revision : Revision α}
    (hMem : revision.id ∈ values.map key)
    (behind : List α) :
    apply key fresh (values ++ behind) revision =
      apply key fresh values revision ++ behind := by
  unfold apply
  induction values with
  | nil => exact absurd hMem List.not_mem_nil
  | cons value rest ih =>
      by_cases hKey : key value = revision.id
      · simp [upsert, hKey]
      · have hRest : revision.id ∈ rest.map key := by
          simpa [Ne.symm hKey] using hMem
        simp [upsert, hKey, ih hRest]

/- An entry that is not known goes behind the others. -/
theorem apply_of_not_mem
    {revision : Revision α}
    (hNot : revision.id ∉ values.map key) :
    apply key fresh values revision =
      values ++ [made fresh revision] := by
  unfold apply
  induction values with
  | nil => rfl
  | cons value rest ih =>
      rw [List.map_cons, List.mem_cons, not_or] at hNot
      simp only [upsert, Ne.symm hNot.1, if_false,
        ih hNot.2, List.cons_append]

/- Changing known entries leaves all keys in their places. -/
theorem KeepKeys.map_key_apply
    (h : KeepKeys key fresh revisions)
    {revision : Revision α}
    (hMem : revision ∈ revisions)
    (hKnown : revision.id ∈ values.map key) :
    (apply key fresh values revision).map key =
      values.map key := by
  have hMap :=
    map_upsert key revision.id revision.change
      (made fresh revision)
      (fun value hValue =>
        (h.key_change revision hMem value).trans hValue)
      (h.key_made hMem) values
  rw [if_pos hKnown] at hMap
  exact hMap

theorem KeepKeys.map_key_applyAll
    (h : KeepKeys key fresh revisions)
    (hKnown :
      ∀ revision ∈ revisions,
        revision.id ∈ values.map key) :
    (applyAll key fresh values revisions).map key =
      values.map key := by
  induction revisions generalizing values with
  | nil => rfl
  | cons revision rest ih =>
      have hStep :
          (apply key fresh values revision).map key =
            values.map key :=
        h.map_key_apply List.mem_cons_self
          (hKnown revision List.mem_cons_self)
      have hRest :=
        h.mono (List.subset_cons_self revision rest)
      refine (ih hRest ?_).trans hStep
      intro other hOther
      rw [hStep]
      exact
        hKnown other (List.mem_cons_of_mem revision hOther)

/- Known entries can be changed in any order. -/
theorem KeepKeys.applyAll_perm_of_known
    (h : KeepKeys key fresh revisions)
    (hPerm : revisions.Perm others)
    (hIds : (revisions.map Revision.id).Nodup)
    (hKnown :
      ∀ revision ∈ revisions,
        revision.id ∈ values.map key) :
    applyAll key fresh values revisions =
      applyAll key fresh values others := by
  induction hPerm generalizing values with
  | nil => rfl
  | cons revision hRest ih =>
      rename_i rest otherRest
      have hStep :
          (apply key fresh values revision).map key =
            values.map key :=
        h.map_key_apply List.mem_cons_self
          (hKnown revision List.mem_cons_self)
      have hKeep :=
        h.mono (List.subset_cons_self revision rest)
      refine ih hKeep (List.nodup_cons.1 hIds).2 ?_
      intro other hOther
      rw [hStep]
      exact
        hKnown other (List.mem_cons_of_mem revision hOther)
  | swap earlier later rest =>
      have hNe : later.id ≠ earlier.id := by
        intro hEq
        exact (List.nodup_cons.1 hIds).1 (by simp [hEq])
      have hSwap :=
        @apply_comm α key fresh later earlier hNe
          (h.key_change later (by simp))
          (h.key_change earlier (by simp)) values
          (hKnown earlier (by simp))
      simp only [applyAll, List.foldl_cons, hSwap]
  | trans hFirst hSecond ihFirst ihSecond =>
      refine
        (ihFirst h hIds hKnown).trans
          (ihSecond (h.mono hFirst.symm.subset)
            ((hFirst.map Revision.id).nodup_iff.1 hIds) ?_)
      intro revision hMem
      exact hKnown revision (hFirst.symm.subset hMem)

/- The revisions of entries that are there. -/
def known
    (key : α → String)
    (values : List α)
    (revisions : List (Revision α)) : List (Revision α) :=
  revisions.filter
    (fun revision => revision.id ∈ values.map key)

/- The revisions of entries that are missing. -/
def missing
    (key : α → String)
    (values : List α)
    (revisions : List (Revision α)) : List (Revision α) :=
  revisions.filter
    (fun revision => revision.id ∉ values.map key)

theorem id_mem_of_mem_known
    {revision : Revision α}
    (hMem : revision ∈ known key values revisions) :
    revision.id ∈ values.map key :=
  of_decide_eq_true (List.mem_filter.1 hMem).2

theorem known_concat
    (key : α → String)
    (values : List α)
    (front : List (Revision α))
    (last : Revision α) :
    known key values (front ++ [last]) =
      if last.id ∈ values.map key then
        known key values front ++ [last]
      else
        known key values front := by
  unfold known
  rw [List.filter_append]
  by_cases hKnown : last.id ∈ values.map key
  · rw [List.filter_cons_of_pos (by simpa using hKnown),
      if_pos hKnown]
    rfl
  · rw [List.filter_cons_of_neg (by simpa using hKnown),
      if_neg hKnown]
    exact List.append_nil _

theorem missing_concat
    (key : α → String)
    (values : List α)
    (front : List (Revision α))
    (last : Revision α) :
    missing key values (front ++ [last]) =
      if last.id ∈ values.map key then
        missing key values front
      else
        missing key values front ++ [last] := by
  unfold missing
  rw [List.filter_append]
  by_cases hKnown : last.id ∈ values.map key
  · rw [List.filter_cons_of_neg (by simpa using hKnown),
      if_pos hKnown]
    exact List.append_nil _
  · rw [List.filter_cons_of_pos (by simpa using hKnown),
      if_neg hKnown]
    rfl

theorem missing_subset
    (key : α → String)
    (values : List α)
    (revisions : List (Revision α)) :
    missing key values revisions ⊆ revisions :=
  List.filter_sublist.subset

theorem KeepKeys.known
    (h : KeepKeys key fresh revisions)
    (values : List α) :
    KeepKeys key fresh (known key values revisions) :=
  h.mono List.filter_sublist.subset

/- What is made for missing entries has their ids. -/
theorem KeepKeys.map_key_made
    (h : KeepKeys key fresh revisions)
    (hSome : others ⊆ revisions) :
    (others.map (made fresh)).map key =
      others.map Revision.id := by
  rw [List.map_map]
  apply List.map_congr_left
  intro revision hMem
  exact h.key_made (hSome hMem)

/-
  Revisions of different entries change those that are
  known and put the others behind them.
-/
theorem KeepKeys.applyAll_eq_append
    (h : KeepKeys key fresh revisions)
    (hIds : (revisions.map Revision.id).Nodup) :
    applyAll key fresh values revisions =
      applyAll key fresh values
          (Revision.known key values revisions) ++
        (missing key values revisions).map (made fresh) := by
  induction revisions using List.reverseRecOn with
  | nil => simp [applyAll, Revision.known, missing]
  | append_singleton front last ih =>
      have hFront :=
        h.mono (List.subset_append_left front [last])
      rw [List.map_append, List.nodup_append] at hIds
      rcases hIds with ⟨hFrontIds, -, hNew⟩
      have hKeys :=
        (hFront.known values).map_key_applyAll
          (fun _ hMem => id_mem_of_mem_known hMem)
      have hSplit :
          applyAll key fresh values (front ++ [last]) =
            apply key fresh
              (applyAll key fresh values front) last := by
        simp [applyAll]
      rw [hSplit, ih hFront hFrontIds, known_concat,
        missing_concat]
      -- The last one finds its entry among the known, or
      -- not at all, as no earlier one has made it.
      by_cases hKnown : last.id ∈ values.map key
      · rw [apply_append_of_mem (hKeys.symm ▸ hKnown),
          if_pos hKnown, if_pos hKnown]
        simp [applyAll]
      · have hNot :
            last.id ∉
              (missing key values front).map
                Revision.id := by
          intro hMem
          rcases List.mem_map.1 hMem with
            ⟨revision, hMissing, hId⟩
          have hIn :=
            missing_subset key values front hMissing
          exact
            hNew revision.id (List.mem_map_of_mem hIn)
              last.id (by simp) hId
        have hMade :=
          hFront.map_key_made
            (missing_subset key values front)
        rw [if_neg hKnown, if_neg hKnown, apply_of_not_mem]
        · simp
        · rw [List.map_append, hKeys, hMade, List.mem_append,
            not_or]
          exact ⟨hKnown, hNot⟩

/-
  Entries after revisions in two orders: those that were
  there agree, and behind them the same new ones, which have
  other keys, stand in some order.
-/
def SameBehind
    (key : α → String)
    (before first second : List α) : Prop :=
  ∃ revised added other,
    first = revised ++ added ∧
      second = revised ++ other ∧
      revised.map key = before.map key ∧
      added.Perm other ∧
      (added.map key).Nodup ∧
      ∀ value ∈ added, key value ∉ before.map key

theorem SameBehind.refl
    (values : List α) :
    SameBehind key values values values :=
  ⟨values, [], [], by simp, by simp, rfl, List.Perm.nil,
    List.nodup_nil, by simp⟩

/- The order of revisions of different entries. -/
theorem KeepKeys.sameBehind
    (h : KeepKeys key fresh revisions)
    (hPerm : revisions.Perm others)
    (hIds : (revisions.map Revision.id).Nodup)
    (values : List α) :
    SameBehind key values
      (applyAll key fresh values revisions)
      (applyAll key fresh values others) := by
  have hOthers := h.mono hPerm.symm.subset
  have hOtherIds :=
    (hPerm.map Revision.id).nodup_iff.1 hIds
  have hKnown :
      ∀ revision ∈ Revision.known key values revisions,
        revision.id ∈ values.map key :=
    fun _ hMem => id_mem_of_mem_known hMem
  have hRevised :
      applyAll key fresh values
          (Revision.known key values revisions) =
        applyAll key fresh values
          (Revision.known key values others) :=
    (h.known values).applyAll_perm_of_known
      (hPerm.filter _)
      (hIds.sublist (List.filter_sublist.map Revision.id))
      hKnown
  refine
    ⟨_, _, _, h.applyAll_eq_append hIds, ?_,
      (h.known values).map_key_applyAll hKnown,
      (hPerm.filter _).map (made fresh), ?_, ?_⟩
  · rw [hRevised]
    exact hOthers.applyAll_eq_append hOtherIds
  · rw [h.map_key_made (missing_subset key values revisions)]
    exact hIds.sublist (List.filter_sublist.map Revision.id)
  · intro value hMem
    rcases List.mem_map.1 hMem with
      ⟨revision, hMissing, rfl⟩
    rw [h.key_made
      (missing_subset key values revisions hMissing)]
    exact of_decide_eq_true (List.mem_filter.1 hMissing).2

/- Among different keys the order makes no difference. -/
theorem find?_perm
    {first second : List α}
    (hPerm : first.Perm second)
    (hKeys : (first.map key).Nodup)
    (id : String) :
    first.find? (fun value => key value == id) =
      second.find? (fun value => key value == id) := by
  cases hFind :
      second.find? (fun value => key value == id) with
  | none =>
      rw [List.find?_eq_none] at hFind ⊢
      intro value hMem
      exact hFind value (hPerm.subset hMem)
  | some value =>
      have hKey : key value = id := by
        simpa using List.find?_some hFind
      have hMem : value ∈ first :=
        hPerm.symm.subset (List.mem_of_find?_eq_some hFind)
      rw [← hKey]
      exact find?_key_of_mem key hKeys hMem

theorem SameBehind.find?_eq
    {before first second : List α}
    (h : SameBehind key before first second)
    (id : String) :
    first.find? (fun value => key value == id) =
      second.find? (fun value => key value == id) := by
  rcases h with
    ⟨revised, added, other, rfl, rfl, -, hPerm, hKeys, -⟩
  rw [List.find?_append, List.find?_append,
    find?_perm hPerm hKeys]

end Order

end Revision

end NotebookGrading
