import NotebookGrading.Storage.FileTree

/-
  Laws of file trees.

  Entries are looked up where they were put last. A path
  leads to the same place as long as the directories on the
  way are kept, so writing files does not divert paths. An
  operation that fails changes nothing, except for a write
  that breaks off.

  Key definitions include:
    * `FileTree.KeepsDirectories`

  Main statements:
    * `FileTree.node?_put`, `FileTree.node?_erase`
    * `FileTree.KeepsDirectories.locate`
    * `FileTree.write_eq_ok`, `FileTree.write_eq_error`
    * `FileTree.rename_eq_ok`, `FileTree.rename_eq_error`
-/

namespace NotebookGrading

namespace FileTree

------------------------------------------------------------
-- Entries
------------------------------------------------------------

theorem findNode?_filter_ne
    {location other : Location}
    (hNe : location ≠ other)
    (nodes : List (Location × Node)) :
    findNode? other
        (nodes.filter (fun entry => entry.1 ≠ location)) =
      findNode? other nodes := by
  induction nodes with
  | nil => rfl
  | cons head rest ih =>
      rcases head with ⟨l, node⟩
      by_cases hHead : l = location
      · have hOther : l ≠ other := hHead ▸ hNe
        simpa [hHead, findNode?, hOther, hNe] using ih
      · by_cases hOther : l = other
        · simp [findNode?, hOther, Ne.symm hNe]
        · simpa [hHead, findNode?, hOther] using ih

theorem findNode?_filter_self
    (location : Location)
    (nodes : List (Location × Node)) :
    findNode? location
        (nodes.filter (fun entry => entry.1 ≠ location)) =
      none := by
  induction nodes with
  | nil => rfl
  | cons head rest ih =>
      rcases head with ⟨l, node⟩
      by_cases hHead : l = location
      · simpa [hHead] using ih
      · simpa [hHead, findNode?] using ih

theorem mem_of_findNode?
    {location : Location}
    {node : Node}
    {nodes : List (Location × Node)}
    (h : findNode? location nodes = some node) :
    (location, node) ∈ nodes := by
  induction nodes with
  | nil => cases h
  | cons head rest ih =>
      rcases head with ⟨l, other⟩
      unfold findNode? at h
      split at h
      · rename_i hLocation
        rw [hLocation, Option.some.inj h]
        exact List.mem_cons_self
      · exact List.mem_cons_of_mem _ (ih h)

------------------------------------------------------------
-- Changed Entries
------------------------------------------------------------

section Entries

variable {tree : FileTree}
variable {location : Location}

@[simp]
theorem surroundings_erase
    (tree : FileTree)
    (location : Location) :
    (tree.erase location).surroundings =
      tree.surroundings :=
  rfl

@[simp]
theorem surroundings_put
    (tree : FileTree)
    (location : Location)
    (node : Node) :
    (tree.put location node).surroundings =
      tree.surroundings :=
  rfl

/- An entry that is no directory does not have to stay. -/
theorem encloses_eq_false
    (h : tree.node? location ≠ some .directory) :
    location.encloses tree.working = false := by
  rw [Bool.eq_false_iff]
  intro hEncloses
  exact h (if_pos hEncloses)

/- Erasing an entry leaves the others. -/
theorem node?_erase
    (h : tree.node? location ≠ some .directory)
    (other : Location) :
    (tree.erase location).node? other =
      if location = other then
        none
      else
        tree.node? other := by
  have hFree := encloses_eq_false h
  have hWorking :
      (tree.erase location).working = tree.working :=
    rfl
  unfold node?
  rw [hWorking]
  by_cases hEq : location = other
  · subst hEq
    rw [hFree, if_pos rfl]
    exact findNode?_filter_self location tree.nodes
  · rw [if_neg hEq]
    exact
      congrArg (ite _ (some Node.directory))
        (findNode?_filter_ne hEq tree.nodes)

/- An entry is found where it was put. -/
theorem node?_put
    (h : tree.node? location ≠ some .directory)
    (node : Node)
    (other : Location) :
    (tree.put location node).node? other =
      if location = other then
        some node
      else
        tree.node? other := by
  by_cases hEq : location = other
  · subst hEq
    have hFree := encloses_eq_false h
    have hWorking :
        (tree.put location node).working = tree.working :=
      rfl
    rw [node?, hWorking, hFree, if_pos rfl]
    simp [put, findNode?]
  · have hErase := node?_erase h other
    have hRest :
        findNode? other (tree.put location node).nodes =
          findNode? other (tree.erase location).nodes := by
      simp [put, findNode?, hEq]
    rw [if_neg hEq] at hErase ⊢
    rw [← hErase, node?, hRest]
    rfl

end Entries

------------------------------------------------------------
-- Paths
------------------------------------------------------------

/-
  The surroundings of a tree are those of the other, and
  every directory of the one is one of the other.
-/
structure KeepsDirectories
    (tree next : FileTree) : Prop where
  surroundings : next.surroundings = tree.surroundings
  directory :
    ∀ location,
      tree.node? location = some .directory →
        next.node? location = some .directory

theorem KeepsDirectories.refl
    (tree : FileTree) :
    KeepsDirectories tree tree :=
  ⟨rfl, fun _ h => h⟩

theorem KeepsDirectories.trans
    {first second third : FileTree}
    (hFirst : KeepsDirectories first second)
    (hSecond : KeepsDirectories second third) :
    KeepsDirectories first third where
  surroundings := by
    rw [hSecond.surroundings, hFirst.surroundings]
  directory := fun location h =>
    hSecond.directory location (hFirst.directory location h)

/- An entry that is no directory may be changed. -/
theorem keepsDirectories_put
    {tree : FileTree}
    {location : Location}
    (h : tree.node? location ≠ some .directory)
    (node : Node) :
    KeepsDirectories tree (tree.put location node) := by
  refine ⟨rfl, ?_⟩
  intro other hOther
  have hNe : location ≠ other := by
    rintro rfl
    exact h hOther
  rw [node?_put h, if_neg hNe]
  exact hOther

theorem keepsDirectories_erase
    {tree : FileTree}
    {location : Location}
    (h : tree.node? location ≠ some .directory) :
    KeepsDirectories tree (tree.erase location) := by
  refine ⟨rfl, ?_⟩
  intro other hOther
  have hNe : location ≠ other := by
    rintro rfl
    exact h hOther
  rw [node?_erase h, if_neg hNe]
  exact hOther

variable {tree next : FileTree}

/- Only directories are entered, upwards or downwards. -/
theorem enter_eq_ok
    {location entered : Location}
    {name : String}
    (h : tree.enter location name = .ok entered) :
    tree.node? location = some .directory ∧
      entered =
        if name = ".." then
          location.parent
        else
          location.child name := by
  unfold enter at h
  split at h
  · simp at h
  · simp at h
  · rename_i hNode
    refine ⟨hNode, ?_⟩
    split at h
    · simp at h
    · split at h
      · rename_i hUp
        rw [if_pos hUp, Except.ok.inj h]
      · rename_i hDown
        rw [if_neg hDown, Except.ok.inj h]

theorem KeepsDirectories.enter
    (hKeeps : KeepsDirectories tree next)
    {location entered : Location}
    {name : String}
    (h : tree.enter location name = .ok entered) :
    next.enter location name = .ok entered := by
  have hOld := (enter_eq_ok h).1
  have hNew := hKeeps.directory location hOld
  rw [← h]
  unfold FileTree.enter
  rw [hOld, hNew]

theorem KeepsDirectories.follow
    (hKeeps : KeepsDirectories tree next)
    {location reached : Location}
    {names : List String}
    (h : tree.follow location names = .ok reached) :
    next.follow location names = .ok reached := by
  induction names generalizing location with
  | nil => exact h
  | cons name rest ih =>
      unfold FileTree.follow at h ⊢
      cases hEnter : tree.enter location name with
      | error e => simp [hEnter] at h
      | ok entered =>
          rw [hEnter] at h
          rw [hKeeps.enter hEnter]
          exact ih h

theorem KeepsDirectories.origin
    (hKeeps : KeepsDirectories tree next)
    (path : String) :
    next.origin path = tree.origin path := by
  unfold FileTree.origin working
  rw [hKeeps.surroundings]

theorem KeepsDirectories.locate
    (hKeeps : KeepsDirectories tree next)
    {path : String}
    {location : Location}
    (h : tree.locate path = .ok location) :
    next.locate path = .ok location := by
  unfold FileTree.locate at h ⊢
  rw [hKeeps.origin]
  split at h
  · simp at h
  · rename_i hSome
    rw [if_neg hSome]
    split at h
    · simp at h
    · rename_i hShort
      rw [if_neg hShort]
      exact hKeeps.follow h

------------------------------------------------------------
-- Operations That Succeed
------------------------------------------------------------

/- A file that was written is a file at its path. -/
theorem write_eq_ok
    {path : String}
    {content : ByteArray}
    (h : tree.write path content = (next, none)) :
    ∃ location,
      tree.locate path = .ok location ∧
      tree.node? location ≠ some .directory ∧
      tree.surroundings.disruption? path = none ∧
      next =
        tree.put location
          (.file content (tree.readableAt location)) := by
  unfold write at h
  cases hLocate : tree.locate path with
  | error e => simp [hLocate] at h
  | ok location =>
      simp only [hLocate] at h
      split at h
      · simp at h
      · split at h
        · simp at h
        · rename_i hNode
          unfold fill at h
          split at h
          · rename_i hUndisturbed
            exact
              ⟨location, rfl, hNode, hUndisturbed,
                (Prod.mk.inj h).1.symm⟩
          · simp at h
          · simp at h

/- A file that was moved is a file at the target. -/
theorem rename_eq_ok
    {source target : String}
    (h : tree.rename source target = (next, none)) :
    ∃ origin place content readable,
      tree.locate source = .ok origin ∧
      tree.locate target = .ok place ∧
      tree.node? origin = some (.file content readable) ∧
      tree.node? place ≠ some .directory ∧
      Path.endsInDirectory target = false ∧
      tree.surroundings.refusesMove source target = false ∧
      next =
        (tree.erase origin).put place
          (.file content readable) := by
  unfold rename at h
  cases hSource : tree.locate source with
  | error e => simp [hSource] at h
  | ok origin =>
      cases hTarget : tree.locate target with
      | error e => simp [hSource, hTarget] at h
      | ok place =>
          simp only [hSource, hTarget] at h
          split at h
          · simp at h
          · simp at h
          · simp at h
          · rename_i content readable hOrigin hPlace
            split at h
            · simp at h
            · rename_i hEnds
              split at h
              · simp at h
              · rename_i hAllowed
                exact
                  ⟨origin, place, content, readable, rfl,
                    rfl, hOrigin, hPlace,
                    Bool.eq_false_iff.2 hEnds,
                    Bool.eq_false_iff.2 hAllowed,
                    (Prod.mk.inj h).1.symm⟩

------------------------------------------------------------
-- Operations That Fail
------------------------------------------------------------

variable {error : FileError}

/-
  A write that fails changes nothing, or breaks off with the
  beginning of the content in the file.
-/
theorem write_eq_error
    {path : String}
    {content : ByteArray}
    (h : tree.write path content = (next, some error)) :
    next = tree ∨
      ∃ location written,
        tree.locate path = .ok location ∧
        tree.node? location ≠ some .directory ∧
        next =
          tree.put location
            (.file (content.extract 0 written)
              (tree.readableAt location)) := by
  unfold write at h
  cases hLocate : tree.locate path with
  | error e => exact .inl (by simp_all)
  | ok location =>
      simp only [hLocate] at h
      split at h
      · exact .inl (Prod.mk.inj h).1.symm
      · split at h
        · exact .inl (Prod.mk.inj h).1.symm
        · rename_i hNode
          unfold fill at h
          split at h
          · simp at h
          · exact .inl (Prod.mk.inj h).1.symm
          · rename_i written hBroken
            exact
              .inr
                ⟨location, written, rfl, hNode,
                  (Prod.mk.inj h).1.symm⟩

theorem rename_eq_error
    {source target : String}
    (h : tree.rename source target = (next, some error)) :
    next = tree := by
  unfold rename at h
  split at h
  · exact (Prod.mk.inj h).1.symm
  · exact (Prod.mk.inj h).1.symm
  · split at h
    · exact (Prod.mk.inj h).1.symm
    · exact (Prod.mk.inj h).1.symm
    · exact (Prod.mk.inj h).1.symm
    · split at h
      · exact (Prod.mk.inj h).1.symm
      · split at h
        · exact (Prod.mk.inj h).1.symm
        · simp at h

------------------------------------------------------------
-- Texts
------------------------------------------------------------

/- The bytes of a text are read as the text. -/
theorem readText_of_read
    {tree : FileTree}
    {path text : String}
    (h : tree.read path = .ok text.toUTF8) :
    tree.readText path = .ok text := by
  unfold readText
  rw [h]
  simp only [String.fromUTF8?, String.toUTF8_eq_toByteArray,
    dif_pos text.isValidUTF8]
  rfl

end FileTree

end NotebookGrading
