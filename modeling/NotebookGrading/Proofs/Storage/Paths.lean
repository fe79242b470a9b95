import NotebookGrading.Proofs.Storage.FileTrees
import NotebookGrading.Proofs.Text.Parts

/-
  The names of paths.

  A path that may lead to a file leads to an entry that has
  the last name of the path, and the name that is put behind
  a directory is the last one of the path. All names of an
  entry are those of its path or of the working directory.

  Main statements:
    * `Path.getLast?_pieces_join`
    * `Path.fileName?_of_getLast?`
    * `Path.mark_not_mem_fileName?`
    * `FileTree.getLast?_of_locate`
    * `FileTree.mem_names_of_locate`
-/

namespace NotebookGrading

------------------------------------------------------------
-- Last Names
------------------------------------------------------------

namespace Path

/- A name behind a directory is the last piece. -/
theorem getLast?_pieces_join
    (directory : String)
    {name : String}
    (h : '/' ∉ name.toList) :
    (pieces (join directory name)).getLast? = some name := by
  unfold join pieces
  split
  · unfold Text.parts
    rw [Text.splitOn_of_not_mem h]
    simp
  · split
    · rename_i hSlash
      rcases List.getLast?_eq_some_iff.1 hSlash with
        ⟨before, hBefore⟩
      have hText :
          (directory ++ name).toList =
            before ++ '/' :: name.toList := by
        simp [hBefore]
      exact Text.getLast?_parts hText h
    · have hText :
          (directory ++ "/" ++ name).toList =
            directory.toList ++ '/' :: name.toList := by
        simp
      exact Text.getLast?_parts hText h

theorem dropIdle_cons_of_not_idle
    {last : String}
    (h : isIdle last = false)
    (rest : List String) :
    dropIdle (last :: rest) = last :: rest := by
  cases rest with
  | nil =>
      have hNe : last ≠ "" := by
        rintro rfl
        simp [isIdle] at h
      simp [dropIdle, hNe]
  | cons next rest => simp [dropIdle, h]

theorem mem_of_mem_dropIdle
    {name : String}
    {pieces : List String}
    (h : name ∈ dropIdle pieces) :
    name ∈ pieces := by
  induction pieces with
  | nil => exact h
  | cons last rest ih =>
      cases rest with
      | nil =>
          unfold dropIdle at h
          split at h
          · exact absurd h List.not_mem_nil
          · exact h
      | cons next rest =>
          unfold dropIdle at h
          split at h
          · exact List.mem_cons_of_mem last (ih h)
          · exact h

/- The file name is the last piece if that names a file. -/
theorem fileName?_of_getLast?
    {path name : String}
    (h : (pieces path).getLast? = some name)
    (hIdle : isIdle name = false)
    (hUp : name ≠ "..") :
    fileName? path = some name := by
  rcases List.getLast?_eq_some_iff.1 h with
    ⟨before, hBefore⟩
  have hDot : name ≠ "." := by
    rintro rfl
    simp [isIdle] at hIdle
  unfold fileName? reversedPieces
  rw [hBefore, List.reverse_append, List.reverse_singleton,
    List.singleton_append, dropIdle_cons_of_not_idle hIdle]
  simp [hDot, hUp]

/- A file name holds no slash. -/
theorem mark_not_mem_fileName?
    {path name : String}
    (h : fileName? path = some name) :
    '/' ∉ name.toList := by
  unfold fileName? at h
  cases hPieces : reversedPieces path with
  | nil => simp [hPieces] at h
  | cons last rest =>
      have hLast : last = name := by
        simp only [hPieces] at h
        split at h
        · simp at h
        · exact Option.some.inj h
      have hMem : name ∈ reversedPieces path := by
        rw [hPieces, hLast]
        exact List.mem_cons_self
      exact
        Text.mark_not_mem_of_mem_parts
          (List.mem_reverse.1 (mem_of_mem_dropIdle hMem))

/- A path that may lead to a file ends with its name. -/
theorem getLast?_of_endsInDirectory
    {path : String}
    (h : endsInDirectory path = false) :
    ∃ name,
      (pieces path).getLast? = some name ∧
      isIdle name = false ∧
      name ≠ ".." := by
  unfold endsInDirectory at h
  cases hLast : (pieces path).getLast? with
  | none => simp [hLast] at h
  | some name =>
      simp only [hLast, Bool.or_eq_false_iff,
        decide_eq_false_iff_not] at h
      exact ⟨name, rfl, h.1, h.2⟩

end Path

------------------------------------------------------------
-- Names Of Entries
------------------------------------------------------------

namespace FileTree

variable {tree : FileTree}

/- A row of names leads to an entry with the last one. -/
theorem getLast?_of_follow
    {location reached : Location}
    {names : List String}
    {last : String}
    (hLast : last ≠ "..")
    (h : tree.follow location (names ++ [last]) =
      .ok reached) :
    reached.names.getLast? = some last := by
  induction names generalizing location with
  | nil =>
      simp only [List.nil_append, follow] at h
      cases hEnter : tree.enter location last with
      | error e => simp [hEnter] at h
      | ok next =>
          rw [hEnter] at h
          rw [← Except.ok.inj h, (enter_eq_ok hEnter).2,
            if_neg hLast]
          simp [Location.child]
  | cons name rest ih =>
      rw [List.cons_append] at h
      unfold follow at h
      cases hEnter : tree.enter location name with
      | error e => simp [hEnter] at h
      | ok next =>
          rw [hEnter] at h
          exact ih h

/- A path leads to an entry with the name of the file. -/
theorem getLast?_of_locate
    {path : String}
    {location : Location}
    (hLocate : tree.locate path = .ok location)
    (hEnds : Path.endsInDirectory path = false) :
    location.names.getLast? = Path.fileName? path := by
  rcases Path.getLast?_of_endsInDirectory hEnds with
    ⟨name, hLast, hIdle, hUp⟩
  rw [Path.fileName?_of_getLast? hLast hIdle hUp]
  rcases List.getLast?_eq_some_iff.1 hLast with
    ⟨before, hBefore⟩
  have hNames :
      Path.names path =
        before.filter (fun name => !Path.isIdle name) ++
          [name] := by
    simp [Path.names, hBefore, hIdle]
  unfold locate at hLocate
  split at hLocate
  · simp at hLocate
  · split at hLocate
    · simp at hLocate
    · rw [hNames] at hLocate
      exact getLast?_of_follow hUp hLocate

/- A row of names leads to an entry made of its names. -/
theorem mem_names_of_follow
    {location reached : Location}
    {names : List String}
    {name : String}
    (h : tree.follow location names = .ok reached)
    (hName : name ∈ reached.names) :
    name ∈ location.names ∨ name ∈ names := by
  induction names generalizing location with
  | nil =>
      rw [← Except.ok.inj h] at hName
      exact .inl hName
  | cons first rest ih =>
      unfold follow at h
      cases hEnter : tree.enter location first with
      | error e => simp [hEnter] at h
      | ok next =>
          rw [hEnter] at h
          rcases ih h with hNext | hRest
          · rw [(enter_eq_ok hEnter).2] at hNext
            split at hNext
            · exact
                .inl ((List.dropLast_sublist _).subset hNext)
            · rcases List.mem_append.1 hNext with
                hOld | hNew
              · exact .inl hOld
              · rw [List.mem_singleton.1 hNew]
                exact .inr List.mem_cons_self
          · exact .inr (List.mem_cons_of_mem first hRest)

/-
  A path leads to an entry whose names are its own or those
  of the working directory.
-/
theorem mem_names_of_locate
    {path name : String}
    {location : Location}
    (hLocate : tree.locate path = .ok location)
    (hName : name ∈ location.names) :
    name ∈ tree.working.names ∨ name ∈ Path.names path := by
  unfold locate at hLocate
  split at hLocate
  · simp at hLocate
  · split at hLocate
    · simp at hLocate
    · rcases mem_names_of_follow hLocate hName with
        hOrigin | hPath
      · unfold origin at hOrigin
        split at hOrigin
        · exact absurd hOrigin List.not_mem_nil
        · exact .inl hOrigin
      · exact .inr hPath

end FileTree

end NotebookGrading
