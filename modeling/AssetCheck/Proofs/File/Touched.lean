import AssetCheck.Proofs.File.Written

/-!
# What writing a file touches

Making directories adds directories and nothing else, and only where the names of a path lead
(`Widened`). Writing a file with the directories around it changes, besides that, nothing but the
content of this file (`createFile_ok`). Where it is not opened, no file has changed
(`createFile_refused`), and where something goes wrong after that, it holds a beginning of its text
(`createFile_broken`).
-/

namespace AssetCheck.FileTree

variable {t t' u : FileTree} {start place : Place} {names outer : List String} {s : String}

/-! ## Making directories -/

/-- What the tree held is there, and what is new are directories to which beginnings of the names
lead. -/
structure Widened (t : FileTree) (start : Place) (names : List String) (t' : FileTree) : Prop where
  home : t'.home = t.home
  opened : t'.opened = t.opened
  faults : t'.faults = t.faults
  kept : ∀ place entry, t.contentAt? place = some entry → t'.contentAt? place = some entry
  added : ∀ place entry, t'.contentAt? place = some entry → t.contentAt? place = some entry ∨
    t.contentAt? place = none ∧ entry = .directory ∧
      ∃ front, front <+: names ∧ t'.descend start front = .ok place

theorem Widened.refl (t : FileTree) (start : Place) (names : List String) :
    t.Widened start names t :=
  ⟨rfl, rfl, rfl, fun _ _ h => h, fun _ _ h => .inl h⟩

theorem Widened.mono (h : t.Widened start outer t') (hsub : outer <+: names) :
    t.Widened start names t' := by
  refine ⟨h.home, h.opened, h.faults, h.kept, fun place entry hnew => ?_⟩
  rcases h.added place entry hnew with hold | ⟨hnone, hentry, front, hfront, hleads⟩
  · exact .inl hold
  · exact .inr ⟨hnone, hentry, front, hfront.trans hsub, hleads⟩

theorem Widened.missing (h : t.Widened start names t') (hnone : t'.contentAt? place = none) :
    t.contentAt? place = none := by
  cases hold : t.contentAt? place with
  | none => rfl
  | some entry => rw [h.kept place entry hold] at hnone; cases hnone

theorem isDirectoryAt_of_none (h : t.contentAt? place = none) : t.isDirectoryAt place = false := by
  unfold isDirectoryAt
  rw [h]

theorem exists_of_makeDirectory (h : t.makeDirectory start names = .ok t') :
    ∃ place, place ≠ [] ∧ t.contentAt? place = none ∧ t' = t.put place .directory ∧
      t'.descend start names = .ok place := by
  unfold makeDirectory at h
  obtain ⟨-, -, h⟩ := exists_ok_of_bind h
  obtain ⟨place, hplace, h⟩ := exists_ok_of_bind h
  split at h
  · cases h
  · next hnone =>
    cases h
    obtain ⟨outer, name, rfl, hnames, hleads, hdirectory, hdot, hdots, hsize⟩ := placeFor_ok hplace
    refine ⟨_, by simp, hnone, rfl, ?_⟩
    rw [hnames]
    exact descend_put_last _ hleads hdirectory hdot hdots hsize (isDirectoryAt_of_none hnone)

theorem Widened.makeDirectory (h : t.Widened start names t')
    (hmake : t'.makeDirectory start names = .ok u) : t.Widened start names u := by
  obtain ⟨place, hne, hnone, rfl, hleads⟩ := exists_of_makeDirectory hmake
  have hfree := isDirectoryAt_of_none hnone
  refine ⟨h.home, h.opened, h.faults, fun other entry hold => ?_, fun other entry hnew => ?_⟩
  · have hother : place ≠ other := by
      rintro rfl
      rw [h.kept _ _ hold] at hnone
      cases hnone
    rw [contentAt?_put t' hne, if_neg hother]
    exact h.kept other entry hold
  · rw [contentAt?_put t' hne] at hnew
    split at hnew
    · next heq =>
      subst heq
      cases hnew
      exact .inr ⟨h.missing hnone, rfl, names, List.prefix_rfl, hleads⟩
    · rcases h.added other entry hnew with hold | ⟨hmissing, hentry, front, hfront, hfound⟩
      · exact .inl hold
      · exact .inr ⟨hmissing, hentry, front, hfront, descend_put _ hne hfree hfound⟩

/-- **Directories.** Whether or not all of them can be made, nothing else changes. -/
theorem makeDirectories_widened (start : Place) (names : List String) (t : FileTree) :
    t.Widened start names.reverse (stateAfter (makeDirectories start names) t) := by
  induction names generalizing t with
  | nil => exact .refl t start []
  | cons name outer ih =>
    have hsub : outer.reverse <+: (name :: outer).reverse := by simp
    have hhere := Widened.refl t start (name :: outer).reverse
    have houter := (ih t).mono hsub
    unfold stateAfter at houter ⊢
    rw [makeDirectories]
    cases hmake : t.makeDirectory start (name :: outer).reverse with
    | ok t' =>
      simp only [hmake]
      exact hhere.makeDirectory hmake
    | error e =>
      cases e with
      | notFound =>
        simp only [hmake]
        cases hdirectories : makeDirectories start outer t with
        | error e t' =>
          rw [hdirectories] at houter
          exact houter
        | ok _ t' =>
          rw [hdirectories] at houter
          dsimp only at houter ⊢
          cases hagain : t'.makeDirectory start (name :: outer).reverse with
          | ok u => exact houter.makeDirectory hagain
          | error e =>
            cases t'.leadsToDirectory start (name :: outer).reverse <;> exact houter
      | _ =>
        simp only [hmake]
        cases t.leadsToDirectory start (name :: outer).reverse <;> exact hhere

/-! ## Writing with the directories around -/

/-- A beginning of the names around a path leads to the place. -/
def IsAncestor (t : FileTree) (s : String) (place : Place) : Prop :=
  ∃ front, front <+: (Path.ofText s).parentNames ∧
    t.descend (t.start (Path.ofText s)) front = .ok place

/-- Directories that are new are missing ancestors of a path. -/
def AddsAncestors (t : FileTree) (s : String) (t' : FileTree) : Prop :=
  ∀ place, t'.contentAt? place = some .directory →
    t.contentAt? place = some .directory ∨ t.contentAt? place = none ∧ t'.IsAncestor s place

/-- A place holds the same file as before, or still none. -/
def KeepsFile (t t' : FileTree) (place : Place) : Prop :=
  ∀ bytes, t'.contentAt? place = some (.file bytes) ↔ t.contentAt? place = some (.file bytes)

/-- The file at a path has its new content, and nothing else has changed but for ancestors that were
missing. -/
structure WroteOnly (t : FileTree) (s : String) (bytes : ByteArray) (place : Place)
    (t' : FileTree) : Prop where
  leads : t'.find s = .ok place
  content : t'.contentAt? place = some (.file bytes)
  others : ∀ other, other ≠ place → t.KeepsFile t' other
  directories : ∀ other, t.contentAt? other = some .directory →
    t'.contentAt? other = some .directory
  added : t.AddsAncestors s t'

theorem Widened.keepsFile (h : t.Widened start names t') (place : Place) :
    t.KeepsFile t' place := by
  refine fun bytes => ⟨fun hnew => ?_, fun hold => h.kept place _ hold⟩
  rcases h.added place _ hnew with hold | ⟨-, hentry, -⟩
  · exact hold
  · cases hentry

theorem Widened.start_eq (h : t.Widened start names t') (p : Path) : t'.start p = t.start p := by
  unfold FileTree.start
  rw [h.home]

theorem Widened.addsAncestors
    (h : t.Widened (t.start (Path.ofText s)) (Path.ofText s).parentNames t') :
    t.AddsAncestors s t' := by
  intro place hnew
  rcases h.added place _ hnew with hold | ⟨hnone, -, front, hfront, hleads⟩
  · exact .inl hold
  · exact .inr ⟨hnone, front, hfront, by rw [h.start_eq]; exact hleads⟩

/-- The file is put into a tree that has the directories around it. -/
theorem Widened.wroteOnly {bytes : ByteArray}
    (h : t.Widened (t.start (Path.ofText s)) (Path.ofText s).parentNames t')
    (hwrite : t'.Fills s bytes place u) : t.WroteOnly s bytes place u := by
  obtain ⟨hne, hfree, rfl, hleads⟩ := hwrite
  have hother : ∀ other, other ≠ place →
      (t'.fill place bytes).contentAt? other = t'.contentAt? other := fun other hother => by
    rw [contentAt?_fill t' hne, if_neg hother.symm]
  have hdirectory : ∀ other, t'.contentAt? other = some .directory → other ≠ place := by
    rintro other hdir rfl
    rw [isDirectoryAt_iff.2 hdir] at hfree
    cases hfree
  have hcontent : (t'.fill place bytes).contentAt? place = some (.file bytes) := by
    rw [contentAt?_fill t' hne, if_pos rfl]
  refine ⟨hleads, hcontent, fun other hne => ?_, fun other hold => ?_, fun other hnew => ?_⟩
  · intro content
    rw [hother other hne]
    exact h.keepsFile other content
  · have hkept := h.kept other _ hold
    rw [hother other (hdirectory other hkept)]
    exact hkept
  · have hnot : other ≠ place := by
      rintro rfl
      rw [hcontent] at hnew
      cases hnew
    rw [hother other hnot] at hnew
    rcases h.addsAncestors other hnew with hold | ⟨hnone, front, hfront, hfound⟩
    · exact .inl hold
    · refine .inr ⟨hnone, front, hfront, ?_⟩
      rw [fill, descend_counted]
      exact descend_put _ hne hfree hfound

theorem parents_widened (s : String) (t : FileTree) :
    t.Widened (t.start (Path.ofText s)) (Path.ofText s).parentNames
      (stateAfter (makeDirectories (t.start (Path.ofText s))
        (Path.ofText s).parentNames.reverse) t) := by
  have h := makeDirectories_widened (t.start (Path.ofText s)) (Path.ofText s).parentNames.reverse t
  rw [List.reverse_reverse] at h
  exact h

/-- The directories around a file cannot all be made, or they can and the file is written there. -/
theorem createFile_cases (s : String) (bytes : ByteArray) (t : FileTree) :
    ∃ u, t.Widened (t.start (Path.ofText s)) (Path.ofText s).parentNames u ∧
      ((∃ e, createFile s bytes t = .error (.refused e) u) ∨
        createFile s bytes t = writeFile s bytes u) := by
  have hwidened := parents_widened s t
  have hcreate : createFile s bytes t =
      (EStateM.adaptExcept WriteError.refused (makeDirectories (t.start (Path.ofText s))
        (Path.ofText s).parentNames.reverse) >>= fun _ => writeFile s bytes) t := rfl
  refine ⟨_, hwidened, ?_⟩
  rw [hcreate]
  cases hmake : makeDirectories (t.start (Path.ofText s)) (Path.ofText s).parentNames.reverse t with
  | ok _ u =>
    rw [stateAfter_ok hmake]
    exact .inr (bind_ok (adaptExcept_ok_iff.2 hmake))
  | error e u =>
    rw [stateAfter_error hmake]
    exact .inl ⟨e, bind_error (adaptExcept_error WriteError.refused hmake)⟩

section Create

variable {bytes : ByteArray}

/-- **Written.** A file that is written with the directories around it is all that has changed. -/
theorem createFile_ok (h : createFile s bytes t = .ok () t') :
    ∃ place, t.WroteOnly s bytes place t' := by
  obtain ⟨u, hwidened, ⟨e, hrefused⟩ | hwrite⟩ := createFile_cases s bytes t
  · rw [hrefused] at h
    cases h
  · rw [hwrite] at h
    obtain ⟨place, hfills⟩ := fills_of_writeFile h
    exact ⟨place, hwidened.wroteOnly hfills⟩

/-- **Not opened.** Where a file cannot be opened, there are at most more directories. -/
theorem createFile_refused {e : IoError} (h : createFile s bytes t = .error (.refused e) t') :
    t.Widened (t.start (Path.ofText s)) (Path.ofText s).parentNames t' := by
  obtain ⟨u, hwidened, ⟨_, hrefused⟩ | hwrite⟩ := createFile_cases s bytes t
  · rw [hrefused] at h
    cases h
    exact hwidened
  · rw [hwrite] at h
    rcases writeFile_error h with ⟨_, -, rfl⟩ | ⟨_, _, hbroken, -⟩
    · exact hwidened
    · cases hbroken

/-- **Broken off.** Where something goes wrong with an open file, it holds a beginning of its text, and
nothing else has changed. -/
theorem createFile_broken {fault : WriteFault} (h : createFile s bytes t = .error (.broken fault) t') :
    ∃ place, t.faults t.opened place bytes = some fault ∧
      t.WroteOnly s (bytes.extract 0 fault.taken) place t' := by
  obtain ⟨u, hwidened, ⟨_, hrefused⟩ | hwrite⟩ := createFile_cases s bytes t
  · rw [hrefused] at h
    cases h
  · rw [hwrite] at h
    rcases writeFile_error h with ⟨_, hopened, -⟩ | ⟨_, place, hbroken, hfault, hfills⟩
    · cases hopened
    · cases hbroken
      rw [hwidened.faults, hwidened.opened] at hfault
      exact ⟨place, hfault, hwidened.wroteOnly hfills⟩

end Create

end AssetCheck.FileTree
