import AssetCheck.File.Tree
import AssetCheck.Proofs.Step

/-!
# A written file is read back

A path that a file was written by leads to that file afterwards. All names but the last lead through
directories (`Leads`), and the file is put where no directory was, so it is none of them, and
following the names goes the same way as before.
-/

namespace AssetCheck.FileTree

/-! ## Following names -/

/-- A name leads from a directory to a place. -/
inductive Leads (t : FileTree) (start : Place) : String → Place → Prop
  | here : t.isDirectoryAt start = true → Leads t start "." start
  | up : t.isDirectoryAt start = true → Leads t start ".." start.dropLast
  | down {name : String} {entry : Entry} : t.isDirectoryAt start = true → name ≠ "." → name ≠ ".." →
      name.utf8ByteSize ≤ nameLimit → t.contentAt? (start ++ [name]) = some entry →
      Leads t start name (start ++ [name])

variable {t t' : FileTree} {place start next last : Place} {name s : String}
    {names rest : List String}

theorem Leads.directory (h : t.Leads start name next) : t.isDirectoryAt start = true := by
  cases h <;> assumption

theorem Leads.descend (h : t.Leads start name next) :
    t.descend start (name :: rest) = t.descend next rest := by
  rw [FileTree.descend, if_neg (by simp [h.directory])]
  cases h with
  | here => rfl
  | up => rfl
  | down _ hdot hdots hsize hentry => rw [if_neg hdot, if_neg hdots, if_neg (by omega), hentry]

theorem leads_of_descend (h : t.descend start (name :: rest) = .ok last) :
    ∃ next, t.Leads start name next ∧ t.descend next rest = .ok last := by
  rw [descend] at h
  split at h
  · cases h
  · next hdirectory =>
    have hdirectory : t.isDirectoryAt start = true := by simpa using hdirectory
    split at h
    · next hdot => exact ⟨_, hdot ▸ .here hdirectory, h⟩
    · next hdot =>
      split at h
      · next hdots => exact ⟨_, hdots ▸ .up hdirectory, h⟩
      · next hdots =>
        split at h
        · cases h
        · next hsize =>
          split at h
          · cases h
          · next entry hentry => exact ⟨_, .down hdirectory hdot hdots (by omega) hentry, h⟩

theorem descend_append {more : List String} (h : t.descend start names = .ok last) :
    t.descend start (names ++ more) = t.descend last more := by
  induction names generalizing start with
  | nil =>
    cases h
    rfl
  | cons name rest ih =>
    obtain ⟨next, hleads, hrest⟩ := leads_of_descend h
    rw [List.cons_append, hleads.descend]
    exact ih hrest

/-! ## Putting a file -/

section Put

variable (entry : Entry) (hplace : place ≠ []) (hfree : t.isDirectoryAt place = false)

include hplace hfree

theorem isDirectoryAt_put_of_directory (h : t.isDirectoryAt start = true) :
    (t.put place entry).isDirectoryAt start = true := by
  have hne : place ≠ start := by
    rintro rfl
    rw [hfree] at h
    cases h
  rw [isDirectoryAt_iff, contentAt?_put t hplace, if_neg hne]
  exact isDirectoryAt_iff.1 h

theorem Leads.put (h : t.Leads start name next) : (t.put place entry).Leads start name next := by
  have hdirectory := isDirectoryAt_put_of_directory entry hplace hfree h.directory
  cases h with
  | here => exact .here hdirectory
  | up => exact .up hdirectory
  | @down _ old _ hdot hdots hsize hold =>
    have hnew : ∃ new, (t.put place entry).contentAt? (start ++ [name]) = some new := by
      rw [contentAt?_put t hplace]
      split
      · exact ⟨entry, rfl⟩
      · exact ⟨old, hold⟩
    obtain ⟨new, hnew⟩ := hnew
    exact .down hdirectory hdot hdots hsize hnew

theorem descend_put (h : t.descend start names = .ok last) :
    (t.put place entry).descend start names = .ok last := by
  induction names generalizing start with
  | nil => exact h
  | cons name rest ih =>
    obtain ⟨next, hleads, hrest⟩ := leads_of_descend h
    rw [(hleads.put entry hplace hfree).descend]
    exact ih hrest

end Put

/-- The last name leads to what was put under it. -/
theorem descend_put_last (entry : Entry) {outer : Place}
    (hleads : t.descend start names = .ok outer) (hdirectory : t.isDirectoryAt outer = true)
    (hdot : name ≠ ".") (hdots : name ≠ "..") (hsize : name.utf8ByteSize ≤ nameLimit)
    (hfree : t.isDirectoryAt (outer ++ [name]) = false) :
    (t.put (outer ++ [name]) entry).descend start (names ++ [name]) = .ok (outer ++ [name]) := by
  have hne : outer ++ [name] ≠ [] := by simp
  have hcontent : (t.put (outer ++ [name]) entry).contentAt? (outer ++ [name]) = some entry := by
    rw [contentAt?_put t hne, if_pos rfl]
  have hlast : (t.put (outer ++ [name]) entry).Leads outer name (outer ++ [name]) :=
    .down (isDirectoryAt_put_of_directory _ hne hfree hdirectory) hdot hdots hsize hcontent
  rw [descend_append (descend_put _ hne hfree hleads), hlast.descend]
  rfl

/-! ## Writing -/

/-- The path names a place for a file, in a directory that is there. -/
structure WritesTo (t : FileTree) (s : String) (outer : Place) (name : String) : Prop where
  text : checkText s = .ok ()
  unclosed : (Path.ofText s).closed = false
  names : (Path.ofText s).names = (Path.ofText s).names.dropLast ++ [name]
  leads : t.descend (t.start (Path.ofText s)) (Path.ofText s).names.dropLast = .ok outer
  directory : t.isDirectoryAt outer = true
  dot : name ≠ "."
  dots : name ≠ ".."
  size : name.utf8ByteSize ≤ nameLimit
  free : t.isDirectoryAt (outer ++ [name]) = false

theorem placeFor_ok {special : IoError} (h : t.placeFor start names special = .ok place) :
    ∃ outer name, place = outer ++ [name] ∧ names = names.dropLast ++ [name] ∧
      t.descend start names.dropLast = .ok outer ∧ t.isDirectoryAt outer = true ∧
      name ≠ "." ∧ name ≠ ".." ∧ name.utf8ByteSize ≤ nameLimit := by
  unfold placeFor at h
  split at h
  · cases h
  · next name hlast =>
    obtain ⟨outer, houter, h⟩ := exists_ok_of_bind h
    split at h
    · cases h
    · next hdirectory =>
      split at h
      · cases h
      · next hspecial =>
        split at h
        · cases h
        · next hsize =>
          cases h
          obtain ⟨hdot, hdots⟩ := not_or.1 hspecial
          obtain ⟨front, hfront⟩ := List.getLast?_eq_some_iff.1 hlast
          have hnames : names = names.dropLast ++ [name] := by rw [hfront, List.dropLast_concat]
          refine ⟨outer, name, rfl, hnames, houter, ?_, hdot, hdots, ?_⟩
          · simpa using hdirectory
          · omega

theorem writesTo_of_placeToWrite (h : t.placeToWrite s = .ok place) :
    ∃ outer name, place = outer ++ [name] ∧ t.WritesTo s outer name := by
  unfold placeToWrite at h
  obtain ⟨_, htext, h⟩ := exists_ok_of_bind h
  obtain ⟨found, hfound, h⟩ := exists_ok_of_bind h
  split at h
  · cases h
  · next hfree =>
    cases h
    obtain ⟨outer, name, rfl, hnames, hleads, hdirectory, hdot, hdots, hsize⟩ := placeFor_ok hfound
    -- The last name of a closed path would be a dot.
    have hunclosed : (Path.ofText s).closed = false := by
      cases hclosed : (Path.ofText s).closed with
      | false => rfl
      | true =>
        rw [if_pos hclosed, List.dropLast_concat] at hnames
        exact absurd (List.singleton_inj.1 (List.append_cancel_left hnames)).symm hdot
    rw [if_neg (by rw [hunclosed]; exact Bool.false_ne_true)] at hnames hleads
    exact ⟨outer, name, rfl, htext, hunclosed, hnames, hleads, hdirectory, hdot, hdots, hsize,
      by simpa using hfree⟩

theorem WritesTo.find {outer : Place} (h : t.WritesTo s outer name) (bytes : ByteArray) :
    (t.put (outer ++ [name]) (.file bytes)).find s = .ok (outer ++ [name]) := by
  have hdescend : (t.put (outer ++ [name]) (.file bytes)).descend (t.start (Path.ofText s))
      (Path.ofText s).names = .ok (outer ++ [name]) := by
    rw [h.names]
    exact descend_put_last _ h.leads h.directory h.dot h.dots h.size h.free
  unfold FileTree.find
  refine (except_bind_ok h.text).trans ((except_bind_ok hdescend).trans ?_)
  rw [if_neg fun hc => by rw [h.unclosed] at hc; exact Bool.false_ne_true hc.1]

theorem contentAt?_fill (t : FileTree) {place : Place} (h : place ≠ []) (bytes : ByteArray)
    (other : Place) : (t.fill place bytes).contentAt? other =
      if place = other then some (.file bytes) else t.contentAt? other :=
  contentAt?_put t h (.file bytes) other

theorem isDirectoryAt_counted (t : FileTree) (place : Place) :
    t.counted.isDirectoryAt place = t.isDirectoryAt place := rfl

theorem contentAt?_counted (t : FileTree) (place : Place) :
    t.counted.contentAt? place = t.contentAt? place := rfl

/-- How many files have been opened does not matter to paths. -/
theorem descend_counted (t : FileTree) (start : Place) (names : List String) :
    t.counted.descend start names = t.descend start names := by
  induction names generalizing start with
  | nil => rfl
  | cons name rest ih =>
    rw [descend, descend, ih, ih, isDirectoryAt_counted, contentAt?_counted]
    cases t.contentAt? (start ++ [name]) with
    | none => rfl
    | some entry =>
      dsimp only
      rw [ih]

theorem find_counted (t : FileTree) (s : String) : t.counted.find s = t.find s := by
  unfold FileTree.find
  dsimp only
  rw [descend_counted]
  rfl

/-- A file was opened at a place where no directory was, and its path leads to these bytes. -/
structure Fills (t : FileTree) (s : String) (bytes : ByteArray) (place : Place) (t' : FileTree) :
    Prop where
  named : place ≠ []
  free : t.isDirectoryAt place = false
  filled : t' = t.fill place bytes
  leads : t'.find s = .ok place

theorem fills_of_placeToWrite (h : t.placeToWrite s = .ok place) (bytes : ByteArray) :
    t.Fills s bytes place (t.fill place bytes) := by
  obtain ⟨outer, name, rfl, hw⟩ := writesTo_of_placeToWrite h
  exact ⟨by simp, hw.free, rfl, (find_counted _ s).trans (hw.find bytes)⟩

/-- **Written.** The path of a file leads to its new content, and nothing else has changed. -/
theorem fills_of_writeFile {bytes : ByteArray} (h : writeFile s bytes t = .ok () t') :
    ∃ place, t.Fills s bytes place t' := by
  unfold writeFile at h
  split at h
  · cases h
  · next hplace =>
    split at h
    · cases h
      exact ⟨_, fills_of_placeToWrite hplace bytes⟩
    · cases h

/-- A file that is not opened leaves the tree as it was; otherwise what was written of it is there. -/
theorem writeFile_error {bytes : ByteArray} {e : WriteError}
    (h : writeFile s bytes t = .error e t') :
    (∃ reason, e = .refused reason ∧ t' = t) ∨
      ∃ fault place, e = .broken fault ∧ t.faults t.opened place bytes = some fault ∧
        t.Fills s (bytes.extract 0 fault.taken) place t' := by
  unfold writeFile at h
  split at h
  · cases h
    exact .inl ⟨_, rfl, rfl⟩
  · next hplace =>
    split at h
    · cases h
    · next hfault =>
      cases h
      exact .inr ⟨_, _, rfl, hfault, fills_of_placeToWrite hplace _⟩

/-- **Written and read.** -/
theorem Fills.readFile {bytes : ByteArray} (h : t.Fills s bytes place t') :
    t'.readFile s = .ok bytes := by
  obtain ⟨hne, -, rfl, hfind⟩ := h
  unfold FileTree.readFile
  rw [except_bind_ok hfind, contentAt?_fill t hne, if_pos rfl]

theorem readFile_of_createFile {bytes : ByteArray} (h : createFile s bytes t = .ok () t') :
    t'.readFile s = .ok bytes := by
  unfold createFile at h
  obtain ⟨_, _, -, h⟩ := exists_ok_of_step_bind h
  obtain ⟨_, _, -, h⟩ := exists_ok_of_step_bind h
  obtain ⟨_, hfills⟩ := fills_of_writeFile h
  exact hfills.readFile

theorem fromUTF8?_toUTF8 (text : String) : String.fromUTF8? text.toUTF8 = some text := by
  have hvalid : text.toUTF8.IsValidUTF8 := text.isValidUTF8
  unfold String.fromUTF8?
  rw [dif_pos hvalid]
  rfl

theorem readText_of_createFile {text : String} (h : createFile s text.toUTF8 t = .ok () t') :
    t'.readText s = .ok text := by
  unfold readText
  rw [except_bind_ok (readFile_of_createFile h), fromUTF8?_toUTF8]

end AssetCheck.FileTree
