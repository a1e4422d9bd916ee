import AssetCheck.AssetPath

/-!
# Files next to assets

A path is cut at its last slash, and a file next to it is put together from its directory, a lead
and its name. The directory and the name can be read off the file again (`beside_eq_iff`), as no
name has a slash; what is lost is whether the directory had a slash of its own at its end. So two
paths share their report only if they are equal, or if one of them has its last slash doubled in the
other, and then they share their output too (`report_eq_iff`, `output_eq_iff`). A report and an
output are never one file, as their leads differ (`report_ne_output`). The normal form of a path has
no backslash, and a path without one is its own normal form (`normalize_eq_self`).
-/

namespace AssetCheck.AssetPath

/-! ## Forward slashes -/

theorem toList_normalize (path : String) :
    (normalize path).toList = path.toList.map fun c => if c = '\\' then '/' else c :=
  String.toList_ofList

theorem backslash_not_mem_normalize (path : String) : '\\' ∉ (normalize path).toList := by
  rw [toList_normalize, List.mem_map]
  rintro ⟨c, -, hc⟩
  by_cases h : c = '\\' <;> simp [h] at hc

theorem normalize_eq_self {path : String} (h : '\\' ∉ path.toList) : normalize path = path := by
  have hkept : (path.toList.map fun c => if c = '\\' then '/' else c) = path.toList.map id := by
    refine List.map_congr_left fun c hc => if_neg ?_
    rintro rfl
    exact h hc
  rw [← String.toList_inj, toList_normalize, hkept, List.map_id]

/-! ## Cutting at the last slash -/

def nameOf (path : String) : List Char := (splitLast path.toList).2

/-- A list is cut at its last slash, or has none. -/
theorem splitLast_cases (cs : List Char) :
    (splitLast cs).1 = none ∧ (splitLast cs).2 = cs ∨
      ∃ directory, (splitLast cs).1 = some directory ∧
        directory ++ '/' :: (splitLast cs).2 = cs := by
  have hsplit := List.takeWhile_append_dropWhile (p := fun c => decide (c ≠ '/')) (l := cs.reverse)
  unfold splitLast
  dsimp only
  split
  · next hdrop =>
    rw [hdrop, List.append_nil] at hsplit
    exact Or.inl ⟨rfl, by rw [hsplit, List.reverse_reverse]⟩
  · next c directory hdrop =>
    have hc : c = '/' := by
      have hhead := List.head?_dropWhile_not (fun c => decide (c ≠ '/')) cs.reverse
      rw [hdrop] at hhead
      simpa using hhead
    refine Or.inr ⟨directory.reverse, rfl, ?_⟩
    rw [hdrop, hc] at hsplit
    have := congrArg List.reverse hsplit
    rw [List.reverse_append, List.reverse_cons, List.reverse_reverse] at this
    simpa using this

theorem slash_not_mem_splitLast (cs : List Char) : '/' ∉ (splitLast cs).2 := by
  have hname : (splitLast cs).2 = (cs.reverse.takeWhile fun c => decide (c ≠ '/')).reverse := by
    unfold splitLast
    dsimp only
    split <;> rfl
  rw [hname, List.mem_reverse]
  intro hmem
  simpa using List.all_eq_true.1 List.all_takeWhile '/' hmem

theorem append_slash_inj {front other name last : List Char} (hname : '/' ∉ name)
    (hlast : '/' ∉ last) :
    front ++ '/' :: name = other ++ '/' :: last ↔ front = other ∧ name = last := by
  -- Where one front goes on behind the other, the slash of the other is in a name.
  have hshorter : ∀ {between name last : List Char}, '/' ∉ name →
      '/' :: name = between ++ '/' :: last → between = [] ∧ name = last := by
    intro between name last hname h
    cases between with
    | nil => exact ⟨rfl, (List.cons.inj h).2⟩
    | cons c between =>
      have hmem : '/' ∈ name := (List.cons.inj h).2 ▸ by simp
      exact absurd hmem hname
  constructor
  · intro h
    rcases List.append_eq_append_iff.1 h with ⟨between, rfl, hrest⟩ | ⟨between, rfl, hrest⟩
    · obtain ⟨rfl, rfl⟩ := hshorter hname hrest
      exact ⟨(List.append_nil front).symm, rfl⟩
    · obtain ⟨rfl, rfl⟩ := hshorter hlast hrest
      exact ⟨List.append_nil other, rfl⟩
  · rintro ⟨rfl, rfl⟩
    rfl

theorem splitLast_of_slash {cs directory name : List Char} (hcut : directory ++ '/' :: name = cs)
    (hname : '/' ∉ name) : splitLast cs = (some directory, name) := by
  have hlast := slash_not_mem_splitLast cs
  rcases splitLast_cases cs with ⟨-, hnone⟩ | ⟨front, hsome, hfront⟩
  · rw [hnone, ← hcut] at hlast
    exact absurd (by simp) hlast
  · obtain ⟨rfl, hrest⟩ := (append_slash_inj hlast hname).1 (hfront.trans hcut.symm)
    exact Prod.ext hsome hrest

/-! ## Directories -/

/-- A directory with the slash that a name follows. -/
def closed (directory : List Char) : List Char :=
  if directory.getLast? = some '/' then directory else directory ++ ['/']

theorem length_le_closed (directory : List Char) : directory.length ≤ (closed directory).length := by
  unfold closed
  split <;> simp

theorem mem_closed {directory : List Char} {c : Char} (h : c ∈ closed directory) :
    c = '/' ∨ c ∈ directory := by
  unfold closed at h
  split at h
  · exact .inr h
  · simpa [or_comm] using h

theorem closed_ne_nil (directory : List Char) : closed directory ≠ [] := by
  unfold closed
  split
  · next h => exact fun he => by simp [he] at h
  · simp

/-- Closing a directory forgets no more than a slash at its end. -/
theorem closed_inj_iff {directory other : List Char} :
    closed directory = closed other ↔ directory = other ∨
      (directory.getLast? ≠ some '/' ∧ other = directory ++ ['/']) ∨
      (other.getLast? ≠ some '/' ∧ directory = other ++ ['/']) := by
  have hopen : ∀ {front back : List Char}, back.getLast? ≠ some '/' → back ≠ front ++ ['/'] :=
    fun hback he => hback (he ▸ List.getLast?_concat)
  unfold closed
  by_cases hd : directory.getLast? = some '/' <;> by_cases ho : other.getLast? = some '/'
  · simp [hd, ho]
  · have hne : directory ≠ other := fun he => ho (he ▸ hd)
    simp [hd, ho, hne]
  · have hne : directory ≠ other := fun he => hd (he ▸ ho)
    simp [hd, ho, hne, eq_comm]
  · simp [hd, ho, hopen]

/-- The directory of a path, with the slash that a name follows. -/
def directoryOf (path : String) : List Char :=
  match (splitLast path.toList).1 with
  | none => []
  | some [] => ['/']
  | some directory => if directory.getLast? = some '/' then directory else directory ++ ['/']

section DirectoryOf

variable {path : String}

theorem directoryOf_of_none (h : (splitLast path.toList).1 = none) : directoryOf path = [] := by
  unfold directoryOf
  rw [h]

theorem directoryOf_of_some {directory : List Char}
    (h : (splitLast path.toList).1 = some directory) : directoryOf path = closed directory := by
  unfold directoryOf
  rw [h]
  cases directory <;> rfl

end DirectoryOf

/-! ## Paths with the same parts -/

/-- The second path is the first one with its last slash doubled. -/
def Doubles (path other : String) : Prop :=
  ∃ directory name : String, directory.toList.getLast? ≠ some '/' ∧ '/' ∉ name.toList ∧
    path = directory ++ "/" ++ name ∧ other = directory ++ "//" ++ name

theorem Doubles.parts_eq {path other : String} (h : Doubles path other) :
    directoryOf path = directoryOf other ∧ nameOf path = nameOf other := by
  obtain ⟨directory, name, hopen, hname, rfl, rfl⟩ := h
  have hone : splitLast (directory ++ "/" ++ name).toList = (some directory.toList, name.toList) :=
    splitLast_of_slash (by simp) hname
  have htwo : splitLast (directory ++ "//" ++ name).toList =
      (some (directory.toList ++ ['/']), name.toList) := splitLast_of_slash (by simp) hname
  rw [directoryOf_of_some (congrArg Prod.fst hone), directoryOf_of_some (congrArg Prod.fst htwo)]
  refine ⟨closed_inj_iff.2 (.inr (.inl ⟨hopen, rfl⟩)), ?_⟩
  unfold nameOf
  rw [hone, htwo]

/-- Paths that are cut into a directory, with one slash or two, and one name. -/
theorem doubles_of_cut {path other : String} {directory name : List Char}
    (hopen : directory.getLast? ≠ some '/') (hname : '/' ∉ name)
    (hpath : directory ++ '/' :: name = path.toList)
    (hother : directory ++ ['/'] ++ '/' :: name = other.toList) : Doubles path other := by
  refine ⟨.ofList directory, .ofList name, by simpa, by simpa, ?_, ?_⟩
  · exact String.ext (by simp [← hpath])
  · exact String.ext (by simp [← hother])

/-- Paths with the same directory and name are equal but for a doubled slash before the name. -/
theorem parts_eq_iff {path other : String} :
    directoryOf path = directoryOf other ∧ nameOf path = nameOf other ↔
      path = other ∨ Doubles path other ∨ Doubles other path := by
  constructor
  · rintro ⟨hdirectory, hname⟩
    have hslash : '/' ∉ nameOf path := slash_not_mem_splitLast path.toList
    rcases splitLast_cases path.toList with ⟨hpath, hall⟩ | ⟨front, hpath, hcut⟩ <;>
      rcases splitLast_cases other.toList with ⟨hother, hall'⟩ | ⟨front', hother, hcut'⟩
    · exact .inl (String.ext (hall.symm.trans (hname.trans hall')))
    · rw [directoryOf_of_none hpath, directoryOf_of_some hother] at hdirectory
      exact absurd hdirectory.symm (closed_ne_nil front')
    · rw [directoryOf_of_some hpath, directoryOf_of_none hother] at hdirectory
      exact absurd hdirectory (closed_ne_nil front)
    · rw [directoryOf_of_some hpath, directoryOf_of_some hother] at hdirectory
      change front ++ '/' :: nameOf path = _ at hcut
      change front' ++ '/' :: nameOf other = _ at hcut'
      rw [← hname] at hcut'
      rcases closed_inj_iff.1 hdirectory with rfl | ⟨hopen, rfl⟩ | ⟨hopen, rfl⟩
      · exact .inl (String.ext (hcut.symm.trans hcut'))
      · exact .inr (.inl (doubles_of_cut hopen hslash hcut hcut'))
      · exact .inr (.inr (doubles_of_cut hopen hslash hcut' hcut))
  · rintro (rfl | h | h)
    · exact ⟨rfl, rfl⟩
    · exact h.parts_eq
    · exact h.parts_eq.imp Eq.symm Eq.symm

/-! ## Files next to paths -/

theorem toList_beside (path lead tail : String) :
    (beside path lead tail).toList =
      directoryOf path ++ (lead.toList ++ nameOf path ++ tail.toList) := by
  unfold beside directoryOf nameOf
  cases hsplit : splitLast path.toList with
  | mk directory? name =>
    dsimp only
    split
    · simp
    · simp
    · next directory _ =>
      by_cases h : directory.getLast? = some '/'
      · simp [h]
      · simp [h]

/-- What a file next to a path is made of. -/
theorem mem_beside {path lead tail : String} {c : Char} (h : c ∈ (beside path lead tail).toList) :
    c = '/' ∨ c ∈ path.toList ∨ c ∈ lead.toList ∨ c ∈ tail.toList := by
  have hdirectory : c ∈ directoryOf path → c = '/' ∨ c ∈ path.toList := by
    intro hmem
    rcases splitLast_cases path.toList with ⟨hnone, -⟩ | ⟨directory, hsome, hcut⟩
    · rw [directoryOf_of_none hnone] at hmem
      cases hmem
    · rw [directoryOf_of_some hsome] at hmem
      rw [← hcut, List.mem_append]
      rcases mem_closed hmem with hslash | hmem
      · exact .inl hslash
      · exact .inr (.inl hmem)
  have hname : c ∈ nameOf path → c ∈ path.toList := by
    intro hmem
    unfold nameOf at hmem
    rcases splitLast_cases path.toList with ⟨-, hall⟩ | ⟨directory, -, hcut⟩
    · exact hall ▸ hmem
    · rw [← hcut]
      exact List.mem_append_right _ (List.mem_cons_of_mem _ hmem)
  rw [toList_beside] at h
  simp only [List.mem_append] at h
  rcases h with h | ⟨h | h⟩ | h
  · exact (hdirectory h).imp_right .inl
  · exact .inr (.inr (.inl h))
  · exact .inr (.inl (hname h))
  · exact .inr (.inr (.inr h))

theorem length_le_directory_add_name (path : String) :
    path.toList.length ≤ (directoryOf path).length + (nameOf path).length + 1 := by
  unfold nameOf
  rcases splitLast_cases path.toList with ⟨hnone, hname⟩ | ⟨directory, hsome, hcut⟩
  · rw [hname]
    omega
  · have hlen := congrArg List.length hcut
    have hle := length_le_closed directory
    rw [List.length_append, List.length_cons] at hlen
    rw [directoryOf_of_some hsome]
    omega

theorem ne_beside (path lead tail : String) (h : 2 ≤ lead.toList.length) :
    path ≠ beside path lead tail := by
  intro he
  have hlen := congrArg (fun s => s.toList.length) he
  have hle := length_le_directory_add_name path
  simp only [toList_beside, List.length_append] at hlen
  omega

theorem ne_report (path : String) : path ≠ report path := ne_beside path _ _ (by decide)

theorem ne_output (path : String) : path ≠ output path := ne_beside path _ _ (by decide)

/-- A file next to a path gives the parts of the path away: its last slash ends the lead. -/
theorem beside_eq_iff {path other lead lead' tail tail' : String} (word word' : List Char)
    (hlead : lead.toList = word ++ ['/']) (hlead' : lead'.toList = word' ++ ['/'])
    (htail : '/' ∉ tail.toList) (htail' : '/' ∉ tail'.toList) :
    beside path lead tail = beside other lead' tail' ↔
      directoryOf path ++ word = directoryOf other ++ word' ∧
        nameOf path ++ tail.toList = nameOf other ++ tail'.toList := by
  have hname : '/' ∉ nameOf path ++ tail.toList := by
    simp [nameOf, slash_not_mem_splitLast, htail]
  have hname' : '/' ∉ nameOf other ++ tail'.toList := by
    simp [nameOf, slash_not_mem_splitLast, htail']
  rw [← append_slash_inj hname hname', ← String.toList_inj, toList_beside, toList_beside, hlead,
    hlead']
  simp

theorem beside_inj_iff {path other lead tail : String} (word : List Char)
    (hlead : lead.toList = word ++ ['/']) (htail : '/' ∉ tail.toList) :
    beside path lead tail = beside other lead tail ↔
      path = other ∨ Doubles path other ∨ Doubles other path := by
  rw [← parts_eq_iff, beside_eq_iff word word hlead hlead htail htail, List.append_left_inj,
    List.append_left_inj]

theorem report_eq_iff {path other : String} :
    report path = report other ↔ path = other ∨ Doubles path other ∨ Doubles other path :=
  beside_inj_iff "reports".toList (by decide) (by decide)

theorem output_eq_iff {path other : String} :
    output path = output other ↔ path = other ∨ Doubles path other ∨ Doubles other path :=
  beside_inj_iff "outputs".toList (by decide) (by decide)

/-- Two assets that write over each other's report. -/
example : report "props//crate.fbx" = report "props/crate.fbx" := by decide

theorem report_ne_output (path other : String) : report path ≠ output other := by
  unfold report output
  rw [Ne, beside_eq_iff "reports".toList "outputs".toList (by decide) (by decide) (by decide)
    (by decide)]
  rintro ⟨hwords, -⟩
  exact absurd (List.append_inj_right' hwords (by decide)) (by decide)

end AssetCheck.AssetPath
