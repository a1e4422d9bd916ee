import Mathlib.Algebra.Order.BigOperators.Group.List
import Mathlib.Algebra.Order.Group.Nat
import Mathlib.Data.List.Induction
import AssetCheck.Proofs.File.Written
import AssetCheck.Proofs.Table

/-!
# Walks through directories

A walk takes the entries of a directory in the order in which they are listed, and goes on into
each that is a directory (`Walks`). Where every entry is in a directory (`Rooted`), a walk finds
exactly the files that the tree holds below, however directories list what they hold
(`Finds.mem_iff`). There always is a walk that comes to its end (`exists_finds`).
-/

namespace AssetCheck.FileTree

variable {t t' : FileTree} {place dir : Place} {name : String} {names rest : List String}

/-! ## Files below a place -/

def IsFileAt (t : FileTree) (place : Place) : Prop :=
  ∃ bytes, t.contentAt? place = some (.file bytes)

theorem mem_entries_iff {entry : Entry} (h : place ≠ []) :
    (place, entry) ∈ t.entries ↔ t.contentAt? place = some entry := by
  unfold contentAt?
  rw [if_neg h]
  exact ⟨fun hmem => Table.get?_of_mem t.distinct hmem, Table.mem_of_get?⟩

/-- What is left of a place below another. -/
theorem below_eq_some_iff {found path : Place} :
    (place.isPrefixOf? found).filter (· ≠ []) = some path ↔ place ++ path = found ∧ path ≠ [] := by
  rw [Option.filter_eq_some_iff, List.isPrefixOf?_eq_some_iff_append_eq]
  simp

/-- **Below.** What is listed below a place are the files there, at any depth. -/
theorem mem_filesBelow {path : Place} :
    path ∈ t.filesBelow place ↔ path ≠ [] ∧ t.IsFileAt (place ++ path) := by
  unfold filesBelow
  rw [List.mem_filterMap]
  constructor
  · rintro ⟨⟨found, entry⟩, hmem, hpath⟩
    cases entry with
    | directory => cases hpath
    | file bytes =>
      obtain ⟨rfl, hne⟩ := below_eq_some_iff.1 hpath
      exact ⟨hne, bytes, (mem_entries_iff (by simp [hne])).1 hmem⟩
  · rintro ⟨hne, bytes, hcontent⟩
    have hmem := (mem_entries_iff (t := t) (by simp [hne])).2 hcontent
    exact ⟨_, hmem, below_eq_some_iff.2 ⟨rfl, hne⟩⟩

/-! ## Orders of entries -/

/-- Two trees hold the same, in whatever order. -/
structure Same (t t' : FileTree) : Prop where
  home : t'.home = t.home
  content : ∀ place, t'.contentAt? place = t.contentAt? place

theorem Same.isDirectoryAt (h : t.Same t') (place : Place) :
    t'.isDirectoryAt place = t.isDirectoryAt place := by
  unfold FileTree.isDirectoryAt
  rw [h.content]

theorem Same.descend (h : t.Same t') (place : Place) (names : List String) :
    t'.descend place names = t.descend place names := by
  induction names generalizing place with
  | nil => rfl
  | cons name rest ih => simp only [FileTree.descend, h.isDirectoryAt, h.content, ih]

theorem Same.find (h : t.Same t') (s : String) : t'.find s = t.find s := by
  simp only [FileTree.find, start, h.home, h.descend, h.isDirectoryAt]

theorem Same.mem_filesBelow (h : t.Same t') {path : Place} :
    path ∈ t'.filesBelow place ↔ path ∈ t.filesBelow place := by
  simp only [FileTree.mem_filesBelow, IsFileAt, h.content]

/-! ## Trees -/

/-- Every file and every directory is in a directory. -/
def Rooted (t : FileTree) : Prop :=
  ∀ outer name entry, t.contentAt? (outer ++ [name]) = some entry → t.isDirectoryAt outer = true

theorem Rooted.above (h : t.Rooted) {path : Place} (hpath : path ≠ []) {entry : Entry}
    (hentry : t.contentAt? (place ++ path) = some entry) : t.isDirectoryAt place = true := by
  induction path using List.reverseRecOn generalizing entry with
  | nil => exact absurd rfl hpath
  | append_singleton path name ih =>
    rw [← List.append_assoc] at hentry
    have hdirectory := h _ _ _ hentry
    by_cases hempty : path = []
    · rw [hempty, List.append_nil] at hdirectory
      exact hdirectory
    · exact ih hempty (isDirectoryAt_iff.1 hdirectory)

/-- The first name of a path to an entry names an entry. -/
theorem Rooted.first (h : t.Rooted) {entry : Entry}
    (hentry : t.contentAt? (dir ++ name :: rest) = some entry) :
    ∃ entry, t.contentAt? (dir ++ [name]) = some entry := by
  by_cases hrest : rest = []
  · exact ⟨entry, hrest ▸ hentry⟩
  · rw [List.append_cons] at hentry
    exact ⟨_, isDirectoryAt_iff.1 (h.above hrest hentry)⟩

theorem Rooted.eq_nil_of_file (h : t.Rooted) (hfile : t.IsFileAt (dir ++ [name]))
    (hbelow : t.IsFileAt (dir ++ name :: rest)) : rest = [] := by
  obtain ⟨bytes, hfile⟩ := hfile
  obtain ⟨_, hbelow⟩ := hbelow
  by_contra hrest
  rw [List.append_cons] at hbelow
  rw [isDirectoryAt_iff.1 (h.above hrest hbelow)] at hfile
  cases hfile

theorem rooted_empty : (empty []).Rooted := by
  intro outer name entry h
  have hnone : (empty []).contentAt? (outer ++ [name]) = none := by
    unfold contentAt?
    rw [if_neg (by simp)]
    rfl
  rw [hnone] at h
  cases h

/-- A file or directory is put into a directory, where no other directory was. -/
theorem Rooted.put (h : t.Rooted) (place : Place) (entry : Entry) (hplace : place ≠ [])
    (hdirectory : t.isDirectoryAt place.dropLast = true) (hfree : t.isDirectoryAt place = false) :
    (t.put place entry).Rooted := by
  intro outer name content hcontent
  refine isDirectoryAt_put_of_directory entry hplace hfree ?_
  rw [contentAt?_put t hplace] at hcontent
  split at hcontent
  · next heq =>
    rw [heq, List.dropLast_concat] at hdirectory
    exact hdirectory
  · exact h outer name content hcontent

/-! ## Walks -/

/-- The names of what a directory holds, in some order. -/
def Lists (t : FileTree) (dir : Place) (names : List String) : Prop :=
  ∀ name, name ∈ names ↔ ∃ entry, t.contentAt? (dir ++ [name]) = some entry

/-- A walk through entries of a directory finds files, which are named from the directory on. -/
inductive Walks (t : FileTree) : Place → List String → List Place → Prop
  | done (dir : Place) : Walks t dir [] []
  | file {dir : Place} {name : String} {rest : List String} {found : List Place}
      {bytes : ByteArray} : t.contentAt? (dir ++ [name]) = some (.file bytes) →
      Walks t dir rest found → Walks t dir (name :: rest) ([name] :: found)
  | directory {dir : Place} {name : String} {names rest : List String}
      {inner found : List Place} : t.contentAt? (dir ++ [name]) = some .directory →
      t.Lists (dir ++ [name]) names → Walks t (dir ++ [name]) names inner →
      Walks t dir rest found → Walks t dir (name :: rest) (inner.map (name :: ·) ++ found)

/-- The files below the entry with a name. -/
theorem mem_map_cons {path : Place} {inner : List Place} :
    path ∈ inner.map (name :: ·) ↔ ∃ rest ∈ inner, path = name :: rest := by
  simp only [List.mem_map, eq_comm]

/-- **Walks.** In a tree, a walk finds the files below the entries that it takes, and no others. -/
theorem Walks.mem_iff (h : t.Rooted) {found : List Place} (hwalk : t.Walks dir names found)
    {path : Place} :
    path ∈ found ↔
      ∃ name rest, path = name :: rest ∧ name ∈ names ∧ t.IsFileAt (dir ++ path) := by
  induction hwalk generalizing path with
  | done dir => simp
  | @file dir name others found bytes hfile _ ih =>
    rw [List.mem_cons, ih]
    constructor
    · rintro (rfl | ⟨other, rest, rfl, hother, hpath⟩)
      · exact ⟨name, [], rfl, List.mem_cons_self, bytes, hfile⟩
      · exact ⟨other, rest, rfl, List.mem_cons_of_mem _ hother, hpath⟩
    · rintro ⟨other, rest, rfl, hother, hpath⟩
      rcases List.mem_cons.1 hother with rfl | hother
      · rw [h.eq_nil_of_file ⟨bytes, hfile⟩ hpath]
        exact .inl rfl
      · exact .inr ⟨other, rest, rfl, hother, hpath⟩
  | @directory dir name listed others inner found hdirectory hlists _ _ ihInner ih =>
    rw [List.mem_append, mem_map_cons, ih]
    constructor
    · rintro (⟨rest, hrest, rfl⟩ | ⟨other, rest, rfl, hother, hpath⟩)
      · obtain ⟨-, -, -, -, hpath⟩ := ihInner.1 hrest
        rw [← List.append_cons] at hpath
        exact ⟨name, rest, rfl, List.mem_cons_self, hpath⟩
      · exact ⟨other, rest, rfl, List.mem_cons_of_mem _ hother, hpath⟩
    · rintro ⟨other, rest, rfl, hother, hpath⟩
      rcases List.mem_cons.1 hother with rfl | hother
      -- What is found below a directory goes on with one of its names.
      · rw [List.append_cons] at hpath
        refine .inl ⟨rest, ihInner.2 ?_, rfl⟩
        cases rest with
        | nil =>
          obtain ⟨bytes, hfile⟩ := hpath
          rw [List.append_nil, hdirectory] at hfile
          cases hfile
        | cons next rest =>
          obtain ⟨bytes, hfile⟩ := hpath
          exact ⟨next, rest, rfl, (hlists next).2 (h.first hfile), bytes, hfile⟩
      · exact .inr ⟨other, rest, rfl, hother, hpath⟩

/-- A walk through all that a directory holds, in some order, finds these files. -/
def Finds (t : FileTree) (dir : Place) (found : List Place) : Prop :=
  ∃ names, t.Lists dir names ∧ t.Walks dir names found

/-- **A whole directory.** What is found in a directory are the files below it. -/
theorem Finds.mem_iff (hrooted : t.Rooted) {found : List Place} (h : t.Finds dir found)
    {path : Place} : path ∈ found ↔ path ∈ t.filesBelow dir := by
  obtain ⟨names, hlists, hwalk⟩ := h
  rw [hwalk.mem_iff hrooted, mem_filesBelow]
  constructor
  · rintro ⟨name, rest, rfl, -, hpath⟩
    exact ⟨List.cons_ne_nil _ _, hpath⟩
  · rintro ⟨hne, hpath⟩
    obtain ⟨name, rest, rfl⟩ := List.exists_cons_of_ne_nil hne
    obtain ⟨bytes, hfile⟩ := hpath
    exact ⟨name, rest, rfl, (hlists name).2 (hrooted.first hfile), bytes, hfile⟩

/-! ## Ends of walks -/

def namesIn (t : FileTree) (dir : Place) : List String :=
  t.entries.filterMap fun e => if e.1.dropLast = dir then e.1.getLast? else none

theorem lists_namesIn (t : FileTree) (dir : Place) : t.Lists dir (t.namesIn dir) := by
  intro name
  have hplace : dir ++ [name] ≠ [] := by simp
  unfold namesIn
  rw [List.mem_filterMap]
  constructor
  · rintro ⟨⟨found, entry⟩, hmem, hname⟩
    split at hname
    · next hdir =>
      obtain ⟨front, rfl⟩ := List.getLast?_eq_some_iff.1 hname
      rw [List.dropLast_concat] at hdir
      exact ⟨entry, hdir ▸ (mem_entries_iff (by simp)).1 hmem⟩
    · cases hname
  · rintro ⟨entry, hentry⟩
    exact ⟨_, (mem_entries_iff hplace).2 hentry, by simp⟩

theorem exists_walks
    (hnames : ∀ name ∈ names, ∃ entry, t.contentAt? (dir ++ [name]) = some entry)
    (hinner : ∀ name, ∃ inner, t.Finds (dir ++ [name]) inner) :
    ∃ found, t.Walks dir names found := by
  induction names with
  | nil => exact ⟨[], .done dir⟩
  | cons name rest ih =>
    obtain ⟨⟨entry, hentry⟩, hrest⟩ := List.forall_mem_cons.1 hnames
    obtain ⟨found, hfound⟩ := ih hrest
    cases entry with
    | file bytes => exact ⟨_, .file hentry hfound⟩
    | directory =>
      obtain ⟨inner, listed, hlists, hwalk⟩ := hinner name
      exact ⟨_, .directory hentry hlists hwalk hfound⟩

/-- **Ends.** Each directory can be walked through. -/
theorem exists_finds (t : FileTree) (dir : Place) : ∃ found, t.Finds dir found := by
  obtain ⟨deepest, hdeepest⟩ : ∃ n, ∀ e ∈ t.entries, e.1.length ≤ n :=
    ⟨(t.entries.map fun e => e.1.length).sum, fun e he =>
      List.le_sum_of_mem (List.mem_map_of_mem he)⟩
  -- A directory that stands as deep as the deepest entry holds nothing.
  induction hdepth : deepest - dir.length generalizing dir with
  | zero =>
    refine ⟨[], [], fun name => ⟨fun h => (List.not_mem_nil h).elim, ?_⟩, .done dir⟩
    rintro ⟨entry, hentry⟩
    have hlength := hdeepest _ ((mem_entries_iff (by simp)).2 hentry)
    rw [List.length_append, List.length_singleton] at hlength
    omega
  | succ depth ih =>
    have hinner : ∀ name, ∃ inner, t.Finds (dir ++ [name]) inner := fun name => by
      refine ih (dir ++ [name]) ?_
      rw [List.length_append, List.length_singleton]
      omega
    have hlists := t.lists_namesIn dir
    obtain ⟨found, hfound⟩ := exists_walks (fun name h => (hlists name).1 h) hinner
    exact ⟨found, _, hlists, hfound⟩

end AssetCheck.FileTree
