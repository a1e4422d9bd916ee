import AssetCheck.AssetList
import AssetCheck.Proofs.AssetPaths
import AssetCheck.Proofs.File.Walk
import AssetCheck.Proofs.Traversal

/-!
# Lists of assets

The assets of paths and patterns are the named paths in their normal form, each where it comes
first, and after them in ascending order the other files that a pattern matches (`IsExpansion`).
There is one such list, and it holds nothing twice. So neither the order in which directories list
their entries nor the order or repetition of patterns makes a difference, and a list that is named
again comes back as it was (`expand_canonical`).
-/

namespace AssetCheck

/-! ## Lists without repetition -/

section Lists

variable {α : Type} [BEq α]

theorem eraseDups_sublist (xs : List α) : xs.eraseDups.Sublist xs := by
  cases xs with
  | nil => simp
  | cons x xs =>
    rw [List.eraseDups_cons]
    exact ((eraseDups_sublist _).trans List.filter_sublist).cons_cons x
termination_by xs.length
decreasing_by exact Nat.lt_succ_of_le (List.length_filter_le _ _)

variable [LawfulBEq α]

theorem nodup_eraseDups (xs : List α) : xs.eraseDups.Nodup := by
  cases xs with
  | nil => simp
  | cons x xs =>
    rw [List.eraseDups_cons, List.nodup_cons]
    refine ⟨fun hmem => ?_, nodup_eraseDups _⟩
    have hkept := (List.mem_filter.1 (List.mem_eraseDups.1 hmem)).2
    simp at hkept
termination_by xs.length
decreasing_by exact Nat.lt_succ_of_le (List.length_filter_le _ _)

theorem eraseDups_eq_self {xs : List α} (h : xs.Nodup) : xs.eraseDups = xs := by
  induction xs with
  | nil => rfl
  | cons x xs ih =>
    obtain ⟨hx, hxs⟩ := List.nodup_cons.1 h
    have hkept : (xs.filter fun y => !y == x) = xs := by
      refine List.filter_eq_self.2 fun y hy => ?_
      have hne : y ≠ x := by
        rintro rfl
        exact hx hy
      simpa using hne
    rw [List.eraseDups_cons, hkept, ih hxs]

theorem mem_removeAll {xs ys : List α} {x : α} : x ∈ xs.removeAll ys ↔ x ∈ xs ∧ x ∉ ys := by
  unfold List.removeAll
  rw [List.mem_filter]
  simp

end Lists

namespace AssetList

/-! ## Texts in order -/

theorem nodup_of_ascending {xs : List String} (h : xs.Pairwise (· < ·)) : xs.Nodup := by
  refine h.imp fun {a b} hlt heq => ?_
  rw [heq] at hlt
  exact String.lt_irrefl b hlt

theorem eq_of_ascending {xs ys : List String} (hxs : xs.Pairwise (· < ·))
    (hys : ys.Pairwise (· < ·)) (h : ∀ s, s ∈ xs ↔ s ∈ ys) : xs = ys := by
  have hperm := (List.perm_ext_iff_of_nodup (nodup_of_ascending hxs) (nodup_of_ascending hys)).2 h
  refine hperm.eq_of_pairwise (fun a b _ _ hab hba => ?_) hxs hys
  exact String.le_antisymm (Std.le_of_lt hab) (Std.le_of_lt hba)

theorem pairwise_sorted (xs : List String) :
    (xs.mergeSort fun a b => a ≤ b).Pairwise (· ≤ ·) := by
  have h : (xs.mergeSort fun a b => a ≤ b).Pairwise fun a b => decide (a ≤ b) = true :=
    List.pairwise_mergeSort (fun a b c => by simpa using String.le_trans)
      (fun a b => by simpa using String.le_total a b) xs
  exact h.imp of_decide_eq_true

/-! ## Expansions -/

/-- The named paths, each where it comes first, and after them in ascending order the others that
are found. -/
def IsExpansion (named : List String) (Found : String → Prop) (assets : List String) : Prop :=
  ∃ rest, assets = named.eraseDups ++ rest ∧ rest.Pairwise (· < ·) ∧
    ∀ path, path ∈ rest ↔ Found path ∧ path ∉ named

variable {named assets other : List String} {Found Found' : String → Prop}

theorem IsExpansion.mem_iff (h : IsExpansion named Found assets) {path : String} :
    path ∈ assets ↔ path ∈ named ∨ Found path := by
  obtain ⟨rest, rfl, -, hrest⟩ := h
  rw [List.mem_append, List.mem_eraseDups, hrest]
  tauto

theorem IsExpansion.nodup (h : IsExpansion named Found assets) : assets.Nodup := by
  obtain ⟨rest, rfl, hascending, hrest⟩ := h
  refine List.nodup_append.2
    ⟨nodup_eraseDups named, nodup_of_ascending hascending, fun path hpath other hother heq => ?_⟩
  rw [List.mem_eraseDups] at hpath
  exact ((hrest other).1 hother).2 (heq ▸ hpath)

theorem IsExpansion.unique (h : IsExpansion named Found assets)
    (h' : IsExpansion named Found other) : assets = other := by
  obtain ⟨rest, rfl, hascending, hrest⟩ := h
  obtain ⟨rest', rfl, hascending', hrest'⟩ := h'
  rw [eq_of_ascending hascending hascending' fun path => (hrest path).trans (hrest' path).symm]

theorem IsExpansion.eq_iff (h : IsExpansion named Found assets) :
    assets = other ↔ IsExpansion named Found other :=
  ⟨fun heq => heq ▸ h, h.unique⟩

theorem IsExpansion.congr (h : IsExpansion named Found assets)
    (hiff : ∀ path, Found path ↔ Found' path) : IsExpansion named Found' assets := by
  obtain ⟨rest, hassets, hascending, hrest⟩ := h
  exact ⟨rest, hassets, hascending, fun path => by rw [hrest, hiff]⟩

/-- An expansion leaves nothing to be found. -/
theorem IsExpansion.again (h : IsExpansion named Found assets) :
    IsExpansion assets Found assets := by
  refine ⟨[], by rw [eraseDups_eq_self h.nodup, List.append_nil], .nil, fun path => ?_⟩
  refine ⟨fun hmem => (List.not_mem_nil hmem).elim, fun hpath => (hpath.2 ?_).elim⟩
  exact h.mem_iff.2 (.inr hpath.1)

/-- Paths that are found in order come after those that are named. -/
theorem isExpansion_eraseDups {found : List String} (h : found.Pairwise (· ≤ ·)) :
    IsExpansion named (· ∈ found) (named ++ found).eraseDups := by
  refine ⟨(found.removeAll named).eraseDups, List.eraseDups_append, ?_, fun path => ?_⟩
  · have hsorted : (found.removeAll named).eraseDups.Pairwise (· ≤ ·) :=
      h.sublist ((eraseDups_sublist _).trans List.filter_sublist)
    exact hsorted.imp₂ (fun _ _ => Std.lt_of_le_of_ne) (nodup_eraseDups _)
  · rw [List.mem_eraseDups, mem_removeAll]

/-! ## Patterns -/

/-- The pattern is one that can be read. -/
def Valid (pattern : String) : Prop := ∃ e, readPattern pattern = .ok e

/-- One of the patterns matches the path. -/
def picks (patterns : List String) (path : String) : Bool :=
  patterns.any fun pattern =>
    match readPattern pattern with
    | .ok e => e.isMatch path
    | .error _ => false

theorem picks_congr {patterns patterns' : List String} (h : ∀ p, p ∈ patterns' ↔ p ∈ patterns)
    (path : String) : picks patterns' path = picks patterns path := by
  rw [Bool.eq_iff_iff]
  unfold picks
  simp only [List.any_eq_true, h]

theorem any_eq_picks {patterns : List String} {es : List Glob.Expr}
    (h : List.Forall₂ (fun pattern e => readPattern pattern = .ok e) patterns es) (path : String) :
    es.any (·.isMatch path) = picks patterns path := by
  unfold picks
  induction h with
  | nil => rfl
  | cons hread _ ih => rw [List.any_cons, List.any_cons, ih, hread]

/-! ## Files that are found -/

/-- The path of a file, from the directory on that it was found in. -/
def pathOf (names : List String) : String := AssetPath.normalize (String.intercalate "/" names)

/-- The assets of named paths and of files that were found, in whatever order. -/
def gather (named patterns : List String) (found : List Place) : List String :=
  (named ++ ((found.map pathOf).filter (picks patterns)).mergeSort fun a b => a ≤ b).eraseDups

/-- A file is found that has this path and that a pattern matches. -/
def Picked (patterns : List String) (Found : Place → Prop) (path : String) : Prop :=
  (∃ names, Found names ∧ path = pathOf names) ∧ picks patterns path = true

theorem gather_isExpansion (named patterns : List String) (found : List Place) :
    IsExpansion named (Picked patterns (· ∈ found)) (gather named patterns found) := by
  refine (isExpansion_eraseDups (pairwise_sorted _)).congr fun path => ?_
  rw [List.mem_mergeSort, List.mem_filter, List.mem_map]
  simp only [Picked, eq_comm]

theorem gather_congr {patterns patterns' : List String} {found found' : List Place}
    (hpatterns : ∀ p, p ∈ patterns' ↔ p ∈ patterns)
    (hfound : ∀ names, names ∈ found' ↔ names ∈ found) :
    gather named patterns' found' = gather named patterns found := by
  refine (gather_isExpansion named patterns' found').unique ?_
  refine (gather_isExpansion named patterns found).congr fun path => ?_
  simp only [Picked, hfound, picks_congr hpatterns]

/-! ## What paths and patterns name -/

def directory (files : FileTree) (root : String) : Except IoError Place := do
  let place ← files.find root
  if files.isDirectoryAt place then return place else throw .notDirectory

variable {files files' : FileTree} {root : String} {explicit patterns patterns' : List String}

theorem directory_congr (h : files.Same files') : directory files' root = directory files root := by
  simp only [directory, h.find, h.isDirectoryAt]

/-- Valid patterns ask for one directory, and for nothing if there are none. -/
theorem expand_of_valid (hvalid : ∀ pattern ∈ patterns, Valid pattern) :
    expand files root explicit patterns =
      if patterns = [] then .ok (explicit.map AssetPath.normalize).eraseDups
      else (directory files root).mapError .io >>= fun place =>
        .ok (gather (explicit.map AssetPath.normalize) patterns (files.filesBelow place)) := by
  obtain ⟨es, hes⟩ := exists_forall₂ hvalid
  unfold expand
  split
  · rfl
  · rw [except_bind_ok (mapM_ok hes)]
    unfold matching filesBelow directory
    cases files.find root with
    | error e => rfl
    | ok place =>
      rw [except_bind_ok rfl, except_bind_ok rfl]
      split
      · simp only [any_eq_picks hes]
        rfl
      · rfl

/-- A file below the directory has this path, and a pattern matches it. -/
def IsMatch (files : FileTree) (root : String) (patterns : List String) (path : String) : Prop :=
  ∃ place, directory files root = .ok place ∧
    Picked patterns (fun names => names ≠ [] ∧ files.IsFileAt (place ++ names)) path

theorem not_isMatch_nil {path : String} : ¬ IsMatch files root [] path := by
  rintro ⟨_, -, -, hpicked⟩
  cases hpicked

theorem isMatch_iff {place : Place} (h : directory files root = .ok place) {path : String} :
    IsMatch files root patterns path ↔ Picked patterns (· ∈ files.filesBelow place) path := by
  unfold IsMatch Picked
  simp only [h, Except.ok.injEq, exists_eq_left', FileTree.mem_filesBelow]

/-- **Expansion.** What paths and valid patterns name is their expansion. -/
theorem expand_eq_ok_iff (hvalid : ∀ pattern ∈ patterns, Valid pattern) :
    expand files root explicit patterns = .ok assets ↔
      (patterns = [] ∨ ∃ place, directory files root = .ok place) ∧
        IsExpansion (explicit.map AssetPath.normalize) (IsMatch files root patterns) assets := by
  rw [expand_of_valid hvalid]
  by_cases hpatterns : patterns = []
  · subst hpatterns
    have hnamed : IsExpansion (explicit.map AssetPath.normalize) (IsMatch files root [])
        (explicit.map AssetPath.normalize ++ []).eraseDups :=
      (isExpansion_eraseDups .nil).congr fun _ => iff_of_false List.not_mem_nil not_isMatch_nil
    rw [List.append_nil] at hnamed
    rw [if_pos rfl, Except.ok.injEq, hnamed.eq_iff]
    simp
  · rw [if_neg hpatterns]
    cases hdirectory : directory files root with
    | error e => simp [hpatterns, Except.mapError, except_bind_error rfl]
    | ok place =>
      have hfound := (gather_isExpansion (explicit.map AssetPath.normalize) patterns
        (files.filesBelow place)).congr fun path => (isMatch_iff hdirectory).symm
      rw [Except.mapError, except_bind_ok rfl, Except.ok.injEq, hfound.eq_iff]
      simp

theorem map_normalize_eq_self
    (h : IsExpansion (explicit.map AssetPath.normalize) (IsMatch files root patterns) assets) :
    assets.map AssetPath.normalize = assets := by
  have hnormal : ∀ path ∈ assets, AssetPath.normalize path = id path := by
    intro path hpath
    refine AssetPath.normalize_eq_self ?_
    rcases h.mem_iff.1 hpath with hnamed | ⟨_, -, ⟨names, -, rfl⟩, -⟩
    · obtain ⟨given, -, rfl⟩ := List.mem_map.1 hnamed
      exact AssetPath.backslash_not_mem_normalize given
    · exact AssetPath.backslash_not_mem_normalize _
  rw [List.map_congr_left hnormal, List.map_id]

/-- The order in which directories list their entries and the order and repetition of patterns make
no difference. -/
theorem expand_congr (hvalid : ∀ pattern ∈ patterns, Valid pattern) (hfiles : files.Same files')
    (hpatterns : ∀ p, p ∈ patterns' ↔ p ∈ patterns) :
    expand files' root explicit patterns' = expand files root explicit patterns := by
  have hvalid' : ∀ pattern ∈ patterns', Valid pattern := fun p hp => hvalid p ((hpatterns p).1 hp)
  have hempty : patterns' = [] ↔ patterns = [] := by
    simp only [List.eq_nil_iff_forall_not_mem, hpatterns]
  rw [expand_of_valid hvalid', expand_of_valid hvalid, directory_congr hfiles]
  simp only [hempty, gather_congr hpatterns fun _ => hfiles.mem_filesBelow]

/-- Assets that are named again with the patterns come back as they were. -/
theorem expand_again (hvalid : ∀ pattern ∈ patterns, Valid pattern)
    (h : expand files root explicit patterns = .ok assets) :
    expand files root assets patterns = .ok assets := by
  obtain ⟨hdirectory, hexpansion⟩ := (expand_eq_ok_iff hvalid).1 h
  refine (expand_eq_ok_iff hvalid).2 ⟨hdirectory, ?_⟩
  rw [map_normalize_eq_self hexpansion]
  exact hexpansion.again

/-- Any walk finds the files for the assets, in whatever order directories list their entries. -/
theorem eq_gather_of_finds (hvalid : ∀ pattern ∈ patterns, Valid pattern) (hrooted : files.Rooted)
    {place : Place} {found : List Place} (hplace : directory files root = .ok place)
    (hfinds : files.Finds place found) (h : expand files root explicit patterns = .ok assets) :
    assets = gather (explicit.map AssetPath.normalize) patterns found := by
  obtain ⟨-, hexpansion⟩ := (expand_eq_ok_iff hvalid).1 h
  have hfound := hexpansion.congr fun path => isMatch_iff hplace
  rw [hfound.unique (gather_isExpansion _ patterns (files.filesBelow place))]
  exact gather_congr (fun _ => .rfl) fun _ => (hfinds.mem_iff hrooted).symm

/-- **Assets.** There are assets for valid patterns just where there is a directory to look in, or no
pattern. They are the expansion of the named paths by the files that match, without a repetition.
Neither an order of entries nor the order and repetition of patterns makes a difference, and assets
that are named again come back as they were. -/
theorem expand_canonical (files : FileTree) (root : String) (explicit : List String)
    {patterns : List String} (hvalid : ∀ pattern ∈ patterns, Valid pattern) :
    ((∃ assets, expand files root explicit patterns = .ok assets) ↔
        patterns = [] ∨ ∃ place, directory files root = .ok place) ∧
      (∀ files' patterns', files.Same files' → (∀ p, p ∈ patterns' ↔ p ∈ patterns) →
        expand files' root explicit patterns' = expand files root explicit patterns) ∧
      ∀ assets, expand files root explicit patterns = .ok assets →
        assets.Nodup ∧
        IsExpansion (explicit.map AssetPath.normalize) (IsMatch files root patterns) assets ∧
        expand files root assets patterns = .ok assets ∧
        ∀ place, directory files root = .ok place →
          (∃ found, files.Finds place found) ∧
          (files.Rooted → ∀ found, files.Finds place found →
            assets = gather (explicit.map AssetPath.normalize) patterns found) := by
  refine ⟨⟨?_, fun hdirectory => ?_⟩, fun _ _ => expand_congr hvalid, fun assets h => ?_⟩
  · rintro ⟨assets, h⟩
    exact ((expand_eq_ok_iff hvalid).1 h).1
  · rw [expand_of_valid hvalid]
    split
    · exact ⟨_, rfl⟩
    · next hpatterns =>
      obtain ⟨place, hplace⟩ := hdirectory.resolve_left hpatterns
      rw [hplace]
      exact ⟨_, rfl⟩
  · obtain ⟨-, hexpansion⟩ := (expand_eq_ok_iff hvalid).1 h
    exact ⟨hexpansion.nodup, hexpansion, expand_again hvalid h, fun place hplace =>
      ⟨files.exists_finds place, fun hrooted found hfinds =>
        eq_gather_of_finds hvalid hrooted hplace hfinds h⟩⟩

/-- A directory with two files, and a file beside it whose name has a backslash and the normal form of
one of them. -/
def shelf : FileTree :=
  ((((FileTree.empty []).put ["a"] .directory).put ["a", "b.fbx"] (.file .empty)).put ["a", "c.fbx"]
    (.file .empty)).put ["a\\b.fbx"] (.file .empty)

theorem rooted_shelf : shelf.Rooted := by
  have hdirectory := FileTree.rooted_empty.put ["a"] .directory (by decide) rfl rfl
  have hfirst := hdirectory.put ["a", "b.fbx"] (.file .empty) (by decide) rfl rfl
  have hsecond := hfirst.put ["a", "c.fbx"] (.file .empty) (by decide) rfl rfl
  exact hsecond.put ["a\\b.fbx"] (.file .empty) (by decide) rfl rfl

theorem finds_shelf : shelf.Finds [] [["a", "b.fbx"], ["a", "c.fbx"], ["a\\b.fbx"]] :=
  ⟨_, shelf.lists_namesIn [], .directory rfl (shelf.lists_namesIn ["a"])
    (.file rfl (.file rfl (.done _))) (.file rfl (.done _))⟩

/-- One path stands for two of the files, and the other file is named already. -/
theorem expand_canonical_shelf :
    (∀ pattern ∈ ["a/*.fbx", "*/b.fbx"], Valid pattern) ∧
      expand shelf "." ["z.fbx", "a\\c.fbx"] ["a/*.fbx", "*/b.fbx"] =
        .ok ["z.fbx", "a/c.fbx", "a/b.fbx"] ∧
      expand shelf "." ["z.fbx", "a/c.fbx", "a/b.fbx"] ["a/*.fbx", "*/b.fbx"] =
        .ok ["z.fbx", "a/c.fbx", "a/b.fbx"] := by
  have hvalid : ∀ pattern ∈ ["a/*.fbx", "*/b.fbx"], Valid pattern := by
    simp only [List.forall_mem_cons]
    exact ⟨⟨_, rfl⟩, ⟨_, rfl⟩, List.forall_mem_nil _⟩
  obtain ⟨hexists, -, hassets⟩ :=
    expand_canonical shelf "." ["z.fbx", "a\\c.fbx"] hvalid
  obtain ⟨assets, h⟩ := hexists.2 (.inr ⟨[], rfl⟩)
  obtain ⟨-, -, hagain, hwalks⟩ := hassets assets h
  have hgather := (hwalks [] rfl).2 rooted_shelf _ finds_shelf
  have hnamed : ["z.fbx", "a\\c.fbx"].map AssetPath.normalize = ["z.fbx", "a/c.fbx"] := by decide
  have hpicked : ([["a", "b.fbx"], ["a", "c.fbx"], ["a\\b.fbx"]].map pathOf).filter
      (picks ["a/*.fbx", "*/b.fbx"]) = ["a/b.fbx", "a/c.fbx", "a/b.fbx"] := by decide +kernel
  have hsorted : ["a/b.fbx", "a/c.fbx", "a/b.fbx"].mergeSort (fun a b => a ≤ b) =
      ["a/b.fbx", "a/b.fbx", "a/c.fbx"] := by simp [List.mergeSort]
  have hdistinct : (["z.fbx", "a/c.fbx"] ++ ["a/b.fbx", "a/b.fbx", "a/c.fbx"]).eraseDups =
      ["z.fbx", "a/c.fbx", "a/b.fbx"] := by decide
  rw [gather, hnamed, hpicked, hsorted, hdistinct] at hgather
  subst hgather
  exact ⟨hvalid, h, hagain⟩

end AssetList

end AssetCheck
