import AssetCheck.Table

/-!
# Looking up in changed tables

A table is read through `get?`. These lemmas say what each way to change a table does to lookups and
to the keys, so that no later proof looks at the entries themselves.
-/

namespace AssetCheck.Table

variable {α β : Type}

@[simp] theorem keys_nil : keys ([] : Table α β) = [] := rfl

@[simp] theorem keys_cons (entry : α × β) (t : Table α β) :
    keys (entry :: t) = entry.1 :: keys t := rfl

@[simp] theorem keys_append (t u : Table α β) : keys (t ++ u) = keys t ++ keys u := List.map_append

@[simp] theorem keys_map_values (t : Table α β) (f : α → β → β) :
    keys (t.map fun entry => (entry.1, f entry.1 entry.2)) = keys t := by
  simp [keys]

@[simp] theorem keys_reverse (t : Table α β) : keys t.reverse = (keys t).reverse := List.map_reverse

theorem map_values_eq_self {t : Table α β} {f : α → β → β}
    (h : ∀ entry ∈ t, f entry.1 entry.2 = entry.2) :
    (t.map fun entry => (entry.1, f entry.1 entry.2)) = t := by
  have hid : t.map (fun entry => (entry.1, f entry.1 entry.2)) = t.map id :=
    List.map_congr_left fun entry hmem => by rw [h entry hmem, id]
  rw [hid, List.map_id]

/-! ## Lookups -/

variable [DecidableEq α]

theorem get?_eq_none_iff {t : Table α β} {key : α} : get? t key = none ↔ key ∉ keys t := by
  induction t with
  | nil => simp
  | cons entry t ih =>
    rw [get?_cons, keys_cons, List.mem_cons]
    by_cases h : entry.1 = key
    · simp [h]
    · simp [h, ih, Ne.symm h]

theorem mem_keys_iff {t : Table α β} {key : α} :
    key ∈ keys t ↔ ∃ value, get? t key = some value := by
  rw [← Option.isSome_iff_exists, ← Option.ne_none_iff_isSome, Ne, get?_eq_none_iff,
    Decidable.not_not]

theorem get?_append (t u : Table α β) (key : α) :
    get? (t ++ u) key = (get? t key).or (get? u key) := by
  induction t with
  | nil => simp
  | cons entry t ih =>
    rw [List.cons_append, get?_cons, get?_cons, ih]
    by_cases h : entry.1 = key <;> simp [h]

theorem get?_append_of_not_mem {t : Table α β} {key : α} (h : key ∉ keys t) (u : Table α β) :
    get? (t ++ u) key = get? u key := by
  rw [get?_append, get?_eq_none_iff.2 h, Option.none_or]

theorem get?_map_values (t : Table α β) (f : α → β → β) (key : α) :
    get? (t.map fun entry => (entry.1, f entry.1 entry.2)) key = (get? t key).map (f key) := by
  induction t with
  | nil => rfl
  | cons entry t ih =>
    rw [List.map_cons, get?_cons, get?_cons, ih]
    by_cases h : entry.1 = key
    · subst h
      simp
    · simp [h]

/-! ## Removing keys -/

@[simp] theorem keys_erase (t : Table α β) (key : α) :
    keys (erase t key) = (keys t).filter (· ≠ key) := by
  simp only [keys, erase, List.filter_map]
  rfl

theorem erase_append (t u : Table α β) (key : α) :
    erase (t ++ u) key = erase t key ++ erase u key :=
  List.filter_append ..

theorem erase_eq_self {t : Table α β} {key : α} (h : key ∉ keys t) : erase t key = t := by
  rw [erase, List.filter_eq_self]
  intro entry hmem
  exact decide_eq_true fun he => h (he ▸ List.mem_map_of_mem hmem)

theorem get?_erase (t : Table α β) (key other : α) :
    get? (erase t key) other = if other = key then none else get? t other := by
  induction t with
  | nil => simp [erase]
  | cons entry t ih =>
    simp only [erase] at ih ⊢
    by_cases hk : entry.1 = key
    · rw [List.filter_cons_of_neg (by simp [hk]), ih, get?_cons, hk]
      by_cases ho : other = key
      · rw [if_pos ho, if_pos ho]
      · rw [if_neg ho, if_neg ho, if_neg (Ne.symm ho)]
    · rw [List.filter_cons_of_pos (by simp [hk]), get?_cons, get?_cons, ih]
      by_cases ho : other = key
      · rw [if_pos ho, if_pos ho, if_neg (fun h => hk (h.trans ho))]
      · rw [if_neg ho, if_neg ho]

theorem get?_of_mem {t : Table α β} (hd : (keys t).Nodup) {entry : α × β} (h : entry ∈ t) :
    get? t entry.1 = some entry.2 := by
  induction t with
  | nil => simp at h
  | cons first t ih =>
    rw [keys_cons, List.nodup_cons] at hd
    rw [get?_cons]
    rcases List.mem_cons.1 h with rfl | h
    · rw [if_pos rfl]
    · have hne : first.1 ≠ entry.1 := fun he => hd.1 (he ▸ List.mem_map_of_mem h)
      rw [if_neg hne, ih hd.2 h]

theorem mem_of_get? {t : Table α β} {key : α} {value : β} (h : get? t key = some value) :
    (key, value) ∈ t := by
  obtain ⟨entry, hfind, rfl⟩ := Option.map_eq_some_iff.1 h
  have hkey : entry.1 = key := of_decide_eq_true (List.find?_some hfind :)
  exact hkey ▸ List.mem_of_find?_eq_some hfind

theorem find?_of_mem {t : Table α β} (hd : (keys t).Nodup) {entry : α × β} (h : entry ∈ t) :
    t.find? (fun other => other.1 = entry.1) = some entry := by
  obtain ⟨found, hfound, hvalue⟩ := Option.map_eq_some_iff.1 (get?_of_mem hd h)
  have hkey : found.1 = entry.1 := of_decide_eq_true (List.find?_some hfound :)
  rw [hfound, Prod.ext hkey hvalue]

/-! ## Tables of lists -/

theorem insert_eq_append {t : Table α β} {key : α} (h : key ∉ keys t) (value : β) :
    t.insert key value = t ++ [(key, value)] := by
  induction t with
  | nil => rfl
  | cons entry t ih =>
    rw [keys_cons, List.mem_cons, not_or] at h
    rw [insert, if_neg (Ne.symm h.1), ih h.2]
    rfl

/-- Of the entries put one after the other, the last one with a key counts. -/
theorem get?_foldl_insert (entries : List (α × β)) (t : Table α β) (key : α) :
    get? (entries.foldl (fun t entry => t.insert entry.1 entry.2) t) key =
      (get? entries.reverse key).or (get? t key) := by
  induction entries generalizing t with
  | nil => rfl
  | cons entry rest ih =>
    rw [List.foldl_cons, ih, get?_insert, List.reverse_cons, get?_append, Option.or_assoc,
      get?_cons]
    by_cases h : entry.1 = key <;> simp [h]

theorem get?_ofList (entries : List (α × β)) (key : α) :
    get? (ofList entries) key = get? entries.reverse key := by
  unfold ofList
  rw [get?_foldl_insert, get?_nil, Option.or_none]

theorem mem_keys_foldl_insert (entries : List (α × β)) (t : Table α β) (key : α) :
    key ∈ keys (entries.foldl (fun t entry => t.insert entry.1 entry.2) t) ↔
      key ∈ keys t ∨ key ∈ entries.map Prod.fst := by
  induction entries generalizing t with
  | nil => simp
  | cons entry rest ih =>
    rw [List.foldl_cons, ih, mem_keys_insert, List.map_cons, List.mem_cons]
    constructor
    · rintro ((h | h) | h)
      · exact Or.inr (Or.inl h)
      · exact Or.inl h
      · exact Or.inr (Or.inr h)
    · rintro (h | h | h)
      · exact Or.inl (Or.inr h)
      · exact Or.inl (Or.inl h)
      · exact Or.inr h

theorem nodup_keys_ofList (entries : List (α × β)) : (keys (ofList entries)).Nodup := by
  have hfold : ∀ t : Table α β, (keys t).Nodup →
      (keys (entries.foldl (fun t entry => t.insert entry.1 entry.2) t)).Nodup := by
    induction entries with
    | nil => exact fun t ht => ht
    | cons entry rest ih => exact fun t ht => ih _ (nodup_keys_insert ht entry.1 entry.2)
  exact hfold [] List.nodup_nil

theorem mem_of_mem_insert {t : Table α β} {key : α} {value : β} {entry : α × β}
    (h : entry ∈ t.insert key value) : entry = (key, value) ∨ entry ∈ t := by
  induction t with
  | nil => exact .inl (List.mem_singleton.1 h)
  | cons first t ih =>
    rw [insert] at h
    split at h
    · rcases List.mem_cons.1 h with h | h
      · exact .inl h
      · exact .inr (List.mem_cons_of_mem _ h)
    · rcases List.mem_cons.1 h with h | h
      · exact .inr (h ▸ List.mem_cons_self)
      · exact (ih h).imp_right (List.mem_cons_of_mem _)

theorem mem_of_mem_ofList {entries : List (α × β)} {entry : α × β} (h : entry ∈ ofList entries) :
    entry ∈ entries := by
  have hfold : ∀ t : Table α β,
      entry ∈ entries.foldl (fun t entry => t.insert entry.1 entry.2) t →
        entry ∈ t ∨ entry ∈ entries := by
    clear h
    induction entries with
    | nil => exact fun t ht => .inl ht
    | cons first rest ih =>
      intro t ht
      rcases ih _ ht with hmem | hmem
      · rcases mem_of_mem_insert hmem with h | h
        · exact .inr (h ▸ List.mem_cons_self)
        · exact .inl h
      · exact .inr (List.mem_cons_of_mem _ hmem)
  exact (hfold [] h).resolve_left List.not_mem_nil

theorem ofList_eq_self {entries : List (α × β)} (h : (entries.map Prod.fst).Nodup) :
    ofList entries = entries := by
  have hfold : ∀ t : Table α β, (keys t ++ entries.map Prod.fst).Nodup →
      entries.foldl (fun t entry => t.insert entry.1 entry.2) t = t ++ entries := by
    clear h
    induction entries with
    | nil => exact fun t _ => (List.append_nil t).symm
    | cons entry rest ih =>
      intro t ht
      have hnew : entry.1 ∉ keys t := fun hmem =>
        (List.nodup_append.1 ht).2.2 entry.1 hmem entry.1 List.mem_cons_self rfl
      rw [List.foldl_cons, insert_eq_append hnew, ih, List.append_assoc]
      · rfl
      · rw [keys_append, List.append_assoc]
        exact ht
  exact hfold [] h

theorem mem_keys_ofList {entries : List (α × β)} {key : α} :
    key ∈ keys (ofList entries) ↔ key ∈ entries.map Prod.fst := by
  unfold ofList
  rw [mem_keys_foldl_insert, keys_nil]
  simp

end AssetCheck.Table
