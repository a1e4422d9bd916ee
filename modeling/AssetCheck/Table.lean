/-!
Tables in insertion order. A key keeps the place where it was first put, and its last value.
-/

namespace AssetCheck

/-- Keys with values, in the order in which the keys were first put. -/
abbrev Table (α β : Type) := List (α × β)

namespace Table

variable {α β : Type} [DecidableEq α]

def get? (t : Table α β) (key : α) : Option β := (t.find? fun entry => entry.1 = key).map Prod.snd

/-- Puts a value under a key: in the key's place, or at the end for a new key. -/
def insert : Table α β → α → β → Table α β
  | [], key, value => [(key, value)]
  | (k, v) :: rest, key, value =>
    if k = key then (key, value) :: rest else (k, v) :: insert rest key value

def erase (t : Table α β) (key : α) : Table α β := t.filter fun entry => entry.1 ≠ key

def keys (t : Table α β) : List α := t.map Prod.fst

/-- The table with the entries of a list put one after the other. -/
def ofList (entries : List (α × β)) : Table α β :=
  entries.foldl (fun t entry => t.insert entry.1 entry.2) []

@[simp] theorem get?_nil (key : α) : get? ([] : Table α β) key = none := rfl

theorem get?_cons (entry : α × β) (t : Table α β) (key : α) :
    get? (entry :: t) key = if entry.1 = key then some entry.2 else get? t key := by
  by_cases h : entry.1 = key <;> simp [get?, h]

theorem get?_insert (t : Table α β) (key : α) (value : β) (other : α) :
    (t.insert key value).get? other = if key = other then some value else t.get? other := by
  induction t with
  | nil => simp [insert, get?_cons]
  | cons entry t ih =>
    obtain ⟨k, v⟩ := entry
    by_cases h : k = key
    · subst h
      by_cases ho : k = other <;> simp [insert, get?_cons, ho]
    · simp only [insert, h, if_false, get?_cons, ih]
      by_cases ho : k = other
      · subst ho
        simp [Ne.symm h]
      · simp [ho]

theorem mem_keys_insert (t : Table α β) (key : α) (value : β) (other : α) :
    other ∈ (t.insert key value).keys ↔ other = key ∨ other ∈ t.keys := by
  induction t with
  | nil => simp [insert, keys]
  | cons entry t ih =>
    obtain ⟨k, v⟩ := entry
    by_cases h : k = key
    · subst h
      simp [insert, keys]
    · simp only [insert, h, if_false, keys, List.map_cons, List.mem_cons] at ih ⊢
      rw [ih]
      constructor
      · rintro (h | h | h) <;> simp [h]
      · rintro (h | h | h) <;> simp [h]

theorem nodup_keys_insert {t : Table α β} (h : t.keys.Nodup) (key : α) (value : β) :
    (t.insert key value).keys.Nodup := by
  induction t with
  | nil => simp [insert, keys]
  | cons entry t ih =>
    obtain ⟨k, v⟩ := entry
    simp only [keys, List.map_cons, List.nodup_cons] at h
    by_cases hk : k = key
    · subst hk
      simp only [insert, if_true, keys, List.map_cons, List.nodup_cons]
      exact h
    · simp only [insert, hk, if_false, keys, List.map_cons, List.nodup_cons]
      refine ⟨fun hmem => ?_, ih h.2⟩
      rcases (mem_keys_insert t key value k).1 hmem with h' | h'
      · exact hk h'
      · exact h.1 h'

end Table

end AssetCheck
