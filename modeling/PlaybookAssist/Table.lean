import PlaybookAssist.Text

/-!
# Tables

A table stores values under texts and lists them in the order in which their keys came in.

## Main definitions

- `Table.find?`, `Table.set`, `Table.setAll`, `Table.erase` : look-up, entries and removal
- `Table.update`, `Table.updateAll` : what a function gives entered under keys, or taken out
- `Table.find?_set_self`, `Table.find?_set_of_ne` : what a look-up finds after an entry
- `Table.setAll_of_nodup` : what entries under new keys come to
- `Table.find?_erase_self`, `Table.find?_erase_of_ne` : what a look-up finds after a removal
-/

namespace PlaybookAssist

/-- Values under texts, in the order in which the texts came in. -/
abbrev Table (α : Type) := List (Text × α)

namespace Table

variable {α : Type}

/-- The value under a key. -/
def find? (key : Text) : Table α → Option α
  | [] => none
  | (k, v) :: rest => if k = key then some v else find? key rest

/-- Is there a value under the key? -/
def hasKey (key : Text) (t : Table α) : Bool :=
  (t.find? key).isSome

/-- The table with the value under the key, in its old place if the key is there. -/
def set (key : Text) (value : α) : Table α → Table α
  | [] => [(key, value)]
  | (k, v) :: rest => if k = key then (k, value) :: rest else (k, v) :: set key value rest

/-- The table with further values under their keys, entered in order. -/
def setAll (t : Table α) (entries : List (Text × α)) : Table α :=
  entries.foldl (fun t p => t.set p.1 p.2) t

/-- The table without the key. -/
def erase (key : Text) : Table α → Table α
  | [] => []
  | (k, v) :: rest => if k = key then rest else (k, v) :: erase key rest

/-- The keys in order. -/
def keys (t : Table α) : List Text :=
  t.map (·.1)

@[simp] theorem find?_set_self (key : Text) (value : α) (t : Table α) :
    (t.set key value).find? key = some value := by
  induction t with
  | nil => simp [set, find?]
  | cons p rest ih =>
    obtain ⟨k, v⟩ := p
    by_cases h : k = key <;> simp [set, find?, h, ih]

theorem find?_set_of_ne {key other : Text} (h : other ≠ key) (value : α) (t : Table α) :
    (t.set key value).find? other = t.find? other := by
  induction t with
  | nil => simp [set, find?, Ne.symm h]
  | cons p rest ih =>
    obtain ⟨k, v⟩ := p
    by_cases hk : k = key
    · simp [set, find?, hk, Ne.symm h]
    · simp [set, find?, hk, ih]

variable {key other : Text} {value : α} {t : Table α}

theorem eq_or_mem_of_mem_set {p : Text × α} (h : p ∈ t.set key value) :
    p = (key, value) ∨ p ∈ t := by
  induction t with
  | nil => exact .inl (List.mem_singleton.mp h)
  | cons q rest ih =>
    obtain ⟨k, v⟩ := q
    by_cases hk : k = key
    · rw [set, if_pos hk, List.mem_cons] at h
      rcases h with rfl | h
      · exact .inl (by rw [hk])
      · exact .inr (List.mem_cons_of_mem _ h)
    -- the pair is of another key and stays in front
    · rw [set, if_neg hk, List.mem_cons] at h
      rcases h with rfl | h
      · exact .inr List.mem_cons_self
      · exact (ih h).imp id (List.mem_cons_of_mem _)

theorem mem_keys_set : other ∈ (t.set key value).keys ↔ other = key ∨ other ∈ t.keys := by
  induction t with
  | nil => simp [set, keys]
  | cons p rest ih =>
    obtain ⟨k, v⟩ := p
    by_cases hk : k = key
    · simp [set, keys, hk]
    · simp only [keys, set, hk, if_false, List.map_cons, List.mem_cons] at ih ⊢
      rw [ih]
      exact or_left_comm

theorem nodup_keys_set (h : t.keys.Nodup) : (t.set key value).keys.Nodup := by
  induction t with
  | nil => simp [set, keys]
  | cons p rest ih =>
    obtain ⟨k, v⟩ := p
    obtain ⟨hfirst, hrest⟩ := List.nodup_cons.mp h
    by_cases hk : k = key
    · rw [set, if_pos hk]
      exact h
    · rw [set, if_neg hk]
      refine List.nodup_cons.mpr ⟨fun hmem => ?_, ih hrest⟩
      -- the keys after setting are the key itself and those before
      rcases mem_keys_set.mp hmem with heq | hmem
      · exact hk heq
      · exact hfirst hmem

/-- A new key is entered at the end. -/
theorem set_of_not_mem (h : key ∉ t.keys) (value : α) : t.set key value = t ++ [(key, value)] := by
  induction t with
  | nil => rfl
  | cons p rest ih =>
    obtain ⟨k, v⟩ := p
    rw [keys, List.map_cons, List.mem_cons, not_or] at h
    rw [set, if_neg (Ne.symm h.1), ih h.2, List.cons_append]

/-- A value that is there already is not entered anew. -/
theorem set_of_find? (h : t.find? key = some value) : t.set key value = t := by
  induction t with
  | nil => cases h
  | cons p rest ih =>
    obtain ⟨k, v⟩ := p
    by_cases hk : k = key
    · rw [find?, if_pos hk] at h
      cases h
      rw [set, if_pos hk]
    · rw [find?, if_neg hk] at h
      rw [set, if_neg hk, ih h]

theorem setAll_append (t : Table α) (entries later : List (Text × α)) :
    t.setAll (entries ++ later) = (t.setAll entries).setAll later :=
  List.foldl_append

theorem mem_keys_setAll {entries : List (Text × α)} :
    key ∈ (t.setAll entries).keys ↔ key ∈ t.keys ∨ key ∈ keys entries := by
  induction entries generalizing t with
  | nil => simp [setAll, keys]
  | cons p entries ih =>
    rw [setAll, List.foldl_cons, ← setAll, ih, mem_keys_set,
      show keys (p :: entries) = p.1 :: keys entries from rfl, List.mem_cons, or_left_comm, or_assoc]

theorem nodup_keys_setAll (h : t.keys.Nodup) (entries : List (Text × α)) :
    (t.setAll entries).keys.Nodup := by
  induction entries generalizing t with
  | nil => exact h
  | cons p entries ih => exact ih (nodup_keys_set h)

/-- Entries under new keys, no two of which are the same, are entered at the end. -/
theorem setAll_of_nodup {entries : List (Text × α)} (h : (keys (t ++ entries)).Nodup) :
    t.setAll entries = t ++ entries := by
  induction entries generalizing t with
  | nil => exact (List.append_nil t).symm
  | cons p entries ih =>
    have hkeys : (t.keys ++ p.1 :: keys entries).Nodup := by simpa [keys] using h
    have hnew : p.1 ∉ t.keys := fun hmem =>
      (List.nodup_append.mp hkeys).2.2 p.1 hmem p.1 List.mem_cons_self rfl
    rw [List.append_cons] at h ⊢
    rw [setAll, List.foldl_cons, set_of_not_mem hnew]
    exact ih h

theorem hasKey_iff : t.hasKey key = true ↔ key ∈ t.keys := by
  induction t with
  | nil => simp [hasKey, find?, keys]
  | cons p rest ih =>
    obtain ⟨k, v⟩ := p
    by_cases hk : k = key
    · simp [hasKey, find?, keys, hk]
    · simp only [hasKey, find?, keys, if_neg hk, List.map_cons, List.mem_cons, Ne.symm hk,
        false_or] at ih ⊢
      exact ih

theorem find?_of_mem (hnodup : t.keys.Nodup) (h : (key, value) ∈ t) : t.find? key = some value := by
  induction t with
  | nil => cases h
  | cons p rest ih =>
    obtain ⟨k, v⟩ := p
    obtain ⟨hfirst, hrest⟩ := List.nodup_cons.mp hnodup
    rcases List.mem_cons.mp h with heq | hmem
    · cases heq
      exact if_pos rfl
    · have hk : k ≠ key := by
        intro heq
        have hkey : key ∈ rest.map (·.1) := List.mem_map_of_mem hmem
        exact hfirst (heq ▸ hkey)
      rw [find?, if_neg hk]
      exact ih hrest hmem

theorem mem_of_find? (h : t.find? key = some value) : (key, value) ∈ t := by
  induction t with
  | nil => cases h
  | cons p rest ih =>
    obtain ⟨k, v⟩ := p
    by_cases hk : k = key
    · rw [find?, if_pos hk] at h
      cases h
      rw [hk]
      exact List.mem_cons_self
    · rw [find?, if_neg hk] at h
      exact List.mem_cons_of_mem _ (ih h)

theorem find?_eq_none (h : key ∉ t.keys) : t.find? key = none := by
  induction t with
  | nil => rfl
  | cons p rest ih =>
    obtain ⟨k, v⟩ := p
    rw [keys, List.map_cons, List.mem_cons, not_or] at h
    rw [find?, if_neg (Ne.symm h.1)]
    exact ih h.2

theorem find?_append (key : Text) (s t : Table α) :
    find? key (s ++ t) = (s.find? key).or (t.find? key) := by
  induction s with
  | nil => rfl
  | cons p rest ih =>
    obtain ⟨k, v⟩ := p
    by_cases hk : k = key
    · simp [find?, hk]
    · simp [find?, hk, ih]

/-- A table of given keys has what they are given. -/
theorem find?_map_of_mem {keys : List Text} (h : key ∈ keys) (f : Text → α) :
    find? key (keys.map fun k => (k, f k)) = some (f key) := by
  induction keys with
  | nil => cases h
  | cons k rest ih =>
    by_cases hk : k = key
    · simp [find?, hk]
    · rw [List.map_cons, find?, if_neg hk]
      exact ih ((List.mem_cons.mp h).resolve_left (Ne.symm hk))

/-- A key that occurs once is gone once it is removed. -/
theorem find?_erase_self (h : t.keys.Nodup) : (t.erase key).find? key = none := by
  induction t with
  | nil => rfl
  | cons p rest ih =>
    obtain ⟨k, v⟩ := p
    obtain ⟨hfirst, hrest⟩ := List.nodup_cons.mp h
    by_cases hk : k = key
    · subst hk
      rw [erase, if_pos rfl]
      exact find?_eq_none hfirst
    · rw [erase, if_neg hk, find?, if_neg hk]
      exact ih hrest

theorem find?_erase_of_ne (h : other ≠ key) : (t.erase key).find? other = t.find? other := by
  induction t with
  | nil => rfl
  | cons p rest ih =>
    obtain ⟨k, v⟩ := p
    by_cases hk : k = key
    · rw [erase, if_pos hk, find?, if_neg (hk ▸ Ne.symm h)]
    · rw [erase, if_neg hk, find?, find?, ih]

theorem sublist_erase (key : Text) (t : Table α) : (t.erase key).Sublist t := by
  induction t with
  | nil => exact List.Sublist.refl _
  | cons p rest ih =>
    obtain ⟨k, v⟩ := p
    rw [erase]
    split
    · exact List.sublist_cons_self _ _
    · exact ih.cons_cons _

theorem nodup_keys_erase (h : t.keys.Nodup) : (t.erase key).keys.Nodup :=
  ((sublist_erase key t).map _).nodup h

theorem mem_keys_of_mem_keys_erase (h : other ∈ (t.erase key).keys) : other ∈ t.keys :=
  ((sublist_erase key t).map _).subset h

/-- A key that is not there is not removed. -/
theorem erase_of_find? (h : t.find? key = none) : t.erase key = t := by
  induction t with
  | nil => rfl
  | cons p rest ih =>
    obtain ⟨k, v⟩ := p
    by_cases hk : k = key
    · rw [find?, if_pos hk] at h
      cases h
    · rw [find?, if_neg hk] at h
      rw [erase, if_neg hk, ih h]

/-! ## Updates -/

/-- The table with the value under the key, or without the key if no value is given. -/
def update (key : Text) : Option α → Table α → Table α
  | some value, t => t.set key value
  | none, t => t.erase key

/-- The table with what the function gives under each of the keys. -/
def updateAll (f : Text → Option α) (keys : List Text) (t : Table α) : Table α :=
  keys.foldl (fun t key => t.update key (f key)) t

variable {value? : Option α} {f : Text → Option α} {keys : List Text}

theorem nodup_keys_update (h : t.keys.Nodup) : (t.update key value?).keys.Nodup := by
  cases value? with
  | some value => exact nodup_keys_set h
  | none => exact nodup_keys_erase h

theorem find?_update (h : t.keys.Nodup) (other : Text) :
    (t.update key value?).find? other = if other = key then value? else t.find? other := by
  by_cases hkey : other = key
  · subst hkey
    rw [if_pos rfl]
    cases value? with
    | some value => exact find?_set_self _ _ _
    | none => exact find?_erase_self h
  · rw [if_neg hkey]
    cases value? with
    | some value => exact find?_set_of_ne hkey _ _
    | none => exact find?_erase_of_ne hkey

/-- What is there already is not changed by an update. -/
theorem update_of_find? (h : t.find? key = value?) : t.update key value? = t := by
  cases value? with
  | some value => exact set_of_find? h
  | none => exact erase_of_find? h

theorem nodup_keys_updateAll (h : t.keys.Nodup) : (t.updateAll f keys).keys.Nodup := by
  induction keys generalizing t with
  | nil => exact h
  | cons key keys ih => exact ih (nodup_keys_update h)

/-- Updates write what the function gives under their keys and leave the others alone. -/
theorem find?_updateAll (h : t.keys.Nodup) (other : Text) :
    (t.updateAll f keys).find? other = if other ∈ keys then f other else t.find? other := by
  induction keys generalizing t with
  | nil => rfl
  | cons key keys ih =>
    rw [updateAll, List.foldl_cons, ← updateAll, ih (nodup_keys_update h), find?_update h]
    by_cases hlater : other ∈ keys <;> by_cases hhere : other = key <;> simp [hlater, hhere]

end Table

end PlaybookAssist
