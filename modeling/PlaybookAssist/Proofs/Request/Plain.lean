import Mathlib.Data.List.Basic
import PlaybookAssist.Proofs.Files.Load
import PlaybookAssist.Proofs.Text.Utf8
import PlaybookAssist.Proofs.Value.Mapping
import PlaybookAssist.Request.Plain

/-!
# JSON as plain data

JSON values are their own plain form. There are two reasons why one of them has none: a key in it
holds unpaired surrogates, or it is nested deeper than plain data may be. Of the values under texts
that are sent the texts themselves may hold unpaired surrogates; these are replaced, and texts that
become the same are one key.

## Main definitions

- `Text.HasUtf8` : the text has a UTF-8 form
- `Value.IsJson` : JSON values, with a condition on the keys of their mappings
- `Value.height` : how deep a value is nested
- `Value.withPlainKeys` : values under the texts that are sent for theirs

## Main statements

- `Value.isItsPlainForm_of_isJson` : which JSON values have a plain form, and what it is
- `Value.withPlainKeys_eq_self_iff` : which texts are sent as they are
- `Value.plainMapping_eq_ok_iff` : when values under texts are sent, and what is sent
-/

namespace PlaybookAssist

/-- The text holds no unpaired surrogates. -/
def Text.HasUtf8 (t : Text) : Prop :=
  Surrogate.runs t = []

theorem Text.hasUtf8_iff {t : Text} : t.HasUtf8 ↔ ∀ c ∈ t, Surrogate.code? c = none :=
  Utf8.runs_eq_nil_iff

namespace Surrogate

theorem hasUtf8_replaced (t : Text) : (replaced t).HasUtf8 := by
  rw [Text.hasUtf8_iff]
  intro c hc
  obtain ⟨d, -, hd⟩ := List.mem_flatMap.mp hc
  split at hd
  case isTrue =>
    obtain rfl := List.eq_of_mem_replicate hd
    rfl
  case isFalse hnone =>
    obtain rfl := List.mem_singleton.mp hd
    simpa using hnone

/-- A text is kept exactly if it has a UTF-8 form. -/
theorem replaced_eq_self_iff {t : Text} : replaced t = t ↔ t.HasUtf8 := by
  constructor
  · intro h
    rw [← h]
    exact hasUtf8_replaced t
  · intro h
    rw [Text.hasUtf8_iff] at h
    rw [replaced]
    induction t with
    | nil => rfl
    | cons c t ih =>
      rw [List.forall_mem_cons] at h
      rw [List.flatMap_cons, ih h.2, h.1]
      rfl

end Surrogate

namespace Mapping

theorem ofTexts_injective : Function.Injective ofTexts :=
  List.map_injective_iff.mpr fun p q h => by
    obtain ⟨s, v⟩ := p
    obtain ⟨t, w⟩ := q
    cases h
    rfl

theorem set_ofTexts (key : Text) (value : Value) (t : Table Value) :
    Mapping.set (.str key) value (ofTexts t) = ofTexts (t.set key value) := by
  induction t with
  | nil => rfl
  | cons p rest ih =>
    obtain ⟨k, v⟩ := p
    rw [ofTexts, List.map_cons, Mapping.set, Value.sameKey_str, ← ofTexts, ih, Table.set]
    by_cases hk : k = key <;> simp [ofTexts, hk]

end Mapping

namespace Value

/-! ## JSON -/

/-- A JSON value: the keys of a mapping are different texts, all of which meet the condition. -/
inductive IsJson (isKey : Text → Prop) : Value → Prop where
  | null : IsJson isKey .null
  | bool (b : Bool) : IsJson isKey (.bool b)
  | int (i : Int) : IsJson isKey (.int i)
  | float {x : Float} (hfinite : isBeyondNumbers x = false) : IsJson isKey (.float x)
  | str (t : Text) : IsJson isKey (.str t)
  | list {xs : List Value} (helements : ∀ x ∈ xs, IsJson isKey x) : IsJson isKey (.list xs)
  | map {fields : Table Value} (hdistinct : fields.keys.Nodup) (hkeys : ∀ p ∈ fields, isKey p.1)
    (hvalues : ∀ p ∈ fields, IsJson isKey p.2) : IsJson isKey (.map (Mapping.ofTexts fields))

mutual

/-- How many lists and mappings that hold something lie inside one another. -/
def height : Value → Nat
  | .list xs | .tuple xs | .set xs => heightAll xs
  | .map ps => heightPairs ps
  | .knot _ v => height v
  | _ => 0

/-- The height of a collection of the values. -/
def heightAll : List Value → Nat
  | [] => 0
  | x :: xs => max (height x + 1) (heightAll xs)

/-- The height of a mapping of the pairs. -/
def heightPairs : List (Value × Value) → Nat
  | [] => 0
  | (_, v) :: ps => max (height v + 1) (heightPairs ps)

end

variable {isKey : Text → Prop} {v w : Value} {xs ys : List Value} {fields entered : Table Value}
  {m : Mapping} {room n : Nat} {around : List Nat} {s t : Text}

theorem isJson_list_iff : IsJson isKey (.list xs) ↔ ∀ x ∈ xs, IsJson isKey x := by
  constructor
  · rintro ⟨⟩
    assumption
  · exact .list

theorem isJson_map_iff : IsJson isKey (.map (Mapping.ofTexts fields)) ↔
    fields.keys.Nodup ∧ ∀ p ∈ fields, isKey p.1 ∧ IsJson isKey p.2 := by
  constructor
  · intro h
    generalize hv : Value.map (Mapping.ofTexts fields) = v at h
    cases h with
    | map hdistinct hkeys hvalues =>
      obtain rfl := Mapping.ofTexts_injective (Value.map.inj hv)
      exact ⟨hdistinct, fun p hp => ⟨hkeys p hp, hvalues p hp⟩⟩
    | _ => cases hv
  · rintro ⟨hdistinct, hfields⟩
    exact .map hdistinct (fun p hp => (hfields p hp).1) fun p hp => (hfields p hp).2

/-- A weaker condition on the keys is met as well. -/
theorem IsJson.mono {isKey' : Text → Prop} (himp : ∀ key, isKey key → isKey' key)
    (h : IsJson isKey v) : IsJson isKey' v := by
  induction h with
  | null => exact .null
  | bool b => exact .bool b
  | int i => exact .int i
  | float hfinite => exact .float hfinite
  | str t => exact .str t
  | list _ ih => exact .list ih
  | map hdistinct hkeys _ ih => exact .map hdistinct (fun p hp => himp _ (hkeys p hp)) ih

theorem heightAll_le_iff : heightAll xs ≤ n ↔ ∀ x ∈ xs, height x + 1 ≤ n := by
  induction xs with
  | nil => simp [heightAll]
  | cons x xs ih => rw [heightAll, Nat.max_le, ih, List.forall_mem_cons]

theorem heightPairs_le_iff :
    heightPairs (Mapping.ofTexts fields) ≤ n ↔ ∀ p ∈ fields, height p.2 + 1 ≤ n := by
  induction fields with
  | nil => simp [Mapping.ofTexts, heightPairs]
  | cons p fields ih =>
    rw [Mapping.ofTexts, List.map_cons, heightPairs, Nat.max_le, ← Mapping.ofTexts, ih,
      List.forall_mem_cons]

/-! ## Plain forms -/

theorem encodable_eq_ok_iff : encodable s = .ok t ↔ s.HasUtf8 ∧ t = s := by
  rw [encodable.eq_def, Text.HasUtf8]
  split
  case h_1 hruns => exact ok_eq_ok_iff hruns
  case h_2 run rest hruns => exact error_eq_ok_iff fun h => by simp [hruns] at h

/-- The plain form of a value, where there is one, is the value itself, and there is one if all keys
    in the value have a UTF-8 form and there is room for it. -/
def IsItsPlainForm (around : List Nat) (v : Value) : Prop :=
  ∀ room w, plainIn room around v = .ok w ↔ (IsJson Text.HasUtf8 v ∧ height v ≤ room) ∧ w = v

theorem plainAll_eq_ok_iff (h : ∀ x ∈ xs, IsItsPlainForm around x) :
    plainAll room around xs = .ok ys ↔
      (∀ x ∈ xs, IsJson Text.HasUtf8 x ∧ height x + 1 ≤ room) ∧ ys = xs := by
  -- Induction over the list; every element needs one level of depth.
  induction xs generalizing ys with
  | nil => exact ok_eq_ok_iff fun _ hx => absurd hx List.not_mem_nil
  | cons x xs ih =>
    rw [List.forall_mem_cons] at h
    rw [plainAll.eq_def, List.forall_mem_cons]
    cases room with
    | zero => exact error_eq_ok_iff fun hall => by omega
    | succ below =>
      -- The first element and the rest are put into plain form one after the other.
      constructor
      · intro hplain
        obtain ⟨y, hy, hothers⟩ := bind_eq_ok.mp hplain
        obtain ⟨rest, hrest, hlist⟩ := bind_eq_ok.mp hothers
        obtain ⟨⟨hjson, hheight⟩, rfl⟩ := (h.1 _ _).mp hy
        obtain ⟨hall, rfl⟩ := (ih h.2).mp hrest
        exact ⟨⟨⟨hjson, Nat.succ_le_succ hheight⟩, hall⟩, (Except.ok.inj hlist).symm⟩
      · rintro ⟨⟨⟨hjson, hheight⟩, hall⟩, rfl⟩
        have hx := (h.1 below x).mpr ⟨⟨hjson, Nat.le_of_succ_le_succ hheight⟩, rfl⟩
        exact bind_eq_ok.mpr ⟨x, hx, bind_eq_ok.mpr ⟨xs, (ih h.2).mpr ⟨hall, rfl⟩, rfl⟩⟩

theorem plainPairs_eq_ok_iff (h : ∀ p ∈ fields, IsItsPlainForm around p.2) :
    plainPairs room around (Mapping.ofTexts entered) (Mapping.ofTexts fields) = .ok m ↔
      (∀ p ∈ fields, p.1.HasUtf8 ∧ IsJson Text.HasUtf8 p.2 ∧ height p.2 + 1 ≤ room) ∧
        m = Mapping.ofTexts (Table.setAll entered fields) := by
  -- Induction over the pairs, with the keys that have been entered so far.
  induction fields generalizing entered with
  | nil => exact ok_eq_ok_iff fun _ hp => absurd hp List.not_mem_nil
  | cons p fields ih =>
    obtain ⟨key, v⟩ := p
    rw [List.forall_mem_cons] at h
    have hrest := @ih (entered.set key v) h.2
    rw [show Mapping.ofTexts ((key, v) :: fields) = (.str key, v) :: Mapping.ofTexts fields from rfl,
      plainPairs.eq_def, List.forall_mem_cons]
    dsimp only
    constructor
    · intro hplain
      obtain ⟨k, hk, hpair⟩ := bind_eq_ok.mp hplain
      -- Here a key that is no text is an error, for only the top level replaces it.
      rw [plainKey, encodable_eq_ok_iff] at hk
      obtain ⟨hutf8, rfl⟩ := hk
      cases room with
      | zero => cases hpair
      | succ below =>
        obtain ⟨w, hw, hothers⟩ := bind_eq_ok.mp hpair
        obtain ⟨⟨hjson, hheight⟩, rfl⟩ := (h.1 _ _).mp hw
        rw [Mapping.set_ofTexts] at hothers
        obtain ⟨hall, rfl⟩ := hrest.mp hothers
        exact ⟨⟨⟨hutf8, hjson, Nat.succ_le_succ hheight⟩, hall⟩, rfl⟩
    -- Back again, where key and value are known to be fit.
    · rintro ⟨⟨⟨hutf8, hjson, hheight⟩, hall⟩, rfl⟩
      have hk : plainKey (.str key) = .ok key := by
        rw [plainKey, encodable_eq_ok_iff]
        exact ⟨hutf8, rfl⟩
      cases room with
      | zero => omega
      | succ below =>
        have hv := (h.1 below v).mpr ⟨⟨hjson, Nat.le_of_succ_le_succ hheight⟩, rfl⟩
        rw [← Mapping.set_ofTexts] at hrest
        exact bind_eq_ok.mpr ⟨key, hk, bind_eq_ok.mpr ⟨v, hv, hrest.mpr ⟨hall, rfl⟩⟩⟩

theorem isItsPlainForm_of_isJson (h : IsJson isKey v) (around : List Nat) :
    IsItsPlainForm around v := by
  -- Scalars are their own plain form, and collections are so part by part.
  induction h with
  | null => exact fun _ _ => ok_eq_ok_iff ⟨.null, Nat.zero_le _⟩
  | bool b => exact fun _ _ => ok_eq_ok_iff ⟨.bool b, Nat.zero_le _⟩
  | int i => exact fun _ _ => ok_eq_ok_iff ⟨.int i, Nat.zero_le _⟩
  | str t => exact fun _ _ => ok_eq_ok_iff ⟨.str t, Nat.zero_le _⟩
  | float hfinite =>
    -- A finite number stands for itself; any other has no plain form.
    intro room w
    rw [plainIn, hfinite]
    exact ok_eq_ok_iff ⟨.float hfinite, Nat.zero_le _⟩
  | @list xs _ ih =>
    intro room w
    rw [plainIn, map_eq_ok, isJson_list_iff, height, heightAll_le_iff, ← forall₂_and]
    constructor
    · rintro ⟨ys, hys, rfl⟩
      obtain ⟨hall, rfl⟩ := (plainAll_eq_ok_iff ih).mp hys
      exact ⟨hall, rfl⟩
    · rintro ⟨hall, rfl⟩
      exact ⟨xs, (plainAll_eq_ok_iff ih).mpr ⟨hall, rfl⟩, rfl⟩
  | @map fields hdistinct _ _ ih =>
    intro room w
    rw [plainIn, map_eq_ok, isJson_map_iff, height, heightPairs_le_iff, and_assoc,
      and_iff_right hdistinct, ← and_assoc, ← forall₂_and]
    have hpairs (m : Mapping) :
        plainPairs room around (Mapping.ofTexts []) (Mapping.ofTexts fields) = .ok m ↔ _ :=
      plainPairs_eq_ok_iff ih
    -- The keys are different, so they are entered one behind the other.
    rw [Table.setAll_of_nodup (t := []) hdistinct, List.nil_append] at hpairs
    simp only [and_assoc]
    constructor
    · rintro ⟨m, hm, rfl⟩
      obtain ⟨hall, rfl⟩ := (hpairs m).mp hm
      exact ⟨hall, rfl⟩
    · rintro ⟨hall, rfl⟩
      exact ⟨_, (hpairs _).mpr ⟨hall, rfl⟩, rfl⟩

/-! ## Values under texts -/

/-- The values under the texts that are sent for theirs. Of texts for which the same one is sent the
    first one gives the place and the last one the value. -/
def withPlainKeys (fields : Table Value) : Table Value :=
  Table.setAll [] (fields.map fun p => (Surrogate.replaced p.1, p.2))

theorem nodup_keys_withPlainKeys (fields : Table Value) : (withPlainKeys fields).keys.Nodup :=
  Table.nodup_keys_setAll (t := []) List.nodup_nil _

/-- All texts are sent as they are exactly if they have UTF-8 forms. -/
theorem withPlainKeys_eq_self_iff (hdistinct : fields.keys.Nodup) :
    withPlainKeys fields = fields ↔ ∀ key ∈ fields.keys, key.HasUtf8 := by
  constructor
  · intro h key hkey
    -- Whatever is sent for a text has a UTF-8 form.
    rw [← h, withPlainKeys, Table.mem_keys_setAll] at hkey
    obtain ⟨p, hp, rfl⟩ := List.mem_map.mp (hkey.resolve_left List.not_mem_nil)
    obtain ⟨q, -, rfl⟩ := List.mem_map.mp hp
    exact Surrogate.hasUtf8_replaced q.1
  · intro h
    have hkept : ∀ p ∈ fields, (Surrogate.replaced p.1, p.2) = p := by
      intro p hp
      rw [Surrogate.replaced_eq_self_iff.mpr (h p.1 (List.mem_map_of_mem hp))]
    rw [withPlainKeys, List.map_congr_left hkept, List.map_id']
    exact Table.setAll_of_nodup (t := []) hdistinct

/-- JSON values under texts are sent under the texts that these become, unless a key further down
    cannot be written or they are nested too deep. -/
theorem plainMapping_eq_ok_iff (h : ∀ p ∈ fields, IsJson isKey p.2) :
    plainMapping fields = .ok m ↔
      ((∀ p ∈ fields, IsJson Text.HasUtf8 p.2) ∧
        height (.map (Mapping.ofTexts fields)) ≤ depthLimit) ∧
      m = Mapping.ofTexts (withPlainKeys fields) := by
  rw [height, heightPairs_le_iff, ← forall₂_and]
  -- the keys are replaced before the values are looked at, which says nothing of the values
  have hvalues : ∀ p ∈ fields.map fun p => (Surrogate.replaced p.1, p.2), IsItsPlainForm [] p.2 :=
    List.forall_mem_map.mpr fun p hp => isItsPlainForm_of_isJson (h p hp) []
  have hpairs : plainPairs depthLimit [] (Mapping.ofTexts []) (Mapping.ofTexts _) = .ok m ↔ _ :=
    plainPairs_eq_ok_iff hvalues
  rw [List.forall_mem_map] at hpairs
  refine hpairs.trans (and_congr_left' (forall₂_congr fun p _ => ?_))
  -- a replaced key has its octets always
  exact and_iff_right (Surrogate.hasUtf8_replaced p.1)

end Value

end PlaybookAssist
