import Mathlib.Data.List.Nodup

/-!
# Insertion-ordered maps

A map keeps its entries in the order in which their keys were first inserted; writing a key that
is present replaces the value in place.

## Main definitions

* `LinkedMap`, `LinkedMap.get?`, `LinkedMap.put`.
* `LinkedMap.All` : a property of all entries.
* `LinkedMap.add`, `LinkedMap.Groups` : maps of groups, built by adding to the groups.

## Main results

* `LinkedMap.get?_put`, `LinkedMap.All.put` : what a map holds after a write.
* `LinkedMap.ext_of_get?` : the keys and the lookups determine a map.
* `LinkedMap.groups_addAll` : adding entry by entry groups them by their keys.
-/

/-- The entries of a map, oldest key first. -/
abbrev LinkedMap (κ α : Type*) := List (κ × α)

namespace LinkedMap

variable {κ α : Type*} [DecidableEq κ]

/-- The value under a key. -/
def get? : LinkedMap κ α → κ → Option α
  | [], _ => none
  | (k, v) :: m, key => if k = key then some v else get? m key

/-- The value of the key is replaced, or the entry appended if the key is new. -/
def put : LinkedMap κ α → κ → α → LinkedMap κ α
  | [], key, value => [(key, value)]
  | (k, v) :: m, key, value => if k = key then (k, value) :: m else (k, v) :: put m key value

theorem get?_put (m : LinkedMap κ α) (key : κ) (value : α) (key' : κ) :
    (m.put key value).get? key' = if key = key' then some value else m.get? key' := by
  induction m with
  | nil => rfl
  | cons entry m ih =>
    obtain ⟨k, v⟩ := entry
    by_cases hk : k = key
    · subst hk
      by_cases hk' : k = key' <;> simp [put, get?, hk']
    · by_cases hk' : k = key'
      · subst hk'
        simp [put, get?, hk, Ne.symm hk]
      · simp [put, get?, hk, hk', ih]

/-- Every value that the map holds satisfies `P` together with its key. -/
def All (P : κ → α → Prop) (m : LinkedMap κ α) : Prop := ∀ k v, m.get? k = some v → P k v

theorem all_nil (P : κ → α → Prop) : All P ([] : LinkedMap κ α) := fun _ _ h => nomatch h

theorem All.put {P : κ → α → Prop} {m : LinkedMap κ α} (h : All P m) {key : κ} {value : α}
    (hvalue : P key value) : All P (m.put key value) := by
  intro k v hv
  rw [get?_put] at hv
  split at hv
  · obtain rfl := Option.some.inj hv
    exact ‹key = k› ▸ hvalue
  · exact h k v hv

/-! ### Keys -/

/-- The keys, oldest first. -/
def keys (m : LinkedMap κ α) : List κ := m.map Prod.fst

/-- The key is added at the end, unless it is there. -/
def addKey (ks : List κ) (key : κ) : List κ := if key ∈ ks then ks else ks ++ [key]

theorem keys_put (m : LinkedMap κ α) (key : κ) (value : α) :
    (m.put key value).keys = addKey m.keys key := by
  induction m with
  | nil => rfl
  | cons entry m ih =>
    obtain ⟨k, v⟩ := entry
    simp only [keys, addKey] at ih ⊢
    by_cases hk : k = key
    · simp [put, hk]
    · by_cases hmem : key ∈ m.map Prod.fst <;> simp_all [put, Ne.symm hk]

theorem nodup_addKey {ks : List κ} (h : ks.Nodup) (key : κ) : (addKey ks key).Nodup := by
  unfold addKey
  split
  · exact h
  · rw [List.nodup_append]
    exact ⟨h, List.nodup_singleton key, fun a ha b hb hab =>
      ‹key ∉ ks› (List.mem_singleton.mp hb ▸ hab ▸ ha)⟩

theorem mem_addKey {ks : List κ} {key k : κ} : k ∈ addKey ks key ↔ k ∈ ks ∨ k = key := by
  unfold addKey
  split
  · exact ⟨.inl, fun h => h.elim id fun hk => hk ▸ ‹key ∈ ks›⟩
  · rw [List.mem_append, List.mem_singleton]

/-- Adding keys that are not repeated does not repeat them. -/
theorem nodup_foldl_addKey {ks : List κ} (h : ks.Nodup) (added : List κ) :
    (added.foldl addKey ks).Nodup := by
  induction added generalizing ks with
  | nil => exact h
  | cons key added ih => exact ih (nodup_addKey h key)

theorem mem_foldl_addKey {ks added : List κ} {k : κ} :
    k ∈ added.foldl addKey ks ↔ k ∈ ks ∨ k ∈ added := by
  induction added generalizing ks with
  | nil => simp
  | cons key added ih => rw [List.foldl_cons, ih, mem_addKey, List.mem_cons, or_assoc]

theorem get?_of_notMem {m : LinkedMap κ α} {key : κ} (h : key ∉ m.keys) : m.get? key = none := by
  induction m with
  | nil => rfl
  | cons entry m ih =>
    obtain ⟨k, v⟩ := entry
    simp only [keys, List.map_cons, List.mem_cons, not_or] at h
    rw [get?, if_neg (Ne.symm h.1)]
    exact ih h.2

/-- Two maps with the same keys in the same order that hold the same are equal. -/
theorem ext_of_get? {m m' : LinkedMap κ α} (hnodup : m.keys.Nodup) (hkeys : m.keys = m'.keys)
    (h : ∀ k, m.get? k = m'.get? k) : m = m' := by
  induction m generalizing m' with
  | nil =>
    cases m' with
    | nil => rfl
    | cons => cases hkeys
  | cons entry m ih =>
    cases m' with
    | nil => cases hkeys
    | cons entry' m' =>
      obtain ⟨k, v⟩ := entry
      obtain ⟨k', v'⟩ := entry'
      obtain ⟨rfl, htail⟩ : k = k' ∧ keys m = keys m' := List.cons.inj hkeys
      obtain ⟨hfresh, hrest⟩ := List.nodup_cons.mp hnodup
      obtain rfl : v = v' := by simpa [get?] using h k
      rw [ih hrest htail fun key => ?_]
      by_cases hkey : k = key
      · subst hkey
        rw [get?_of_notMem hfresh, get?_of_notMem (htail ▸ hfresh)]
      · simpa [get?, hkey] using h key

theorem put_put (m : LinkedMap κ α) (key : κ) (value value' : α) :
    (m.put key value).put key value' = m.put key value' := by
  induction m with
  | nil => simp [put]
  | cons entry m ih =>
    obtain ⟨k, v⟩ := entry
    by_cases hk : k = key <;> simp [put, hk, ih]

/-! ### Groups -/

/-- The value is added at the end of the group under the key. -/
def add (m : LinkedMap κ (List α)) (key : κ) (value : α) : LinkedMap κ (List α) :=
  m.put key ((m.get? key).getD [] ++ [value])

/-- The entries are added one by one. -/
def addAll (m : LinkedMap κ (List α)) (entries : List (κ × α)) : LinkedMap κ (List α) :=
  entries.foldl (fun m entry => m.add entry.1 entry.2) m

/-- The values under a key, in the order of the entries. -/
def valuesAt (entries : List (κ × α)) (key : κ) : List α :=
  (entries.filter fun entry => entry.1 = key).map Prod.snd

/-- The values of all groups, each with its key. -/
def ungroup (m : LinkedMap κ (List α)) : List (κ × α) :=
  m.flatMap fun group => group.2.map fun value => (group.1, value)

/-- The map holds the entries grouped by their keys: the keys are those of the entries, each group
lists the values under its key in their order, and together the groups list every entry once. -/
structure Groups (entries : List (κ × α)) (m : LinkedMap κ (List α)) : Prop where
  nodup : m.keys.Nodup
  mem_keys : ∀ k, k ∈ m.keys ↔ ∃ value, (k, value) ∈ entries
  values : ∀ k group, m.get? k = some group → group = valuesAt entries k
  perm : (ungroup m).Perm entries

theorem valuesAt_cons (k : κ) (value : α) (entries : List (κ × α)) (key : κ) :
    valuesAt ((k, value) :: entries) key =
      if k = key then value :: valuesAt entries key else valuesAt entries key := by
  by_cases hk : k = key <;> simp [valuesAt, hk]

theorem mem_valuesAt {entries : List (κ × α)} {key : κ} {value : α} :
    value ∈ valuesAt entries key ↔ (key, value) ∈ entries := by
  simp [valuesAt]

/-- Mapping the values keeps their keys. -/
theorem valuesAt_map {β : Type*} (f : α → β) (entries : List (κ × α)) (key : κ) :
    valuesAt (entries.map fun entry => (entry.1, f entry.2)) key =
      (valuesAt entries key).map f := by
  simp only [valuesAt, List.filter_map, List.map_map]
  rfl

theorem get?_addAll (m : LinkedMap κ (List α)) (entries : List (κ × α)) (key : κ) :
    (m.addAll entries).get? key =
      if valuesAt entries key = [] then m.get? key
      else some ((m.get? key).getD [] ++ valuesAt entries key) := by
  induction entries generalizing m with
  | nil => simp [addAll, valuesAt]
  | cons entry entries ih =>
    obtain ⟨k, value⟩ := entry
    have hstep : m.addAll ((k, value) :: entries) = (m.add k value).addAll entries := rfl
    rw [hstep, ih, add, get?_put, valuesAt_cons]
    by_cases hk : k = key
    · subst hk
      by_cases htail : valuesAt entries k = [] <;> simp [htail]
    · simp only [if_neg hk]

theorem keys_addAll (m : LinkedMap κ (List α)) (entries : List (κ × α)) :
    (m.addAll entries).keys = (entries.map Prod.fst).foldl addKey m.keys := by
  induction entries generalizing m with
  | nil => rfl
  | cons entry entries ih =>
    exact (ih _).trans (by simp only [add, keys_put, List.map_cons, List.foldl_cons])

/-- An added value is one more entry. -/
theorem ungroup_add_perm (m : LinkedMap κ (List α)) (key : κ) (value : α) :
    (ungroup (m.add key value)).Perm (ungroup m ++ [(key, value)]) := by
  induction m with
  | nil => exact List.Perm.refl _
  | cons group m ih =>
    obtain ⟨k, values⟩ := group
    by_cases hk : k = key
    · subst hk
      simp only [add, put, get?, if_true, Option.getD_some, ungroup, List.flatMap_cons,
        List.map_append, List.append_assoc]
      exact (List.perm_append_left_iff _).mpr List.perm_append_comm
    · have hput : add ((k, values) :: m) key value = (k, values) :: add m key value := by
        simp [add, put, get?, hk]
      rw [hput]
      simp only [ungroup, List.flatMap_cons, List.append_assoc]
      exact (List.perm_append_left_iff _).mpr ih

theorem ungroup_addAll_perm (m : LinkedMap κ (List α)) (entries : List (κ × α)) :
    (ungroup (m.addAll entries)).Perm (ungroup m ++ entries) := by
  induction entries generalizing m with
  | nil => simp [addAll]
  | cons entry entries ih =>
    refine (ih (m.add entry.1 entry.2)).trans ?_
    have hhead := (ungroup_add_perm m entry.1 entry.2).append_right entries
    simpa using hhead

/-- Adding entry by entry to no groups groups the entries by their keys. -/
theorem groups_addAll (entries : List (κ × α)) : Groups entries (addAll [] entries) where
  nodup := by
    rw [keys_addAll]
    exact nodup_foldl_addKey List.nodup_nil _
  mem_keys k := by
    rw [keys_addAll, mem_foldl_addKey, List.mem_map]
    simp [keys]
  values k group h := by
    rw [get?_addAll] at h
    split at h
    · cases h
    · exact (Option.some.inj h).symm
  perm := ungroup_addAll_perm [] entries

end LinkedMap
