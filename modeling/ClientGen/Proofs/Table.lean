import ClientGen.Table

/-!
# Looking up tables

A table is looked up at the first entry under a key. These lemmas tie a lookup to the
entries: what a lookup finds is an entry, and in a table whose keys are distinct every
entry is what its key finds, also after entries are dropped, put or changed.
-/
namespace ClientGen.Table

variable {α : Type}

theorem mem_of_get? {t : Table α} {key : String} {value : α} (found : t.get? key = some value) :
    (key, value) ∈ t := by
  obtain ⟨entry, first, rfl⟩ := Option.map_eq_some_iff.mp found
  have sameKey : entry.1 = key := by simpa using List.find?_some first
  have member := List.mem_of_find?_eq_some first
  rw [← sameKey]
  exact member

@[simp] theorem get?_nil (key : String) : Table.get? ([] : Table α) key = none := rfl

@[simp] theorem get?_cons (key k : String) (value : α) (rest : Table α) :
    Table.get? ((k, value) :: rest) key = if k = key then some value else rest.get? key := by
  by_cases same : k = key <;> simp [get?, same]

/-- In a table with distinct keys, each entry is what its key finds. -/
theorem get?_of_mem {t : Table α} {key : String} {value : α} (distinct : t.keys.Nodup)
    (member : (key, value) ∈ t) : t.get? key = some value := by
  induction t with
  | nil => cases member
  | cons e rest ih =>
    simp only [keys, List.map_cons, List.nodup_cons, List.mem_map] at distinct
    rw [get?_cons]
    rcases List.mem_cons.mp member with here | there
    · simp [← here]
    · have other : e.1 ≠ key := fun same => distinct.1 ⟨(key, value), there, same.symm⟩
      rw [if_neg other]
      exact ih distinct.2 there

theorem keys_filter_sublist (t : Table α) (p : String × α → Bool) :
    (Table.keys (t.filter p)).Sublist t.keys :=
  (List.filter_sublist).map _

theorem nodup_keys_filter {t : Table α} (distinct : t.keys.Nodup) (p : String × α → Bool) :
    (Table.keys (t.filter p)).Nodup :=
  distinct.sublist (keys_filter_sublist t p)

@[simp] theorem contains_iff (t : Table α) (key : String) : t.contains key = true ↔ key ∈ t.keys := by
  simp [contains, keys]

theorem get?_eq_none_iff (t : Table α) (key : String) : t.get? key = none ↔ key ∉ t.keys := by
  rw [get?, Option.map_eq_none_iff, List.find?_eq_none]
  constructor
  · intro absent member
    obtain ⟨e, inTable, same⟩ := List.mem_map.mp member
    exact absent e inTable (by simpa using same)
  · intro absent e inTable same
    exact absent (List.mem_map.mpr ⟨e, inTable, by simpa using same⟩)

theorem get?_append (t u : Table α) (key : String) :
    Table.get? (t ++ u) key = (t.get? key).or (u.get? key) := by
  simp only [get?, List.find?_append]
  cases t.find? (·.1 = key) <;> rfl

@[simp] theorem keys_modify (t : Table α) (key : String) (f : α → α) :
    (t.modify key f).keys = t.keys := by
  simp only [modify, keys, List.map_map]
  congr 1
  funext e
  by_cases same : e.1 = key <;> simp [same]

@[simp] theorem get?_modify (t : Table α) (key k : String) (f : α → α) :
    (t.modify key f).get? k = if key = k then (t.get? k).map f else t.get? k := by
  induction t with
  | nil => simp [modify]
  | cons e rest ih =>
    obtain ⟨k', x⟩ := e
    have step : Table.modify ((k', x) :: rest) key f =
        (if k' = key then (k', f x) else (k', x)) :: Table.modify rest key f := by
      simp [modify]
    rw [step]
    by_cases here : k' = key
    · subst here
      by_cases found : k' = k
      · subst found
        simp [get?_cons]
      · simp [get?_cons, found, ih]
    · by_cases found : k' = k
      · subst found
        simp [get?_cons, here, Ne.symm here]
      · simp [get?_cons, here, found, ih]

/-- The entry under `k` after changing the one under `key`, as a map over the entry before. -/
theorem get?_modify_map (t : Table α) (key k : String) (f : α → α) :
    (t.modify key f).get? k = (t.get? k).map fun x => if key = k then f x else x := by
  by_cases same : key = k <;> simp [same]

/-- The entry under `k` after changing the one under `key`, given the entry there before. -/
theorem get?_modify_of_get? {t : Table α} {key : String} {x : α} (found : t.get? key = some x)
    (f : α → α) (k : String) :
    (t.modify key f).get? k = if key = k then some (f x) else t.get? k := by
  rw [get?_modify]
  split
  · next same => rw [← same, found, Option.map_some]
  · rfl

/-- An entry of a changed table is an old one, or an old one under the key, changed. -/
theorem mem_modify {t : Table α} {key : String} {f : α → α} {e : String × α}
    (member : e ∈ t.modify key f) : e ∈ t ∨ ∃ x, (key, x) ∈ t ∧ e = (key, f x) := by
  obtain ⟨old, oldMember, rfl⟩ := List.mem_map.mp member
  by_cases same : old.1 = key
  · exact .inr ⟨old.2, by simpa [← same] using oldMember, by simp [same]⟩
  · exact .inl (by simpa [same] using oldMember)

/-- Changing the entry of a missing key changes nothing. -/
theorem modify_of_not_mem {t : Table α} {key : String} (absent : key ∉ t.keys) (f : α → α) :
    t.modify key f = t := by
  have unchanged : ∀ e ∈ t, (if e.1 = key then (e.1, f e.2) else e) = e := by
    intro e member
    have other : e.1 ≠ key := fun same => absent (List.mem_map.mpr ⟨e, member, same⟩)
    simp [other]
  rw [modify, List.map_congr_left unchanged, List.map_id']

/-- Putting under a present key changes its entry in place. -/
theorem put_of_mem {t : Table α} {key : String} (present : key ∈ t.keys) (value : α) :
    t.put key value = t.modify key fun _ => value := by
  simp only [put, (contains_iff t key).mpr present, if_true, modify]
  congr 1
  funext e
  by_cases same : e.1 = key <;> simp [same]

/-- Putting under a new key appends an entry. -/
theorem put_of_not_mem {t : Table α} {key : String} (absent : key ∉ t.keys) (value : α) :
    t.put key value = t ++ [(key, value)] := by
  have missing : t.contains key = false :=
    Bool.eq_false_iff.mpr fun found => absent ((contains_iff t key).mp found)
  simp [put, missing]

@[simp] theorem keys_put (t : Table α) (key : String) (value : α) :
    (t.put key value).keys = if key ∈ t.keys then t.keys else t.keys ++ [key] := by
  by_cases present : key ∈ t.keys
  · simp [put_of_mem present, present]
  · rw [put_of_not_mem present, if_neg present]
    simp [keys]

theorem nodup_keys_put {t : Table α} (distinct : t.keys.Nodup) (key : String) (value : α) :
    (t.put key value).keys.Nodup := by
  rw [keys_put]
  split
  · exact distinct
  · next absent =>
    refine List.nodup_append.mpr ⟨distinct, by simp, ?_⟩
    intro a member b single same
    rw [List.mem_singleton] at single
    subst single
    subst same
    exact absent member

@[simp] theorem get?_put (t : Table α) (key k : String) (value : α) :
    (t.put key value).get? k = if key = k then some value else t.get? k := by
  by_cases present : key ∈ t.keys
  · rw [put_of_mem present, get?_modify]
    split
    · next same =>
      subst same
      cases found : t.get? key with
      | none => exact absurd present ((get?_eq_none_iff t key).mp found)
      | some x => rfl
    · rfl
  · rw [put_of_not_mem present, get?_append, get?_cons]
    split
    · next same =>
      subst same
      simp [(get?_eq_none_iff t key).mpr present]
    · cases t.get? k <;> rfl

/-- An entry of a table after a put is the new entry or an old one. -/
theorem mem_put {t : Table α} {key : String} {value : α} {e : String × α}
    (member : e ∈ t.put key value) : e = (key, value) ∨ e ∈ t := by
  by_cases present : key ∈ t.keys
  · rw [put_of_mem present] at member
    rcases mem_modify member with old | ⟨x, _, rfl⟩
    · exact .inr old
    · exact .inl rfl
  · rw [put_of_not_mem present] at member
    rcases List.mem_append.mp member with old | new
    · exact .inr old
    · exact .inl (List.mem_singleton.mp new)

/-- The table after putting each entry of `entries` in turn. -/
def putAll (t : Table α) (entries : List (String × α)) : Table α :=
  entries.foldl (fun t e => t.put e.1 e.2) t

theorem putAll_append (t : Table α) (xs ys : List (String × α)) :
    t.putAll (xs ++ ys) = (t.putAll xs).putAll ys :=
  List.foldl_append

/-- After a run of puts, a key holds the last value put under it, or the one it held before
when none was. -/
theorem get?_putAll (t : Table α) (entries : List (String × α)) (k : String) :
    (t.putAll entries).get? k =
      ((entries.reverse.find? (·.1 = k)).map (·.2)).or (t.get? k) := by
  induction entries generalizing t with
  | nil => simp [putAll]
  | cons e rest ih =>
    have step : t.putAll (e :: rest) = (t.put e.1 e.2).putAll rest := rfl
    rw [step, ih, get?_put, List.reverse_cons, List.find?_append]
    cases rest.reverse.find? (·.1 = k) with
    | some later => rfl
    | none => by_cases here : e.1 = k <;> simp [here]

/-- Changing every value keeps the keys. -/
@[simp] theorem keys_map_values (t : Table α) (f : α → α) :
    Table.keys (t.map fun e => (e.1, f e.2)) = t.keys := by
  simp [keys]

@[simp] theorem get?_map_values (t : Table α) (f : α → α) (key : String) :
    Table.get? (t.map fun e => (e.1, f e.2)) key = (t.get? key).map f := by
  induction t with
  | nil => rfl
  | cons e rest ih =>
    obtain ⟨k, x⟩ := e
    rw [List.map_cons, get?_cons, get?_cons, ih]
    by_cases same : k = key <;> simp [same]

/-! ## Keeping the entries of some keys -/

section Filter

variable (keep : String → Bool)

theorem mem_keys_filter {t : Table α} {key : String} :
    key ∈ Table.keys (t.filter fun e => keep e.1) ↔ keep key = true ∧ key ∈ t.keys := by
  simp only [keys, List.mem_map, List.mem_filter]
  constructor
  · rintro ⟨e, ⟨member, kept⟩, rfl⟩
    exact ⟨kept, e, member, rfl⟩
  · rintro ⟨kept, e, member, rfl⟩
    exact ⟨e, ⟨member, kept⟩, rfl⟩

theorem contains_filter (t : Table α) (key : String) :
    Table.contains (t.filter fun e => keep e.1) key = (keep key && t.contains key) := by
  rw [Bool.eq_iff_iff, contains_iff, mem_keys_filter, Bool.and_eq_true, contains_iff]

@[simp] theorem get?_filter (t : Table α) (key : String) :
    Table.get? (t.filter fun e => keep e.1) key = if keep key then t.get? key else none := by
  induction t with
  | nil => simp
  | cons e rest ih =>
    obtain ⟨k, x⟩ := e
    rw [List.filter_cons, get?_cons]
    by_cases kept : keep k
    · rw [if_pos kept, get?_cons, ih]
      by_cases same : k = key
      · subst same
        simp [kept]
      · simp [same]
    · rw [if_neg (by simpa using kept), ih]
      by_cases same : k = key
      · subst same
        simp [kept]
      · simp [same]

/-- Changing the entry of a key keeps every key, so it commutes with keeping some keys. -/
theorem filter_modify (t : Table α) (key : String) (f : α → α) :
    (t.modify key f).filter (fun e => keep e.1) =
      Table.modify (t.filter fun e => keep e.1) key f := by
  have sameKey : ∀ e : String × α, (if e.1 = key then (e.1, f e.2) else e).1 = e.1 := by
    intro e
    split <;> rfl
  simp only [modify, List.filter_map, Function.comp_def, sameKey]

/-- Putting an entry and then keeping some keys is keeping them first, and putting the entry
when its key is kept. -/
theorem filter_put (t : Table α) (key : String) (value : α) :
    (t.put key value).filter (fun e => keep e.1) =
      if keep key then Table.put (t.filter fun e => keep e.1) key value
      else t.filter fun e => keep e.1 := by
  by_cases present : key ∈ t.keys
  · rw [put_of_mem present, filter_modify]
    split
    · next kept =>
      rw [put_of_mem ((mem_keys_filter keep).mpr ⟨kept, present⟩)]
    · next dropped =>
      have absent : key ∉ Table.keys (t.filter fun e => keep e.1) :=
        fun member => absurd ((mem_keys_filter keep).mp member).1 dropped
      exact modify_of_not_mem absent _
  · rw [put_of_not_mem present, List.filter_append]
    split
    · next kept =>
      have absent : key ∉ Table.keys (t.filter fun e => keep e.1) :=
        fun member => present ((mem_keys_filter keep).mp member).2
      rw [put_of_not_mem absent]
      simp [kept]
    · next dropped =>
      simp [dropped]

end Filter

end ClientGen.Table
