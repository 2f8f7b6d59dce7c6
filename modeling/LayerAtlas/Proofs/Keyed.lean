import LayerAtlas.Keyed
import Mathlib.Data.List.Nodup

/-!
# Laws of keyed maps and name sets

What every operation does to the look-up of a map and to the members of a set. A map is given by its
look-up, since its entries stand in one order only; so later proofs never open the list of entries.
-/
namespace LayerAtlas

theorem nodup_of_increasing {names : List String} (sorted : names.Pairwise (· < ·)) :
    names.Nodup := by
  rw [List.Nodup]
  refine sorted.imp ?_
  intro first second less same
  exact String.lt_irrefl _ (same ▸ less)

namespace Keyed

variable {α β : Type}

theorem entry_unique {entries : List (String × α)} {left right : String × α}
    (sorted : entries.Pairwise fun a b => a.1 < b.1) (first : left ∈ entries)
    (second : right ∈ entries) (same : left.1 = right.1) : left = right := by
  induction entries with
  | nil => simp at first
  | cons head tail ih =>
    obtain ⟨smaller, tailSorted⟩ := List.pairwise_cons.1 sorted
    rcases List.mem_cons.1 first with rfl | inTail
    · rcases List.mem_cons.1 second with rfl | behind
      · rfl
      · have less := smaller right behind
        rw [same] at less
        exact absurd less (String.lt_irrefl _)
    · rcases List.mem_cons.1 second with rfl | behind
      · have less := smaller left inTail
        rw [same] at less
        exact absurd less (String.lt_irrefl _)
      · exact ih tailSorted inTail behind

/-- The look-up finds exactly the entries. -/
theorem get?_eq_some_iff {map : Keyed α} {key : String} {value : α} :
    map.get? key = some value ↔ (key, value) ∈ map.entries := by
  unfold get?
  constructor
  · intro found
    obtain ⟨entry, hit, rfl⟩ := Option.map_eq_some_iff.1 found
    have same : entry.1 = key := by simpa using List.find?_some hit
    subst same
    exact List.mem_of_find?_eq_some hit
  · intro member
    cases hit : map.entries.find? fun entry => entry.1 = key with
    | none => simpa using List.find?_eq_none.1 hit _ member
    | some entry =>
      have same : entry.1 = key := by simpa using List.find?_some hit
      have one := entry_unique map.sorted (List.mem_of_find?_eq_some hit) member same
      simp [one]

/-- Maps with the same look-up are the same map, since their entries stand in one order only. -/
theorem ext_get? {first second : Keyed α} (same : ∀ key, first.get? key = second.get? key) :
    first = second := by
  have nodup : ∀ map : Keyed α, map.entries.Nodup := by
    intro map
    refine map.sorted.imp ?_
    rintro entry _ less rfl
    exact String.lt_irrefl _ less
  have members : first.entries.Perm second.entries := by
    refine (List.perm_ext_iff_of_nodup (nodup first) (nodup second)).2 fun entry => ?_
    rw [← get?_eq_some_iff, ← get?_eq_some_iff, same]
  have entries : first.entries = second.entries := by
    refine members.eq_of_pairwise ?_ first.sorted second.sorted
    intro left right _ _ less greater
    exact absurd (String.lt_trans less greater) (String.lt_irrefl _)
  cases first
  cases second
  cases entries
  rfl

theorem contains_eq_isSome (map : Keyed α) (key : String) :
    map.contains key = (map.get? key).isSome := by
  rw [contains, get?, Option.isSome_map]
  apply Bool.eq_iff_iff.2
  simp only [List.any_eq_true, List.find?_isSome]

theorem contains_iff {map : Keyed α} {key : String} :
    map.contains key = true ↔ ∃ value, map.get? key = some value := by
  rw [contains_eq_isSome, Option.isSome_iff_exists]

theorem mem_keys_iff {map : Keyed α} {key : String} :
    key ∈ map.keys ↔ map.contains key = true := by
  simp [keys, contains]

theorem mem_values_iff {map : Keyed α} {value : α} :
    value ∈ map.values ↔ ∃ key, map.get? key = some value := by
  simp only [values, get?_eq_some_iff, List.mem_map, Prod.exists]
  constructor
  · rintro ⟨key, _, member, rfl⟩
    exact ⟨key, member⟩
  · rintro ⟨key, member⟩
    exact ⟨key, value, member, rfl⟩

/-- What is looked up under all names in turn is what stands there. -/
theorem map_get?_keys (map : Keyed α) : map.keys.map map.get? = map.values.map some := by
  rw [keys, values, List.map_map, List.map_map]
  exact List.map_congr_left fun entry member => get?_eq_some_iff.2 member

theorem sorted_keys (map : Keyed α) : map.keys.Pairwise (· < ·) := by
  rw [keys, List.pairwise_map]
  exact map.sorted

@[simp] theorem length_keys (map : Keyed α) : map.keys.length = map.size := by
  simp [keys, size]

@[simp] theorem get?_empty (key : String) : (empty : Keyed α).get? key = none := rfl

private theorem mem_insertEntry_iff {key : String} {value : α} {entries : List (String × α)}
    (sorted : entries.Pairwise fun a b => a.1 < b.1) {x : String × α} :
    x ∈ insertEntry key value entries ↔ x = (key, value) ∨ (x ∈ entries ∧ x.1 ≠ key) := by
  induction entries with
  | nil => simp [insertEntry]
  | cons head tail ih =>
    obtain ⟨smaller, tailSorted⟩ := List.pairwise_cons.1 sorted
    have tailKeys : ∀ entry ∈ tail, ¬ entry.1 < head.1 := fun entry member less =>
      String.lt_irrefl _ (String.lt_trans (smaller entry member) less)
    unfold insertEntry
    split
    · next before =>
      have headKey : head.1 ≠ key := fun same => String.lt_irrefl _ (same ▸ before)
      have others : ∀ entry ∈ tail, entry.1 ≠ key := fun entry member same =>
        tailKeys entry member (same ▸ before)
      grind
    · next notBefore =>
      split
      · next after =>
        have headKey : head.1 ≠ key := fun same => String.lt_irrefl _ (same ▸ after)
        simp only [List.mem_cons, ih tailSorted]
        grind
      · next notAfter =>
        have same : key = head.1 := eq_of_not_lt notBefore notAfter
        have others : ∀ entry ∈ tail, entry.1 ≠ head.1 := fun entry member equal =>
          String.lt_irrefl _ (equal ▸ smaller entry member)
        subst same
        grind

/-- An insertion changes the look-up of its own name only. -/
theorem get?_insert (map : Keyed α) (key other : String) (value : α) :
    (map.insert key value).get? other = if other = key then some value else map.get? other := by
  apply Option.ext
  intro found
  rw [get?_eq_some_iff, insert, mem_insertEntry_iff map.sorted]
  by_cases same : other = key
  · simp [same, eq_comm]
  · simp [same, get?_eq_some_iff]

@[simp] theorem get?_insert_self (map : Keyed α) (key : String) (value : α) :
    (map.insert key value).get? key = some value := by
  simp [get?_insert]

theorem get?_insert_of_ne (map : Keyed α) {key other : String} (value : α) (different : other ≠ key) :
    (map.insert key value).get? other = map.get? other := by
  simp [get?_insert, different]

theorem contains_insert (map : Keyed α) (key other : String) (value : α) :
    (map.insert key value).contains other = (decide (other = key) || map.contains other) := by
  rw [contains_eq_isSome, contains_eq_isSome, get?_insert]
  by_cases same : other = key <;> simp [same]

/-- The look-up behind a list of insertions: the last entry of a name, else the map before. -/
theorem get?_foldl_insert (entries : List (String × α)) (map : Keyed α) (key : String) :
    (entries.foldl (fun map entry => map.insert entry.1 entry.2) map).get? key =
      ((entries.reverse.find? fun entry => entry.1 = key).map (·.2)).or (map.get? key) := by
  induction entries generalizing map with
  | nil => simp
  | cons head tail ih =>
    rw [List.foldl_cons, ih, get?_insert, List.reverse_cons, List.find?_append]
    cases List.find? (fun entry => decide (entry.1 = key)) tail.reverse with
    | some entry => simp
    | none =>
      by_cases same : key = head.1
      · simp [same]
      · simp [same, Ne.symm same]

theorem get?_ofList (entries : List (String × α)) (key : String) :
    (ofList entries).get? key = (entries.reverse.find? fun entry => entry.1 = key).map (·.2) := by
  simp [ofList, get?_foldl_insert]

/-- With names of their own, all entries of a list are found. -/
theorem get?_ofList_eq_some_iff {entries : List (String × α)} {key : String} {value : α}
    (distinct : (entries.map Prod.fst).Nodup) :
    (ofList entries).get? key = some value ↔ (key, value) ∈ entries := by
  rw [get?_ofList, Option.map_eq_some_iff]
  constructor
  · rintro ⟨entry, found, rfl⟩
    have same : entry.1 = key := by simpa using List.find?_some found
    subst same
    exact List.mem_reverse.1 (List.mem_of_find?_eq_some found)
  · intro listed
    have there : (entries.reverse.find? fun entry => entry.1 = key).isSome := by
      rw [List.find?_isSome]
      exact ⟨(key, value), List.mem_reverse.2 listed, by simp⟩
    obtain ⟨entry, found⟩ := Option.isSome_iff_exists.1 there
    have same : entry.1 = key := by simpa using List.find?_some found
    have own := List.mem_reverse.1 (List.mem_of_find?_eq_some found)
    exact ⟨entry, found, congrArg Prod.snd (List.inj_on_of_nodup_map distinct own listed same)⟩

/-- The entries of a map give the map in whatever order they are inserted. -/
theorem ofList_of_perm {entries : List (String × α)} {map : Keyed α}
    (order : entries.Perm map.entries) : ofList entries = map := by
  have distinct : (entries.map Prod.fst).Nodup :=
    (order.map Prod.fst).nodup_iff.2 (nodup_of_increasing map.sorted_keys)
  refine ext_get? fun key => Option.ext fun value => ?_
  rw [get?_ofList_eq_some_iff distinct, get?_eq_some_iff, order.mem_iff]

/-- The map that gives one value to every name of a list. -/
theorem get?_ofList_const (names : List String) (value : α) (key : String) :
    (ofList (names.map fun name => (name, value))).get? key =
      if key ∈ names then some value else none := by
  rw [get?_ofList, ← List.map_reverse, List.find?_map]
  split
  · next member =>
    cases hit : List.find? ((fun entry : String × α => decide (entry.1 = key)) ∘
        fun name => (name, value)) names.reverse with
    | some name => rfl
    | none => simpa using List.find?_eq_none.1 hit key (by simpa using member)
  · next absent =>
    have nothing : List.find? ((fun entry : String × α => decide (entry.1 = key)) ∘
        fun name => (name, value)) names.reverse = none := by
      apply List.find?_eq_none.2
      intro name member same
      have equal : name = key := by simpa using same
      exact absent (equal ▸ List.mem_reverse.1 member)
    rw [nothing]
    rfl

@[simp] theorem get?_mapValues (f : α → β) (map : Keyed α) (key : String) :
    (map.mapValues f).get? key = (map.get? key).map f := by
  simp [get?, mapValues, List.find?_map, Function.comp_def]

@[simp] theorem values_mapValues (f : α → β) (map : Keyed α) :
    (map.mapValues f).values = map.values.map f := by
  simp [values, mapValues, Function.comp_def]

@[simp] theorem size_mapValues (f : α → β) (map : Keyed α) : (map.mapValues f).size = map.size := by
  simp [size, mapValues]

/-- An insertion and a change of every value can be made in either order. -/
theorem mapValues_insert (f : α → β) (map : Keyed α) (key : String) (value : α) :
    (map.insert key value).mapValues f = (map.mapValues f).insert key (f value) := by
  refine ext_get? fun other => ?_
  rw [get?_mapValues, get?_insert, get?_insert, get?_mapValues]
  split <;> rfl

/-- A change under one name changes the look-up of that name only. -/
theorem get?_modify (map : Keyed α) (key other : String) (f : α → α) :
    (map.modify key f).get? other =
      if other = key then (map.get? other).map f else map.get? other := by
  apply Option.ext
  intro found
  rw [get?_eq_some_iff]
  simp only [modify, List.mem_map, Prod.mk.injEq, Prod.exists]
  by_cases same : other = key
  · subst same
    simp only [if_true, Option.map_eq_some_iff, get?_eq_some_iff]
    constructor
    · rintro ⟨name, value, member, rfl, rfl⟩
      exact ⟨value, member, by simp⟩
    · rintro ⟨value, member, rfl⟩
      exact ⟨other, value, member, rfl, by simp⟩
  · simp only [if_neg same, get?_eq_some_iff]
    constructor
    · rintro ⟨name, value, member, rfl, rfl⟩
      simpa [same] using member
    · intro member
      exact ⟨other, found, member, rfl, by simp [same]⟩

/-- Writing a value back under its own name changes nothing. -/
theorem modify_self {map : Keyed α} {key : String} {value : α}
    (found : map.get? key = some value) : (map.modify key fun _ => value) = map := by
  have entries : (map.entries.map fun entry =>
      (entry.1, if entry.1 = key then value else entry.2)) = map.entries := by
    refine (List.map_congr_left fun entry member => ?_).trans (List.map_id _)
    split
    · next same => exact entry_unique map.sorted (get?_eq_some_iff.1 (same ▸ found)) member rfl
    · rfl
  cases map
  simpa [modify] using entries

end Keyed

namespace NameSet

@[ext] theorem ext {left right : NameSet} (same : left.names = right.names) : left = right := by
  cases left
  cases right
  cases same
  rfl

theorem contains_iff {set : NameSet} {name : String} : set.contains name = true ↔ name ∈ set := by
  simp [contains, mem_def]

instance (name : String) (set : NameSet) : Decidable (name ∈ set) :=
  inferInstanceAs (Decidable (name ∈ set.names))

@[simp] theorem not_mem_empty (name : String) : name ∉ empty := List.not_mem_nil

theorem nodup_names (set : NameSet) : set.names.Nodup :=
  nodup_of_increasing set.sorted

@[simp] theorem mem_insertAll {names : List String} {set : NameSet} {x : String} :
    x ∈ set.insertAll names ↔ x ∈ names ∨ x ∈ set := by
  induction names generalizing set with
  | nil => simp [insertAll]
  | cons head tail ih =>
    have step : x ∈ (set.insert head).insertAll tail ↔ x ∈ tail ∨ x ∈ set.insert head := ih
    rw [insertAll, List.foldl_cons, ← insertAll, step, mem_insert, List.mem_cons, or_assoc,
      or_left_comm]

@[simp] theorem mem_ofList {names : List String} {x : String} : x ∈ ofList names ↔ x ∈ names := by
  have members : x ∈ empty.insertAll names ↔ x ∈ names ∨ x ∈ empty := mem_insertAll
  simpa [insertAll, ofList] using members

theorem length_insertName_le (name : String) (names : List String) :
    (insertName name names).length ≤ names.length + 1 := by
  induction names with
  | nil => simp [insertName]
  | cons head tail ih =>
    unfold insertName
    split
    · simp
    · split
      · simp only [List.length_cons]
        omega
      · simp

end NameSet

end LayerAtlas
