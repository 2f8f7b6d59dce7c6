/-!
# Values under names

Finite maps from names to values, listed in increasing order of the names, and finite sets of names
in the same order. Names are compared by code points, which is the order of their UTF-8 bytes.

Embeds the ordered collections of the code graph and of the views.
-/
namespace LayerAtlas

/-- A finite map from names, its entries in strictly increasing order of names. -/
structure Keyed (α : Type) where
  entries : List (String × α)
  sorted : entries.Pairwise fun a b => a.1 < b.1

namespace Keyed

variable {α β : Type}

def empty : Keyed α := ⟨[], .nil⟩

instance : Inhabited (Keyed α) := ⟨empty⟩

/-- Puts an entry at its place, in the room of one with the same name. -/
def insertEntry (key : String) (value : α) : List (String × α) → List (String × α)
  | [] => [(key, value)]
  | entry :: rest =>
    if key < entry.1 then (key, value) :: entry :: rest
    else if entry.1 < key then entry :: insertEntry key value rest
    else (key, value) :: rest

theorem eq_of_not_lt {a b : String} (hab : ¬ a < b) (hba : ¬ b < a) : a = b :=
  String.le_antisymm (String.not_lt.1 hba) (String.not_lt.1 hab)

theorem mem_insertEntry {key : String} {value : α} {entries : List (String × α)} {x : String × α}
    (h : x ∈ insertEntry key value entries) : x = (key, value) ∨ x ∈ entries := by
  induction entries with
  | nil => simpa [insertEntry] using h
  | cons entry rest ih =>
    unfold insertEntry at h
    split at h
    · simpa using h
    · split at h
      · rcases List.mem_cons.1 h with rfl | h
        · simp
        · rcases ih h with h | h <;> simp [h]
      · rcases List.mem_cons.1 h with h | h <;> simp [h]

theorem sorted_insertEntry (key : String) (value : α) {entries : List (String × α)}
    (h : entries.Pairwise fun a b => a.1 < b.1) :
    (insertEntry key value entries).Pairwise fun a b => a.1 < b.1 := by
  induction entries with
  | nil => simp [insertEntry]
  | cons entry rest ih =>
    obtain ⟨hhead, htail⟩ := List.pairwise_cons.1 h
    unfold insertEntry
    split
    · rename_i hlt
      refine List.pairwise_cons.2 ⟨?_, h⟩
      intro x hx
      rcases List.mem_cons.1 hx with rfl | hx
      · exact hlt
      · exact String.lt_trans hlt (hhead x hx)
    · rename_i hge
      split
      · rename_i hlt
        refine List.pairwise_cons.2 ⟨?_, ih htail⟩
        intro x hx
        rcases mem_insertEntry hx with rfl | hx
        · exact hlt
        · exact hhead x hx
      · rename_i hle
        refine List.pairwise_cons.2 ⟨?_, htail⟩
        intro x hx
        have heq : key = entry.1 := eq_of_not_lt hge hle
        subst heq
        exact hhead x hx

def insert (map : Keyed α) (key : String) (value : α) : Keyed α :=
  ⟨insertEntry key value map.entries, sorted_insertEntry key value map.sorted⟩

def get? (map : Keyed α) (key : String) : Option α :=
  (map.entries.find? fun entry => entry.1 = key).map (·.2)

def contains (map : Keyed α) (key : String) : Bool :=
  map.entries.any fun entry => entry.1 = key

def keys (map : Keyed α) : List String :=
  map.entries.map (·.1)

def values (map : Keyed α) : List α :=
  map.entries.map (·.2)

def size (map : Keyed α) : Nat :=
  map.entries.length

def isEmpty (map : Keyed α) : Bool :=
  map.entries.isEmpty

/-- The later of two entries with one name counts. -/
def ofList (entries : List (String × α)) : Keyed α :=
  entries.foldl (fun map entry => map.insert entry.1 entry.2) empty

/-- Changes every value, keeping the names. -/
def mapValues (f : α → β) (map : Keyed α) : Keyed β :=
  ⟨map.entries.map fun entry => (entry.1, f entry.2), by
    rw [List.pairwise_map]
    exact map.sorted⟩

/-- Changes the value under a name, if there is one. -/
def modify (map : Keyed α) (key : String) (f : α → α) : Keyed α :=
  ⟨map.entries.map fun entry => (entry.1, if entry.1 = key then f entry.2 else entry.2), by
    rw [List.pairwise_map]
    exact map.sorted⟩

theorem keys_mapValues (f : α → β) (map : Keyed α) : (map.mapValues f).keys = map.keys := by
  simp [keys, mapValues, Function.comp_def]

end Keyed

/-- A finite set of names in increasing order. -/
structure NameSet where
  names : List String
  sorted : names.Pairwise (· < ·)

namespace NameSet

def empty : NameSet := ⟨[], .nil⟩

instance : Inhabited NameSet := ⟨empty⟩

instance : DecidableEq NameSet := fun a b =>
  decidable_of_iff (a.names = b.names)
    ⟨fun h => by cases a; cases b; cases h; rfl, fun h => h ▸ rfl⟩

/-- Puts a name at its place unless it is there. -/
def insertName (name : String) : List String → List String
  | [] => [name]
  | first :: rest =>
    if name < first then name :: first :: rest
    else if first < name then first :: insertName name rest
    else first :: rest

theorem mem_insertName {name : String} {names : List String} {x : String} :
    x ∈ insertName name names ↔ x = name ∨ x ∈ names := by
  induction names with
  | nil => simp [insertName]
  | cons first rest ih =>
    unfold insertName
    split
    · simp
    · rename_i hge
      split
      · simp only [List.mem_cons, ih]
        exact ⟨fun h => by rcases h with h | h | h <;> simp [h],
          fun h => by rcases h with h | h | h <;> simp [h]⟩
      · rename_i hle
        have heq : name = first := Keyed.eq_of_not_lt hge hle
        simp [heq]

theorem sorted_insertName (name : String) {names : List String} (h : names.Pairwise (· < ·)) :
    (insertName name names).Pairwise (· < ·) := by
  induction names with
  | nil => simp [insertName]
  | cons first rest ih =>
    obtain ⟨hhead, htail⟩ := List.pairwise_cons.1 h
    unfold insertName
    split
    · rename_i hlt
      refine List.pairwise_cons.2 ⟨?_, h⟩
      intro x hx
      rcases List.mem_cons.1 hx with rfl | hx
      · exact hlt
      · exact String.lt_trans hlt (hhead x hx)
    · split
      · rename_i hlt
        refine List.pairwise_cons.2 ⟨?_, ih htail⟩
        intro x hx
        rcases mem_insertName.1 hx with rfl | hx
        · exact hlt
        · exact hhead x hx
      · exact h

def insert (set : NameSet) (name : String) : NameSet :=
  ⟨insertName name set.names, sorted_insertName name set.sorted⟩

def contains (set : NameSet) (name : String) : Bool :=
  set.names.contains name

def ofList (names : List String) : NameSet :=
  names.foldl insert empty

def insertAll (set : NameSet) (names : List String) : NameSet :=
  names.foldl insert set

def isEmpty (set : NameSet) : Bool :=
  set.names.isEmpty

def size (set : NameSet) : Nat :=
  set.names.length

/-- The names that pass a test. -/
def filter (keep : String → Bool) (set : NameSet) : NameSet :=
  ⟨set.names.filter keep, set.sorted.filter _⟩

instance : Membership String NameSet := ⟨fun set name => name ∈ set.names⟩

theorem mem_def {set : NameSet} {name : String} : name ∈ set ↔ name ∈ set.names := Iff.rfl

@[simp] theorem mem_insert {set : NameSet} {name x : String} :
    x ∈ set.insert name ↔ x = name ∨ x ∈ set :=
  mem_insertName

end NameSet

end LayerAtlas
