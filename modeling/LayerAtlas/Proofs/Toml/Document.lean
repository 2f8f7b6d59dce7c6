import LayerAtlas.Proofs.Toml.ValueText

/-!
# Documents that read back

A document of sections is read line by line. Each written line takes the draft one step further and leaves
the text behind it as it is: a header opens a section, a field adds its value to it, a blank line adds
nothing.
-/
namespace LayerAtlas

namespace TomlEntries

variable {entries before : TomlEntries} {key : String} {value old : TomlValue}

@[simp] theorem get?_nil (key : String) : get? [] key = none := rfl

@[simp] theorem get?_append (first second : TomlEntries) (key : String) :
    get? (first ++ second) key = (first.get? key).or (second.get? key) := by
  simp only [get?, List.find?_append, Option.map_or]

@[simp] theorem get?_cons (entry : String × TomlValue) (rest : TomlEntries) (key : String) :
    get? (entry :: rest) key = if entry.1 = key then some entry.2 else rest.get? key := by
  unfold get?
  by_cases same : entry.1 = key
  · rw [List.find?_cons_of_pos (by simpa using same), if_pos same, Option.map_some]
  · rw [List.find?_cons_of_neg (by simpa using same), if_neg same]

/-- An entry that is there only with a value. -/
@[simp] theorem get?_toList_map {α : Type} (value : Option α) (name key : String) (item : α → TomlValue) :
    get? (value.map fun a => (name, item a)).toList key =
      if name = key then value.map item else none := by
  cases value with
  | none => simp
  | some a => simp

theorem put_of_get?_eq_none (absent : entries.get? key = none) :
    entries.put key value = entries ++ [(key, value)] := by
  induction entries with
  | nil => rfl
  | cons entry rest ih =>
    rw [get?_cons] at absent
    split at absent
    · cases absent
    · next other => rw [put, if_neg other, ih absent, List.cons_append]

theorem put_append_self (absent : before.get? key = none) :
    put key value (before ++ [(key, old)]) = before ++ [(key, value)] := by
  induction before with
  | nil => exact if_pos rfl
  | cons entry rest ih =>
    rw [get?_cons] at absent
    split at absent
    · cases absent
    · next other => rw [List.cons_append, put, if_neg other, ih absent, List.cons_append]

end TomlEntries

namespace Toml

/-! ## Names -/

/-- A name that is written without quotes. -/
def IsBare (name : String) : Prop :=
  name.toList ≠ [] ∧ name.toList.all isBareChar = true

instance (name : String) : Decidable (IsBare name) :=
  inferInstanceAs (Decidable (_ ∧ _))

theorem isTokenChar_of_isBareChar {c : Char} (bare : isBareChar c = true) : isTokenChar c = true := by
  simp only [isBareChar, Bool.or_eq_true, decide_eq_true_eq] at bare
  rcases bare with (letter | rfl) | rfl
  · simp [isTokenChar, letter]
  · decide
  · decide

/-- The first character of a bare name is passed over by nothing that reads lines. -/
theorem IsBare.front {name : String} (bare : IsBare name) :
    ∃ first more, name.toList = first :: more ∧ isSpace first = false ∧ first ≠ '#' ∧ first ≠ '\n' ∧
      first ≠ '\r' ∧ first ≠ '"' ∧ first ≠ '\'' ∧ first ≠ '[' := by
  obtain ⟨first, more, same⟩ := List.exists_cons_of_ne_nil bare.1
  obtain ⟨solid, visible, unbroken, unreturned, _, single, double, bracket, _⟩ :=
    isTokenChar_front (isTokenChar_of_isBareChar (List.all_eq_true.1 bare.2 first (by simp [same])))
  exact ⟨first, more, same, solid, visible, unbroken, unreturned, single, double, bracket⟩

theorem simpleKey_bare {name : String} (bare : IsBare name) {c : Char} {tail : List Char}
    (ends : isBareChar c = false) : simpleKey (name.toList ++ c :: tail) = .ok (name, c :: tail) := by
  have inside := List.all_eq_true.1 bare.2
  have outside : ¬ isBareChar c = true := by simp [ends]
  have spanned : (name.toList ++ c :: tail).span isBareChar = (name.toList, c :: tail) := by
    rw [List.span_eq_takeWhile_dropWhile, List.takeWhile_append_of_pos inside,
      List.dropWhile_append_of_pos inside, List.takeWhile_cons_of_neg outside,
      List.dropWhile_cons_of_neg outside, List.append_nil]
  obtain ⟨first, more, same, _, _, _, _, single, double, _⟩ := bare.front
  have begun : name.toList ++ c :: tail = first :: (more ++ c :: tail) := by rw [same, List.cons_append]
  unfold simpleKey
  split
  · next quoted => exact absurd (List.cons.inj (begun.symm.trans quoted)).1 single
  · next quoted => exact absurd (List.cons.inj (begun.symm.trans quoted)).1 double
  · rw [spanned]
    simp only [if_neg bare.1, String.ofList_toList]

/-- A bare name that ends before something other than a dot is read as a key of its own. -/
theorem keys_bare {name : String} (bare : IsBare name) {c next : Char} {tail behind : List Char}
    (ends : isBareChar c = false) (skipped : skipSpaces (c :: tail) = next :: behind)
    (undotted : next ≠ '.') : keys (name.toList ++ c :: tail) = .ok ([name], next :: behind) := by
  have stays : skipSpaces (name.toList ++ c :: tail) = name.toList ++ c :: tail := by
    obtain ⟨first, more, same, solid, _⟩ := bare.front
    rw [same]
    exact List.dropWhile_cons_of_neg (by simp [solid])
  unfold keys
  rw [show maxDepth - 1 = 78 + 1 from rfl, dottedKey, stays, simpleKey_bare bare ends]
  simp only [bind, Except.bind, skipped]
  split
  · next dotted => exact absurd (List.cons.inj dotted).1 undotted
  · rfl

namespace Draft

variable {draft middle after : Draft} {before fields : TomlEntries} {name : String}

/-- Reading this text takes one draft to another, whatever text follows. -/
def Takes (draft : Draft) (text : List Char) (after : Draft) : Prop :=
  ∀ fuel rest, (text ++ rest).length < fuel →
    ∃ left, rest.length < left ∧ draft.lines fuel (text ++ rest) = after.lines left rest

theorem Takes.trans {front back : List Char} (first : draft.Takes front middle)
    (second : middle.Takes back after) : draft.Takes (front ++ back) after := by
  intro fuel rest enough
  rw [List.append_assoc] at enough ⊢
  obtain ⟨middleFuel, ample, front⟩ := first fuel (back ++ rest) enough
  obtain ⟨left, sufficient, back⟩ := second middleFuel rest ample
  exact ⟨left, sufficient, front.trans back⟩

theorem takes_nothing (draft : Draft) : draft.Takes [] draft :=
  fun fuel _ enough => ⟨fuel, enough, rfl⟩

theorem endLine_newline (rest : List Char) : endLine ('\n' :: rest) = .ok rest := rfl

theorem takes_blankLine (draft : Draft) : draft.Takes ['\n'] draft := by
  intro fuel rest enough
  obtain ⟨left, rfl⟩ : ∃ left, fuel = left + 1 := ⟨fuel - 1, by omega⟩
  refine ⟨left, by simpa using enough, ?_⟩
  rw [List.singleton_append, lines]
  rfl

/-- A draft inside a section: the sections before it, and the fields so far. -/
def within (before : TomlEntries) (name : String) (fields : TomlEntries) : Draft :=
  ⟨before ++ [(name, .table .header fields)], [name]⟩

theorem openAt_new {path : List String} {entries : TomlEntries} (absent : entries.get? name = none) :
    openAt ⟨entries, path⟩ false [name] = .ok (within entries name []) := by
  change (do .ok ⟨← TomlEntries.openTable name .header entries, [name]⟩ : Except TomlFault Draft) = _
  rw [TomlEntries.openTable, absent]
  simp only [TomlEntries.put_of_get?_eq_none absent]
  rfl

/-- The header of a new section opens it. -/
theorem takes_header (bare : IsBare name) (absent : draft.entries.get? name = none) :
    draft.Takes ('[' :: (name.toList ++ [']', '\n'])) (within draft.entries name []) := by
  intro fuel rest enough
  obtain ⟨left, rfl⟩ : ∃ left, fuel = left + 1 := ⟨fuel - 1, by omega⟩
  have named : keys (name.toList ++ ']' :: '\n' :: rest) = .ok ([name], ']' :: '\n' :: rest) :=
    keys_bare bare (by decide) rfl (by decide)
  have headed : draft.header (name.toList ++ ']' :: '\n' :: rest) =
      .ok (within draft.entries name [], rest) := by
    obtain ⟨first, more, same, _, _, _, _, _, _, bracket⟩ := bare.front
    have begun : name.toList ++ ']' :: '\n' :: rest = first :: (more ++ ']' :: '\n' :: rest) := by
      rw [same, List.cons_append]
    unfold header
    dsimp only
    split
    · next opened => exact absurd (List.cons.inj (begun.symm.trans opened)).1 bracket
    · have closed : [']'].isPrefixOf? (']' :: '\n' :: rest) = some ('\n' :: rest) :=
        List.isPrefixOf?_eq_some_iff_append_eq.2 rfl
      rw [named]
      simp only [bind, Except.bind, closed, openAt_new absent]
      rfl
  refine ⟨left, by simp only [List.length_cons, List.length_append] at enough; omega, ?_⟩
  rw [List.cons_append, List.append_assoc, lines]
  change (draft.header (name.toList ++ ']' :: '\n' :: rest)).bind
    (fun (read : Draft × List Char) => read.1.lines left read.2) = _
  rw [headed]
  rfl

theorem assign_new {value : TomlValue} {field : String} (newSection : before.get? name = none)
    (newField : fields.get? field = none) :
    (within before name fields).assign [field] value =
      .ok (within before name (fields ++ [(field, value)])) := by
  have found : (before ++ [(name, .table .header fields)] : TomlEntries).get? name =
      some (.table .header fields) := by
    rw [TomlEntries.get?_append, newSection, TomlEntries.get?_cons, if_pos rfl, Option.none_or]
  have added : TomlEntries.assign [field] value .header fields = .ok (fields ++ [(field, value)]) := by
    change TomlEntries.addNew false field value .header fields = _
    simp [TomlEntries.addNew, newField, TomlEntries.put_of_get?_eq_none newField]
  unfold assign within
  dsimp only
  rw [TomlEntries.descend, found]
  simp only [TomlEntries.descend, added, bind, Except.bind,
    TomlEntries.put_append_self newSection]
  simp

/-- The line of a new field adds its value. -/
theorem takes_field {levels : Nat} {written : List Char} {item : TomlValue} {field : String}
    (bare : IsBare field) (shows : Shows levels written item) (shallow : levels < maxDepth)
    (newSection : before.get? name = none) (newField : fields.get? field = none) :
    (within before name fields).Takes (field.toList ++ (" = ".toList ++ (written ++ ['\n'])))
      (within before name (fields ++ [(field, item)])) := by
  intro fuel rest enough
  obtain ⟨left, rfl⟩ : ∃ left, fuel = left + 1 := ⟨fuel - 1, by omega⟩
  simp only [List.append_assoc, List.length_append, List.length_cons] at enough ⊢
  have named : keys (field.toList ++ (" = ".toList ++ (written ++ '\n' :: rest))) =
      .ok ([field], '=' :: ' ' :: (written ++ '\n' :: rest)) :=
    keys_bare bare (c := ' ') (by decide) rfl (by decide)
  have entered : skipSpaces (' ' :: (written ++ '\n' :: rest)) = written ++ '\n' :: rest := by
    obtain ⟨first, more, rfl, solid, _⟩ := shows.front
    change skipSpaces (first :: (more ++ '\n' :: rest)) = _
    exact List.dropWhile_cons_of_neg (by simp [solid])
  have read := shows.reads (2 * (' ' :: (written ++ '\n' :: rest)).length + 2) 0 ('\n' :: rest)
    (by simp only [List.length_cons, List.length_append]; omega) (by omega) (ends_cons rest (.inl rfl))
  have lined : (within before name fields).line
      (field.toList ++ (" = ".toList ++ (written ++ '\n' :: rest))) =
        .ok (within before name (fields ++ [(field, item)]), rest) := by
    rw [line, named]
    simp only [bind, Except.bind, entered, read, assign_new newSection newField, endLine_newline]
  obtain ⟨first, more, same, solid, visible, unbroken, unreturned, _, _, bracket⟩ := bare.front
  have begun : field.toList ++ (" = ".toList ++ (written ++ '\n' :: rest)) =
      first :: (more ++ (" = ".toList ++ (written ++ '\n' :: rest))) := by rw [same, List.cons_append]
  have stays : skipSpaces (first :: (more ++ (" = ".toList ++ (written ++ '\n' :: rest)))) =
      first :: (more ++ (" = ".toList ++ (written ++ '\n' :: rest))) :=
    List.dropWhile_cons_of_neg (by simp [solid])
  refine ⟨left, by omega, ?_⟩
  rw [begun] at lined
  change lines (left + 1) _ (field.toList ++ (" = ".toList ++ (written ++ '\n' :: rest))) = _
  rw [begun, lines, stays]
  split
  · next empty => cases empty
  · next opened => exact absurd (List.cons.inj opened).1 bracket
  · have plain : ¬ ((first :: (more ++ (" = ".toList ++ (written ++ '\n' :: rest)))).head? = some '#' ∨
        (newline? (first :: (more ++ (" = ".toList ++ (written ++ '\n' :: rest))))).isSome) := by
      simp [visible, newline?_eq_none unbroken unreturned]
    rw [if_neg plain, lined]
    rfl

/-- A field that is not set has no line and no entry. -/
theorem takes_optional {α : Type} {levels : Nat} {write : α → String} {item : α → TomlValue}
    {field : String} (bare : IsBare field) (value : Option α)
    (shows : ∀ a ∈ value, Shows levels (write a).toList (item a)) (shallow : levels < maxDepth)
    (newSection : before.get? name = none) (newField : fields.get? field = none) :
    (within before name fields).Takes
      (value.elim [] fun a => field.toList ++ (" = ".toList ++ ((write a).toList ++ ['\n'])))
      (within before name (fields ++ (value.map fun a => (field, item a)).toList)) := by
  cases value with
  | none => simpa using takes_nothing (within before name fields)
  | some a => exact takes_field bare (shows a rfl) shallow newSection newField

end Draft

theorem parse_of_takes {text : String} {after : Draft} (takes : Draft.Takes ⟨[], []⟩ text.toList after)
    (unmarked : text.toList.head? ≠ some '\ufeff') : parse text = .ok after.entries := by
  obtain ⟨left, enough, read⟩ := takes (text.toList.length + 1) [] (by simp)
  obtain ⟨less, rfl⟩ : ∃ less, left = less + 1 := ⟨left - 1, by simp at enough; omega⟩
  rw [List.append_nil] at read
  have ended : after.lines (less + 1) [] = .ok after := rfl
  unfold parse
  split
  · next marked => exact absurd (by rw [marked]; rfl) unmarked
  · dsimp only
    rw [read, ended]
    rfl

end Toml

end LayerAtlas
