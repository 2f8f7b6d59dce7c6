import LayerAtlas.Proofs.Coherence
import LayerAtlas.Proofs.Path

/-!
# The border of a context

The first layer marker on a path is the border of its context: the folder above it names the context, the
folders above that name the zone, and the rest, from the marker down, remains. Nothing on the path is lost,
and what the remaining folders say about the layer is what the whole path says, since no folder above the
border is a layer marker.
-/
namespace LayerAtlas

/-- Words of which none is a marker stand for nothing. -/
theorem MarkerSet.findSome?_of_unmarked {α : Type} {markers : MarkerSet α} {tokens : List String}
    (unmarked : ∀ token ∈ tokens, markers.isMarker token = false) :
    tokens.findSome? markers.lookup = none := by
  rw [List.findSome?_eq_none_iff]
  intro token member
  have plain := unmarked token member
  rwa [isMarker_eq_isSome_lookup, Option.isSome_eq_false_iff, Option.isNone_iff_eq_none] at plain

namespace Territory

variable {book : RuleBook} {folders : List String} {stem : String} {border : Nat}

theorem getD_zoneOf (folders : List String) : (zoneOf folders).getD "" = ".".intercalate folders := by
  unfold zoneOf
  dsimp only
  split
  · next empty => exact empty.symm
  · rfl

/-- Only a single folder without a name leaves a zone without one. -/
theorem zoneOf_eq_none_iff : zoneOf folders = none ↔ folders = [] ∨ folders = [""] := by
  have text : zoneOf folders = none ↔ ".".intercalate folders = "" := by
    unfold zoneOf
    dsimp only
    split <;> simp [*]
  rw [text]
  cases folders with
  | nil => simp
  | cons first rest =>
    cases rest with
    | nil => simp
    | cons second rest => simp [String.intercalate_cons_cons]

theorem ofPath_of_plain (plain : book.scopes.isMarker (folders.headD stem) = false) :
    ofPath book folders stem = ofContext book folders stem := by
  rw [MarkerSet.isMarker_eq_isSome_lookup, Option.isSome_eq_false_iff,
    Option.isNone_iff_eq_none] at plain
  unfold ofPath
  rw [plain]

theorem isSome_lookup_eq (book : RuleBook) :
    (fun folder => (book.layers.lookup folder).isSome) = book.layers.isMarker :=
  funext fun folder => (book.layers.isMarker_eq_isSome_lookup folder).symm

theorem ofContext_of_marked (marked : folders.findIdx? book.layers.isMarker = some (border + 1)) :
    ofContext book folders stem =
      ⟨.context, (folders.drop border).headD stem, zoneOf (folders.take border),
        folders.drop (border + 1)⟩ := by
  unfold ofContext
  rw [isSome_lookup_eq, marked]

theorem ofContext_of_front (marked : folders.findIdx? book.layers.isMarker = some 0) :
    ofContext book folders stem = ⟨.context, folders.headD stem, none, folders⟩ := by
  unfold ofContext
  rw [isSome_lookup_eq, marked]

theorem ofContext_of_unmarked (unmarked : folders.findIdx? book.layers.isMarker = none) :
    ofContext book folders stem = ⟨.context, folders.headD stem, none, folders.drop 1⟩ := by
  unfold ofContext
  rw [isSome_lookup_eq, unmarked]

/-- The folders above the first marker are no markers. -/
theorem unmarked_of_mem_take (marked : folders.findIdx? book.layers.isMarker = some border)
    {folder : String} (above : folder ∈ folders.take border) :
    book.layers.isMarker folder = false := by
  obtain ⟨_, _, before⟩ := List.findIdx?_eq_some_iff_getElem.1 marked
  obtain ⟨place, inside, rfl⟩ := List.mem_iff_getElem.1 above
  rw [List.length_take] at inside
  rw [List.getElem_take]
  simpa using before place (by omega)

/-- The first layer marker of the path is the first of the folders that remain. -/
theorem findSome?_remaining (book : RuleBook) (folders : List String) (stem : String) :
    (ofContext book folders stem).remaining.findSome? book.layers.lookup =
      folders.findSome? book.layers.lookup := by
  cases marked : folders.findIdx? book.layers.isMarker with
  | none =>
    have unmarked : ∀ folder ∈ folders, book.layers.isMarker folder = false :=
      List.findIdx?_eq_none_iff.1 marked
    rw [ofContext_of_unmarked marked, MarkerSet.findSome?_of_unmarked unmarked]
    apply MarkerSet.findSome?_of_unmarked
    intro folder below
    exact unmarked folder (List.mem_of_mem_drop below)
  | some border =>
    cases border with
    | zero => rw [ofContext_of_front marked]
    | succ border =>
      have above : (folders.take (border + 1)).findSome? book.layers.lookup = none :=
        MarkerSet.findSome?_of_unmarked fun _ => unmarked_of_mem_take marked
      rw [ofContext_of_marked marked]
      calc (folders.drop (border + 1)).findSome? book.layers.lookup
          = (folders.take (border + 1) ++ folders.drop (border + 1)).findSome? book.layers.lookup := by
            rw [List.findSome?_append, above, Option.none_or]
        _ = folders.findSome? book.layers.lookup := by rw [List.take_append_drop]

end Territory

/-- The folders of a path have names. -/
theorem RuleBook.empty_notMem_folders {root path : Path} {folders : List String} {stem : String}
    (below : foldersAndStem? root path = some (folders, stem)) : "" ∉ folders := by
  obtain ⟨names, led, told⟩ := Option.bind_eq_some_iff.1 below
  obtain ⟨last, _, same⟩ := Option.map_eq_some_iff.1 told
  cases same
  intro member
  exact Path.ne_of_segmentsBelow? led "" (List.dropLast_subset _ member) rfl

namespace Discovery

variable {book : RuleBook} {folders : List String} {stem : String} {border : Nat}

/-- The folders of the zone, the context and what remains are the whole path, in this order, and nothing
above what remains is a layer marker. A zone that is absent reads as the empty text. -/
structure Divides (found : Discovery) (book : RuleBook) (folders zone : List String) : Prop where
  whole : zone ++ found.context :: found.remaining = folders
  unmarked : ∀ folder ∈ zone ++ [found.context], book.layers.isMarker folder = false
  named : found.zone.getD "" = ".".intercalate zone

theorem divides_of_marked (plain : book.scopes.isMarker (folders.headD stem) = false)
    (marked : folders.findIdx? book.layers.isMarker = some (border + 1)) :
    (ofPath book folders stem).Divides book folders (folders.take border) := by
  obtain ⟨inside, _, _⟩ := List.findIdx?_eq_some_iff_getElem.1 marked
  have within : border < folders.length := by omega
  have below : folders.drop border = folders[border] :: folders.drop (border + 1) :=
    List.drop_eq_getElem_cons within
  have territory := (Territory.ofPath_of_plain plain).trans (Territory.ofContext_of_marked marked)
  have context : (ofPath book folders stem).context = folders[border] := by
    unfold ofPath
    rw [territory, below]
    rfl
  have remaining : (ofPath book folders stem).remaining = folders.drop (border + 1) := by
    unfold ofPath
    rw [territory]
  refine ⟨?_, ?_, ?_⟩
  · rw [context, remaining, ← below, List.take_append_drop]
  · rw [context, List.take_append_getElem within]
    intro folder
    exact Territory.unmarked_of_mem_take marked
  · unfold ofPath
    rw [territory]
    exact Territory.getD_zoneOf _

section Plain

variable (plain : book.scopes.isMarker (folders.headD stem) = false)

include plain in
theorem ofPath_of_marked (marked : folders.findIdx? book.layers.isMarker = some border)
    (below : 1 ≤ border) :
    ∃ zone, (ofPath book folders stem).Divides book folders zone ∧ zone.length + 1 = border ∧
      ((ofPath book folders stem).zone = none ↔ border = 1 ∨ zone = [""]) := by
  obtain ⟨above, rfl⟩ : ∃ above, border = above + 1 := ⟨border - 1, by omega⟩
  obtain ⟨inside, _, _⟩ := List.findIdx?_eq_some_iff_getElem.1 marked
  have count : (folders.take above).length = above := by
    rw [List.length_take]
    omega
  have zone : (ofPath book folders stem).zone = Territory.zoneOf (folders.take above) :=
    congrArg Territory.zone ((Territory.ofPath_of_plain plain).trans (Territory.ofContext_of_marked marked))
  have first : folders.take above = [] ↔ above + 1 = 1 := by
    rw [← List.length_eq_zero_iff, count]
    omega
  refine ⟨folders.take above, divides_of_marked plain marked, by rw [count], ?_⟩
  rw [zone, Territory.zoneOf_eq_none_iff, first]

include plain in
theorem ofPath_of_front (marked : folders.findIdx? book.layers.isMarker = some 0) :
    folders.head? = some (ofPath book folders stem).context ∧
      (ofPath book folders stem).remaining = folders ∧ (ofPath book folders stem).zone = none := by
  have place := (Territory.ofPath_of_plain plain).trans (Territory.ofContext_of_front marked)
  obtain ⟨inside, _, _⟩ := List.findIdx?_eq_some_iff_getElem.1 marked
  have context : (ofPath book folders stem).context = folders.headD stem := congrArg Territory.context place
  refine ⟨?_, congrArg Territory.remaining place, congrArg Territory.zone place⟩
  rw [context]
  cases folders with
  | nil => simp at inside
  | cons first rest => rfl

include plain in
theorem ofPath_of_unmarked (unmarked : folders.findIdx? book.layers.isMarker = none) :
    (ofPath book folders stem).context = folders.headD stem ∧
      (ofPath book folders stem).remaining = folders.tail ∧ (ofPath book folders stem).zone = none := by
  have place := (Territory.ofPath_of_plain plain).trans (Territory.ofContext_of_unmarked unmarked)
  rw [← List.drop_one]
  exact ⟨congrArg Territory.context place, congrArg Territory.remaining place, congrArg Territory.zone place⟩

end Plain

/-- The layer comes from the first layer marker that remains, else from the stem. -/
theorem layerSeed_ofPath (book : RuleBook) (folders : List String) (stem : String) :
    (ofPath book folders stem).layerSeed =
      (((Territory.ofPath book folders stem).remaining.findSome? book.layers.lookup).or
        (book.layerOfStem? stem)).getD .undefined := by
  unfold ofPath
  dsimp only
  cases (Territory.ofPath book folders stem).remaining.findSome? book.layers.lookup <;> rfl

/-- Where a context lies, told by the place of the first layer marker on the path. The zone is absent just
in case there is no folder above the context, or a single one without a name; for the folders of a path, which
all have names, it is absent just in case there is none. -/
theorem ofPath_by_border (book : RuleBook) (folders : List String) (stem : String)
    (plain : book.scopes.isMarker (folders.headD stem) = false) :
    let found := ofPath book folders stem
    let marker := folders.findIdx? book.layers.isMarker
    found.scope = .context ∧
    (∀ border, marker = some border → 1 ≤ border →
      ∃ zone, found.Divides book folders zone ∧ zone.length + 1 = border ∧
        (found.zone = none ↔ border = 1 ∨ zone = [""]) ∧
        ("" ∉ folders → (found.zone = none ↔ border = 1)) ∧
        ∀ root path, RuleBook.foldersAndStem? root path = some (folders, stem) →
          (found.zone = none ↔ border = 1)) ∧
    (marker = some 0 →
      folders.head? = some found.context ∧ found.remaining = folders ∧ found.zone = none) ∧
    (marker = none →
      found.context = folders.headD stem ∧ found.remaining = folders.tail ∧ found.zone = none) ∧
    found.layerSeed =
      ((folders.findSome? book.layers.lookup).or (book.layerOfStem? stem)).getD .undefined := by
  intro found marker
  have territory : Territory.ofPath book folders stem = Territory.ofContext book folders stem :=
    Territory.ofPath_of_plain plain
  refine ⟨?_, ?_, ofPath_of_front plain, ofPath_of_unmarked plain, ?_⟩
  · exact (congrArg Territory.scope territory).trans Territory.scope_ofContext
  · intro border marked below
    obtain ⟨zone, divides, length, absent⟩ := ofPath_of_marked plain marked below
    have alone (named : "" ∉ folders) : found.zone = none ↔ border = 1 := by
      refine absent.trans (or_iff_left ?_)
      rintro rfl
      apply named
      rw [← divides.whole]
      exact List.mem_cons_self
    refine ⟨zone, divides, length, absent, alone, fun root path led => ?_⟩
    exact alone (RuleBook.empty_notMem_folders led)
  · change (ofPath book folders stem).layerSeed = _
    rw [layerSeed_ofPath, territory, Territory.findSome?_remaining]

theorem ofPath_by_border_billing :
    let folders := ["platform", "commerce", "eu", "billing", "app", "commands"]
    ∃ book, RuleBook.ofSpecs .basic [] [] = .ok book ∧
      book.scopes.isMarker (folders.headD "place_order") = false ∧
      folders.findIdx? book.layers.isMarker = some 4 ∧
      ∃ zone, (ofPath book folders "place_order").Divides book folders zone ∧ zone.length + 1 = 4 ∧
        ((ofPath book folders "place_order").zone = none ↔ 4 = 1 ∨ zone = [""]) ∧
        ((ofPath book folders "place_order").zone = none ↔ 4 = 1) := by
  intro folders
  have seen : (RuleBook.ofSpecs .basic [] []).toOption.map (fun book =>
      (book.scopes.isMarker (folders.headD "place_order"), folders.findIdx? book.layers.isMarker)) =
      some (false, some 4) := by
    decide +kernel
  obtain ⟨book, accepted, shown⟩ := exists_of_map_toOption seen
  obtain ⟨plain, marked⟩ := Prod.mk.inj shown
  obtain ⟨_, sited, _⟩ := ofPath_by_border book folders "place_order" plain
  obtain ⟨zone, divides, length, absent, named, _⟩ := sited 4 marked (by decide)
  exact ⟨book, accepted, plain, marked, zone, divides, length, absent, named (by decide)⟩

end Discovery

end LayerAtlas
