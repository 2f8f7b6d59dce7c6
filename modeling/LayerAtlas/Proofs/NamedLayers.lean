import LayerAtlas.Config.Layering
import LayerAtlas.Proofs.Outcome
import LayerAtlas.Proofs.Visible
import Mathlib.Data.List.Basic

/-!
# Layers that a configuration names

A view that is to show no layers in particular shows all of them, so a name that went missing on the way
from a configuration to a request could open the view. None does: a configuration is accepted only when each
entry of its list of layers names one, and the request asks for just these. A view then starts from no other
layer.
-/
namespace LayerAtlas

/-! ## Names between blanks -/

section Trim

variable {front word back : String}

/-- A text is what trimming leaves of it, between blanks. -/
theorem exists_of_trimBlank (text : String) :
    ∃ front back, allBlank front = true ∧ allBlank back = true ∧ text = front ++ trimBlank text ++ back := by
  refine ⟨String.ofList (text.toList.takeWhile isBlank),
    String.ofList ((text.toList.dropWhile isBlank).reverse.takeWhile isBlank).reverse, ?_, ?_, ?_⟩
  · simp [allBlank]
  · simp [allBlank]
  · apply String.toList_inj.1
    simp only [trimBlank, String.toList_append, String.toList_ofList]
    rw [List.append_assoc, ← List.reverse_append, List.takeWhile_append_dropWhile, List.reverse_reverse,
      List.takeWhile_append_dropWhile]

theorem dropWhile_isBlank_append {blanks text : List Char} (blank : ∀ c ∈ blanks, isBlank c = true)
    (plain : ∀ c ∈ text.head?, isBlank c = false) : (blanks ++ text).dropWhile isBlank = text := by
  rw [List.dropWhile_append_of_pos blank]
  cases text with
  | nil => rfl
  | cons c rest =>
    have first : isBlank c = false := plain c rfl
    rw [List.dropWhile_cons_of_neg (by simp [first])]

/-- Trimming takes off the blanks around a word. -/
theorem trimBlank_append (before : allBlank front = true) (behind : allBlank back = true)
    (filled : word ≠ "") (plain : ∀ c ∈ word.toList, isBlank c = false) :
    trimBlank (front ++ word ++ back) = word := by
  have letters : word.toList ≠ [] := fun empty => filled (String.toList_inj.1 empty)
  have first : (front.toList ++ (word.toList ++ back.toList)).dropWhile isBlank =
      word.toList ++ back.toList := by
    refine dropWhile_isBlank_append (List.all_eq_true.1 before) fun c head => ?_
    rw [List.head?_append_of_ne_nil _ letters] at head
    exact plain c (List.mem_of_mem_head? head)
  have last : (back.toList.reverse ++ word.toList.reverse).dropWhile isBlank =
      word.toList.reverse := by
    refine dropWhile_isBlank_append (fun c member => ?_) fun c head => ?_
    · exact List.all_eq_true.1 behind c (List.mem_reverse.1 member)
    · exact plain c (List.mem_reverse.1 (List.mem_of_mem_head? head))
  rw [trimBlank, String.toList_append, String.toList_append, List.append_assoc, first,
    List.reverse_append, last, List.reverse_reverse, String.ofList_toList]

end Trim

/-- No blank is a letter of ASCII in upper case. -/
theorem toLower_of_isBlank {c : Char} (blank : isBlank c = true) : c.toLower = c := by
  obtain ⟨range, listed, low, high⟩ := (CharTable.contains_iff _ c).1 blank
  have outside : ∀ range ∈ blankTable, range.2 < 65 ∨ 90 < range.1 := by decide
  have away := outside range listed
  refine dif_neg fun upper => ?_
  have least : 65 ≤ c.toNat := UInt32.le_iff_toNat_le.1 upper.1
  have most : c.toNat ≤ 90 := UInt32.le_iff_toNat_le.1 upper.2
  omega

namespace Layer

variable {layer : Layer} {text : String}

/-- The text is the name of the layer, in whatever case and between whatever blanks. -/
def IsNamedBy (layer : Layer) (text : String) : Prop :=
  ∃ front word back, allBlank front = true ∧ allBlank back = true ∧ text = front ++ word ++ back ∧
    asciiLower word = Naming.name layer

theorem mem_all (layer : Layer) : layer ∈ (Naming.all : List Layer) := by
  cases layer <;> decide

theorem ofName?_name (layer : Layer) : Naming.ofName? (Naming.name layer) = some layer := by
  cases layer <;> decide

theorem name_plain (layer : Layer) :
    Naming.name layer ≠ "" ∧ ∀ c ∈ (Naming.name layer).toList, isBlank c = false := by
  have full : Naming.name layer ≠ "" := by cases layer <;> decide
  have letters : (Naming.name layer).toList.any isBlank = false := by cases layer <;> decide
  refine ⟨full, fun c member => ?_⟩
  simpa using List.any_eq_false.1 letters c member

/-- A layer is read where its name stands. -/
theorem ofName?_eq_some_iff : ofName? text = some layer ↔ layer.IsNamedBy text := by
  constructor
  · intro found
    obtain ⟨front, back, before, behind, divided⟩ := exists_of_trimBlank text
    exact ⟨front, _, back, before, behind, divided, (Naming.name_of_ofName? found).symm⟩
  · rintro ⟨front, word, back, before, behind, rfl, named⟩
    obtain ⟨full, letters⟩ := layer.name_plain
    have filled : word ≠ "" := by
      rintro rfl
      exact full named.symm
    have plain : ∀ c ∈ word.toList, isBlank c = false := by
      intro c member
      by_contra blank
      rw [Bool.not_eq_false] at blank
      have listed : c ∈ (Naming.name layer).toList := by
        rw [← named, asciiLower, String.toList_ofList, ← toLower_of_isBlank blank]
        exact List.mem_map_of_mem member
      rw [letters c listed] at blank
      cases blank
    rw [ofName?, trimBlank_append before behind filled plain, named, ofName?_name]

end Layer

/-! ## Accepted configurations -/

namespace Config

variable {config : Config}

/-- The ways in which a configuration comes to be accepted. -/
inductive Accepted (config : Config) : Prop where
  | validated (passes : config.validate = .ok ())
  | read (text : String) (success : ofText text = .ok config)
  | loaded (reader : TextReader) (disk : FileSystem) (project : Path) (env : Environment)
      (overrides : Overrides) (success : load reader disk project env overrides = .ok config)

/-- What is validated before it is given passes. -/
theorem validate_of_given {other : Config}
    (success : (do other.validate; Except.ok other) = Except.ok config) :
    config.validate = .ok () := by
  obtain ⟨_, valid, given⟩ := exists_of_bind success
  cases given
  exact valid

theorem Accepted.validate (accepted : config.Accepted) : config.validate = .ok () := by
  cases accepted with
  | validated passes => exact passes
  | read text success =>
    obtain ⟨_, _, given⟩ := exists_of_bind success
    exact validate_of_given given
  | loaded reader disk project env overrides success =>
    obtain ⟨_, _, success⟩ := exists_of_bind success
    obtain ⟨_, _, given⟩ := exists_of_bind success
    exact validate_of_given given

/-- Every entry of an accepted list of layers names one. -/
theorem Accepted.exists_layer (accepted : config.Accepted) {entry : String}
    (listed : entry ∈ config.view.layers) : ∃ layer : Layer, layer.IsNamedBy entry := by
  have passes := accepted.validate
  unfold Config.validate at passes
  split at passes
  · cases passes
  · split at passes
    · cases passes
    · split at passes
      · cases passes
      · next known =>
        have read := List.find?_eq_none.1 known entry listed
        rw [Option.isNone_iff_eq_none] at read
        obtain ⟨layer, found⟩ := Option.ne_none_iff_exists'.1 read
        exact ⟨layer, Layer.ofName?_eq_some_iff.1 found⟩

end Config

/-! ## Requests -/

namespace ViewRequest

/-- A request asks for the layers that entries name. -/
theorem mem_layers_ofConfig {config : ViewConfig} {layer : Layer} :
    layer ∈ (ofConfig config).layers ↔ ∃ entry ∈ config.layers, layer.IsNamedBy entry := by
  simp only [ofConfig, layerSet, List.mem_filter, layer.mem_all, true_and, List.contains_iff_mem,
    List.mem_filterMap, Layer.ofName?_eq_some_iff]

/-- A request for some layers selects nodes of these only. -/
theorem layer_mem_of_selects {request : ViewRequest} {node : Node} (asked : request.layers ≠ [])
    (selected : request.selects node = true) :
    ∃ passport, node.passport = some passport ∧ passport.layer ∈ request.layers := by
  obtain ⟨passport, carried, admitted⟩ := (Option.any_eq_true _ _).1 selected
  refine ⟨passport, carried, ?_⟩
  simp only [admits, Bool.and_eq_true, Bool.or_eq_true, List.isEmpty_iff, asked, false_or,
    List.contains_iff_mem] at admitted
  exact admitted.2.1.2

/-- No entry of an accepted list is lost on the way to the request. -/
theorem exists_layer_of_listed {config : Config} (accepted : config.Accepted) {entry : String}
    (listed : entry ∈ config.view.layers) :
    ∃ layer ∈ (ofConfig config.view).layers, layer.IsNamedBy entry := by
  obtain ⟨layer, named⟩ := accepted.exists_layer listed
  exact ⟨layer, mem_layers_ofConfig.2 ⟨entry, listed, named⟩, named⟩

/-- So an accepted list does not come to ask for nothing. -/
theorem layers_ofConfig_eq_nil_iff {config : Config} (accepted : config.Accepted) :
    (ofConfig config.view).layers = [] ↔ config.view.layers = [] := by
  rw [List.eq_nil_iff_forall_not_mem, List.eq_nil_iff_forall_not_mem]
  constructor
  · intro unasked entry listed
    obtain ⟨layer, asked, _⟩ := exists_layer_of_listed accepted listed
    exact unasked layer asked
  · intro unlisted layer asked
    obtain ⟨entry, listed, _⟩ := mem_layers_ofConfig.1 asked
    exact unlisted entry listed

/-- The layers that an accepted configuration names are those that a view is restricted to. The request that
it makes asks for just these, no entry of the list is lost, and nothing is asked for only when nothing is
listed. So where the list is not empty, every request for its layers starts from nodes of layers that entries
name. -/
theorem ofConfig_asks_named {config : Config} (accepted : config.Accepted) :
    (∀ layer, layer ∈ (ofConfig config.view).layers ↔
      ∃ entry ∈ config.view.layers, layer.IsNamedBy entry) ∧
    (∀ entry ∈ config.view.layers, ∃ layer ∈ (ofConfig config.view).layers, layer.IsNamedBy entry) ∧
    ((ofConfig config.view).layers = [] ↔ config.view.layers = []) ∧
    (config.view.layers ≠ [] → ∀ graph request, request.layers = (ofConfig config.view).layers →
      ∀ id ∈ initialFocus graph request, ∃ node ∈ graph.nodeList, node.id = id ∧
        ∃ passport, node.passport = some passport ∧
          ∃ entry ∈ config.view.layers, passport.layer.IsNamedBy entry) := by
  have empty := layers_ofConfig_eq_nil_iff accepted
  refine ⟨fun layer => mem_layers_ofConfig, fun _ => exists_layer_of_listed accepted, empty, ?_⟩
  intro some graph request same id member
  obtain ⟨node, standing, selected, named⟩ := mem_initialFocus_iff.1 member
  have asked : request.layers ≠ [] := by rwa [same, Ne, empty]
  obtain ⟨passport, carried, admitted⟩ := layer_mem_of_selects asked selected
  rw [same] at admitted
  exact ⟨node, standing, named, passport, carried, mem_layers_ofConfig.1 admitted⟩

/-- Two layers, one of them named twice. -/
def namingConfig : Config :=
  { view := { layers := ["\t Domain", "APP", "app "] } }

def namingText : String :=
  "[view]\nlayers = [\"\\t Domain\", \"APP\", \"app \"]\n"

/-- A module in one of these layers and one in another. -/
def layeredGraph : Graph :=
  [("crm.order", Layer.domain), ("crm.mail", Layer.ports)].foldl
    (fun graph module => graph.insert
      { Node.discovered module.1 ⟨module.1⟩ with
        status := .classified, passport := some { Passport.unresolved with layer := module.2 } })
    .empty

theorem ofConfig_asks_named_domain :
    Config.ofText namingText = .ok namingConfig ∧
      (ofConfig namingConfig.view).layers = [.domain, .app] ∧
      (initialFocus layeredGraph (ofConfig namingConfig.view)).names = ["crm.order"] ∧
      ∀ id ∈ initialFocus layeredGraph (ofConfig namingConfig.view), ∃ node ∈ layeredGraph.nodeList,
        node.id = id ∧ ∃ passport, node.passport = some passport ∧
          ∃ entry ∈ namingConfig.view.layers, passport.layer.IsNamedBy entry := by
  have success : Config.ofText namingText = .ok namingConfig := by decide +kernel
  obtain ⟨_, _, _, named⟩ := ofConfig_asks_named (.read namingText success)
  exact ⟨success, by decide +kernel, by decide +kernel, named (by decide) layeredGraph _ rfl⟩

end ViewRequest

end LayerAtlas
