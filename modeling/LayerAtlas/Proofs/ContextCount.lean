import LayerAtlas.Proofs.ContextSummary
import Mathlib.Algebra.BigOperators.Group.List.Lemmas

/-!
# What the summaries account for

Every visible node with a passport is counted once, by the summary of its own context. A summary stands under
its name, so the summaries come in the order of their names; and its count is the number of times that its name
occurs among the contexts of the passports, so the counts add up to the number of passports.
-/
namespace LayerAtlas

namespace ContextSummary

variable {passports : List Passport} {summary : ContextSummary} {name : String}

/-- Counting adds the layers of the passports. -/
theorem mem_layers_foldl_count (passports : List Passport) (summary : ContextSummary)
    (layer : Layer) :
    layer ∈ (passports.foldl count summary).layers ↔
      layer ∈ summary.layers ∨ ∃ passport ∈ passports, passport.layer = layer := by
  induction passports generalizing summary with
  | nil => simp
  | cons head tail ih =>
    have known : layer ∈ (Naming.all : List Layer) := by cases layer <;> decide
    have counted : layer ∈ (summary.count head).layers ↔
        layer ∈ summary.layers ∨ head.layer = layer := by
      simp [count, known, eq_comm (a := layer)]
    rw [List.foldl_cons, ih, counted]
    simp [or_assoc]

/-- The layers stay in the order of their declaration. -/
theorem sublist_layers_foldl_count (passports : List Passport) {summary : ContextSummary}
    (ordered : summary.layers.Sublist Naming.all) :
    (passports.foldl count summary).layers.Sublist Naming.all := by
  induction passports generalizing summary with
  | nil => exact ordered
  | cons head tail ih =>
    apply ih
    exact List.filter_sublist

/-- The summary of a context has the layers of its passports. -/
theorem layers_ofContext (made : ofContext passports = some summary) :
    summary.layers.Sublist Naming.all ∧
      ∀ layer, layer ∈ summary.layers ↔ ∃ passport ∈ passports, passport.layer = layer := by
  cases passports with
  | nil => cases made
  | cons first rest =>
    rw [ofContext_cons] at made
    obtain rfl := Option.some.inj made
    constructor
    · apply sublist_layers_foldl_count
      have known : first.layer ∈ (Naming.all : List Layer) := by cases first.layer <;> decide
      exact List.singleton_sublist.2 known
    · intro layer
      rw [mem_layers_foldl_count]
      simp [ofPassport, eq_comm]

/-- A summary stands under its own name and counts the passports with that name. -/
theorem spec_of_get? (found : (ofPassports passports).get? name = some summary) :
    summary.name = name ∧ summary.nodeCount = (passports.map (·.context)).count name := by
  rw [get?_ofPassports] at found
  obtain ⟨first, rest, only, describes, counted⟩ := ofContext_eq_some found
  have member : first ∈ passports.filter (·.context = name) := by simp [only]
  have own : first.context = name := by simpa using List.of_mem_filter member
  refine ⟨describes.context.symm.trans own, ?_⟩
  rw [counted, List.count, List.countP_map, List.countP_eq_length_filter]
  congr 1

/-- A summary stands under each name that some passport has as its context, and under no other. -/
theorem mem_keys_ofPassports :
    name ∈ (ofPassports passports).keys ↔ passports.filter (·.context = name) ≠ [] := by
  rw [Keyed.mem_keys_iff, Keyed.contains_eq_isSome, get?_ofPassports, Option.isSome_iff_ne_none,
    Ne, ofContext_eq_none]

theorem map_name_ofPassports (passports : List Passport) :
    (ofPassports passports).values.map (·.name) = (ofPassports passports).keys := by
  unfold Keyed.values Keyed.keys
  rw [List.map_map]
  apply List.map_congr_left
  intro entry member
  exact (spec_of_get? (Keyed.get?_eq_some_iff.2 member)).1

/-- The summaries come in strictly increasing order of their names. -/
theorem increasing_ofPassports (passports : List Passport) :
    (ofPassports passports).values.Pairwise fun one next => one.name < next.name := by
  have sorted := Keyed.sorted_keys (ofPassports passports)
  rw [← map_name_ofPassports, List.pairwise_map] at sorted
  exact sorted

/-- The counts of the summaries add up to the number of passports. -/
theorem sum_nodeCount_ofPassports (passports : List Passport) :
    ((ofPassports passports).values.map (·.nodeCount)).sum = passports.length := by
  let contexts := passports.map (·.context)
  have counts : (ofPassports passports).values.map (·.nodeCount) =
      (ofPassports passports).keys.map fun name => contexts.count name := by
    unfold Keyed.values Keyed.keys
    rw [List.map_map, List.map_map]
    apply List.map_congr_left
    intro entry member
    exact (spec_of_get? (Keyed.get?_eq_some_iff.2 member)).2
  have distinct : (ofPassports passports).keys.Perm contexts.dedup := by
    apply (List.perm_ext_iff_of_nodup (nodup_of_increasing (Keyed.sorted_keys _))
      contexts.nodup_dedup).2
    intro name
    rw [List.mem_dedup, mem_keys_ofPassports, Ne, List.filter_eq_nil_iff]
    simp [contexts]
  calc ((ofPassports passports).values.map (·.nodeCount)).sum
      = ((ofPassports passports).keys.map fun name => contexts.count name).sum := by rw [counts]
    _ = (contexts.dedup.map fun name => contexts.count name).sum := (distinct.map _).sum_eq
    _ = contexts.length := List.sum_map_count_dedup_eq_length contexts
    _ = passports.length := List.length_map _

end ContextSummary

namespace Graph

/-- The passport of the node under an id, if there is a node and it has one. -/
def passportAt? (graph : Graph) (id : String) : Option Passport :=
  (graph.get? id).bind (·.passport)

/-- The ids among these whose nodes have a passport with this context name. -/
def idsInContext (graph : Graph) (ids : NameSet) (name : String) : List String :=
  ids.names.filter fun id => (graph.passportAt? id).any (·.context = name)

end Graph

namespace View

variable {graph : Graph} {visible : NameSet}

theorem passports_ofGraph (graph : Graph) (visible : NameSet) :
    (ofGraph graph visible).nodes.filterMap (·.passport) =
      visible.names.filterMap graph.passportAt? := by
  simp only [ofGraph, List.filterMap_filterMap]
  congr 1
  funext id
  cases found : graph.get? id <;> simp [Graph.passportAt?, found]

theorem mem_counted_ofGraph {name : String} {passport : Passport} :
    passport ∈ (ofGraph graph visible).counted name ↔
      ∃ id ∈ graph.idsInContext visible name, graph.passportAt? id = some passport := by
  simp only [counted, passports_ofGraph, Graph.idsInContext, List.mem_filter, List.mem_filterMap]
  constructor
  · rintro ⟨⟨id, shown, found⟩, own⟩
    exact ⟨id, ⟨shown, by simpa [found] using own⟩, found⟩
  · rintro ⟨id, ⟨shown, own⟩, found⟩
    exact ⟨⟨id, shown, found⟩, by simpa [found] using own⟩

theorem length_counted_ofGraph (graph : Graph) (visible : NameSet) (name : String) :
    ((ofGraph graph visible).counted name).length = (graph.idsInContext visible name).length := by
  simp only [counted, passports_ofGraph, Graph.idsInContext, ← List.countP_eq_length_filter,
    List.countP_filterMap]
  congr 1
  funext id
  cases graph.passportAt? id <;> simp

/-- A name has a summary just in case some counted passport has it. -/
theorem exists_name_iff {name : String} :
    (∃ summary ∈ (ofGraph graph visible).contexts, summary.name = name) ↔
      (ofGraph graph visible).counted name ≠ [] := by
  rw [← List.mem_map]
  change name ∈ (ContextSummary.ofPassports _).values.map (·.name) ↔ _
  rw [ContextSummary.map_name_ofPassports]
  exact ContextSummary.mem_keys_ofPassports

/-- The summaries of a view account for every visible node with a passport. -/
theorem ofGraph_contexts_account (graph : Graph) (visible : NameSet) :
    let view := ofGraph graph visible
    view.contexts.Pairwise (fun one next => one.name < next.name) ∧
    (∀ name, (∃ summary ∈ view.contexts, summary.name = name) ↔
      graph.idsInContext visible name ≠ []) ∧
    (∀ summary ∈ view.contexts,
      summary.nodeCount = (graph.idsInContext visible summary.name).length ∧
      summary.layers.Sublist Naming.all ∧
      ∀ layer, layer ∈ summary.layers ↔ ∃ id ∈ graph.idsInContext visible summary.name,
        ∃ passport, graph.passportAt? id = some passport ∧ passport.layer = layer) ∧
    (view.contexts.map (·.nodeCount)).sum = view.nodes.countP (·.passport.isSome) := by
  intro view
  refine ⟨ContextSummary.increasing_ofPassports _, fun name => ?_, fun summary shown => ?_, ?_⟩
  · rw [exists_name_iff, ← List.length_pos_iff, length_counted_ofGraph, List.length_pos_iff]
  · have made := mem_contexts_ofGraph.1 shown
    obtain ⟨_, _, _, _, counted⟩ := ContextSummary.ofContext_eq_some made
    obtain ⟨ordered, layers⟩ := ContextSummary.layers_ofContext made
    refine ⟨counted.trans (length_counted_ofGraph graph visible summary.name), ordered, ?_⟩
    intro layer
    simp only [layers, mem_counted_ofGraph]
    constructor
    · rintro ⟨passport, ⟨id, member, found⟩, same⟩
      exact ⟨id, member, passport, found, same⟩
    · rintro ⟨id, member, passport, found, same⟩
      exact ⟨passport, ⟨id, member, found⟩, same⟩
  · exact (ContextSummary.sum_nodeCount_ofPassports _).trans List.length_filterMap_eq_countP

end View

end LayerAtlas
