import LayerAtlas.Proofs.SourceRoot

/-!
# Contexts asked for

A list of contexts opens the focus directory to all nodes of these contexts and closes the view to all
others. Taken together the directory no longer matters: a view starts from the nodes of these contexts
that its layers and its wish to see assets admit. A longer list starts from more of them, and imports lead
from there at least as far.
-/
namespace LayerAtlas

variable {graph next : Graph} {request : ViewRequest}

/-- The lists of layers and the wish to see assets let a module through. -/
def ViewRequest.AdmitsKind (request : ViewRequest) (passport : Passport) : Prop :=
  (request.includeAssets = true ∨ passport.role.isAsset = false) ∧
    (request.layers = [] ∨ passport.layer ∈ request.layers)

/-! The focus. -/

namespace NameSet

theorem isEmpty_eq_false_iff {set : NameSet} : set.isEmpty = false ↔ ∃ name, name ∈ set := by
  rw [isEmpty, List.isEmpty_eq_false_iff_exists_mem]
  rfl

end NameSet

namespace ViewRequest

theorem admits_iff (asked : ∃ name, name ∈ request.contexts) (passport : Passport) :
    request.admits passport = true ↔
      passport.context ∈ request.contexts ∧ request.AdmitsKind passport := by
  have restricted := NameSet.isEmpty_eq_false_iff.2 asked
  simp only [admits, AdmitsKind, restricted, Bool.and_eq_true, Bool.or_eq_true, Bool.not_eq_true',
    Bool.false_or, List.isEmpty_iff, List.contains_iff_mem, NameSet.contains_iff]
  exact And.comm

/-- Where contexts are asked for, a view starts from their nodes, wherever these lie. -/
theorem selects_iff (asked : ∃ name, name ∈ request.contexts) (node : Node) :
    request.selects node = true ↔
      ∃ passport, node.passport = some passport ∧ passport.context ∈ request.contexts ∧
        request.AdmitsKind passport := by
  have candidate : ∀ passport : Passport, passport.context ∈ request.contexts →
      request.isCandidate node.path passport = true := by
    intro passport listed
    unfold isCandidate
    split
    · rfl
    · rw [NameSet.contains_iff.2 listed, Bool.or_true]
  simp only [selects, Option.any_eq_true, Bool.and_eq_true, admits_iff asked]
  constructor
  · rintro ⟨passport, carried, _, admitted⟩
    exact ⟨passport, carried, admitted⟩
  · rintro ⟨passport, carried, listed, kind⟩
    exact ⟨passport, carried, candidate passport listed, listed, kind⟩

end ViewRequest

theorem mem_initialFocus_of_asked (asked : ∃ name, name ∈ request.contexts) (graph : Graph)
    (id : String) :
    id ∈ initialFocus graph request ↔
      ∃ node ∈ graph.nodeList, node.id = id ∧ ∃ passport, node.passport = some passport ∧
        passport.context ∈ request.contexts ∧ request.AdmitsKind passport := by
  simp only [mem_initialFocus_iff, ViewRequest.selects_iff asked]
  constructor
  · rintro ⟨node, listed, selected, rfl⟩
    exact ⟨node, listed, rfl, selected⟩
  · rintro ⟨node, listed, rfl, selected⟩
    exact ⟨node, listed, selected, rfl⟩

/-- Where contexts are asked for, the focus directory does not matter. -/
theorem initialFocus_refocus (asked : ∃ name, name ∈ request.contexts) (graph : Graph)
    (focus : Option Path) :
    initialFocus graph { request with focus := focus } = initialFocus graph request := by
  have selects : ({ request with focus := focus } : ViewRequest).selects = request.selects := by
    funext node
    have refocused : ∃ name, name ∈ ({ request with focus := focus } : ViewRequest).contexts := asked
    rw [Bool.eq_iff_iff, ViewRequest.selects_iff refocused, ViewRequest.selects_iff asked]
    rfl
  unfold initialFocus
  rw [selects]

/-- A longer list of contexts starts from more nodes. -/
theorem initialFocus_subset (asked : ∃ name, name ∈ request.contexts) {wider : NameSet}
    (within : ∀ name ∈ request.contexts, name ∈ wider) {id : String}
    (member : id ∈ initialFocus graph request) :
    id ∈ initialFocus graph { request with contexts := wider } := by
  have widened : ∃ name, name ∈ ({ request with contexts := wider } : ViewRequest).contexts := by
    obtain ⟨name, listed⟩ := asked
    exact ⟨name, within name listed⟩
  obtain ⟨node, listed, named, passport, carried, context, kind⟩ :=
    (mem_initialFocus_of_asked asked graph id).1 member
  exact (mem_initialFocus_of_asked widened graph id).2
    ⟨node, listed, named, passport, carried, within _ context, kind⟩

/-! Expansion. -/

theorem expand_subset {seeds wider : NameSet} (within : ∀ id ∈ seeds, id ∈ wider) {depth : Nat}
    {id : String} (member : id ∈ expand graph seeds depth) : id ∈ expand graph wider depth := by
  rw [mem_expand_iff] at member ⊢
  rcases member with seed | ⟨count, seed, away, near, listed, path⟩
  · exact .inl (within id seed)
  · exact .inr ⟨count, seed, away, near, within seed listed, path⟩

/-! A change that keeps what the focus and the expansion look at. -/

section Maps

variable {change : String → Node → Node}

theorem hops_maps_iff (maps : Graph.Maps change graph next)
    (imports : ∀ id node, (change id node).imports = node.imports) {count : Nat}
    {source target : String} : Hops next count source target ↔ Hops graph count source target := by
  constructor
  · intro path
    induction path with
    | here id => exact .here id
    | @step count source between target node found imported rest ih =>
      rw [maps source] at found
      obtain ⟨before, standing, rfl⟩ := Option.map_eq_some_iff.1 found
      exact .step standing (imports source before ▸ imported) ih
  · intro path
    induction path with
    | here id => exact .here id
    | @step count source between target node found imported rest ih =>
      have moved : next.get? source = some (change source node) := by
        rw [maps source, found, Option.map_some]
      exact .step moved ((imports source node).symm ▸ imported) ih

theorem mem_initialFocus_maps_iff (maps : Graph.Maps change graph next)
    (ids : ∀ id node, (change id node).id = node.id)
    (selects : ∀ id node, request.selects (change id node) = request.selects node) {id : String} :
    id ∈ initialFocus next request ↔ id ∈ initialFocus graph request := by
  simp only [mem_initialFocus_iff, Graph.mem_nodeList_iff]
  constructor
  · rintro ⟨node, ⟨key, found⟩, selected, rfl⟩
    rw [maps key] at found
    obtain ⟨before, standing, rfl⟩ := Option.map_eq_some_iff.1 found
    exact ⟨before, ⟨key, standing⟩, selects key before ▸ selected, (ids key before).symm⟩
  · rintro ⟨node, ⟨key, standing⟩, selected, rfl⟩
    have moved : next.get? key = some (change key node) := by
      rw [maps key, standing, Option.map_some]
    exact ⟨_, ⟨key, moved⟩, (selects key node).symm ▸ selected, ids key node⟩

/-- The same is visible before and after such a change. -/
theorem mem_visibleIds_maps_iff (maps : Graph.Maps change graph next)
    (ids : ∀ id node, (change id node).id = node.id)
    (imports : ∀ id node, (change id node).imports = node.imports)
    (selects : ∀ id node, request.selects (change id node) = request.selects node) {id : String} :
    id ∈ Atlas.visibleIds next request ↔ id ∈ Atlas.visibleIds graph request := by
  unfold Atlas.visibleIds
  simp only [mem_expand_iff, mem_initialFocus_maps_iff maps ids selects, hops_maps_iff maps imports]

end Maps

theorem ViewRequest.selects_finalizedIn (request : ViewRequest) (visible : List String) (id : String)
    (node : Node) : request.selects (node.finalizedIn visible id) = request.selects node := by
  simp [selects]

/-! Whole runs. -/

namespace Atlas

variable {reader : ImportReader} {book : RuleBook} {disk : FileSystem} {project : Path}
  {config : Config} {result : Recorded Atlas}

theorem visibleIds_anchorFocus (asked : ∃ name, name ∈ request.contexts) (graph : Graph)
    (root : Path) : visibleIds graph (request.anchorFocus root) = visibleIds graph request := by
  unfold visibleIds
  rw [show initialFocus graph (request.anchorFocus root) = initialFocus graph request from
    initialFocus_refocus asked graph _]
  rfl

/-- Where contexts are asked for, a run is the same with any focus directory and without one. -/
theorem run_refocus (asked : ∃ name, name ∈ request.contexts) (focus : Option Path) :
    run reader book disk project config { request with focus := focus } =
      run reader book disk project config request := by
  have visible : ∀ graph root,
      visibleIds graph (({ request with focus := focus } : ViewRequest).anchorFocus root) =
        visibleIds graph (request.anchorFocus root) := by
    intro graph root
    have refocused : ∃ name, name ∈ ({ request with focus := focus } : ViewRequest).contexts := asked
    rw [visibleIds_anchorFocus refocused, visibleIds_anchorFocus asked]
    unfold visibleIds
    rw [initialFocus_refocus asked]
  unfold run
  simp only [visible]

/-- A run shows what its request makes visible in a graph that does not depend on the request. -/
theorem exists_run_of_run (success : run reader book disk project config request = .ok result) :
    ∃ graph root, result.data.visible = visibleIds graph (request.anchorFocus root) ∧
      Graph.Maps (Node.finalizedIn result.data.visible.names) graph result.data.graph ∧
      ∀ other, ∃ otherResult, run reader book disk project config other = .ok otherResult ∧
        otherResult.data.visible = visibleIds graph (other.anchorFocus root) := by
  obtain ⟨_, events, built, rfl, scanned, linked, visible, finalized, _, _⟩ := run_eq_ok success
  have maps := (finalize_spec (built.data.graph.classify book
    (Build.namingRoot disk (config.layout.sourceRoot project))).graph result.data.visible).1
  rw [← finalized] at maps
  refine ⟨_, _, visible, maps, fun other => ?_⟩
  obtain ⟨otherResult, otherSuccess⟩ := exists_run scanned linked book other
  refine ⟨otherResult, otherSuccess, ?_⟩
  obtain ⟨_, otherEvents, otherBuilt, rfl, sameScan, sameLink, otherVisible, _⟩ :=
    run_eq_ok otherSuccess
  obtain rfl : events = otherEvents := Except.ok.inj (scanned.symm.trans sameScan)
  obtain rfl : built = otherBuilt := Except.ok.inj (linked.symm.trans sameLink)
  exact otherVisible

/-- The contexts that a request asks for decide over the focus directory. A run is the same with any such
directory. It starts from the nodes of these contexts that the layers and the wish to see assets admit,
and shows what imports reach from them. Asking for more contexts hides nothing that was visible. -/
theorem asked_contexts_override_focus (reader : ImportReader) (book : RuleBook) (disk : FileSystem)
    (project : Path) (config : Config) {request : ViewRequest}
    (asked : ∃ name, name ∈ request.contexts) :
    (∀ focus, run reader book disk project config { request with focus := focus } =
      run reader book disk project config request) ∧
    (∀ graph id, id ∈ initialFocus graph request ↔
      ∃ node ∈ graph.nodeList, node.id = id ∧ ∃ passport, node.passport = some passport ∧
        passport.context ∈ request.contexts ∧
        (request.includeAssets = true ∨ passport.role.isAsset = false) ∧
        (request.layers = [] ∨ passport.layer ∈ request.layers)) ∧
    ∀ result, run reader book disk project config request = .ok result →
      (∀ id, id ∈ result.data.visible ↔
        id ∈ expand result.data.graph (initialFocus result.data.graph request) request.depth) ∧
      ∀ wider : NameSet, (∀ name ∈ request.contexts, name ∈ wider) →
        ∃ widened, run reader book disk project config { request with contexts := wider } =
            .ok widened ∧
          ∀ id ∈ result.data.visible, id ∈ widened.data.visible := by
  refine ⟨run_refocus asked, mem_initialFocus_of_asked asked, fun result success => ?_⟩
  obtain ⟨graph, root, visible, maps, others⟩ := exists_run_of_run success
  rw [visibleIds_anchorFocus asked] at visible
  constructor
  · intro id
    have same : id ∈ visibleIds result.data.graph request ↔ id ∈ visibleIds graph request :=
      mem_visibleIds_maps_iff maps (Node.id_finalizedIn _) (Node.imports_finalizedIn _)
        (request.selects_finalizedIn _)
    rw [visible]
    exact same.symm
  · intro wider within
    have widens : ∃ name, name ∈ ({ request with contexts := wider } : ViewRequest).contexts := by
      obtain ⟨name, listed⟩ := asked
      exact ⟨name, within name listed⟩
    obtain ⟨widened, widenedRun, shown⟩ := others { request with contexts := wider }
    refine ⟨widened, widenedRun, fun id member => ?_⟩
    rw [visible] at member
    rw [shown, visibleIds_anchorFocus widens]
    exact expand_subset (fun seed => initialFocus_subset asked within) member

/-- A directory of the source root is the focus, by its absolute path, and another one by a relative path. -/
theorem asked_contexts_override_focus_shop :
    (∃ name, name ∈ shopRequest.contexts) ∧
      ∃ result, run SourceText.readImports .standard shopDisk ⟨"/srv/shop"⟩ shopConfig shopRequest =
          .ok result ∧
        run SourceText.readImports .standard shopDisk ⟨"/srv/shop"⟩ shopConfig
          { shopRequest with focus := some ⟨"/srv/shop/src/crm"⟩ } = .ok result ∧
        run SourceText.readImports .standard shopDisk ⟨"/srv/shop"⟩ shopConfig
          { shopRequest with focus := some ⟨"crm"⟩ } = .ok result := by
  have asked : ∃ name, name ∈ shopRequest.contexts := ⟨"billing", by decide⟩
  obtain ⟨refocused, _⟩ := asked_contexts_override_focus SourceText.readImports .standard shopDisk
    ⟨"/srv/shop"⟩ shopConfig asked
  have scanned : Scan.events shopDisk shopConfig.scan (shopConfig.layout.sourceRoot ⟨"/srv/shop"⟩) =
      .ok (.excludedDir :: shopFiles.map .found) := by decide +kernel
  obtain ⟨result, success⟩ :=
    exists_run_of_skip scanned rfl SourceText.readImports .standard shopRequest
  refine ⟨asked, result, success, ?_, ?_⟩
  · rw [refocused, success]
  · rw [refocused, success]

end Atlas

end LayerAtlas
