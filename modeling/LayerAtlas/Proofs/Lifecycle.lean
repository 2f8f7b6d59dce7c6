import LayerAtlas.Proofs.Classification

/-!
# The lifecycle under any calls

Nodes enter a graph under fresh ids and are changed by three calls only, in any order and on any of
them. Each call keeps what the lifecycle promises of a node, and takes nothing back: the status does
not fall and a passport stays. The calls are also given as they write the fields of a node one after
the other, where a write made before an error would stay; a call that fails has made none.
-/
namespace LayerAtlas

/-- What every node keeps: the state of its lifecycle, and that it does not import itself. -/
structure Node.WellFormed (node : Node) : Prop extends node.Lawful where
  selfless : node.id ∉ node.imports

/-- What no call takes back. -/
structure Node.Precedes (node later : Node) : Prop where
  id : later.id = node.id
  status : node.status.rank ≤ later.status.rank
  passport : node.passport.isSome = true → later.passport = node.passport

namespace Node

variable {node middle later : Node}

theorem wellFormed_discovered (id : String) (path : Path) : (discovered id path).WellFormed where
  carries := nofun
  classified := nofun
  selfless := NameSet.not_mem_empty id

theorem Precedes.refl (node : Node) : node.Precedes node :=
  ⟨rfl, Nat.le_refl _, fun _ => rfl⟩

theorem Precedes.trans (first : node.Precedes middle) (second : middle.Precedes later) :
    node.Precedes later where
  id := second.id.trans first.id
  status := Nat.le_trans first.status second.status
  passport := by
    intro carries
    have kept := first.passport carries
    exact (second.passport (kept ▸ carries)).trans kept

theorem WellFormed.addImport (wellFormed : node.WellFormed) (target : String) :
    (node.addImport target).WellFormed ∧ node.Precedes (node.addImport target) := by
  unfold Node.addImport
  split
  · exact ⟨wellFormed, .refl node⟩
  · next other =>
    refine ⟨⟨⟨wellFormed.carries, wellFormed.classified⟩, ?_⟩, ⟨rfl, Nat.le_refl _, fun _ => rfl⟩⟩
    intro self
    rcases NameSet.mem_insert.1 self with same | old
    · exact other same.symm
    · exact wellFormed.selfless old

/-- A node moves forward only, and to the end only with a passport. -/
theorem advance_eq_ok {next : Status} (success : node.advance next = .ok later) :
    later = { node with status := next } ∧ node.status.rank ≤ next.rank ∧
      (next = .finalized → node.passport.isSome = true) := by
  unfold advance at success
  split at success
  · cases success
  · next forward =>
    split at success
    · cases success
    · next allowed =>
      cases success
      refine ⟨rfl, Nat.le_of_not_lt forward, fun last => ?_⟩
      rw [Option.isSome_iff_ne_none]
      exact fun bare => allowed ⟨last, bare⟩

theorem WellFormed.advance (wellFormed : node.WellFormed) {next : Status}
    (success : node.advance next = .ok later) : later.WellFormed ∧ node.Precedes later := by
  obtain ⟨rfl, forward, allowed⟩ := advance_eq_ok success
  refine ⟨⟨⟨allowed, fun carries => ?_⟩, wellFormed.selfless⟩, ⟨rfl, forward, fun _ => rfl⟩⟩
  exact Nat.le_trans (wellFormed.classified carries) forward

/-- A passport can always be attached: a node without one has not come to the end. -/
theorem WellFormed.attachPassport (wellFormed : node.WellFormed) (passport : Passport) :
    ∃ after, node.attachPassport passport = .ok after ∧
      after.passport = some (node.passport.getD passport) ∧ after.WellFormed ∧
      node.Precedes after := by
  cases carried : node.passport with
  | some given =>
    refine ⟨node, ?_, carried, wellFormed, .refl node⟩
    rw [Node.attachPassport, carried, Option.isSome_some, if_pos rfl]
  | none =>
    have lawful := wellFormed.toLawful
    have bare : node.passport.isSome = false := by rw [carried, Option.isSome_none]
    refine ⟨_, lawful.attachPassport bare passport, rfl,
      ⟨⟨fun _ => rfl, fun _ => Nat.le_refl _⟩, wellFormed.selfless⟩,
      ⟨rfl, lawful.rank_le_classified bare, fun given => ?_⟩⟩
    rw [bare] at given
    cases given

end Node

/-- The end of a call that leaves a state alone where it fails. -/
def atomic {ε σ : Type} (state : σ) : Except ε σ → EStateM.Result ε σ Unit
  | .ok next => .ok () next
  | .error fault => .error fault state

section InPlace

variable {ε σ : Type} {call : EStateM ε σ Unit} {state next : σ} {fault : ε}

theorem run_get_bind (step : σ → EStateM ε σ Unit) (state : σ) :
    (get >>= step).run state = (step state).run state := rfl

theorem run_bind_of_ok (ends : call.run state = .ok () next) (rest : Unit → EStateM ε σ Unit) :
    (call >>= rest).run state = (rest ()).run next := by
  change EStateM.bind call rest state = _
  change call state = _ at ends
  rw [EStateM.bind, ends]
  rfl

/-- What would follow a call that fails does not run. -/
theorem run_bind_of_error (ends : call.run state = .error fault next)
    (rest : Unit → EStateM ε σ Unit) : (call >>= rest).run state = .error fault next := by
  change EStateM.bind call rest state = _
  change call state = _ at ends
  rw [EStateM.bind, ends]

end InPlace

/-- A call on a node. -/
inductive NodeCall where
  | addImport (target : String)
  | advance (next : Status)
  | attachPassport (passport : Passport)

namespace NodeCall

/-- What a call makes of a node, if it does not fail. -/
def apply (node : Node) : NodeCall → Except LifecycleError Node
  | addImport target => .ok (node.addImport target)
  | advance next => node.advance next
  | attachPassport passport => node.attachPassport passport

/-- The node behind a call that is allowed to fail. -/
def after (node : Node) (call : NodeCall) : Node :=
  match call.apply node with
  | .ok next => next
  | .error _ => node

/-- Moves a node by writing its status. -/
def advanceInPlace (next : Status) : EStateM LifecycleError Node Unit := do
  let node ← get
  if next.rank < node.status.rank then throw (.statusRegression node.id node.status next)
  else if next = .finalized ∧ node.passport = none then throw (.missingPassport node.id)
  else set { node with status := next }

/-- A call that writes the fields of a node. What it has written before an error stays. -/
def inPlace : NodeCall → EStateM LifecycleError Node Unit
  | addImport target => do
    let node ← get
    if target = node.id then pure ()
    else set { node with imports := node.imports.insert target }
  | advance next => advanceInPlace next
  | attachPassport passport => do
    let node ← get
    if node.passport.isSome then pure ()
    else do
      advanceInPlace .classified
      modify fun moved => { moved with passport := some passport }

theorem apply_keeps {node later : Node} (wellFormed : node.WellFormed) {call : NodeCall}
    (success : call.apply node = .ok later) : later.WellFormed ∧ node.Precedes later := by
  cases call with
  | addImport target =>
    cases success
    exact wellFormed.addImport target
  | advance next => exact wellFormed.advance success
  | attachPassport passport =>
    obtain ⟨other, attached, _, kept⟩ := wellFormed.attachPassport passport
    obtain rfl : other = later := Except.ok.inj (attached.symm.trans success)
    exact kept

theorem after_keeps {node : Node} (wellFormed : node.WellFormed) (call : NodeCall) :
    (after node call).WellFormed ∧ node.Precedes (after node call) := by
  unfold after
  cases result : call.apply node with
  | ok later => exact apply_keeps wellFormed result
  | error fault => exact ⟨wellFormed, .refl node⟩

theorem foldl_after_keeps {node : Node} (wellFormed : node.WellFormed) (calls : List NodeCall) :
    (calls.foldl after node).WellFormed ∧ node.Precedes (calls.foldl after node) := by
  induction calls generalizing node with
  | nil => exact ⟨wellFormed, .refl node⟩
  | cons head tail ih =>
    obtain ⟨kept, first⟩ := after_keeps wellFormed head
    obtain ⟨still, rest⟩ := ih kept
    exact ⟨still, first.trans rest⟩

theorem run_advanceInPlace (next : Status) (node : Node) :
    (advanceInPlace next).run node = atomic node (node.advance next) := by
  rw [advanceInPlace, run_get_bind]
  unfold Node.advance
  split
  · rfl
  · split <;> rfl

/-- A call written field by field ends as the call does; if it fails, it has written nothing. -/
theorem run_inPlace (call : NodeCall) (node : Node) :
    call.inPlace.run node = atomic node (call.apply node) := by
  cases call with
  | addImport target =>
    rw [inPlace, run_get_bind, apply, Node.addImport]
    by_cases self : target = node.id
    · rw [if_pos self, if_pos self]
      rfl
    · rw [if_neg self, if_neg self]
      rfl
  | advance next => exact run_advanceInPlace next node
  | attachPassport passport =>
    rw [inPlace, run_get_bind]
    unfold apply Node.attachPassport
    split
    · rfl
    · have moved := run_advanceInPlace .classified node
      -- The passport is written last, so a node that cannot move forward keeps its fields.
      cases taken : node.advance .classified with
      | ok next =>
        rw [taken] at moved
        rw [run_bind_of_ok moved]
        rfl
      | error fault =>
        rw [taken] at moved
        rw [run_bind_of_error moved]
        rfl

end NodeCall

namespace Graph

variable {graph middle later : Graph}

/-- Every node stands under its own id and keeps what the lifecycle promises. -/
def WellFormed (graph : Graph) : Prop :=
  ∀ id node, graph.get? id = some node → node.id = id ∧ node.WellFormed

/-- No node is lost, and nothing is taken back from one. -/
def Precedes (graph later : Graph) : Prop :=
  ∀ id node, graph.get? id = some node →
    ∃ moved, later.get? id = some moved ∧ node.Precedes moved

theorem wellFormed_empty : empty.WellFormed := by
  intro id node found
  have nothing : empty.get? id = none := Keyed.get?_empty id
  rw [nothing] at found
  cases found

theorem Precedes.refl (graph : Graph) : graph.Precedes graph :=
  fun _ node found => ⟨node, found, .refl node⟩

theorem Precedes.trans (first : graph.Precedes middle) (second : middle.Precedes later) :
    graph.Precedes later := by
  intro id node found
  obtain ⟨between, standing, moved⟩ := first id node found
  obtain ⟨last, ended, further⟩ := second id between standing
  exact ⟨last, ended, moved.trans further⟩

theorem WellFormed.insert (wellFormed : graph.WellFormed) {node : Node} (sound : node.WellFormed) :
    (graph.insert node).WellFormed := by
  intro id found look
  rw [get?_insert] at look
  split at look
  · next same =>
    cases look
    exact ⟨same.symm, sound⟩
  · exact wellFormed id found look

/-- A node under a new id leaves the others as they are. -/
theorem precedes_insert {node : Node} (fresh : graph.contains node.id = false) :
    graph.Precedes (graph.insert node) := by
  intro id found look
  have other : id ≠ node.id := by
    rintro rfl
    rw [contains_iff.2 ⟨found, look⟩] at fresh
    cases fresh
  refine ⟨found, ?_, .refl found⟩
  rw [get?_insert, if_neg other]
  exact look

theorem WellFormed.exists_attachPassport (wellFormed : graph.WellFormed) {id : String}
    (present : graph.contains id = true) (passport : Passport) :
    ∃ next, graph.attachPassport id passport = .ok next ∧
      (next.get? id).any (·.passport.isSome) = true := by
  obtain ⟨node, found⟩ := contains_iff.1 present
  obtain ⟨moved, attached, carries, _⟩ := (wellFormed id node found).2.attachPassport passport
  have updated : ∃ next, graph.attachPassport id passport = .ok next := exists_update found attached
  obtain ⟨next, success⟩ := updated
  obtain ⟨other, after, standing, taken, look⟩ := update_eq_ok success
  obtain rfl : node = other := Option.some.inj (found.symm.trans standing)
  obtain rfl : moved = after := Except.ok.inj (attached.symm.trans taken)
  exact ⟨next, success, by rw [look, if_pos rfl, Option.any_some, carries, Option.isSome_some]⟩

end Graph

/-- A call on a graph: a new node enters, with the calls made on it before, or the node under an id
is called. -/
inductive GraphCall where
  | insert (id : String) (path : Path) (made : List NodeCall)
  | on (id : String) (call : NodeCall)

namespace GraphCall

/-- What a call makes of a graph, if it does not fail. -/
def apply (graph : Graph) : GraphCall → Except LifecycleError Graph
  | insert id path made => .ok (graph.insert (made.foldl NodeCall.after (.discovered id path)))
  | on id (.addImport target) => graph.addImport id target
  | on id (.advance next) => graph.advance id next
  | on id (.attachPassport passport) => graph.attachPassport id passport

/-- The graph behind a call that is allowed to fail. -/
def after (graph : Graph) (call : GraphCall) : Graph :=
  match call.apply graph with
  | .ok next => next
  | .error _ => graph

/-- A node enters under an id that has none yet. -/
def IsFresh (graph : Graph) : GraphCall → Prop
  | insert id _ _ => graph.contains id = false
  | on _ _ => True

/-- No node of a sequence of calls enters under an id that has one already. -/
def Fresh (graph : Graph) : List GraphCall → Prop
  | [] => True
  | call :: rest => call.IsFresh graph ∧ Fresh (after graph call) rest

/-- A call that writes into the node under an id. What it has written before an error stays. -/
def inPlace : GraphCall → EStateM LifecycleError Graph Unit
  | insert id path made => modify (·.insert (made.foldl NodeCall.after (.discovered id path)))
  | on id call => do
    let graph ← get
    match graph.get? id with
    | none => throw (.unknownNode id)
    | some node =>
      match call.inPlace.run node with
      | .ok _ next => set (⟨graph.nodes.modify id fun _ => next⟩ : Graph)
      | .error fault left => do
        set (⟨graph.nodes.modify id fun _ => left⟩ : Graph)
        throw fault

variable {graph later : Graph}

theorem apply_on (id : String) (call : NodeCall) :
    (on id call).apply graph = graph.update id (call.apply ·) := by
  cases call <;> rfl

/-- Inserted or called, a node is found later with what it had and with all it promises. -/
theorem apply_keeps (wellFormed : graph.WellFormed) {call : GraphCall}
    (success : call.apply graph = .ok later) :
    later.WellFormed ∧ (call.IsFresh graph → graph.Precedes later) := by
  cases call with
  | insert id path made =>
    cases success
    have fromNew := Node.wellFormed_discovered id path
    obtain ⟨sound, moved⟩ := NodeCall.foldl_after_keeps fromNew made
    refine ⟨wellFormed.insert sound, fun fresh => Graph.precedes_insert ?_⟩
    rw [moved.id]
    exact fresh
  | on id call =>
    rw [apply_on] at success
    obtain ⟨node, moved, standing, taken, look⟩ := Graph.update_eq_ok success
    obtain ⟨named, sound⟩ := wellFormed id node standing
    obtain ⟨kept, further⟩ := NodeCall.apply_keeps sound taken
    constructor
    · intro other found lookup
      rw [look] at lookup
      split at lookup
      · next same =>
        cases lookup
        exact ⟨further.id.trans (named.trans same.symm), kept⟩
      · exact wellFormed other found lookup
    · intro _ other found lookup
      rw [look]
      by_cases same : other = id
      · rw [same, standing] at lookup
        cases lookup
        exact ⟨moved, if_pos same, further⟩
      · exact ⟨found, (if_neg same).trans lookup, .refl found⟩

theorem after_keeps (wellFormed : graph.WellFormed) (call : GraphCall) :
    (after graph call).WellFormed ∧ (call.IsFresh graph → graph.Precedes (after graph call)) := by
  unfold after
  cases result : call.apply graph with
  | ok later => exact apply_keeps wellFormed result
  | error fault => exact ⟨wellFormed, fun _ => .refl graph⟩

theorem foldl_after_keeps (wellFormed : graph.WellFormed) (calls : List GraphCall) :
    (calls.foldl after graph).WellFormed ∧
      (Fresh graph calls → graph.Precedes (calls.foldl after graph)) := by
  induction calls generalizing graph with
  | nil => exact ⟨wellFormed, fun _ => .refl graph⟩
  | cons head tail ih =>
    obtain ⟨kept, first⟩ := after_keeps wellFormed head
    obtain ⟨still, rest⟩ := ih kept
    exact ⟨still, fun fresh => (first fresh.1).trans (rest fresh.2)⟩

/-- A call that writes into a graph ends as the call does; if it fails, the graph is unchanged. -/
theorem run_inPlace (call : GraphCall) (graph : Graph) :
    call.inPlace.run graph = atomic graph (call.apply graph) := by
  cases call with
  | insert id path made => rfl
  | on id call =>
    rw [inPlace, run_get_bind, apply_on, Graph.update]
    cases found : graph.get? id with
    | none => rfl
    | some node =>
      dsimp only
      rw [NodeCall.run_inPlace]
      cases call.apply node with
      | ok next => rfl
      | error fault =>
        -- The node is written back as it was, and so is the graph.
        have restored : (⟨graph.nodes.modify id fun _ => node⟩ : Graph) = graph := by
          rw [Keyed.modify_self found]
        change EStateM.Result.error fault (⟨graph.nodes.modify id fun _ => node⟩ : Graph) = _
        rw [restored]
        rfl

end GraphCall

/-- The lifecycle of nodes: for a node that is made and called on its own, and for the nodes of a
graph under calls on any of them. Whatever the calls before were, a node is well formed, further calls
take nothing back, a passport can be attached, and a call that fails has changed nothing. -/
theorem calls_keep_lifecycle (id : String) (path : Path) (made more : List NodeCall)
    (calls later : List GraphCall)
    (fresh : GraphCall.Fresh (calls.foldl GraphCall.after .empty) later) :
    (let node := made.foldl NodeCall.after (.discovered id path);
      node.WellFormed ∧ node.Precedes (more.foldl NodeCall.after node) ∧
        (∀ passport, ∃ next, node.attachPassport passport = .ok next ∧
          next.passport = some (node.passport.getD passport)) ∧
        ∀ call : NodeCall, call.inPlace.run node = atomic node (call.apply node)) ∧
    (let graph := calls.foldl GraphCall.after .empty;
      graph.WellFormed ∧ graph.Precedes (later.foldl GraphCall.after graph) ∧
        (∀ id passport, graph.contains id = true →
          ∃ next, graph.attachPassport id passport = .ok next ∧
            (next.get? id).any (·.passport.isSome) = true) ∧
        ∀ call : GraphCall, call.inPlace.run graph = atomic graph (call.apply graph)) := by
  constructor
  · intro node
    have fromNew := Node.wellFormed_discovered id path
    have wellFormed : node.WellFormed := (NodeCall.foldl_after_keeps fromNew made).1
    refine ⟨wellFormed, (NodeCall.foldl_after_keeps wellFormed more).2, fun passport => ?_,
      fun call => call.run_inPlace node⟩
    obtain ⟨next, attached, carries, _⟩ := wellFormed.attachPassport passport
    exact ⟨next, attached, carries⟩
  · intro graph
    have wellFormed : graph.WellFormed :=
      (GraphCall.foldl_after_keeps Graph.wellFormed_empty calls).1
    exact ⟨wellFormed, (GraphCall.foldl_after_keeps wellFormed later).2 fresh,
      fun id passport present => wellFormed.exists_attachPassport present passport,
      fun call => call.run_inPlace graph⟩

/-- Two modules up to the end of one of them, with three calls that fail. -/
def cartCalls : List GraphCall :=
  [.insert "shop.cart" ⟨"shop/cart.py"⟩ [.addImport "shop.order"],
    .on "shop.cart" (.advance .finalized),
    .insert "shop.order" ⟨"shop/order.py"⟩ [.advance .linked],
    .on "shop.cart" (.attachPassport .unresolved),
    .on "shop.gone" (.advance .linked),
    .on "shop.cart" (.advance .finalized),
    .on "shop.cart" (.advance .linked)]

theorem calls_keep_lifecycle_cart :
    let graph := cartCalls.foldl GraphCall.after .empty
    let later := [GraphCall.on "shop.order" (.attachPassport .unresolved),
      .insert "shop.pay" ⟨"shop/pay.py"⟩ []]
    graph.nodeList.map (fun node => (node.id, node.status)) =
        [("shop.cart", .finalized), ("shop.order", .linked)] ∧
      graph.Precedes (later.foldl GraphCall.after graph) ∧
      ∃ next, graph.attachPassport "shop.order" .unresolved = .ok next ∧
        (next.get? "shop.order").any (·.passport.isSome) = true := by
  intro graph later
  have fresh : GraphCall.Fresh graph later := ⟨trivial, rfl, trivial⟩
  obtain ⟨-, -, kept, attaches, -⟩ :=
    calls_keep_lifecycle "shop.cart" ⟨"shop/cart.py"⟩ [] [] cartCalls later fresh
  exact ⟨by decide, kept, attaches "shop.order" .unresolved (by decide)⟩

end LayerAtlas
