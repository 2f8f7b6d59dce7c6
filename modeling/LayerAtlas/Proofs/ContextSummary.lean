import LayerAtlas.Proofs.Run
import LayerAtlas.Proofs.StandardBook

/-!
# Summaries of contexts

The summary under a name is the fold over the passports with that context name, in order of ids. It keeps
the scope and the zone of the first of them, whatever the others say.
-/
namespace LayerAtlas

namespace ContextSummary

variable {summary : ContextSummary} {passports : List Passport} {name : String}

/-- The summary says of a passport what it says itself. -/
structure Describes (summary : ContextSummary) (passport : Passport) : Prop where
  context : passport.context = summary.name
  scope : passport.scope = summary.scope
  zone : passport.zone = summary.zone

/-- What one more passport of a context makes of the summary so far. -/
def absorb (seen : Option ContextSummary) (passport : Passport) : Option ContextSummary :=
  some (match seen with
    | some summary => summary.count passport
    | none => ofPassport passport)

/-- The summary of a context with exactly these passports. -/
def ofContext (passports : List Passport) : Option ContextSummary :=
  passports.foldl absorb none

/-- A passport touches the summary of its own context only. -/
theorem get?_foldl_insert (passports : List Passport) (map : Keyed ContextSummary) (name : String) :
    (passports.foldl (fun map passport =>
        map.insert passport.context
          (match map.get? passport.context with
          | some summary => summary.count passport
          | none => ofPassport passport)) map).get? name =
      (passports.filter (·.context = name)).foldl absorb (map.get? name) := by
  induction passports generalizing map with
  | nil => rfl
  | cons head tail ih =>
    rw [List.foldl_cons, ih]
    by_cases own : head.context = name
    · subst own
      rw [Keyed.get?_insert_self, List.filter_cons_of_pos (by simp)]
      rfl
    · rw [Keyed.get?_insert_of_ne _ _ (Ne.symm own), List.filter_cons_of_neg (by simp [own])]

theorem get?_ofPassports (passports : List Passport) (name : String) :
    (ofPassports passports).get? name = ofContext (passports.filter (·.context = name)) :=
  get?_foldl_insert passports .empty name

theorem foldl_absorb_some (passports : List Passport) (summary : ContextSummary) :
    passports.foldl absorb (some summary) = some (passports.foldl count summary) := by
  induction passports generalizing summary with
  | nil => rfl
  | cons head tail ih => exact ih (summary.count head)

theorem ofContext_cons (head : Passport) (tail : List Passport) :
    ofContext (head :: tail) = some (tail.foldl count (ofPassport head)) :=
  foldl_absorb_some tail (ofPassport head)

/-- Counting changes the number of nodes and the layers only. -/
theorem foldl_count_spec (passports : List Passport) (summary : ContextSummary) :
    (passports.foldl count summary).name = summary.name ∧
      (passports.foldl count summary).scope = summary.scope ∧
      (passports.foldl count summary).zone = summary.zone ∧
      (passports.foldl count summary).nodeCount = summary.nodeCount + passports.length := by
  induction passports generalizing summary with
  | nil => exact ⟨rfl, rfl, rfl, rfl⟩
  | cons head tail ih =>
    obtain ⟨name, scope, zone, counted⟩ := ih (summary.count head)
    refine ⟨name, scope, zone, counted.trans ?_⟩
    simp only [count, List.length_cons]
    omega

/-- The summary of a context describes the first of its passports and counts all of them. -/
theorem ofContext_eq_some (made : ofContext passports = some summary) :
    ∃ first rest, passports = first :: rest ∧ summary.Describes first ∧
      summary.nodeCount = passports.length := by
  cases passports with
  | nil => cases made
  | cons first rest =>
    rw [ofContext_cons] at made
    obtain rfl := Option.some.inj made
    obtain ⟨name, scope, zone, counted⟩ := foldl_count_spec rest (ofPassport first)
    refine ⟨first, rest, rfl, ⟨name.symm, scope.symm, zone.symm⟩, counted.trans ?_⟩
    simp only [ofPassport, List.length_cons]
    omega

theorem ofContext_eq_none : ofContext passports = none ↔ passports = [] := by
  cases passports with
  | nil => simp [ofContext]
  | cons head tail => simp [ofContext_cons]

/-- The summaries are those of the contexts that some passport names, each of the passports with its name. -/
theorem mem_values_ofPassports :
    summary ∈ (ofPassports passports).values ↔
      ofContext (passports.filter (·.context = summary.name)) = some summary := by
  rw [Keyed.mem_values_iff]
  constructor
  · rintro ⟨key, found⟩
    rw [get?_ofPassports] at found
    obtain ⟨first, rest, only, describes, _⟩ := ofContext_eq_some found
    have member : first ∈ passports.filter (·.context = key) := by simp [only]
    have own : first.context = key := by simpa using List.of_mem_filter member
    rw [describes.context.symm.trans own]
    exact found
  · intro made
    exact ⟨summary.name, (get?_ofPassports passports summary.name).trans made⟩

/-- A summary that describes one of the passports of its name describes all just in case they agree. -/
theorem forall_describes_iff {first : Passport} (member : first ∈ passports)
    (describes : summary.Describes first)
    (named : ∀ passport ∈ passports, passport.context = summary.name) :
    (∀ passport ∈ passports, summary.Describes passport) ↔
      ∀ one ∈ passports, ∀ other ∈ passports, one.scope = other.scope ∧ one.zone = other.zone := by
  constructor
  · intro all one among other too
    exact ⟨(all one among).scope.trans (all other too).scope.symm,
      (all one among).zone.trans (all other too).zone.symm⟩
  · intro agree passport among
    obtain ⟨scope, zone⟩ := agree passport among first member
    exact ⟨named passport among, scope.trans describes.scope, zone.trans describes.zone⟩

end ContextSummary

namespace RuleBook

variable {book : RuleBook} {root path : Path}

/-- Only a context folder can lie in a zone, and the other scopes have a context of their own name. -/
theorem territory_classifyPath :
    (book.classifyPath root path).scope = .context ∨
      (book.classifyPath root path).zone = none ∧
        (book.classifyPath root path).context = Naming.name (book.classifyPath root path).scope := by
  unfold classifyPath
  cases foldersAndStem? root path with
  | none => exact .inl rfl
  | some below =>
    obtain ⟨folders, stem⟩ := below
    dsimp only
    cases scope : (book.passport folders stem).scope with
    | context => exact .inl rfl
    | root =>
      obtain ⟨context, zone⟩ := Territory.ofPath_of_root scope
      exact .inr ⟨zone, context⟩
    | shared =>
      obtain ⟨context, zone⟩ := Territory.ofPath_of_shared scope
      exact .inr ⟨zone, context⟩

end RuleBook

namespace View

/-- The passports of the nodes that the summary of this name counts, in order of ids. -/
def counted (view : View) (name : String) : List Passport :=
  (view.nodes.filterMap (·.passport)).filter (·.context = name)

variable {graph : Graph} {visible : NameSet} {passport : Passport} {summary : ContextSummary}

theorem mem_counted_iff {view : View} {name : String} :
    passport ∈ view.counted name ↔
      (∃ entry ∈ view.nodes, entry.passport = some passport) ∧ passport.context = name := by
  simp only [counted, List.mem_filter, List.mem_filterMap, decide_eq_true_eq]

theorem mem_contexts_ofGraph :
    summary ∈ (ofGraph graph visible).contexts ↔
      ContextSummary.ofContext ((ofGraph graph visible).counted summary.name) = some summary :=
  ContextSummary.mem_values_ofPassports

/-- Every listed node with a passport is counted by a summary. -/
theorem exists_summary {entry : ViewNode} (listed : entry ∈ (ofGraph graph visible).nodes)
    (carries : entry.passport = some passport) :
    ∃ summary ∈ (ofGraph graph visible).contexts, summary.name = passport.context := by
  have member : passport ∈ (ofGraph graph visible).counted passport.context :=
    mem_counted_iff.2 ⟨⟨entry, listed, carries⟩, rfl⟩
  cases made : ContextSummary.ofContext ((ofGraph graph visible).counted passport.context) with
  | none =>
    rw [ContextSummary.ofContext_eq_none.1 made] at member
    cases member
  | some summary =>
    obtain ⟨first, rest, only, describes, _⟩ := ContextSummary.ofContext_eq_some made
    have head : first ∈ (ofGraph graph visible).counted passport.context := by simp [only]
    have name : summary.name = passport.context :=
      describes.context.symm.trans (mem_counted_iff.1 head).2
    refine ⟨summary, mem_contexts_ofGraph.2 ?_, name⟩
    rw [name]
    exact made

end View

namespace Atlas

variable {reader : ImportReader} {book : RuleBook} {disk : FileSystem} {project : Path}
  {config : Config} {request : ViewRequest} {result : Recorded Atlas}

/-- The passports in the view of a run are those of paths. -/
theorem exists_path_of_listed (success : run reader book disk project config request = .ok result)
    {entry : ViewNode} (listed : entry ∈ result.data.view.nodes) :
    ∃ root path, entry.passport = some (book.classifyPath root path) := by
  obtain ⟨_, _, _, _, _, view⟩ := run_stages success
  obtain ⟨root, _, _, _, _, _, _, nodes⟩ := nodes_of_run success
  rw [view] at listed
  obtain ⟨id, _, node, found, rfl⟩ := View.mem_nodes_ofGraph.1 listed
  obtain ⟨_, _, _, carries⟩ := nodes id node found
  exact ⟨root, _, carries⟩

/-- What the summaries of a run say. Every listed node has a passport, and the summary of its context counts
it. A summary counts all nodes with its context name, and takes scope and zone from the first of them. So it
describes all of them just in case no two differ in scope or zone. Those below the marker of another scope
lie in no zone, and the summary has the name of that scope; so nodes that differ are of two context folders
with one name, or of a context folder with the name of another scope. -/
theorem run_summaries (success : run reader book disk project config request = .ok result) :
    (∀ entry ∈ result.data.view.nodes, ∃ passport, entry.passport = some passport ∧
      ∃ summary ∈ result.data.view.contexts, summary.name = passport.context) ∧
    ∀ summary ∈ result.data.view.contexts,
      summary.nodeCount = (result.data.view.counted summary.name).length ∧
      (∃ first rest, result.data.view.counted summary.name = first :: rest ∧
        summary.Describes first) ∧
      ((∀ passport ∈ result.data.view.counted summary.name, summary.Describes passport) ↔
        ∀ one ∈ result.data.view.counted summary.name,
          ∀ other ∈ result.data.view.counted summary.name,
            one.scope = other.scope ∧ one.zone = other.zone) ∧
      ∀ passport ∈ result.data.view.counted summary.name,
        passport.scope = .context ∨
          passport.zone = none ∧ summary.name = Naming.name passport.scope := by
  obtain ⟨_, _, _, _, _, view⟩ := run_stages success
  refine ⟨fun entry listed => ?_, fun summary shown => ?_⟩
  · obtain ⟨root, path, carries⟩ := exists_path_of_listed success listed
    rw [view] at listed ⊢
    exact ⟨_, carries, View.exists_summary listed carries⟩
  · have made : ContextSummary.ofContext (result.data.view.counted summary.name) = some summary := by
      rw [view] at shown ⊢
      exact View.mem_contexts_ofGraph.1 shown
    obtain ⟨first, rest, only, describes, count⟩ := ContextSummary.ofContext_eq_some made
    have head : first ∈ result.data.view.counted summary.name := by simp [only]
    refine ⟨count, ⟨first, rest, only, describes⟩, ?_, fun passport member => ?_⟩
    · exact ContextSummary.forall_describes_iff head describes fun passport member =>
        (View.mem_counted_iff.1 member).2
    · obtain ⟨⟨entry, listed, carries⟩, name⟩ := View.mem_counted_iff.1 member
      obtain ⟨root, path, same⟩ := exists_path_of_listed success listed
      obtain rfl := Option.some.inj (carries.symm.trans same)
      rw [← name]
      exact RuleBook.territory_classifyPath

/-- Two context folders of one name in different zones. -/
def twinDisk : FileSystem where
  top := .dir [("srv", .dir [("proj", .dir [("src", .dir [
    ("sales", .dir [("crm", .dir [("domain", .dir [("order.py", .file "".toUTF8)])])]),
    ("support", .dir [("crm", .dir [("domain", .dir [("ticket.py", .file "".toUTF8)])])])])])])]
  workingDir := ["srv"]

def twinRun : Except RunError (Recorded Atlas) :=
  run SourceText.readImports .standard twinDisk ⟨"/srv/proj"⟩ {} {}

theorem twinRun_shows :
    ∃ result, twinRun = .ok result ∧
      result.data.view.contexts = [⟨"crm", .context, some "sales", 2, [.domain]⟩] ∧
      (result.data.view.counted "crm").map (·.zone) = [some "sales", some "support"] := by
  have shown : twinRun.toOption.map (fun result =>
      (result.data.view.contexts, (result.data.view.counted "crm").map (·.zone))) =
      some ([⟨"crm", .context, some "sales", 2, [.domain]⟩], [some "sales", some "support"]) := by
    unfold twinRun
    rw [RuleBook.eq_ofRows RuleBook.accepted_standard]
    decide +kernel
  obtain ⟨result, success, told⟩ := exists_of_map_toOption shown
  obtain ⟨contexts, zones⟩ := Prod.mk.inj told
  exact ⟨result, success, contexts, zones⟩

theorem run_summaries_crm :
    ∃ result, twinRun = .ok result ∧
      ∀ summary ∈ result.data.view.contexts,
        summary.nodeCount = (result.data.view.counted summary.name).length ∧
        ∃ first rest, result.data.view.counted summary.name = first :: rest ∧
          summary.Describes first := by
  obtain ⟨result, success, _, _⟩ := twinRun_shows
  refine ⟨result, success, fun summary member => ?_⟩
  obtain ⟨count, describes, _⟩ := (run_summaries success).2 summary member
  exact ⟨count, describes⟩

/-- One summary counts the files of both folders and names the zone of one. -/
theorem zones_share_summary :
    ∃ result, twinRun = .ok result ∧
      result.data.view.contexts = [⟨"crm", .context, some "sales", 2, [.domain]⟩] ∧
      (result.data.view.counted "crm").map (·.zone) = [some "sales", some "support"] ∧
      ¬ ∀ summary ∈ result.data.view.contexts,
        ∀ passport ∈ result.data.view.counted summary.name, summary.Describes passport := by
  obtain ⟨result, success, contexts, zones⟩ := twinRun_shows
  refine ⟨result, success, contexts, zones, fun describes => ?_⟩
  have supported : some "support" ∈ (result.data.view.counted "crm").map (·.zone) := by
    rw [zones]
    decide
  obtain ⟨passport, member, zone⟩ := List.mem_map.1 supported
  have same := (describes _ (contexts ▸ List.mem_singleton_self _) passport member).zone
  rw [zone] at same
  revert same
  decide

end Atlas

end LayerAtlas
