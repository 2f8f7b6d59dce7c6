import LayerAtlas.Proofs.Relinking
import LayerAtlas.SourceText.Imports

/-!
# The root package in front of imports

An absolute import may name its module with the root package in front or without it. As long as no module
and no import is already called by such a name, both spellings lead to the same places, for whole modules
and for their submodules, in linking and at each step of a walk. So a build gives the same result for both.
-/
namespace LayerAtlas

/-- The import with the root package in front of its module; a relative import stays as it is. -/
def ImportRecord.prefixed (package : String) (record : ImportRecord) : ImportRecord :=
  if record.isRelative then record else { record with module := package ++ "." ++ record.module }

theorem ImportRecord.names_prefixed (package : String) (record : ImportRecord) :
    (record.prefixed package).names = record.names := by
  unfold ImportRecord.prefixed
  split <;> rfl

/-- The module with the root package in front of all that it imports. -/
def ScannedModule.prefixed (package : String) (module : ScannedModule) : ScannedModule :=
  { module with imports := module.imports.map (·.prefixed package) }

/-- Reads the imports of a text with the root package in front of their modules. -/
def ImportReader.prefixed (package : String) (reader : ImportReader) : ImportReader :=
  fun text path name => (reader text path name).map (·.map (·.prefixed package))

/-- The name begins with the root package and a dot. -/
def BeginsWithPackage (package name : String) : Prop :=
  (package ++ ".").toList <+: name.toList

instance (package name : String) : Decidable (BeginsWithPackage package name) :=
  inferInstanceAs (Decidable ((package ++ ".").toList <+: name.toList))

namespace Registry

variable {registry : Registry} {package name : String} {record : ImportRecord}

/-- Nothing is called by the root package and what stands below it: neither a module by its key, nor the
module of an absolute import, which does not name the root package itself either. -/
structure Unprefixed (registry : Registry) (package : String) : Prop where
  keys : ∀ key ∈ registry.modules.keys, ¬ BeginsWithPackage package key
  imports : ∀ module ∈ registry.modules.values, ∀ record ∈ module.imports, record.isRelative = false →
    record.module ≠ package ∧ ¬ BeginsWithPackage package record.module

instance (registry : Registry) (package : String) : Decidable (registry.Unprefixed package) :=
  decidable_of_iff
    ((∀ key ∈ registry.modules.keys, ¬ BeginsWithPackage package key) ∧
      ∀ module ∈ registry.modules.values, ∀ record ∈ module.imports, record.isRelative = false →
        record.module ≠ package ∧ ¬ BeginsWithPackage package record.module)
    ⟨fun both => ⟨both.1, both.2⟩, fun unprefixed => ⟨unprefixed.keys, unprefixed.imports⟩⟩

theorem beginsWithPackage_append (package rest : String) :
    BeginsWithPackage package (package ++ "." ++ rest) := by
  rw [BeginsWithPackage, String.toList_append (s := package ++ ".")]
  exact List.prefix_append _ _

theorem behindRoot?_eq_some_iff {rest : String} :
    behindRoot? package name = some rest ↔ name = package ++ "." ++ rest := by
  unfold behindRoot?
  simp only [Option.map_eq_some_iff, List.isPrefixOf?_eq_some_iff_append_eq]
  constructor
  · rintro ⟨chars, whole, rfl⟩
    apply String.toList_injective
    simp [← whole]
  · rintro rfl
    exact ⟨rest.toList, by simp, String.ofList_toList⟩

theorem behindRoot?_eq_none (free : ¬ BeginsWithPackage package name) :
    behindRoot? package name = none := by
  refine Option.eq_none_iff_forall_ne_some.2 fun rest found => free ?_
  rw [behindRoot?_eq_some_iff.1 found]
  exact beginsWithPackage_append package rest

/-- With the root package in front a module has its own spelling besides. -/
theorem spellings_prefixed (rooted : registry.rootPackage = some package) (name : String) :
    registry.spellings (package ++ "." ++ name) false = [package ++ "." ++ name, name] := by
  have longer : package ++ "." ++ name ≠ package := by
    intro same
    have lengths := congrArg String.length same
    simp only [String.length_append] at lengths
    have dot : ".".length = 1 := rfl
    omega
  unfold spellings
  rw [rooted]
  dsimp only
  rw [if_neg longer, behindRoot?_eq_some_iff.2 rfl]

theorem spellings_plain (rooted : registry.rootPackage = some package) (other : name ≠ package)
    (free : ¬ BeginsWithPackage package name) : registry.spellings name false = [name] := by
  unfold spellings
  rw [rooted]
  dsimp only
  rw [if_neg other, behindRoot?_eq_none free]

/-- A name that begins with the root package and a dot is not registered. -/
theorem Unprefixed.lookup_eq_none (unprefixed : registry.Unprefixed package)
    (begins : BeginsWithPackage package name) : registry.lookup name = none := by
  have named : name ≠ "" := by
    rintro rfl
    simp [BeginsWithPackage] at begins
  refine Option.eq_none_iff_forall_ne_some.2 fun key found => ?_
  obtain ⟨rfl, present⟩ := lookup_eq_some_iff.1 found
  rw [keyFor_of_ne named] at present
  exact unprefixed.keys name (Keyed.mem_keys_iff.2 present) begins

theorem child_prefixed (package base name : String) :
    ∃ rest, Dotted.child (package ++ "." ++ base) name = package ++ "." ++ rest := by
  have filled : package ++ "." ++ base ≠ "" := by simp
  refine ⟨base ++ "." ++ name, ?_⟩
  rw [Dotted.child, if_neg filled]
  simp only [String.append_assoc]

/-- A search over the spellings of a module that finds nothing behind the root package gives the same for
both ways to write an import. -/
theorem Unprefixed.findSome_spellings (unprefixed : registry.Unprefixed package)
    (rooted : registry.rootPackage = some package) (imported : registry.Imports record)
    {search : String → Option String} (nothing : ∀ name, search (package ++ "." ++ name) = none) :
    (registry.spellings (record.prefixed package).module
        (record.prefixed package).isRelative).findSome? search =
      (registry.spellings record.module record.isRelative).findSome? search := by
  obtain ⟨key, module, standing, member⟩ := imported
  unfold ImportRecord.prefixed
  cases relative : record.isRelative with
  | true => simp [relative]
  | false =>
    obtain ⟨other, free⟩ := unprefixed.imports module
      (Keyed.mem_values_iff.2 ⟨key, standing⟩) record member relative
    simp only [Bool.false_eq_true, if_false]
    rw [spellings_prefixed rooted, spellings_plain rooted other free, List.findSome?_cons, nothing]

theorem Unprefixed.linksAlike (unprefixed : registry.Unprefixed package)
    (rooted : registry.rootPackage = some package) :
    registry.LinksAlike (·.prefixed package) (·.prefixed package) where
  named _ _ := rfl
  path _ := rfl
  imports _ := rfl
  names := ImportRecord.names_prefixed package
  resolveModule record imported :=
    unprefixed.findSome_spellings rooted imported fun name =>
      unprefixed.lookup_eq_none (beginsWithPackage_append package name)
  resolveSubmodule record imported name := by
    refine unprefixed.findSome_spellings rooted imported fun base => ?_
    obtain ⟨rest, spelled⟩ := child_prefixed package base name
    rw [spelled]
    exact unprefixed.lookup_eq_none (beginsWithPackage_append package rest)

end Registry

namespace Registration

variable (reader : ImportReader) (root : Path) (package : String) (file : SourceFile)

theorem importsOf_prefixed (name : String) :
    importsOf (reader.prefixed package) file name =
      (importsOf reader file name).map (·.prefixed package) := by
  unfold importsOf ImportReader.prefixed
  cases file.content with
  | none => rfl
  | some text =>
    cases file.isReadable with
    | false => rfl
    | true =>
      dsimp only
      cases reader text file.path name <;> rfl

theorem scannedModule_prefixed :
    scannedModule? (reader.prefixed package) root file =
      (scannedModule? reader root file).map (·.prefixed package) := by
  unfold scannedModule?
  rw [Option.map_map]
  simp only [importsOf_prefixed]
  rfl

/-- A text parses or not, however its imports are spelled. -/
theorem parseFault_prefixed :
    parseFault? (reader.prefixed package) root file = parseFault? reader root file := by
  unfold parseFault? ImportReader.prefixed
  refine congrArg (Option.bind _) (funext fun name => ?_)
  cases file.content with
  | none => rfl
  | some text =>
    cases file.isReadable with
    | false => rfl
    | true =>
      dsimp only
      cases reader text file.path name <;> rfl

theorem parseFaults_prefixed (files : List SourceFile) :
    parseFaults (reader.prefixed package) root files = parseFaults reader root files :=
  List.filterMap_congr fun file _ => parseFault_prefixed reader root package file

theorem registryOf_prefixed (rootPackage : Option String) (files : List SourceFile) :
    registryOf (reader.prefixed package) root rootPackage files =
      (registryOf reader root rootPackage files).mapModules (·.prefixed package) := by
  have keeps : ScannedModule.KeepsPlace (·.prefixed package) := ⟨fun _ _ => rfl, fun _ => rfl⟩
  unfold registryOf scannedModules
  rw [Registry.foldl_enroll_mapModules keeps, List.map_filterMap]
  simp only [scannedModule_prefixed]
  rfl

end Registration

namespace Build

open Registration (registryOf)

theorem run_skip_prefixed {package : String} (named : package ≠ "") (reader : ImportReader) (root : Path)
    (files : List SourceFile)
    (unprefixed : (registryOf reader root (some package) files).Unprefixed package) :
    run (reader.prefixed package) root (some package) .skip files =
      run reader root (some package) .skip files := by
  have rooted : (registryOf reader root (some package) files).rootPackage = some package := by
    rw [registryOf, Registry.rootPackage_foldl_enroll, Registry.new]
    simp [named]
  have alike := unprefixed.linksAlike rooted
  have size : ((registryOf reader root (some package) files).mapModules (·.prefixed package)).size =
      (registryOf reader root (some package) files).size := Keyed.size_mapValues _ _
  rw [run_skip_eq, run_skip_eq]
  unfold statsOf
  dsimp only
  rw [Registration.registryOf_prefixed, Registration.parseFaults_prefixed, alike.linkedGraph_eq,
    alike.allTargets_eq, size]

/-- The root package in front of imports changes nothing. Where no module is registered under the root
package and a dot, and no absolute import of a registered module names the root package or begins with it
and a dot, putting both in front of the module of every absolute import leaves the linked graph and all
targets, resolved and dropped, as they were. So the whole result of a build, under either policy, is the same
for a reader that reads every absolute import with the root package in front. -/
theorem root_package_optional (package : String) (named : package ≠ "") :
    (∀ registry : Registry, registry.rootPackage = some package → registry.Unprefixed package →
      (registry.mapModules (·.prefixed package)).linkedGraph = registry.linkedGraph ∧
      (registry.mapModules (·.prefixed package)).allTargets = registry.allTargets) ∧
    ∀ (reader : ImportReader) (root : Path) (policy : ParsePolicy) (files : List SourceFile),
      (registryOf reader root (some package) files).Unprefixed package →
      run (reader.prefixed package) root (some package) policy files =
        run reader root (some package) policy files := by
  constructor
  · intro registry rooted unprefixed
    have alike := unprefixed.linksAlike rooted
    exact ⟨alike.linkedGraph_eq, alike.allTargets_eq⟩
  · intro reader root policy files unprefixed
    have tolerant := run_skip_prefixed named reader root files unprefixed
    cases policy with
    | skip => exact tolerant
    | abort => rw [run_abort, run_abort, Registration.parseFaults_prefixed, tolerant]

/-- A package that hands a symbol on from its own module, a user of both of them and of a package of others,
and the initializer of the source root. -/
def marketFiles : List SourceFile :=
  [.readable ⟨"src/__init__.py"⟩ "import use\n",
    .readable ⟨"src/use.py"⟩ "from crm import Mail, post\nimport os, markets.rates\n",
    .readable ⟨"src/crm/__init__.py"⟩ "from .mail import Mail\nimport use\n",
    .readable ⟨"src/crm/mail.py"⟩ "", .readable ⟨"src/crm/post.py"⟩ "from use import *\n"]

theorem root_package_optional_market :
    let registry := registryOf SourceText.readImports ⟨"src"⟩ (some "market") marketFiles
    registry.rootPackage = some "market" ∧ registry.Unprefixed "market" ∧
      (registry.mapModules (·.prefixed "market")).linkedGraph = registry.linkedGraph ∧
      run (SourceText.readImports.prefixed "market") ⟨"src"⟩ (some "market") .abort marketFiles =
        run SourceText.readImports ⟨"src"⟩ (some "market") .abort marketFiles := by
  have rooted : (registryOf SourceText.readImports ⟨"src"⟩ (some "market") marketFiles).rootPackage =
      some "market" := by decide +kernel
  have unprefixed : (registryOf SourceText.readImports ⟨"src"⟩ (some "market") marketFiles).Unprefixed
      "market" := by decide +kernel
  obtain ⟨linking, building⟩ := root_package_optional "market" (by decide)
  exact ⟨rooted, unprefixed, (linking _ rooted unprefixed).1, building _ _ _ _ unprefixed⟩

end Build

end LayerAtlas
