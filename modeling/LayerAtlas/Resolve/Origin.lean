import LayerAtlas.Resolve.Registry

/-!
# Where a symbol comes from

A module may hand on a symbol that it imports itself. The origin is found by walking from module to
module: a submodule of that name ends the walk, else the first import that brings the symbol leads
on, and a step back to a module already visited is not taken.

Embeds the Recursive Import Resolver (specification, 4.4): `resolve` of a symbol.
-/
namespace LayerAtlas.Registry

/-- The registered module called `symbol` below this one. -/
def submodule? (registry : Registry) (module symbol : String) : Option String :=
  registry.lookup (Dotted.child module symbol)

/-- The other module from which this one imports the symbol. -/
def handedOnFrom? (registry : Registry) (module symbol : String) : Option String :=
  match registry.get? module with
  | none => none
  | some scanned =>
    (scanned.imports.filter (·.brings symbol)).findSome? fun record =>
      (registry.resolveModule record).filter (· ≠ module)

/-- Walks on from `current`; `visited` holds the modules already passed, this one included. -/
def walk (registry : Registry) (symbol : String) : Nat → List String → String → String
  | 0, _, current => current
  | fuel + 1, visited, current =>
    match registry.submodule? current symbol with
    | some child => child
    | none =>
      match registry.handedOnFrom? current symbol with
      | none => current
      | some next =>
        if visited.contains next then current else registry.walk symbol fuel (next :: visited) next

/-- The module that defines a symbol, as seen from `module`. Every step visits another registered
module, so the walk ends within as many steps as there are modules. -/
def origin (registry : Registry) (module symbol : String) : String :=
  let start := (registry.lookup module).getD module
  registry.walk symbol (registry.size + 1) [start] start

end LayerAtlas.Registry
