import LayerAtlas.Text.Blank
import LayerAtlas.Text.Naming

/-!
# The vocabulary of architecture

Scopes, layers, directions and roles: the words in which a module's place is told. Every layer has
its own closed list of roles.

Embeds the scopes, layers, directions and component types of the data model (specification, 3), with their
names, `from_name`, `is_directional` and `is_asset`.
-/
namespace LayerAtlas

/-- Where a module sits among the bounded contexts. -/
inductive Scope where
  /-- The composition root of the whole application. -/
  | root
  /-- The kernel that every context uses. -/
  | shared
  /-- A bounded context of its own. -/
  | context
  deriving DecidableEq, Repr

instance : Naming Scope where
  all := [.root, .shared, .context]
  name
    | .root => "root"
    | .shared => "shared"
    | .context => "context"

/-- Architectural tiers. `global` holds what any layer may use; `undefined` says that no tier was
found. -/
inductive Layer where
  | composition
  | domain
  | app
  | adapters
  | ports
  | global
  | undefined
  deriving DecidableEq, Repr

instance : Naming Layer where
  all := [.composition, .domain, .app, .adapters, .ports, .global, .undefined]
  name
    | .composition => "composition"
    | .domain => "domain"
    | .app => "app"
    | .adapters => "adapters"
    | .ports => "ports"
    | .global => "global"
    | .undefined => "undefined"

namespace Layer

/-- The layer that a configuration names, whatever its case and the blanks around it. -/
def ofName? (text : String) : Option Layer :=
  Naming.ofName? (asciiLower (trimBlank text))

/-- Layers that are split into a driving and a driven side. -/
def isDirectional : Layer → Bool
  | adapters | ports => true
  | _ => false

end Layer

/-- Which side of the application a module faces. -/
inductive Direction where
  | driving
  | driven
  /-- Said by a rule that applies on either side. -/
  | any
  /-- The layer has no sides. -/
  | none
  /-- The layer has sides, but the path names neither. -/
  | undefined
  deriving DecidableEq, Repr

instance : Naming Direction where
  all := [.driving, .driven, .any, .none, .undefined]
  name
    | .driving => "driving"
    | .driven => "driven"
    | .any => "any"
    | .none => "none"
    | .undefined => "undefined"

/-- How a role was found: by a folder on the path, by the stem of the file name, or not at all. -/
inductive MatchMethod where
  | structural
  | name
  | unknown
  deriving DecidableEq, Repr

instance : Naming MatchMethod where
  all := [.structural, .name, .unknown]
  name
    | .structural => "structural"
    | .name => "name"
    | .unknown => "unknown"

/-- Roles inside the domain layer. -/
inductive DomainRole where
  | aggregate | entity | valueObject | event | service | repositoryInterface | specification
  | factory | error
  deriving DecidableEq, Repr

instance : Naming DomainRole where
  all := [.aggregate, .entity, .valueObject, .event, .service, .repositoryInterface, .specification,
    .factory, .error]
  name
    | .aggregate => "aggregate"
    | .entity => "entity"
    | .valueObject => "value_object"
    | .event => "event"
    | .service => "service"
    | .repositoryInterface => "repository_interface"
    | .specification => "specification"
    | .factory => "factory"
    | .error => "error"

/-- Roles inside the application layer. -/
inductive AppRole where
  | useCase | command | query | handler | service | dto | interface | eventHandler
  deriving DecidableEq, Repr

instance : Naming AppRole where
  all := [.useCase, .command, .query, .handler, .service, .dto, .interface, .eventHandler]
  name
    | .useCase => "use_case"
    | .command => "command"
    | .query => "query"
    | .handler => "handler"
    | .service => "service"
    | .dto => "dto"
    | .interface => "interface"
    | .eventHandler => "event_handler"

/-- Roles inside the adapters layer. -/
inductive AdapterRole where
  | controller | cli | consumer | dto | repository | gateway | client | acl | publisher | mapper
  deriving DecidableEq, Repr

instance : Naming AdapterRole where
  all := [.controller, .cli, .consumer, .dto, .repository, .gateway, .client, .acl, .publisher,
    .mapper]
  name
    | .controller => "controller"
    | .cli => "cli"
    | .consumer => "consumer"
    | .dto => "dto"
    | .repository => "repository"
    | .gateway => "gateway"
    | .client => "client"
    | .acl => "acl"
    | .publisher => "publisher"
    | .mapper => "mapper"

/-- Roles inside the ports layer. -/
inductive PortRole where
  | facade | router | listener | database | broker | storage | httpClient | cache
  deriving DecidableEq, Repr

instance : Naming PortRole where
  all := [.facade, .router, .listener, .database, .broker, .storage, .httpClient, .cache]
  name
    | .facade => "facade"
    | .router => "router"
    | .listener => "listener"
    | .database => "database"
    | .broker => "broker"
    | .storage => "storage"
    | .httpClient => "http_client"
    | .cache => "cache"

/-- Roles inside the composition layer. -/
inductive CompositionRole where
  | container | entrypoint | settings | wiring
  deriving DecidableEq, Repr

instance : Naming CompositionRole where
  all := [.container, .entrypoint, .settings, .wiring]
  name
    | .container => "container"
    | .entrypoint => "entrypoint"
    | .settings => "settings"
    | .wiring => "wiring"

/-- Cross-cutting roles, valid in any layer. -/
inductive GlobalRole where
  | utils | constants | exceptions | types | logging
  deriving DecidableEq, Repr

instance : Naming GlobalRole where
  all := [.utils, .constants, .exceptions, .types, .logging]
  name
    | .utils => "utils"
    | .constants => "constants"
    | .exceptions => "exceptions"
    | .types => "types"
    | .logging => "logging"

/-- The role of a module, told by the layer that the role belongs to. -/
inductive Role where
  | domain (role : DomainRole)
  | app (role : AppRole)
  | adapter (role : AdapterRole)
  | port (role : PortRole)
  | composition (role : CompositionRole)
  | global (role : GlobalRole)
  | unknown
  deriving DecidableEq, Repr

namespace Role

/-- The name of the role inside its layer. -/
def name : Role → String
  | domain role => Naming.name role
  | app role => Naming.name role
  | adapter role => Naming.name role
  | port role => Naming.name role
  | composition role => Naming.name role
  | global role => Naming.name role
  | unknown => "unknown"

/-- The layer whose list of roles holds this one. -/
def layer : Role → Layer
  | domain _ => .domain
  | app _ => .app
  | adapter _ => .adapters
  | port _ => .ports
  | composition _ => .composition
  | global _ => .global
  | unknown => .undefined

def isKnown : Role → Bool
  | unknown => false
  | _ => true

/-- Supporting parts with no behaviour of their own, which a view may hide. -/
def isAsset : Role → Bool
  | global .constants | global .exceptions | global .types | global .utils => true
  | domain .error | composition .settings => true
  | _ => false

/-- The role with its layer in front. -/
def display (role : Role) : String :=
  if role.isKnown then Naming.name role.layer ++ "." ++ role.name else "unknown"

end Role

end LayerAtlas
