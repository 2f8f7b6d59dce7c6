import LayerAtlas.Classify.Rule
import LayerAtlas.Passport.Vocabulary

/-!
# The usual tables

The markers and rules that hold unless others are given. Rules for folders come first, then rules for
the stems of file names.

Embeds the tables of the Classification Engine (specification, 4.6): `SCOPE_MARKERS`, `LAYER_MARKERS`,
`DIRECTION_MARKERS`, `STRUCTURAL_RULES` and `NAMING_RULES`.
-/
namespace LayerAtlas.Tables

def scopeMarkers : List (Scope × List String) :=
  [(.root, ["root", "composition_root", "main", "__main__", "wsgi", "asgi", "manage"]),
    (.shared, ["shared", "shared_kernel", "kernel", "common", "core", "libs?", "seedwork",
      "building_blocks"])]

def layerMarkers : List (Layer × List String) :=
  [(.domain, ["domain", "domain_layer"]),
    (.app, ["app", "application", "app_layer", "application_layer"]),
    (.adapters, ["adapters?", "infrastructure", "infra", "adapter_layer"]),
    (.ports, ["ports?", "port_layer"]),
    (.composition, ["composition"]),
    (.global, ["global", "cross_cutting", "crosscutting"])]

def directionMarkers : List (Direction × List String) :=
  [(.driving, ["driving", "inbound", "in", "primary", "drv", "input", "incoming"]),
    (.driven, ["driven", "outbound", "out", "secondary", "dvn", "output", "outgoing"])]

def rule (role : Role) (layer : Layer) (direction : Direction) (patterns : List String) : RuleSpec :=
  ⟨role, layer, direction, patterns⟩

/-- Rules for the folders on a path. -/
def folderRules : List RuleSpec :=
  [
    -- Domain
    rule (.domain .aggregate) .domain .none ["aggregates?", "aggregate_roots?"],
    rule (.domain .entity) .domain .none ["entit(y|ies)", "models?"],
    rule (.domain .valueObject) .domain .none ["value_objects?", "values?", "vos?"],
    rule (.domain .event) .domain .none ["events?", "domain_events?"],
    rule (.domain .service) .domain .none ["services?", "domain_services?"],
    rule (.domain .repositoryInterface) .domain .none ["repositor(y|ies)", "repos?"],
    rule (.domain .specification) .domain .none ["specifications?", "specs?", "policies", "rules"],
    rule (.domain .factory) .domain .none ["factor(y|ies)"],
    rule (.domain .error) .domain .none ["errors?", "exceptions?"],
    -- Application
    rule (.app .useCase) .app .none ["use_?cases?", "interactors?"],
    rule (.app .command) .app .none ["commands?"],
    rule (.app .query) .app .none ["quer(y|ies)"],
    rule (.app .handler) .app .none ["handlers?"],
    rule (.app .eventHandler) .app .none ["event_handlers?", "subscribers?"],
    rule (.app .service) .app .none ["services?", "app_services?", "application_services?"],
    rule (.app .dto) .app .none ["dtos?", "schemas?"],
    rule (.app .interface) .app .none ["interfaces?", "protocols?", "contracts?"],
    -- Adapters, driving side
    rule (.adapter .controller) .adapters .driving ["controllers?", "api", "rest", "views?",
      "endpoints?"],
    rule (.adapter .cli) .adapters .driving ["cli", "console"],
    rule (.adapter .consumer) .adapters .driving ["consumers?", "workers?", "subscribers?"],
    -- Adapters, either side
    rule (.adapter .dto) .adapters .any ["dtos?", "schemas?", "serializers?"],
    rule (.adapter .mapper) .adapters .any ["mappers?", "converters?", "translators?"],
    -- Adapters, driven side
    rule (.adapter .repository) .adapters .driven ["repositor(y|ies)", "repos?", "persistence",
      "dao"],
    rule (.adapter .gateway) .adapters .driven ["gateways?"],
    rule (.adapter .client) .adapters .driven ["clients?"],
    rule (.adapter .acl) .adapters .driven ["acls?", "anti_corruption(_layer)?"],
    rule (.adapter .publisher) .adapters .driven ["publishers?", "producers?", "emitters?"],
    -- Ports, driving side
    rule (.port .facade) .ports .driving ["facades?"],
    rule (.port .router) .ports .driving ["routers?", "routes?"],
    rule (.port .listener) .ports .driving ["listeners?"],
    -- Ports, driven side
    rule (.port .database) .ports .driven ["databases?", "db", "orm", "sql"],
    rule (.port .broker) .ports .driven ["brokers?", "messaging", "queues?", "kafka", "rabbitmq"],
    rule (.port .storage) .ports .driven ["storages?", "s3", "blobs?"],
    rule (.port .httpClient) .ports .driven ["http", "http_clients?"],
    rule (.port .cache) .ports .driven ["cach(e|es|ing)", "redis"],
    -- Ports and adapters, side not given by any folder
    rule (.adapter .controller) .adapters .none ["controllers?", "api", "rest", "views?",
      "endpoints?"],
    rule (.adapter .cli) .adapters .none ["cli", "console"],
    rule (.adapter .consumer) .adapters .none ["consumers?", "workers?"],
    rule (.adapter .repository) .adapters .none ["repositor(y|ies)", "repos?", "persistence",
      "dao"],
    rule (.adapter .gateway) .adapters .none ["gateways?"],
    rule (.adapter .client) .adapters .none ["clients?"],
    rule (.adapter .publisher) .adapters .none ["publishers?", "producers?"],
    rule (.port .facade) .ports .none ["facades?"],
    rule (.port .router) .ports .none ["routers?", "routes?"],
    rule (.port .listener) .ports .none ["listeners?"],
    rule (.port .database) .ports .none ["databases?", "db"],
    rule (.port .cache) .ports .none ["cach(e|es|ing)"],
    -- Composition
    rule (.composition .container) .composition .none ["containers?", "di", "ioc", "providers?"],
    rule (.composition .entrypoint) .composition .none ["entrypoints?", "cmd", "bin"],
    rule (.composition .settings) .composition .none ["settings", "config(s|uration)?"],
    rule (.composition .wiring) .composition .none ["wiring", "bootstrap"],
    -- Layer-agnostic fallback
    rule (.global .utils) .global .any ["utils?", "utilities", "helpers?", "tools"],
    rule (.global .constants) .global .any ["constants?", "consts?", "enums?"],
    rule (.global .exceptions) .global .any ["exceptions?", "errors?"],
    rule (.global .types) .global .any ["types?", "typing"],
    rule (.global .logging) .global .any ["logging", "logs?", "loggers?"]]

/-- Rules for the stems of file names. -/
def stemRules : List RuleSpec :=
  [
    -- Domain
    rule (.domain .aggregate) .domain .none [".+_aggregate", "aggregate"],
    rule (.domain .entity) .domain .none [".+_entity", "entity"],
    rule (.domain .valueObject) .domain .none [".+_value_object", ".+_vo", "value_objects?"],
    rule (.domain .event) .domain .none [".+_event", "events?"],
    rule (.domain .service) .domain .none [".+_domain_service"],
    rule (.domain .repositoryInterface) .domain .none [".+_repository_(interface|protocol|port)",
      "i_.+_repository"],
    rule (.domain .specification) .domain .none [".+_spec(ification)?"],
    rule (.domain .factory) .domain .none [".+_factory", "factory"],
    rule (.domain .error) .domain .none [".+_(error|exception)s?"],
    -- Application
    rule (.app .useCase) .app .none [".+_use_?case", "use_?cases?",
      "(create|update|delete|get|list|register|cancel|place|process)_.+"],
    rule (.app .command) .app .none [".+_command", "commands?"],
    rule (.app .query) .app .none [".+_query", "quer(y|ies)"],
    rule (.app .eventHandler) .app .none [".+_event_handler"],
    rule (.app .handler) .app .none [".+_handler", "handlers?"],
    rule (.app .service) .app .none [".+_service", "services?"],
    rule (.app .dto) .app .none [".+_dto", "dtos?"],
    rule (.app .interface) .app .none [".+_interface", "interfaces?"],
    -- Adapters
    rule (.adapter .controller) .adapters .driving [".+_controller", ".+_view", ".+_api"],
    rule (.adapter .cli) .adapters .driving ["cli", ".+_cli"],
    rule (.adapter .consumer) .adapters .driving [".+_consumer", ".+_worker"],
    rule (.adapter .dto) .adapters .any [".+_(dto|schema|serializer)"],
    rule (.adapter .mapper) .adapters .any [".+_(mapper|converter|translator)"],
    rule (.adapter .repository) .adapters .driven [".+_repository", ".+_repo", ".+_dao"],
    rule (.adapter .gateway) .adapters .driven [".+_gateway"],
    rule (.adapter .client) .adapters .driven [".+_client"],
    rule (.adapter .acl) .adapters .driven [".+_acl", ".+_anti_corruption"],
    rule (.adapter .publisher) .adapters .driven [".+_(publisher|producer)"],
    -- Ports
    rule (.port .facade) .ports .driving [".+_facade", "facade"],
    rule (.port .router) .ports .driving [".+_router", "router", "routes"],
    rule (.port .listener) .ports .driving [".+_listener", "listener"],
    rule (.port .database) .ports .driven [".+_(db|database)", "database", "db"],
    rule (.port .broker) .ports .driven [".+_broker", "broker"],
    rule (.port .storage) .ports .driven [".+_storage", "storage"],
    rule (.port .httpClient) .ports .driven [".+_http_client", "http_client"],
    rule (.port .cache) .ports .driven [".+_cache", "cache"],
    -- Ports and adapters, side not given by any folder
    rule (.adapter .controller) .adapters .none [".+_controller", ".+_view", ".+_api"],
    rule (.adapter .repository) .adapters .none [".+_repository", ".+_repo", ".+_dao"],
    rule (.adapter .gateway) .adapters .none [".+_gateway"],
    rule (.adapter .client) .adapters .none [".+_client"],
    rule (.port .facade) .ports .none [".+_facade", "facade"],
    rule (.port .router) .ports .none [".+_router", "router", "routes"],
    rule (.port .listener) .ports .none [".+_listener", "listener"],
    -- Composition
    rule (.composition .container) .composition .none [".+_container", "container", "di"],
    rule (.composition .entrypoint) .composition .none ["main", "__main__", "wsgi", "asgi",
      "manage", "entrypoint"],
    rule (.composition .settings) .composition .none ["settings", "config", ".+_settings",
      ".+_config"],
    rule (.composition .wiring) .composition .none ["wiring", "bootstrap", ".+_wiring"],
    -- Layer-agnostic fallback
    rule (.global .utils) .global .any ["utils?", "helpers?", ".+_utils?", ".+_helpers?"],
    rule (.global .constants) .global .any ["constants?", "consts?", ".+_constants"],
    rule (.global .exceptions) .global .any ["exceptions?", "errors?"],
    rule (.global .types) .global .any ["types?", "typings?", ".+_types"],
    rule (.global .logging) .global .any ["logging", "logger", "log", ".+_logger"]]

end LayerAtlas.Tables
