import LayerAtlas.Graph.View
import LayerAtlas.Text.JsonText

/-!
# Views as text

The JSON document that a renderer of diagrams reads. There is none of a view with a path that is no text.

Embeds `to_json` of the view (specification, 4.7).
-/
namespace LayerAtlas

namespace Role

/-- The word for the layer of a role in documents. -/
def layerTag : Role → String
  | domain _ => "domain"
  | app _ => "app"
  | adapter _ => "adapter"
  | port _ => "port"
  | composition _ => "composition"
  | global _ => "global"
  | unknown => "unknown"

def toDoc (role : Role) : JsonDoc :=
  match role with
  | unknown => .record [("layer", .text role.layerTag)]
  | known => .record [("layer", .text known.layerTag), ("kind", .text known.name)]

end Role

def Passport.toDoc (passport : Passport) : JsonDoc :=
  .record [
    ("scope", .text (Naming.name passport.scope)),
    ("context_name", .text passport.context),
    ("macro_zone", .optional passport.zone),
    ("layer", .text (Naming.name passport.layer)),
    ("direction", .text (Naming.name passport.direction)),
    ("component_type", passport.role.toDoc),
    ("match_method", .text (Naming.name passport.method)),
    ("rule_layer", .optional (passport.ruleLayer.map Naming.name))]

def ViewNode.toDoc? (node : ViewNode) : Option JsonDoc :=
  node.path.text.toString?.map fun path => .record [
    ("id", .text node.id),
    ("file_path", .text path),
    ("status", .text (Naming.name node.status)),
    ("passport", (node.passport.map Passport.toDoc).getD .null)]

def ContextSummary.toDoc (summary : ContextSummary) : JsonDoc :=
  .record [
    ("name", .text summary.name),
    ("scope", .text (Naming.name summary.scope)),
    ("macro_zone", .optional summary.zone),
    ("node_count", .number summary.nodeCount),
    ("layers", .list (summary.layers.map fun layer => .text (Naming.name layer)))]

namespace View

def toDoc? (view : View) : Option JsonDoc :=
  (view.nodes.mapM ViewNode.toDoc?).map fun nodes => .record [
    ("nodes", .list nodes),
    ("edges", .list (view.edges.map fun edge => .list [.text edge.1, .text edge.2])),
    ("contexts", .list (view.contexts.map ContextSummary.toDoc))]

/-- The view as indented JSON. -/
def text? (view : View) : Option String :=
  view.toDoc?.map fun doc => doc.render 0

end View

end LayerAtlas
