import TaskFlow.Condition.Codec
import TaskFlow.Failure.Graph

/-!
# Failure graphs in JSON

- a stopped flow is the text `stop_flow`, started nodes are an object with their list;
- `FailureGraph.toJson` writes vertices and entries, `FailureGraph.ofDraft?` reads them back.
-/

namespace TaskFlow

namespace Json

/-- A variant without content: its name, or an object with the name before a null. -/
def variant? : Draft → Option String
  | .str name => some name
  | .obj [(name, .null)] => some name
  | _ => none

end Json

namespace Fallback

def toJson : Fallback → Json
  | stopFlow => .str "stop_flow"
  | nodes names => .obj [("nodes", Json.ofNames names)]

def ofDraft? : Json.Draft → Option Fallback
  | .obj [("nodes", names)] => (Json.names? names).map .nodes
  | d => (Json.variant? d).bind fun name => if name = "stop_flow" then some .stopFlow else none

end Fallback

namespace FallbackEntry

def toJson (e : FallbackEntry) : Json := .obj [
  ("fallback", e.fallback.toJson),
  ("condition", e.condition.toJson),
  ("condition_str", .str e.conditionText),
  ("propagate_failure", e.propagateFailure)]

def ofDraft? (d : Json.Draft) : Option FallbackEntry := do
  let fs ← Json.record? ["fallback", "condition", "condition_str", "propagate_failure"] d
  return {
    fallback := ← Json.required? fs "fallback" Fallback.ofDraft?
    condition := ← Json.required? fs "condition" Guard.ofDraft?
    conditionText := ← Json.required? fs "condition_str" Json.string?
    propagateFailure := ← Json.required? fs "propagate_failure" Json.bool? }

end FallbackEntry

namespace FailureNode

def toJson (n : FailureNode) : Json := .obj [
  ("traversed", Json.ofNameSet n.traversed),
  ("next", Json.ofDict Json.ofNat n.next),
  ("fallbacks", .arr (n.fallbacks.map FallbackEntry.toJson))]

def ofDraft? (d : Json.Draft) : Option FailureNode := do
  let fs ← Json.record? ["traversed", "next", "fallbacks"] d
  return {
    traversed := ← Json.required? fs "traversed" Json.nameSet?
    next := ← Json.required? fs "next" (Json.dict? Json.nat?)
    fallbacks := ← Json.required? fs "fallbacks" (Json.listOf? FallbackEntry.ofDraft?) }

end FailureNode

namespace FailureGraph

def toJson (g : FailureGraph) : Json := .obj [
  ("nodes", .arr (g.nodes.map FailureNode.toJson)),
  ("starting", Json.ofDict Json.ofNat g.starting)]

def ofDraft? (d : Json.Draft) : Option FailureGraph := do
  let fs ← Json.record? ["nodes", "starting"] d
  return {
    nodes := ← Json.required? fs "nodes" (Json.listOf? FailureNode.ofDraft?)
    starting := ← Json.required? fs "starting" (Json.dict? Json.nat?) }

end FailureGraph

end TaskFlow
