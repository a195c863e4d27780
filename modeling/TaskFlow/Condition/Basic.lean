import TaskFlow.Json.Printer
import TaskFlow.Registry.Basic

/-!
# Conditions

- `Call`: a registered predicate with its arguments, bound to a node or to none;
- `Condition`: a condition as declared on an edge or a failure rule; `Guard`: the same as it is kept for evaluation,
  `Condition.guard` between them;
- `render`: the text of either for logs. A group of one shows as its only member, an empty one as its neutral value;
- `requiresMessage`, `requiresNodeArgs`, `inspected`: what an evaluation may look at.
-/

namespace TaskFlow

/-- A registered predicate with its arguments. -/
structure Call where
  function : FunctionRef
  /-- The node whose stored result is the message. -/
  node : Option String
  args : Dict Json
  requiresMessage : Bool
  requiresNodeArgs : Bool
deriving DecidableEq

/-- A call of a predicate as it is registered. -/
def Call.ofSignature (function : FunctionRef) (node : Option String) (args : Dict Json) (p : PredicateSignature) :
    Call where
  function := function
  node := node
  args := args
  requiresMessage := p.requiresMessage
  requiresNodeArgs := p.requiresNodeArgs

/-- A condition as declared. -/
inductive Condition where
  | always
  | call (c : Call)
  | all (cs : List Condition)
  | any (cs : List Condition)
  | negate (c : Condition)

/-- A condition as kept for evaluation. -/
inductive Guard where
  | always
  | call (c : Call)
  | all (gs : List Guard)
  | any (gs : List Guard)
  | negate (g : Guard)

instance : Inhabited Condition := ⟨.always⟩

instance : Inhabited Guard := ⟨.always⟩

/-! ## Text -/

/-- The predicate with its node and its arguments in parentheses. -/
def Call.render (c : Call) : String :=
  c.function.name ++ "(" ++
    ", ".intercalate (c.node.toList ++ c.args.entries.map fun e => e.1 ++ "=" ++ e.2.compact) ++ ")"

/-- Two or more members in parentheses, one member alone, or the text for none. -/
def renderGroup (op neutral : String) : List String → String
  | [] => neutral
  | [only] => only
  | parts => "(" ++ (" " ++ op ++ " ").intercalate parts ++ ")"

namespace Condition

mutual

def render : Condition → String
  | always => "True"
  | call c => c.render
  | all cs => renderGroup "and" "True" (renderAll cs)
  | any cs => renderGroup "or" "False" (renderAll cs)
  | negate c => "(not " ++ render c ++ ")"

def renderAll : List Condition → List String
  | [] => []
  | c :: cs => render c :: renderAll cs

end

/-- Whether the condition holds whatever happens. -/
def isAlways : Condition → Bool
  | always => true
  | _ => false

/-! ## What a condition looks at -/

mutual

/-- The calls of a condition, in the order of its text. -/
def calls : Condition → List Call
  | always => []
  | call c => [c]
  | all cs | any cs => callsAll cs
  | negate c => calls c

def callsAll : List Condition → List Call
  | [] => []
  | c :: cs => calls c ++ callsAll cs

end

/-- Whether some call takes the stored result of a node. -/
def requiresMessage (c : Condition) : Bool := c.calls.any (·.requiresMessage)

/-- Whether some call takes the arguments of the flow. -/
def requiresNodeArgs (c : Condition) : Bool := c.calls.any (·.requiresNodeArgs)

/-- The nodes that calls are bound to, each once, in the order of the text. -/
def inspected (c : Condition) : List String := (c.calls.filterMap (·.node)).eraseDups

/-! ## Keeping -/

mutual

/-- The condition as kept for evaluation. -/
def guard : Condition → Guard
  | always => .always
  | call c => .call c
  | all cs => .all (guards cs)
  | any cs => .any (guards cs)
  | negate c => .negate (guard c)

def guards : List Condition → List Guard
  | [] => []
  | c :: cs => guard c :: guards cs

end

end Condition

namespace Guard

mutual

def render : Guard → String
  | always => "True"
  | call c => c.render
  | all gs => renderGroup "and" "True" (renderAll gs)
  | any gs => renderGroup "or" "False" (renderAll gs)
  | negate g => "(not " ++ render g ++ ")"

def renderAll : List Guard → List String
  | [] => []
  | g :: gs => render g :: renderAll gs

end

/-- Whether the guard holds whatever happens. -/
def isAlways : Guard → Bool
  | always => true
  | _ => false

mutual

/-- The calls of a guard, in the order of its text. -/
def calls : Guard → List Call
  | always => []
  | call c => [c]
  | all gs | any gs => callsAll gs
  | negate g => calls g

def callsAll : List Guard → List Call
  | [] => []
  | g :: gs => calls g ++ callsAll gs

end

/-- Whether some call takes the stored result of a node. -/
def requiresMessage (g : Guard) : Bool := g.calls.any (·.requiresMessage)

end Guard

end TaskFlow
