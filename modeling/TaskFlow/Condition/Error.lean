import TaskFlow.Node.Scope

/-!
# Why a condition is refused

- `Combinator`: the words that join conditions;
- `ConditionError`: what is wrong with a condition tree or with its use at the place where it is declared.
-/

namespace TaskFlow

/-- The words that join conditions. -/
inductive Combinator where
  | and
  | or
  | not
deriving DecidableEq

namespace Combinator

def text : Combinator → String
  | and => "and"
  | or => "or"
  | not => "not"

/-- The combinators in the order in which a table is searched for them. -/
def all : List Combinator := [and, or, not]

end Combinator

/-- Why a condition is refused. -/
inductive ConditionError where
  | notTable (kind : String)
  | empty
  | notAlone (combinator : Combinator)
  | negatedList
  | noList (combinator : Combinator)
  | unknownKey (key : String)
  | noName
  | moduleNotString (name : String)
  | unknownPredicate (function : FunctionRef)
  | argsNotTable (function : FunctionRef)
  | argumentMismatch (function : FunctionRef) (mismatch : ArgumentMismatch)
  | nodeNotString (function : FunctionRef)
  | ambiguousNode (function : FunctionRef) (sources : Nat)
  | needlessNode (function : FunctionRef) (node : String)
  | unbound (function : FunctionRef)
  | nothingToInspect (function : FunctionRef) (node : String)
  | notSource (function : FunctionRef) (node : String)
  | subFlowResult (function : FunctionRef) (node : String)
  | unknownNode (function : FunctionRef) (node : String)
  | noStorage (function : FunctionRef) (node : String)
  | readonlyStorage (function : FunctionRef) (node : String)
deriving DecidableEq

def ConditionError.message : ConditionError → String
  | notTable kind => s!"condition must be a table, got {kind}"
  | empty => "empty condition"
  | notAlone c => s!"'{c.text}' must be the only key of its condition table"
  | negatedList => "'not' expects a single condition, not a list"
  | noList c => s!"'{c.text}' expects a non-empty list of conditions"
  | unknownKey key => s!"unrecognized condition key '{key}'"
  | noName => "condition leaf must have a string 'name'"
  | moduleNotString name => s!"'import' of predicate '{name}' must be a string"
  | unknownPredicate f => s!"unknown predicate '{f.text}'"
  | argsNotTable f => s!"'args' of predicate '{f.text}' must be a table"
  | argumentMismatch f m => s!"predicate '{f.text}' arguments do not match: {m.message}"
  | nodeNotString f => s!"'node' of predicate '{f.text}' must be a string"
  | ambiguousNode f n =>
    s!"predicate '{f.text}' inspects a node result but no 'node' is given and the edge has {n} source nodes"
  | needlessNode f node => s!"predicate '{f.text}' does not inspect results, but node '{node}' is given"
  | unbound f => s!"predicate '{f.text}' inspects a result but is bound to no node"
  | nothingToInspect f node =>
    s!"predicate '{f.text}' cannot inspect results of '{node}' here (starting edges and failure conditions have " ++
      "no results to inspect)"
  | notSource f node => s!"predicate '{f.text}' inspects '{node}' which is not a source node of the edge"
  | subFlowResult f node => s!"predicate '{f.text}' cannot inspect results of sub-flow '{node}'"
  | unknownNode f node => s!"predicate '{f.text}' references unknown node '{node}'"
  | noStorage f node =>
    s!"predicate '{f.text}' inspects results of task '{node}' which has no storage assigned"
  | readonlyStorage f node =>
    s!"predicate '{f.text}' inspects results of task '{node}' whose storage is read-only"

end TaskFlow
