import TaskFlow.Condition.Basic
import TaskFlow.Condition.Error
import TaskFlow.Toml.Record

/-!
# Conditions from tables

- `Condition.ofTable`: the condition that a table declares. Each table is one combinator or one call;
- `Condition.ofDecl`: a condition left out always holds;
- a call that takes a message is bound to the node it names or to the only source.
-/

namespace TaskFlow

namespace Call

/-- The keys of a call. -/
def keys : List String := ["name", "node", "args", "import"]

/-- The function that a table names; without a module, one of the predicates module. -/
def functionOf (s : Scope) (fields : List (String × Toml)) : Except ConditionError FunctionRef :=
  match (fields.lookup "name").bind Toml.asString? with
  | none => .error .noName
  | some name =>
    match fields.lookup "import" with
    | none => .ok ⟨s.settings.predicatesModule, name⟩
    | some (.str m) => .ok ⟨m, name⟩
    | some _ => .error (.moduleNotString name)

/-- The arguments of a call, which have to be those that the predicate takes. -/
def argsOf (f : FunctionRef) (p : PredicateSignature) (fields : List (String × Toml)) :
    Except ConditionError (Dict Json) := do
  let args ← match fields.lookup "args" with
    | none => .ok Dict.empty
    | some (.table args) => .ok (Dict.ofList (Toml.toJsonFields args))
    | some _ => .error (.argsNotTable f)
  (matchArguments p.explicitParams args.keys).mapError (.argumentMismatch f)
  return args

/-- The node that a table names. -/
def nodeOf (f : FunctionRef) (fields : List (String × Toml)) : Except ConditionError (Option String) :=
  match fields.lookup "node" with
  | none => .ok none
  | some (.str node) => .ok (some node)
  | some _ => .error (.nodeNotString f)

/-- The node that a call is bound to: none without a message, else the named one or the only source. -/
def bindNode (f : FunctionRef) (p : PredicateSignature) (sources : List String) (node : Option String) :
    Except ConditionError (Option String) :=
  match p.requiresMessage, node, sources with
  | true, some node, _ => .ok (some node)
  | true, none, [source] => .ok (some source)
  | true, none, _ => .error (.ambiguousNode f sources.length)
  | false, some node, _ => .error (.needlessNode f node)
  | false, none, _ => .ok none

/-- The call that the fields of a table declare. -/
def ofFields (s : Scope) (sources : List String) (fields : List (String × Toml)) : Except ConditionError Call :=
  match fields.find? fun e => !keys.contains e.1 with
  | some (key, _) => .error (.unknownKey key)
  | none => do
    let f ← functionOf s fields
    match s.registry.predicate? f with
    | none => .error (.unknownPredicate f)
    | some p =>
      let args ← argsOf f p fields
      let node ← nodeOf f fields
      let node ← bindNode f p sources node
      return Call.ofSignature f node args p

end Call

/-- The first combinator among the keys of a table. -/
def Combinator.find? (fields : List (String × Toml)) : Option Combinator :=
  all.find? fun c => (fields.lookup c.text).isSome

namespace Condition

mutual

/-- The condition that a table declares. -/
def ofTable (s : Scope) (sources : List String) : Toml → Except ConditionError Condition
  | .table [] => .error .empty
  | .table [(key, inner)] =>
    match Combinator.find? [(key, inner)] with
    | none => (Call.ofFields s sources [(key, inner)]).map .call
    | some .not =>
      match inner with
      | .arr _ => .error .negatedList
      | inner => (ofTable s sources inner).map .negate
    | some c =>
      match inner with
      | .arr (item :: items) =>
        (ofItems s sources (item :: items)).map fun cs => if c = .and then .all cs else .any cs
      | _ => .error (.noList c)
  | .table fields =>
    match Combinator.find? fields with
    | none => (Call.ofFields s sources fields).map .call
    | some c => .error (.notAlone c)
  | t => .error (.notTable t.kind)

def ofItems (s : Scope) (sources : List String) : List Toml → Except ConditionError (List Condition)
  | [] => .ok []
  | t :: ts => do
    let c ← ofTable s sources t
    let cs ← ofItems s sources ts
    return c :: cs

end

/-- A condition left out always holds. -/
def ofDecl (s : Scope) (sources : List String) : Option Toml → Except ConditionError Condition
  | none => .ok .always
  | some t => ofTable s sources t

end Condition

end TaskFlow
