import TaskFlow.Condition.Evaluate
import TaskFlow.Proofs.Condition.Grammar

/-!
# What a condition means

- `Meaning.ofTable`: the value of a condition straight from its table, without a condition or a guard in between. A
  table that is none of the forms of a condition has no meaning;
- `Meaning.moduleOf_eq`, `Meaning.argsOf_eq`, `Meaning.nodeOf_eq`: the parts of a call mean what the grammar gives;
- `Meaning.ofTable_eq`: the condition that a table declares is kept as a guard with the meaning of the table.
-/

namespace TaskFlow

namespace Meaning

variable (predicatesModule : String) (registry : Registry) (results : Results) (nodeArgs : Option Json)
  (sources : List String)

/-- The module that a call names, else that of all predicates. -/
def moduleOf (fields : List (String × Toml)) : Option String :=
  match fields.lookup "import" with
  | none => some predicatesModule
  | some t => t.asString?

def argsOf (fields : List (String × Toml)) : Option (Dict Json) :=
  match fields.lookup "args" with
  | none => some .empty
  | some (.table args) => some (.ofList (Toml.toJsonFields args))
  | some _ => none

/-- The node that a call names, else the only source. -/
def nodeOf (fields : List (String × Toml)) : Option String :=
  match fields.lookup "node", sources with
  | none, [source] => some source
  | none, _ => none
  | some t, _ => t.asString?

/-- The value of a call: what the function answers to the arguments, with the result of the node where it takes one. -/
def ofCall (fields : List (String × Toml)) : Option (Except EvalError Bool) := do
  let name ← (fields.lookup "name").bind Toml.asString?
  let function : FunctionRef := ⟨← moduleOf predicatesModule fields, name⟩
  let args ← argsOf fields
  let p ← registry.predicate? function
  match p.eval, p.requiresMessage with
  | none, _ => some (.error (.unimplemented function))
  | some eval, false => some (eval ⟨none, nodeArgs, args⟩)
  | some eval, true => do
    let node ← nodeOf sources fields
    match results node with
    | none => some (.error (.noResult function node))
    | some message => some (eval ⟨some message, nodeArgs, args⟩)

mutual

/-- The value of a condition. -/
def ofTable : Toml → Option (Except EvalError Bool)
  | .table [(key, .arr items)] =>
    if key = "and" then ofAll items
    else if key = "or" then ofAny items
    else ofCall predicatesModule registry results nodeArgs sources [(key, .arr items)]
  | .table [(key, inner)] =>
    if key = "not" then (ofTable inner).map fun value => value.map (!·)
    else ofCall predicatesModule registry results nodeArgs sources [(key, inner)]
  | .table fields => ofCall predicatesModule registry results nodeArgs sources fields
  | _ => none

/-- The value of a conjunction: that of the first member that does not hold, be it in error. -/
def ofAll : List Toml → Option (Except EvalError Bool)
  | [] => some (.ok true)
  | t :: ts =>
    match ofTable t with
    | some (.ok true) => ofAll ts
    | value => value

/-- The value of a disjunction: that of the first member that holds or is in error. -/
def ofAny : List Toml → Option (Except EvalError Bool)
  | [] => some (.ok false)
  | t :: ts =>
    match ofTable t with
    | some (.ok false) => ofAny ts
    | value => value

end

/-- A condition left out holds. -/
def ofDecl : Option Toml → Option (Except EvalError Bool)
  | none => some (.ok true)
  | some t => ofTable predicatesModule registry results nodeArgs sources t

end Meaning

/-! ## Guards mean what their tables mean -/

namespace Meaning

variable {s : Scope} {sources : List String} (results : Results) (nodeArgs : Option Json)

/-- A table without combinators means what it means as a call. -/
theorem ofTable_of_lookup {predicatesModule : String} {registry : Registry} {fields : List (String × Toml)}
    (h : ∀ k : Combinator, fields.lookup k.text = none) :
    ofTable predicatesModule registry results nodeArgs sources (.table fields) =
      ofCall predicatesModule registry results nodeArgs sources fields := by
  have hkey : ∀ {key inner}, fields = [(key, inner)] → ∀ k : Combinator, key ≠ k.text := by
    rintro key inner rfl k rfl
    have hk := h k
    rw [Fields.lookup_cons, if_pos rfl] at hk
    cases hk
  unfold ofTable
  split
  · rename_i heq
    cases heq
    have hand : _ ≠ "and" := hkey rfl .and
    have hor : _ ≠ "or" := hkey rfl .or
    rw [if_neg hand, if_neg hor]
  · rename_i heq
    cases heq
    have hnot : _ ≠ "not" := hkey rfl .not
    rw [if_neg hnot]
  · rename_i heq
    cases heq
    rfl
  · rename_i hne
    exact absurd rfl (hne fields)

theorem moduleOf_eq {fields : List (String × Toml)} {m : String} (h : ModuleGiven s (fields.lookup "import") m) :
    moduleOf s.settings.predicatesModule fields = some m := by
  unfold moduleOf
  generalize fields.lookup "import" = given at h
  cases h with
  | general => rfl
  | imported => rfl

theorem argsOf_eq {mayOmit : PredicateSignature → Prop} {fields : List (String × Toml)} {p : PredicateSignature}
    {args : Dict Json} (h : ArgsGiven mayOmit p (fields.lookup "args") args) : argsOf fields = some args := by
  unfold argsOf
  generalize fields.lookup "args" = given at h
  cases h with
  | omitted => rfl
  | given => rfl

/-- A call that takes a message is bound to the node that its table means, any other call to none. -/
theorem nodeOf_eq {fields : List (String × Toml)} {p : PredicateSignature} {node : Option String}
    (h : NodeGiven p sources (fields.lookup "node") node) :
    (p.requiresMessage = true ∧ ∃ n, node = some n ∧ nodeOf sources fields = some n) ∨
      (p.requiresMessage = false ∧ node = none) := by
  unfold nodeOf
  generalize fields.lookup "node" = given at h
  cases h with
  | unneeded hmessage => exact Or.inr ⟨hmessage, rfl⟩
  | named hmessage => exact Or.inl ⟨hmessage, _, rfl, rfl⟩
  | onlySource hmessage hsources =>
    cases hsources
    exact Or.inl ⟨hmessage, _, rfl, rfl⟩

/-- A call is kept with the meaning of its table. -/
theorem ofCall_eq {fields : List (String × Toml)} {call : Call} (h : Call.ofFields s sources fields = .ok call) :
    ofCall s.settings.predicatesModule s.registry results nodeArgs sources fields =
      some (call.evaluate s.registry results nodeArgs) := by
  obtain ⟨p, hdeclared⟩ := Call.ofFields_eq_ok_iff_declared.1 h
  have hname : (fields.lookup "name").bind Toml.asString? = some call.function.name := by
    rw [hdeclared.name_given]
    rfl
  simp only [ofCall, hname, moduleOf_eq hdeclared.module_given, argsOf_eq hdeclared.args_given, Option.bind_eq_bind,
    Option.bind_some, hdeclared.registered]
  unfold Call.evaluate Call.messageFrom
  simp only [hdeclared.registered, hdeclared.requiresMessage_eq]
  cases heval : p.eval with
  | none => rfl
  | some eval =>
    obtain ⟨hmessage, n, hnode, hn⟩ | ⟨hmessage, hnode⟩ := nodeOf_eq hdeclared.node_given
    · simp only [hmessage, hnode, hn, Option.bind_some]
      cases results n with
      | none => rfl
      | some message => rfl
    · simp only [hmessage, hnode]
      rfl

mutual

/-- **A guard means what its table means**: the condition of a table, kept as a guard, has the value that the table
has. -/
theorem ofTable_eq : ∀ {t : Toml} {c : Condition}, Condition.ofTable s sources t = .ok c →
    ofTable s.settings.predicatesModule s.registry results nodeArgs sources t =
      some (c.guard.evaluate s.registry results nodeArgs) := by
  intro t c h
  obtain ⟨fields, call, rfl, hno, hcall, rfl⟩ | ⟨inner, c', rfl, hlist, hc', rfl⟩ | ⟨items, cs, rfl, -, hcs, rfl⟩ |
    ⟨items, cs, rfl, -, hcs, rfl⟩ := Condition.ofTable_cases h
  · rw [ofTable_of_lookup results nodeArgs hno, ofCall_eq results nodeArgs hcall]
    rfl
  · have ih := ofTable_eq hc'
    rw [ofTable, if_pos rfl, ih]
    · rfl
    · exact hlist
  · rw [ofTable, if_pos rfl, (ofItems_eq hcs).1]
    rfl
  · rw [ofTable, if_neg (by decide), if_pos rfl, (ofItems_eq hcs).2]
    rfl
termination_by t => sizeOf t

theorem ofItems_eq : ∀ {ts : List Toml} {cs : List Condition}, Condition.ofItems s sources ts = .ok cs →
    ofAll s.settings.predicatesModule s.registry results nodeArgs sources ts =
      some (Guard.evaluateAll s.registry results nodeArgs (Condition.guards cs)) ∧
    ofAny s.settings.predicatesModule s.registry results nodeArgs sources ts =
      some (Guard.evaluateAny s.registry results nodeArgs (Condition.guards cs))
  | [], _, h => by
    cases h
    exact ⟨rfl, rfl⟩
  | t :: ts, _, h => by
    obtain ⟨c, hc, h⟩ := Except.bind_eq_ok_iff.1 h
    obtain ⟨cs, hcs, h⟩ := Except.bind_eq_ok_iff.1 h
    cases h
    obtain ⟨hall, hany⟩ := ofItems_eq hcs
    rw [ofAll, ofAny, ofTable_eq hc, hall, hany, Condition.guards, Guard.evaluateAll, Guard.evaluateAny]
    rcases c.guard.evaluate s.registry results nodeArgs with e | _ | _
    · exact ⟨rfl, rfl⟩
    · exact ⟨rfl, rfl⟩
    · exact ⟨rfl, rfl⟩
termination_by ts => sizeOf ts

end

/-- The same for a condition that may be left out. -/
theorem ofDecl_eq {decl : Option Toml} {c : Condition} (h : Condition.ofDecl s sources decl = .ok c) :
    ofDecl s.settings.predicatesModule s.registry results nodeArgs sources decl =
      some (c.guard.evaluate s.registry results nodeArgs) := by
  cases decl with
  | none =>
    cases h
    rfl
  | some t => exact ofTable_eq results nodeArgs h

end Meaning

end TaskFlow
