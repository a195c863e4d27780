import TaskFlow.Condition.Construct
import TaskFlow.Proofs.Data.Dict
import TaskFlow.Proofs.Data.NameSet
import TaskFlow.Proofs.Log.Logged

/-!
# The grammar of conditions

- `ModuleGiven`, `ArgsGiven`, `NodeGiven`: what the keys of a call say that may be left out;
- `Call.Declared`, `Condition.Declared`: the call and the condition that a table declares, form by form. Which
  predicates may be called without `args` is left open there (`mayOmit`);
- `Call.functionOf_eq_ok_iff`, `Call.argsOf_eq_ok_iff`, `Call.nodeOf_eq_ok_iff`, `Call.bindNode_eq_ok_iff`: what each
  part of a call is read from; `Condition.ofTable_cases`: the forms of a table that is read;
- `Call.ofFields_eq_ok_iff_declared`, `Condition.ofTable_eq_ok_iff_declared`: calls and conditions are read just where
  they are declared, if `args` may be left out for the predicates that take no arguments and for no others;
- `Condition.ofDecl_eq_ok_iff_declared`: the same for what stands on an edge or a failure rule.
-/

namespace TaskFlow

/-! ## The grammar -/

/-- The module of a call: the one it imports, else that of all predicates. -/
inductive ModuleGiven (s : Scope) : Option Toml → String → Prop where
  | general : ModuleGiven s none s.settings.predicatesModule
  | imported (m : String) : ModuleGiven s (some (.str m)) m

/-- The arguments of a call: those of a table with the parameters of the predicate for its keys, none where they are
left out. -/
inductive ArgsGiven (mayOmit : PredicateSignature → Prop) (p : PredicateSignature) :
    Option Toml → Dict Json → Prop where
  | omitted : mayOmit p → ArgsGiven mayOmit p none .empty
  | given {args : List (String × Toml)} : (∀ k, k ∈ args.map Prod.fst ↔ k ∈ p.explicitParams) →
      ArgsGiven mayOmit p (some (.table args)) (.ofList (Toml.toJsonFields args))

/-- The node of a call: none unless the predicate takes a message, else the one it names or the only source. -/
inductive NodeGiven (p : PredicateSignature) (sources : List String) : Option Toml → Option String → Prop where
  | unneeded : p.requiresMessage = false → NodeGiven p sources none none
  | named {node : String} : p.requiresMessage = true → NodeGiven p sources (some (.str node)) (some node)
  | onlySource {source : String} : p.requiresMessage = true → sources = [source] →
      NodeGiven p sources none (some source)

variable {mayOmit : PredicateSignature → Prop} {s : Scope} {sources : List String}

/-- The call of a registered predicate that the fields of a table declare. -/
structure Call.Declared (mayOmit : PredicateSignature → Prop) (s : Scope) (sources : List String)
    (fields : List (String × Toml)) (c : Call) (p : PredicateSignature) : Prop where
  keys_known : ∀ e ∈ fields, e.1 ∈ ["name", "node", "args", "import"]
  name_given : fields.lookup "name" = some (.str c.function.name)
  module_given : ModuleGiven s (fields.lookup "import") c.function.moduleName
  registered : s.registry.predicate? c.function = some p
  args_given : ArgsGiven mayOmit p (fields.lookup "args") c.args
  node_given : NodeGiven p sources (fields.lookup "node") c.node
  requiresMessage_eq : c.requiresMessage = p.requiresMessage
  requiresNodeArgs_eq : c.requiresNodeArgs = p.requiresNodeArgs

/-- The condition that a table declares: a call, or one combinator over the conditions of other tables. -/
inductive Condition.Declared (mayOmit : PredicateSignature → Prop) (s : Scope) (sources : List String) :
    Toml → Condition → Prop where
  | call {fields : List (String × Toml)} {c : Call} {p : PredicateSignature} :
      Call.Declared mayOmit s sources fields c p → Declared mayOmit s sources (.table fields) (.call c)
  | negate {t : Toml} {c : Condition} :
      Declared mayOmit s sources t c → Declared mayOmit s sources (.table [("not", t)]) (.negate c)
  | all {items : List Toml} {cs : List Condition} : items ≠ [] → List.Forall₂ (Declared mayOmit s sources) items cs →
      Declared mayOmit s sources (.table [("and", .arr items)]) (.all cs)
  | any {items : List Toml} {cs : List Condition} : items ≠ [] → List.Forall₂ (Declared mayOmit s sources) items cs →
      Declared mayOmit s sources (.table [("or", .arr items)]) (.any cs)

/-! ## The parts of a call -/

theorem Toml.asString?_eq_some_iff {t : Toml} {text : String} : t.asString? = some text ↔ t = .str text := by
  cases t with
  | str s =>
    rw [asString?, Option.some.injEq, Toml.str.injEq]
  | _ => exact iff_of_false nofun nofun

theorem Toml.map_fst_toJsonFields (fields : List (String × Toml)) :
    (toJsonFields fields).map Prod.fst = fields.map Prod.fst := by
  induction fields with
  | nil => rfl
  | cons f fields ih =>
    obtain ⟨k, t⟩ := f
    rw [toJsonFields, List.map_cons, List.map_cons, ih]

theorem matchArguments_eq_ok_iff {expected supplied : List String} :
    matchArguments expected supplied = .ok () ↔ ∀ x, x ∈ supplied ↔ x ∈ expected := by
  have hmatch : matchArguments expected supplied = .ok () ↔
      (∀ x ∈ expected, x ∈ supplied) ∧ ∀ x ∈ supplied, x ∈ expected := by
    have hwithin : ∀ xs ys : List String,
        ((NameSet.ofList xs).names.filter fun x => !(NameSet.ofList ys).contains x).isEmpty = true ↔
          ∀ x ∈ xs, x ∈ ys := by
      intro xs ys
      simp only [List.isEmpty_iff, List.filter_eq_nil_iff, Bool.not_eq_true', Bool.not_eq_false, NameSet.contains_iff,
        NameSet.mem_ofList]
      exact forall_congr' fun x => imp_congr_left NameSet.mem_ofList
    rw [← hwithin, ← hwithin, ← Bool.and_eq_true]
    simp only [matchArguments]
    split
    · rename_i h
      exact iff_of_true rfl h
    · rename_i h
      refine iff_of_false (fun hok => ?_) h
      cases hok
  rw [hmatch]
  exact ⟨fun h x => ⟨h.2 x, h.1 x⟩, fun h => ⟨fun x => (h x).2, fun x => (h x).1⟩⟩

/-- What gives a node is a name or nothing. -/
theorem NodeGiven.exists_named {p : PredicateSignature} {given : Option Toml} {node : Option String}
    (h : NodeGiven p sources given node) : ∃ named : Option String, given = named.map .str := by
  cases h with
  | unneeded => exact ⟨none, rfl⟩
  | named => exact ⟨some _, rfl⟩
  | onlySource => exact ⟨none, rfl⟩

namespace Call

variable {fields : List (String × Toml)} {f : FunctionRef} {p : PredicateSignature}

theorem functionOf_eq_ok_iff : functionOf s fields = .ok f ↔
    fields.lookup "name" = some (.str f.name) ∧ ModuleGiven s (fields.lookup "import") f.moduleName := by
  constructor
  · intro h
    unfold functionOf at h
    split at h
    · cases h
    · rename_i name hname
      obtain ⟨t, hlookup, htext⟩ := Option.bind_eq_some_iff.1 hname
      rw [Toml.asString?_eq_some_iff.1 htext] at hlookup
      split at h
      · rename_i himport
        cases h
        rw [himport]
        exact ⟨hlookup, .general⟩
      · rename_i m himport
        cases h
        rw [himport]
        exact ⟨hlookup, .imported m⟩
      · cases h
  · obtain ⟨moduleName, name⟩ := f
    rintro ⟨hname, hmodule⟩
    rw [functionOf, hname]
    generalize fields.lookup "import" = given at hmodule
    cases hmodule with
    | general => rfl
    | imported => rfl

/-- Arguments are taken from a table with the right keys, and are none where the predicate takes none. -/
theorem argsOf_eq_ok_iff {args : Dict Json} : argsOf f p fields = .ok args ↔
    ArgsGiven (fun p => p.explicitParams = []) p (fields.lookup "args") args := by
  have hmatch : ∀ d : Dict Json,
      (matchArguments p.explicitParams d.keys).mapError (ConditionError.argumentMismatch f) = .ok () ↔
        ∀ k, k ∈ d.keys ↔ k ∈ p.explicitParams :=
    fun d => Except.mapError_eq_ok_iff.trans matchArguments_eq_ok_iff
  have hkeys : ∀ (table : List (String × Toml)) (k : String),
      k ∈ (Dict.ofList (Toml.toJsonFields table)).keys ↔ k ∈ table.map Prod.fst := by
    intro table k
    rw [Dict.mem_keys_ofList, Toml.map_fst_toJsonFields]
  constructor
  · intro h
    unfold argsOf at h
    split at h
    · rename_i hlookup
      obtain ⟨_, hargs, h⟩ := Except.bind_eq_ok_iff.1 h
      obtain ⟨_, hok, h⟩ := Except.bind_eq_ok_iff.1 h
      cases hargs
      cases h
      rw [hlookup]
      exact .omitted (List.eq_nil_iff_forall_not_mem.2 fun k hk => nomatch ((hmatch .empty).1 hok k).2 hk)
    · rename_i table hlookup
      obtain ⟨_, hargs, h⟩ := Except.bind_eq_ok_iff.1 h
      obtain ⟨_, hok, h⟩ := Except.bind_eq_ok_iff.1 h
      cases hargs
      cases h
      rw [hlookup]
      exact .given fun k => (hkeys table k).symm.trans ((hmatch _).1 hok k)
    · cases h
  · intro hgiven
    unfold argsOf
    generalize fields.lookup "args" = given at hgiven
    cases hgiven with
    | omitted hnone =>
      have hok := (hmatch .empty).2 fun k => by rw [hnone]; rfl
      exact Except.bind_eq_ok_iff.2 ⟨_, rfl, Except.bind_eq_ok_iff.2 ⟨(), hok, rfl⟩⟩
    | given hparams =>
      have hok := (hmatch _).2 fun k => (hkeys _ k).trans (hparams k)
      exact Except.bind_eq_ok_iff.2 ⟨_, rfl, Except.bind_eq_ok_iff.2 ⟨(), hok, rfl⟩⟩

theorem nodeOf_eq_ok_iff {named : Option String} :
    nodeOf f fields = .ok named ↔ fields.lookup "node" = named.map .str := by
  unfold nodeOf
  split
  · rename_i hlookup
    rw [hlookup]
    cases named with
    | none => exact iff_of_true rfl rfl
    | some node => exact iff_of_false nofun nofun
  · rename_i node hlookup
    rw [hlookup, Except.ok.injEq]
    cases named with
    | none => exact iff_of_false nofun nofun
    | some node' => simp
  · rename_i t hnot hlookup
    refine iff_of_false nofun fun h => ?_
    rw [hlookup] at h
    cases named with
    | none => cases h
    | some node => exact hnot node (Option.some.inj h)

theorem bindNode_eq_ok_iff {named node : Option String} :
    bindNode f p sources named = .ok node ↔ NodeGiven p sources (named.map .str) node := by
  constructor
  · intro h
    unfold bindNode at h
    split at h
    · rename_i node' hmessage
      cases h
      exact .named hmessage
    · rename_i source hmessage
      cases h
      exact .onlySource hmessage rfl
    · cases h
    · cases h
    · rename_i hmessage
      cases h
      exact .unneeded hmessage
  · intro h
    unfold bindNode
    cases named with
    | none =>
      cases h with
      | unneeded hmessage => rw [hmessage]
      | onlySource hmessage hsources => rw [hmessage, hsources]
    | some named =>
      cases h with
      | named hmessage => rw [hmessage]

/-- A call that is read has known keys only, and is put together from the parts that its fields give. -/
theorem ofFields_eq_ok_iff {c : Call} :
    ofFields s sources fields = .ok c ↔ (∀ e ∈ fields, e.1 ∈ keys) ∧ ∃ f p args named node,
      functionOf s fields = .ok f ∧ s.registry.predicate? f = some p ∧ argsOf f p fields = .ok args ∧
      nodeOf f fields = .ok named ∧ bindNode f p sources named = .ok node ∧ c = .ofSignature f node args p := by
  have hkeys : (fields.find? fun e => !keys.contains e.1) = none ↔ ∀ e ∈ fields, e.1 ∈ keys := by
    simp [List.find?_eq_none]
  rw [← hkeys, ofFields]
  cases fields.find? fun e => !keys.contains e.1 with
  | some e => exact iff_of_false nofun fun h => nomatch h.1
  | none =>
    rw [eq_self_iff_true, true_and]
    constructor
    · intro h
      obtain ⟨f, hf, h⟩ := Except.bind_eq_ok_iff.1 h
      split at h
      · cases h
      · rename_i p hp
        obtain ⟨args, hargs, h⟩ := Except.bind_eq_ok_iff.1 h
        obtain ⟨named, hnamed, h⟩ := Except.bind_eq_ok_iff.1 h
        obtain ⟨node, hnode, h⟩ := Except.bind_eq_ok_iff.1 h
        cases h
        exact ⟨f, p, args, named, node, hf, hp, hargs, hnamed, hnode, rfl⟩
    · rintro ⟨f, p, args, named, node, hf, hp, hargs, hnamed, hnode, rfl⟩
      refine Except.bind_eq_ok_iff.2 ⟨f, hf, ?_⟩
      simp only [hp]
      refine Except.bind_eq_ok_iff.2 ⟨args, hargs, ?_⟩
      refine Except.bind_eq_ok_iff.2 ⟨named, hnamed, ?_⟩
      exact Except.bind_eq_ok_iff.2 ⟨node, hnode, rfl⟩

/-- A call is read just where it is declared. -/
theorem ofFields_eq_ok_iff_declared {c : Call} : ofFields s sources fields = .ok c ↔
    ∃ p, Declared (fun p => p.explicitParams = []) s sources fields c p := by
  rw [ofFields_eq_ok_iff]
  constructor
  · rintro ⟨hkeys, f, p, args, named, node, hf, hp, hargs, hnamed, hnode, rfl⟩
    obtain ⟨hname, hmodule⟩ := functionOf_eq_ok_iff.1 hf
    have hgiven := bindNode_eq_ok_iff.1 hnode
    rw [← nodeOf_eq_ok_iff.1 hnamed] at hgiven
    exact ⟨p, hkeys, hname, hmodule, hp, argsOf_eq_ok_iff.1 hargs, hgiven, rfl, rfl⟩
  · rintro ⟨p, h⟩
    have hf := functionOf_eq_ok_iff.2 ⟨h.name_given, h.module_given⟩
    have hnode := h.node_given
    obtain ⟨named, hnamed⟩ := hnode.exists_named
    rw [hnamed] at hnode
    refine ⟨h.keys_known, c.function, p, c.args, named, c.node, hf, h.registered, argsOf_eq_ok_iff.2 h.args_given,
      nodeOf_eq_ok_iff.2 hnamed, bindNode_eq_ok_iff.2 hnode, ?_⟩
    rw [ofSignature, ← h.requiresMessage_eq, ← h.requiresNodeArgs_eq]

theorem ne_nil_of_declared {c : Call} (h : Declared mayOmit s sources fields c p) : fields ≠ [] := by
  rintro rfl
  exact nomatch h.name_given

end Call

/-! ## The forms of a condition -/

/-- A combinator found is a key of the fields. -/
theorem Combinator.lookup_of_find? {fields : List (String × Toml)} {k : Combinator} (h : find? fields = some k) :
    (fields.lookup k.text).isSome :=
  List.find?_some (p := fun c : Combinator => (fields.lookup c.text).isSome) h

/-- No combinator is a key of fields in which none is found. -/
theorem Combinator.lookup_of_find?_eq_none {fields : List (String × Toml)} (h : find? fields = none) (k : Combinator) :
    fields.lookup k.text = none := by
  have hk := List.find?_eq_none.1 h k (by cases k <;> decide)
  rw [Option.not_isSome_iff_eq_none] at hk
  exact hk

theorem Combinator.text_of_find? {key : String} {inner : Toml} {k : Combinator} (h : find? [(key, inner)] = some k) :
    key = k.text := by
  have hk := lookup_of_find? h
  rw [Fields.lookup_cons] at hk
  split at hk
  · rename_i heq
    exact heq.symm
  · cases hk

/-- The keys of a call are none of the combinators. -/
theorem Combinator.find?_eq_none_of_keys {fields : List (String × Toml)} (h : ∀ e ∈ fields, e.1 ∈ Call.keys) :
    find? fields = none := by
  refine List.find?_eq_none.2 fun k _ hfound => ?_
  obtain ⟨e, he, heq⟩ := List.lookup_isSome_iff.1 hfound
  have hkey : k.text ∈ Call.keys := by
    rw [beq_iff_eq.1 heq]
    exact h e he
  cases k <;> revert hkey <;> decide

namespace Condition

/-- What a table that declares a condition looks like: a call, or a combinator on its own. -/
theorem ofTable_cases {t : Toml} {c : Condition} (h : ofTable s sources t = .ok c) :
    (∃ fields call, t = .table fields ∧ (∀ k : Combinator, fields.lookup k.text = none) ∧
      Call.ofFields s sources fields = .ok call ∧ c = .call call) ∨
    (∃ inner c', t = .table [("not", inner)] ∧ (∀ items, inner ≠ .arr items) ∧ ofTable s sources inner = .ok c' ∧
      c = .negate c') ∨
    (∃ items cs, t = .table [("and", .arr items)] ∧ items ≠ [] ∧ ofItems s sources items = .ok cs ∧ c = .all cs) ∨
    (∃ items cs, t = .table [("or", .arr items)] ∧ items ≠ [] ∧ ofItems s sources items = .ok cs ∧ c = .any cs) := by
  unfold ofTable at h
  split at h
  · cases h
  · rename_i key inner
    split at h
    · rename_i hnone
      obtain ⟨call, hcall, rfl⟩ := Except.map_eq_ok_iff.1 h
      exact Or.inl ⟨_, call, rfl, Combinator.lookup_of_find?_eq_none hnone, hcall, rfl⟩
    · rename_i hnot
      cases Combinator.text_of_find? hnot
      split at h
      · cases h
      · rename_i hlist
        obtain ⟨c', hc', rfl⟩ := Except.map_eq_ok_iff.1 h
        exact Or.inr (Or.inl ⟨_, c', rfl, hlist, hc', rfl⟩)
    · rename_i k hne hk
      cases Combinator.text_of_find? hk
      split at h
      · rename_i item items
        obtain ⟨cs, hcs, rfl⟩ := Except.map_eq_ok_iff.1 h
        cases k with
        | and => exact Or.inr (Or.inr (Or.inl ⟨_, cs, rfl, List.cons_ne_nil _ _, hcs, rfl⟩))
        | or => exact Or.inr (Or.inr (Or.inr ⟨_, cs, rfl, List.cons_ne_nil _ _, hcs, rfl⟩))
        | not => exact absurd rfl hne
      · cases h
  · rename_i fields _ _
    split at h
    · rename_i hnone
      obtain ⟨call, hcall, rfl⟩ := Except.map_eq_ok_iff.1 h
      exact Or.inl ⟨_, call, rfl, Combinator.lookup_of_find?_eq_none hnone, hcall, rfl⟩
    · cases h
  · cases h

/-- Fields without a combinator are read as a call. -/
theorem ofTable_of_find?_eq_none {fields : List (String × Toml)} (hne : fields ≠ [])
    (h : Combinator.find? fields = none) :
    ofTable s sources (.table fields) = (Call.ofFields s sources fields).map .call := by
  unfold ofTable
  split
  · rename_i heq
    cases heq
    exact absurd rfl hne
  · rename_i heq
    cases heq
    rw [h]
  · rename_i heq
    cases heq
    rw [h]
  · rename_i hnot
    exact absurd rfl (hnot fields)

/-- What is declared is declared by a table. -/
theorem Declared.ne_arr {t : Toml} {c : Condition} (h : Declared mayOmit s sources t c) (items : List Toml) :
    t ≠ .arr items := by
  cases h <;> exact nofun

theorem ofTable_not {t : Toml} (h : ∀ items, t ≠ .arr items) :
    ofTable s sources (.table [("not", t)]) = (ofTable s sources t).map .negate := by
  have hfind : Combinator.find? [("not", t)] = some .not := rfl
  rw [ofTable, hfind]
  exact h

/-- A combinator of several conditions joins those of a list that is not empty. -/
theorem ofTable_group {k : Combinator} {items : List Toml} (hk : k ≠ .not) (h : items ≠ []) :
    ofTable s sources (.table [(k.text, .arr items)]) =
      (ofItems s sources items).map fun cs => if k = .and then .all cs else .any cs := by
  obtain ⟨item, items, rfl⟩ := List.exists_cons_of_ne_nil h
  cases k with
  | not => exact absurd rfl hk
  | and => rfl
  | or => rfl

/-! ## Conditions -/

-- on the size of the table: the conditions that a combinator joins stand inside it, at any depth
mutual

/-- A table is read as a condition just where it declares it. -/
theorem ofTable_eq_ok_iff_declared : ∀ {t : Toml} {c : Condition}, ofTable s sources t = .ok c ↔
    Declared (fun p => p.explicitParams = []) s sources t c := by
  intro t c
  constructor
  · intro h
    obtain ⟨fields, call, rfl, -, hcall, rfl⟩ | ⟨inner, c', rfl, -, hc', rfl⟩ | ⟨items, cs, rfl, hne, hcs, rfl⟩ |
      ⟨items, cs, rfl, hne, hcs, rfl⟩ := ofTable_cases h
    · obtain ⟨p, hdeclared⟩ := Call.ofFields_eq_ok_iff_declared.1 hcall
      exact .call hdeclared
    · exact .negate (ofTable_eq_ok_iff_declared.1 hc')
    · exact .all hne (ofItems_eq_ok_iff_declared.1 hcs)
    · exact .any hne (ofItems_eq_ok_iff_declared.1 hcs)
  · intro h
    cases h with
    | call hdeclared =>
      have hcall := Call.ofFields_eq_ok_iff_declared.2 ⟨_, hdeclared⟩
      have hne := Call.ne_nil_of_declared hdeclared
      rw [ofTable_of_find?_eq_none hne (Combinator.find?_eq_none_of_keys hdeclared.keys_known), hcall]
      rfl
    | negate hinner =>
      rw [ofTable_not hinner.ne_arr, ofTable_eq_ok_iff_declared.2 hinner]
      rfl
    | all hne hitems =>
      refine (ofTable_group (k := .and) nofun hne).trans ?_
      rw [ofItems_eq_ok_iff_declared.2 hitems]
      rfl
    | any hne hitems =>
      refine (ofTable_group (k := .or) nofun hne).trans ?_
      rw [ofItems_eq_ok_iff_declared.2 hitems]
      rfl
termination_by t => sizeOf t

theorem ofItems_eq_ok_iff_declared : ∀ {ts : List Toml} {cs : List Condition}, ofItems s sources ts = .ok cs ↔
    List.Forall₂ (Declared (fun p => p.explicitParams = []) s sources) ts cs
  | [], cs => by
    rw [List.forall₂_nil_left_iff]
    exact ⟨fun h => by cases h; rfl, fun h => by rw [h]; rfl⟩
  | t :: ts, cs => by
    rw [List.forall₂_cons_left_iff]
    constructor
    · intro h
      obtain ⟨c, hc, h⟩ := Except.bind_eq_ok_iff.1 h
      obtain ⟨cs', hcs, h⟩ := Except.bind_eq_ok_iff.1 h
      cases h
      exact ⟨c, cs', ofTable_eq_ok_iff_declared.1 hc, ofItems_eq_ok_iff_declared.1 hcs, rfl⟩
    · rintro ⟨c, cs', hc, hcs, rfl⟩
      refine Except.bind_eq_ok_iff.2 ⟨c, ofTable_eq_ok_iff_declared.2 hc, ?_⟩
      exact Except.bind_eq_ok_iff.2 ⟨cs', ofItems_eq_ok_iff_declared.2 hcs, rfl⟩
termination_by ts => sizeOf ts

end

/-- **Conditions are read exactly as the grammar has them**: what stands on an edge or a failure rule is read as a
condition just where it declares that condition, call by call, and only predicates without arguments are called
without `args`. -/
theorem ofDecl_eq_ok_iff_declared {t : Toml} {c : Condition} :
    ofDecl s sources (some t) = .ok c ↔ Declared (fun p => p.explicitParams = []) s sources t c :=
  ofTable_eq_ok_iff_declared

/-- A predicate that takes an argument is not called without `args`, as it would be if they could always be left
out. -/
theorem ofDecl_refuses_omitted_args :
    let s : Scope := { settings := {}, registry := .builtin, tasks := .empty, flowNames := .empty }
    let t : Toml := .table [("name", .str "argsFieldExist")]
    let f : FunctionRef := ⟨Predicates.moduleName, "argsFieldExist"⟩
    Declared (fun _ => True) s ["A"] t (.call ⟨f, none, .empty, false, true⟩) ∧
      ofDecl s ["A"] (some t) = .error (.argumentMismatch f ⟨["key"], []⟩) := by
  refine ⟨.call (p := ⟨[nodeArgsParam, "key"], some Predicates.argsFieldExist⟩) ?_, ?_⟩
  · exact {
      keys_known := by decide
      name_given := rfl
      module_given := .general
      registered := rfl
      args_given := .omitted trivial
      node_given := .unneeded (by decide)
      requiresMessage_eq := by decide
      requiresNodeArgs_eq := by decide }
  · rfl

end Condition

end TaskFlow
