import TaskFlow.Proofs.Registry.Comparison

/-!
# Predicates on a result and their twins on the arguments of a flow

- `Subject.eval_arguments`: the comparisons answer alike on a value that is no null, errors included;
  `argsFieldExist_eq_fieldExist`: so does existence once there is a key;
- `Twins.says_no`, `says_argsIsNone`: absent arguments and null ones are the same, and every question about them
  is answered with no;
- `twins_agree`: both together, for each pair of `Twins`.
-/

namespace TaskFlow.Predicates

/-- A predicate on the arguments of the flow and the one that puts its question to a stored result. -/
inductive Twins : String → String → Prop
  | exist : Twins "argsFieldExist" "fieldExist"
  | compare (q : Question) : Twins (Subject.arguments.predicate q) (Subject.result.predicate q)

/-- Arguments with all that a configuration has to supply to a built-in predicate. -/
def Given (name : String) (args : Dict Json) : Prop :=
  ∀ p, Registry.builtin.predicate? ⟨moduleName, name⟩ = some p →
    ∀ x ∈ p.explicitParams, ∃ value, args.get? x = some value

theorem Given.exists_arg {name : String} {params : List String} {eval : PredicateCall → Except EvalError Bool}
    {args : Dict Json} (h : Given name args) (hmem : (name, params, eval) ∈ builtinPredicates) {x : String}
    (hx : x ∈ (⟨params, some eval⟩ : PredicateSignature).explicitParams) : ∃ value, args.get? x = some value :=
  h _ (Registry.predicate?_builtin hmem) x hx

theorem argsFieldExist_mem : ("argsFieldExist", [nodeArgsParam, "key"], argsFieldExist) ∈ builtinPredicates := by
  simp [builtinPredicates]

theorem fieldExist_mem : ("fieldExist", [messageParam, "key"], fieldExist) ∈ builtinPredicates := by
  simp [builtinPredicates]

theorem explicitParams_compare (s : Subject) (eval : PredicateCall → Except EvalError Bool) :
    (⟨[s.param, "key", "value"], some eval⟩ : PredicateSignature).explicitParams = ["key", "value"] := by
  cases s <;> rfl

/-- Existence wants a key. -/
theorem Given.exists_key {args : Dict Json} (h : Given "argsFieldExist" args) : ∃ path, args.get? "key" = some path :=
  h.exists_arg argsFieldExist_mem (by decide)

/-- A comparison wants a key and a value. -/
theorem Given.exists_key_value {q : Question} {args : Dict Json} (h : Given (Subject.arguments.predicate q) args) :
    ∃ path value, args.get? "key" = some path ∧ args.get? "value" = some value := by
  have hmem := Subject.arguments.mem_builtinPredicates q
  obtain ⟨path, hpath⟩ : ∃ path, args.get? "key" = some path := h.exists_arg hmem (by simp [explicitParams_compare])
  obtain ⟨value, hvalue⟩ : ∃ value, args.get? "value" = some value :=
    h.exists_arg hmem (by simp [explicitParams_compare])
  exact ⟨path, value, hpath, hvalue⟩

/-! ## Arguments that are there -/

section Present

variable {v : Json} {args : Dict Json}

theorem nodeArgs?_of_ne_null (hv : v ≠ .null) (message : Option Json) : nodeArgs? ⟨message, some v, args⟩ = some v := by
  have hnot : v.isNull = false := by
    cases v with
    | null => exact absurd rfl hv
    | _ => rfl
  simp [nodeArgs?, hnot]

/-- A comparison answers alike to both subjects, and fails alike where it lacks an argument. -/
theorem Subject.eval_arguments (hv : v ≠ .null) (q : Question) (message nodeArgs : Option Json) :
    Subject.arguments.eval q ⟨message, some v, args⟩ = Subject.result.eval q ⟨some v, nodeArgs, args⟩ := by
  have hsource : nodeArgs? ⟨message, some v, args⟩ = some v := nodeArgs?_of_ne_null hv message
  cases q with
  | equal =>
    show argsFieldEqual _ = fieldEqual _
    rw [argsFieldEqual, hsource]
    rfl
  | contain =>
    show argsFieldContain _ = fieldContain _
    rw [argsFieldContain, hsource]
    rfl
  | less =>
    show argsFieldCompare _ .lt = fieldLess _
    rw [argsFieldCompare, hsource]
    rfl
  | greater =>
    show argsFieldCompare _ .gt = fieldGreater _
    rw [argsFieldCompare, hsource]
    rfl

/-- Existence answers alike to both subjects once there is a key. -/
theorem argsFieldExist_eq_fieldExist {path : Json} (hv : v ≠ .null) (hpath : args.get? "key" = some path)
    (message nodeArgs : Option Json) :
    argsFieldExist ⟨message, some v, args⟩ = fieldExist ⟨some v, nodeArgs, args⟩ := by
  rw [argsFieldExist_eq_ok (arg_eq_ok_iff.2 hpath), nodeArgs?_of_ne_null hv,
    fieldExist_eq_ok (message_eq_ok_iff.2 rfl) (arg_eq_ok_iff.2 hpath)]
  rfl

/-- Twins answer alike to a value that is no null. -/
theorem Twins.says_alike {name name' : String} (h : Twins name name') (hargs : Given name args) (hv : v ≠ .null)
    (message nodeArgs : Option Json) :
    ∃ b, Says name ⟨message, some v, args⟩ b ∧ Says name' ⟨some v, nodeArgs, args⟩ b := by
  cases h with
  | exist =>
    obtain ⟨path, hpath⟩ := hargs.exists_key
    have hanswer : fieldExist ⟨some v, nodeArgs, args⟩ = .ok (v.lookup? path).isSome :=
      fieldExist_eq_ok (message_eq_ok_iff.2 rfl) (arg_eq_ok_iff.2 hpath)
    refine ⟨_, (says_iff argsFieldExist_mem).2 ?_, (says_iff fieldExist_mem).2 hanswer⟩
    rw [argsFieldExist_eq_fieldExist hv hpath message nodeArgs, hanswer]
  | compare q =>
    obtain ⟨path, value, hpath, hvalue⟩ := hargs.exists_key_value
    have hasks : Asks .result ⟨some v, nodeArgs, args⟩ v path value := ⟨rfl, hpath, hvalue⟩
    refine ⟨_, (says_iff (Subject.arguments.mem_builtinPredicates q)).2 ?_, hasks.answer q⟩
    rw [Subject.eval_arguments hv q message nodeArgs, hasks.eval_eq_ok]

end Present

/-! ## Arguments that are not -/

section Absent

variable {call : PredicateCall}

theorem nodeArgs?_eq_none_iff : nodeArgs? call = none ↔ call.nodeArgs = none ∨ call.nodeArgs = some .null := by
  cases h : call.nodeArgs with
  | none => simp [nodeArgs?, h]
  | some v => cases v <;> simp [nodeArgs?, h, Json.isNull]

/-- Of absent arguments nothing holds. -/
theorem Twins.says_no {name name' : String} (h : Twins name name') (hargs : Given name call.args)
    (habsent : nodeArgs? call = none) : Says name call false := by
  cases h with
  | exist =>
    obtain ⟨path, hpath⟩ := hargs.exists_key
    have hanswer := argsFieldExist_eq_ok (arg_eq_ok_iff.2 hpath)
    rw [habsent, Option.any_none] at hanswer
    exact (says_iff argsFieldExist_mem).2 hanswer
  | compare q =>
    obtain ⟨path, value, hpath, hvalue⟩ := hargs.exists_key_value
    have hanswer := Subject.eval_arguments_eq_ok hpath hvalue q
    rw [habsent, Option.bind_none, Option.any_none] at hanswer
    exact (says_iff (Subject.arguments.mem_builtinPredicates q)).2 hanswer

/-- Whether there are arguments is answered whatever the call. -/
theorem says_argsIsNone (call : PredicateCall) :
    Says "argsIsNone" call (decide (call.nodeArgs = none ∨ call.nodeArgs = some .null)) := by
  have hmem : ("argsIsNone", [nodeArgsParam], argsIsNone) ∈ builtinPredicates := by simp [builtinPredicates]
  refine (says_iff hmem).2 (congrArg Except.ok ?_)
  rw [Bool.eq_iff_iff, Option.isNone_iff_eq_none, nodeArgs?_eq_none_iff, decide_eq_true_iff]

end Absent

/-- **The two families agree**: given its arguments, a predicate answers about the arguments of the flow as its twin
about a stored result, and with no where there are none. -/
theorem twins_agree {name name' : String} {args : Dict Json} (h : Twins name name') (hargs : Given name args)
    (message nodeArgs : Option Json) :
    (∀ v, v ≠ .null → ∃ b, Says name ⟨message, some v, args⟩ b ∧ Says name' ⟨some v, nodeArgs, args⟩ b) ∧
      (∀ absent, absent = none ∨ absent = some .null → Says name ⟨message, absent, args⟩ false) ∧
      ∀ call, Says "argsIsNone" call (decide (call.nodeArgs = none ∨ call.nodeArgs = some .null)) :=
  ⟨fun _ hv => h.says_alike hargs hv message nodeArgs,
    fun _ habsent => h.says_no hargs (nodeArgs?_eq_none_iff.2 habsent), says_argsIsNone⟩

/-- The empty path leads to the whole value, a list that contains the integer `1`. -/
theorem twins_agree_whole :
    let args : Dict Json := Dict.ofList [("key", .arr []), ("value", .ofInt 1)]
    (∃ b, Says "argsFieldContain" ⟨none, some (.arr [.ofInt 1]), args⟩ b ∧
      Says "fieldContain" ⟨some (.arr [.ofInt 1]), none, args⟩ b) ∧
      Says "fieldContain" ⟨some (.arr [.ofInt 1]), none, args⟩ true ∧
      Says "argsFieldContain" ⟨none, some .null, args⟩ false ∧ Says "argsIsNone" ⟨none, some .null, args⟩ true := by
  intro args
  have hargs : Given "argsFieldContain" args := by
    intro p hp x hx
    have hfound := Registry.predicate?_builtin (Subject.arguments.mem_builtinPredicates .contain)
    cases hp.symm.trans hfound
    rw [explicitParams_compare, List.mem_cons, List.mem_singleton] at hx
    obtain rfl | rfl := hx
    · exact ⟨_, rfl⟩
    · exact ⟨_, rfl⟩
  obtain ⟨hagree, hno, hnone⟩ := twins_agree (.compare .contain) hargs none none
  have hasks : Asks .result ⟨some (.arr [.ofInt 1]), none, args⟩ (.arr [.ofInt 1]) (.arr []) (.ofInt 1) :=
    ⟨rfl, rfl, rfl⟩
  exact ⟨hagree _ nofun, hasks.answer .contain, hno _ (.inr rfl), hnone ⟨none, some .null, args⟩⟩

end TaskFlow.Predicates
