import Mathlib.Data.List.Basic
import TaskFlow.Proofs.Log.Logged
import TaskFlow.Registry.Builtin

/-!
# Answers of the built-in predicates

- `PredicateCall.Supplies`: a call has the message and the arguments that a predicate takes;
- one lemma for each predicate: what it answers to a call that supplies it;
- `builtinPredicates_answer`: every built-in predicate answers such a call, unless it compares a length with something
  that is no natural number;
- `builtinPredicates_ignore_nodeArgs`: those that do not take the arguments of the flow do not look at them;
- `Registry.exists_mem_of_predicate?_builtin`: the predicates of the built-in registry are these.
-/

namespace TaskFlow

theorem Json.asNat?_eq_none_iff {j : Json} : j.asNat? = none ↔ ∀ n : Nat, j ≠ .ofNat n := by
  constructor
  · rintro h n rfl
    simp [asNat?, ofNat] at h
  · intro h
    unfold asNat?
    split
    · rename_i i
      refine if_neg fun hi => h i.toNat ?_
      rw [ofNat, Int.toNat_of_nonneg hi]
    · rfl

/-- A call has the message and the arguments that a predicate with the given parameters takes. -/
structure PredicateCall.Supplies (call : PredicateCall) (params : List String) : Prop where
  message : messageParam ∈ params → call.message.isSome
  arg : ∀ name ∈ params, name ≠ messageParam → name ≠ nodeArgsParam → (call.args.get? name).isSome

namespace Predicates

variable {call : PredicateCall} {m path value length : Json} {n : Nat} {wanted : Ordering}

theorem message_eq_ok_iff : message call = .ok m ↔ call.message = some m := by
  unfold message
  cases call.message with
  | none => exact iff_of_false nofun nofun
  | some _ => exact ⟨fun h => by cases h; rfl, fun h => by cases h; rfl⟩

theorem arg_eq_ok_iff {name : String} : arg call name = .ok value ↔ call.args.get? name = some value := by
  unfold arg
  cases call.args.get? name with
  | none => exact iff_of_false nofun nofun
  | some _ => exact ⟨fun h => by cases h; rfl, fun h => by cases h; rfl⟩

/-! ## Predicates on a stored result -/

theorem fieldExist_eq_ok (hm : message call = .ok m) (hkey : key call = .ok path) :
    fieldExist call = .ok (m.lookup? path).isSome := by
  rw [fieldExist, hm, hkey]
  rfl

theorem fieldEqual_eq_ok (hm : message call = .ok m) (hkey : key call = .ok path)
    (hvalue : arg call "value" = .ok value) :
    fieldEqual call = .ok ((m.lookup? path).any fun field => field.equals value) := by
  rw [fieldEqual, hm, hkey, hvalue]
  rfl

theorem fieldContain_eq_ok (hm : message call = .ok m) (hkey : key call = .ok path) :
    fieldContain call = .ok ((m.lookup? path).any fun field => field.contains (argOrNull call "value")) := by
  rw [fieldContain, hm, hkey]
  rfl

theorem compareLength_eq_ok (hm : message call = .ok m) (hkey : key call = .ok path)
    (hlength : arg call "length" = .ok length) (hn : length.asNat? = some n) :
    compareLength call wanted = .ok (((m.lookup? path).bind Json.length?).any fun k => compare k n == wanted) := by
  refine Except.bind_eq_ok_iff.2 ⟨length, hlength, ?_⟩
  simp only [hn]
  exact Except.bind_eq_ok_iff.2 ⟨m, hm, Except.bind_eq_ok_iff.2 ⟨path, hkey, rfl⟩⟩

theorem compareLength_eq_error (hlength : arg call "length" = .ok length) (hn : length.asNat? = none) :
    compareLength call wanted = .error .lengthNotNatural := by
  refine Except.bind_eq_error_iff.2 (Or.inr ⟨length, hlength, ?_⟩)
  simp only [hn]

theorem compareField_eq_ok (hkey : key call = .ok path) (hvalue : arg call "value" = .ok value) :
    compareField call m wanted = .ok ((m.lookup? path).any fun field => field.compare? value == some wanted) := by
  rw [compareField, hkey, hvalue]
  rfl

theorem fieldGreater_eq_ok (hm : message call = .ok m) (hkey : key call = .ok path)
    (hvalue : arg call "value" = .ok value) :
    fieldGreater call = .ok ((m.lookup? path).any fun field => field.compare? value == some .gt) := by
  rw [fieldGreater, hm]
  exact compareField_eq_ok hkey hvalue

theorem fieldLess_eq_ok (hm : message call = .ok m) (hkey : key call = .ok path)
    (hvalue : arg call "value" = .ok value) :
    fieldLess call = .ok ((m.lookup? path).any fun field => field.compare? value == some .lt) := by
  rw [fieldLess, hm]
  exact compareField_eq_ok hkey hvalue

/-! ## Predicates on the arguments of the flow -/

theorem argsFieldExist_eq_ok (hkey : key call = .ok path) :
    argsFieldExist call = .ok ((nodeArgs? call).any fun source => (source.lookup? path).isSome) := by
  rw [argsFieldExist, arg_eq_ok_iff.1 hkey]
  cases nodeArgs? call with
  | none => rfl
  | some source => rfl

theorem argsFieldEqual_eq_ok (hkey : key call = .ok path) (hvalue : arg call "value" = .ok value) :
    argsFieldEqual call = .ok (((nodeArgs? call).bind (·.lookup? path)).any fun field => field.equals value) := by
  rw [argsFieldEqual, hkey, hvalue]
  rfl

theorem argsFieldContain_eq_ok (hkey : key call = .ok path) :
    argsFieldContain call =
      .ok (((nodeArgs? call).bind (·.lookup? path)).any fun field => field.contains (argOrNull call "value")) := by
  rw [argsFieldContain, hkey]
  rfl

theorem argsFieldCompare_eq_ok (hkey : key call = .ok path) (hvalue : arg call "value" = .ok value) :
    argsFieldCompare call wanted =
      .ok (((nodeArgs? call).bind (·.lookup? path)).any fun field => field.compare? value == some wanted) := by
  unfold argsFieldCompare
  cases nodeArgs? call with
  | none => rfl
  | some source => exact compareField_eq_ok hkey hvalue

/-! ## Calls that supply a predicate -/

variable {params : List String}

theorem exists_message (h : call.Supplies params) (hparams : messageParam ∈ params) : ∃ m, message call = .ok m := by
  obtain ⟨m, hm⟩ := Option.isSome_iff_exists.1 (h.message hparams)
  exact ⟨m, message_eq_ok_iff.2 hm⟩

theorem exists_arg (h : call.Supplies params) (name : String)
    (hname : name ∈ params ∧ name ≠ messageParam ∧ name ≠ nodeArgsParam) : ∃ value, arg call name = .ok value := by
  obtain ⟨value, hvalue⟩ := Option.isSome_iff_exists.1 (h.arg name hname.1 hname.2.1 hname.2.2)
  exact ⟨value, arg_eq_ok_iff.2 hvalue⟩

/-- The predicates that compare a length with an argument. -/
def comparingLength : List String := ["fieldLenEqual", "fieldLenGreater", "fieldLenLess"]

/-- What a predicate answers to a call that supplies it: a truth value, unless it compares a length with something that
is no natural number. -/
def Answers (name : String) (params : List String) (eval : PredicateCall → Except EvalError Bool) : Prop :=
  ∀ call, call.Supplies params → (∃ b, eval call = .ok b) ∨
    eval call = .error .lengthNotNatural ∧ name ∈ comparingLength ∧
      ∃ length, call.args.get? "length" = some length ∧ ∀ n : Nat, length ≠ .ofNat n

variable {name : String} {eval : PredicateCall → Except EvalError Bool}

theorem answers_of_message_key_value {b : Json → Json → Json → PredicateCall → Bool}
    (h : ∀ {call m path value}, message call = .ok m → key call = .ok path → arg call "value" = .ok value →
      eval call = .ok (b m path value call)) : Answers name [messageParam, "key", "value"] eval := by
  intro call hcall
  obtain ⟨m, hm⟩ := exists_message hcall (by decide)
  obtain ⟨path, hkey⟩ := exists_arg hcall "key" (by decide)
  obtain ⟨value, hvalue⟩ := exists_arg hcall "value" (by decide)
  exact Or.inl ⟨_, h hm hkey hvalue⟩

theorem answers_of_key_value {b : Json → Json → PredicateCall → Bool}
    (h : ∀ {call path value}, key call = .ok path → arg call "value" = .ok value →
      eval call = .ok (b path value call)) : Answers name [nodeArgsParam, "key", "value"] eval := by
  intro call hcall
  obtain ⟨path, hkey⟩ := exists_arg hcall "key" (by decide)
  obtain ⟨value, hvalue⟩ := exists_arg hcall "value" (by decide)
  exact Or.inl ⟨_, h hkey hvalue⟩

/-- A length is compared unless the argument is no natural number. -/
theorem answers_compareLength (hname : name ∈ comparingLength) (wanted : Ordering) :
    Answers name [messageParam, "key", "length"] fun call => compareLength call wanted := by
  intro call hcall
  obtain ⟨m, hm⟩ := exists_message hcall (by decide)
  obtain ⟨path, hkey⟩ := exists_arg hcall "key" (by decide)
  obtain ⟨length, hlength⟩ := exists_arg hcall "length" (by decide)
  cases hn : length.asNat? with
  | none =>
    have hnot : ∀ n : Nat, length ≠ .ofNat n := Json.asNat?_eq_none_iff.1 hn
    exact Or.inr ⟨compareLength_eq_error hlength hn, hname, length, arg_eq_ok_iff.1 hlength, hnot⟩
  | some n => exact Or.inl ⟨_, compareLength_eq_ok hm hkey hlength hn⟩

/-- **Every built-in predicate answers.** -/
theorem builtinPredicates_answer : ∀ p ∈ builtinPredicates, Answers p.1 p.2.1 p.2.2 := by
  simp only [builtinPredicates, List.forall_mem_cons]
  refine ⟨?alwaysTrue, ?alwaysFalse, ?fieldExist, ?fieldEqual, ?fieldContain, ?fieldLenEqual, ?fieldLenGreater,
    ?fieldLenLess, ?fieldGreater, ?fieldLess, ?argsFieldExist, ?argsFieldEqual, ?argsFieldContain, ?argsFieldGreater,
    ?argsFieldLess, ?argsIsNone, nofun⟩
  case alwaysTrue => exact fun _ _ => Or.inl ⟨true, rfl⟩
  case alwaysFalse => exact fun _ _ => Or.inl ⟨false, rfl⟩
  case fieldExist =>
    intro call hcall
    obtain ⟨m, hm⟩ := exists_message hcall (by decide)
    obtain ⟨path, hkey⟩ := exists_arg hcall "key" (by decide)
    exact Or.inl ⟨_, fieldExist_eq_ok hm hkey⟩
  case fieldEqual => exact answers_of_message_key_value fieldEqual_eq_ok
  case fieldContain => exact answers_of_message_key_value fun hm hkey _ => fieldContain_eq_ok hm hkey
  case fieldLenEqual => exact answers_compareLength (by decide) .eq
  case fieldLenGreater => exact answers_compareLength (by decide) .gt
  case fieldLenLess => exact answers_compareLength (by decide) .lt
  case fieldGreater => exact answers_of_message_key_value fieldGreater_eq_ok
  case fieldLess => exact answers_of_message_key_value fieldLess_eq_ok
  case argsFieldExist =>
    intro call hcall
    obtain ⟨path, hkey⟩ := exists_arg hcall "key" (by decide)
    exact Or.inl ⟨_, argsFieldExist_eq_ok hkey⟩
  case argsFieldEqual => exact answers_of_key_value argsFieldEqual_eq_ok
  case argsFieldContain => exact answers_of_key_value fun hkey _ => argsFieldContain_eq_ok hkey
  case argsFieldGreater => exact answers_of_key_value argsFieldCompare_eq_ok
  case argsFieldLess => exact answers_of_key_value argsFieldCompare_eq_ok
  case argsIsNone => exact fun _ _ => Or.inl ⟨_, rfl⟩

/-- A length is always that of something in a message. -/
theorem messageParam_mem_of_comparingLength :
    ∀ p ∈ builtinPredicates, p.1 ∈ comparingLength → messageParam ∈ p.2.1 := by
  simp [builtinPredicates, comparingLength]

/-- **A built-in predicate without a parameter for them never looks at the arguments of the flow**, though every call
hands them over. -/
theorem builtinPredicates_ignore_nodeArgs : ∀ p ∈ builtinPredicates, nodeArgsParam ∉ p.2.1 →
    ∀ (message : Option Json) (nodeArgs nodeArgs' : Option Json) (args : Dict Json),
      p.2.2 ⟨message, nodeArgs, args⟩ = p.2.2 ⟨message, nodeArgs', args⟩ := by
  simp only [builtinPredicates, List.forall_mem_cons]
  refine ⟨?alwaysTrue, ?alwaysFalse, ?fieldExist, ?fieldEqual, ?fieldContain, ?fieldLenEqual, ?fieldLenGreater,
    ?fieldLenLess, ?fieldGreater, ?fieldLess, ?argsFieldExist, ?argsFieldEqual, ?argsFieldContain, ?argsFieldGreater,
    ?argsFieldLess, ?argsIsNone, nofun⟩
  case argsFieldExist | argsFieldEqual | argsFieldContain | argsFieldGreater | argsFieldLess | argsIsNone =>
    exact fun hparams => absurd List.mem_cons_self hparams
  case alwaysTrue | alwaysFalse => exact fun _ _ _ _ _ => trivial
  -- the others are made of the message and the arguments of the call alone
  all_goals exact fun _ _ _ _ _ => rfl

end Predicates

/-- The predicates of the built-in registry are the built-in ones, under the module that they have in common. -/
theorem Registry.exists_mem_of_predicate?_builtin {f : FunctionRef} {p : PredicateSignature}
    (h : builtin.predicate? f = some p) :
    ∃ name params eval, (name, params, eval) ∈ builtinPredicates ∧ f = ⟨Predicates.moduleName, name⟩ ∧
      p = ⟨params, some eval⟩ := by
  obtain ⟨before, after, hsplit, -⟩ := List.lookup_eq_some_iff.1 h
  have hmem : (f, p) ∈ builtin.predicates := hsplit ▸ List.mem_append_right _ List.mem_cons_self
  obtain ⟨⟨name, params, eval⟩, hbuiltin, heq⟩ := List.mem_map.1 hmem
  cases heq
  exact ⟨name, params, eval, hbuiltin, rfl, rfl⟩

end TaskFlow
