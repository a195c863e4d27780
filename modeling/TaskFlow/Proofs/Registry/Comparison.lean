import TaskFlow.Proofs.Json.Query
import TaskFlow.Proofs.Registry.Builtin
import TaskFlow.Proofs.Registry.Predicates

/-!
# Comparisons by the built-in predicates

- `Says`: what the built-in predicate of a name answers, `says_iff` by its place in the table;
- `Subject`: the predicates on a stored result and those on the arguments of the flow put the same questions to
  different values. `Asks` is a call that puts one, `Asks.answer` the answer;
- `OneOf`: of three comparisons just one says yes, the one that an ordering names. Values in an order are compared in
  it (`Asks.orders`), all others are neither less nor greater (`Asks.unordered`), and no two comparisons ever say yes
  (`Asks.atMostOne`);
- integers are compared as their nearest doubles (`integers_compared_rounded`), and an array contains what is one of
  its items, which asks for more than equality by value (`contain_agrees_with_equal_iff`);
- `comparisons_trichotomy`: the comparisons of a stored result and of its length.
-/

namespace TaskFlow

namespace Predicates

/-! ## Answers by name -/

/-- The built-in predicate of a name answers a call with a truth value. -/
def Says (name : String) (call : PredicateCall) (b : Bool) : Prop :=
  ∃ p eval, Registry.builtin.predicate? ⟨moduleName, name⟩ = some p ∧ p.eval = some eval ∧ eval call = .ok b

theorem says_iff {name : String} {params : List String} {eval : PredicateCall → Except EvalError Bool}
    {call : PredicateCall} {b : Bool} (h : (name, params, eval) ∈ builtinPredicates) :
    Says name call b ↔ eval call = .ok b := by
  have hfound := Registry.predicate?_builtin h
  constructor
  · rintro ⟨p, eval', hp, heval, hanswer⟩
    rw [hfound] at hp
    cases hp
    cases heval
    exact hanswer
  · exact fun hanswer => ⟨_, eval, hfound, rfl, hanswer⟩

/-- There is one answer. -/
theorem Says.iff {name : String} {call : PredicateCall} {b b' : Bool} (h : Says name call b) :
    Says name call b' ↔ b = b' := by
  obtain ⟨p, eval, hp, heval, hanswer⟩ := h
  constructor
  · rintro ⟨p', eval', hp', heval', hanswer'⟩
    rw [hp] at hp'
    cases hp'
    rw [heval] at heval'
    cases heval'
    rw [hanswer] at hanswer'
    cases hanswer'
    rfl
  · rintro rfl
    exact ⟨p, eval, hp, heval, hanswer⟩

/-! ## One question to two subjects -/

/-- What a predicate looks at: the stored result of a node or the arguments of the flow. -/
inductive Subject where
  | result
  | arguments

/-- How a predicate compares the value at a path with its argument. -/
inductive Question where
  | equal
  | contain
  | less
  | greater

/-- The predicate that puts a question to a subject. -/
def Subject.predicate : Subject → Question → String
  | result, .equal => "fieldEqual"
  | result, .contain => "fieldContain"
  | result, .less => "fieldLess"
  | result, .greater => "fieldGreater"
  | arguments, .equal => "argsFieldEqual"
  | arguments, .contain => "argsFieldContain"
  | arguments, .less => "argsFieldLess"
  | arguments, .greater => "argsFieldGreater"

/-- Its implementation. -/
def Subject.eval : Subject → Question → PredicateCall → Except EvalError Bool
  | result, .equal => fieldEqual
  | result, .contain => fieldContain
  | result, .less => fieldLess
  | result, .greater => fieldGreater
  | arguments, .equal => argsFieldEqual
  | arguments, .contain => argsFieldContain
  | arguments, .less => fun call => argsFieldCompare call .lt
  | arguments, .greater => fun call => argsFieldCompare call .gt

/-- The parameter that stands for the subject. -/
def Subject.param : Subject → String
  | result => messageParam
  | arguments => nodeArgsParam

theorem Subject.mem_builtinPredicates (s : Subject) (q : Question) :
    (s.predicate q, [s.param, "key", "value"], s.eval q) ∈ builtinPredicates := by
  cases s <;> cases q <;> simp [builtinPredicates, predicate, param, eval]

/-- The stored result, or the arguments of the flow unless they are null. -/
def Subject.source? : Subject → PredicateCall → Option Json
  | result, call => call.message
  | arguments, call => nodeArgs? call

/-- The answer for a value and an argument. -/
def Question.test : Question → Json → Json → Bool
  | equal, field, value => field.equals value
  | contain, field, value => field.contains value
  | less, field, value => field.compare? value == some .lt
  | greater, field, value => field.compare? value == some .gt

/-- A call has a subject, and asks about the value at a path of it with an argument. -/
structure Asks (s : Subject) (call : PredicateCall) (source path value : Json) : Prop where
  source : s.source? call = some source
  path : call.args.get? "key" = some path
  value : call.args.get? "value" = some value

variable {s : Subject} {call : PredicateCall} {source path value : Json}

/-- A question about arguments that may be absent. -/
theorem Subject.eval_arguments_eq_ok (hpath : call.args.get? "key" = some path)
    (hvalue : call.args.get? "value" = some value) (q : Question) :
    Subject.arguments.eval q call =
      .ok (((nodeArgs? call).bind (·.lookup? path)).any fun field => q.test field value) := by
  have hkey := arg_eq_ok_iff.2 hpath
  have hargument : argOrNull call "value" = value := by rw [argOrNull, hvalue, Option.getD_some]
  cases q with
  | equal => exact argsFieldEqual_eq_ok hkey (arg_eq_ok_iff.2 hvalue)
  | contain => exact hargument ▸ argsFieldContain_eq_ok hkey
  | less => exact argsFieldCompare_eq_ok hkey (arg_eq_ok_iff.2 hvalue)
  | greater => exact argsFieldCompare_eq_ok hkey (arg_eq_ok_iff.2 hvalue)

theorem Asks.eval_eq_ok (h : Asks s call source path value) (q : Question) :
    s.eval q call = .ok ((source.lookup? path).any fun field => q.test field value) := by
  cases s with
  | result =>
    have hkey := arg_eq_ok_iff.2 h.path
    have hvalue := arg_eq_ok_iff.2 h.value
    have hmessage := message_eq_ok_iff.2 h.source
    have hargument : argOrNull call "value" = value := by rw [argOrNull, h.value, Option.getD_some]
    cases q with
    | equal => exact fieldEqual_eq_ok hmessage hkey hvalue
    | contain => exact hargument ▸ fieldContain_eq_ok hmessage hkey
    | less => exact fieldLess_eq_ok hmessage hkey hvalue
    | greater => exact fieldGreater_eq_ok hmessage hkey hvalue
  | arguments =>
    rw [Subject.eval_arguments_eq_ok h.path h.value, show nodeArgs? call = some source from h.source, Option.bind_some]

/-- A question is answered by its test; where the path leads nowhere the answer is no. -/
theorem Asks.answer (h : Asks s call source path value) (q : Question) :
    Says (s.predicate q) call ((source.lookup? path).any fun field => q.test field value) :=
  (says_iff (s.mem_builtinPredicates q)).2 (h.eval_eq_ok q)

/-! ## Orders -/

/-- Of three predicates just the one that an ordering names says yes. -/
structure OneOf (less equal greater : String) (call : PredicateCall) (o : Ordering) : Prop where
  less : Says less call (o == .lt)
  equal : Says equal call (o == .eq)
  greater : Says greater call (o == .gt)

/-- The comparisons by order of a subject. -/
abbrev Subject.Orders (s : Subject) : PredicateCall → Ordering → Prop :=
  OneOf (s.predicate .less) (s.predicate .equal) (s.predicate .greater)

theorem OneOf.unique {less equal greater : String} {o o' : Ordering} (h : OneOf less equal greater call o)
    (h' : OneOf less equal greater call o') : o = o' := by
  have hless : (o == .lt) = (o' == .lt) := h.less.iff.1 h'.less
  have hequal : (o == .eq) = (o' == .eq) := h.equal.iff.1 h'.equal
  revert hless hequal
  cases o <;> cases o' <;> decide

/-- No two of three predicates say yes. -/
def AtMostOne (less equal greater : String) (call : PredicateCall) : Prop :=
  ∀ p ∈ [less, equal, greater], ∀ p' ∈ [less, equal, greater], Says p call true → Says p' call true → p = p'

theorem OneOf.atMostOne {less equal greater : String} {o : Ordering} (h : OneOf less equal greater call o) :
    AtMostOne less equal greater call := by
  have hless : Says less call true ↔ o = .lt := by rw [h.less.iff, beq_iff_eq]
  have hequal : Says equal call true ↔ o = .eq := by rw [h.equal.iff, beq_iff_eq]
  have hgreater : Says greater call true ↔ o = .gt := by rw [h.greater.iff, beq_iff_eq]
  simp only [AtMostOne, List.forall_mem_cons, List.not_mem_nil, false_implies, implies_true, and_true, hless, hequal,
    hgreater]
  cases o <;> simp

/-- What is neither less nor greater is equal at most. -/
theorem atMostOne_of_unordered {less equal greater : String} (hless : Says less call false)
    (hgreater : Says greater call false) : AtMostOne less equal greater call := by
  have hnless : ¬Says less call true := fun h => Bool.false_ne_true (hless.iff.1 h)
  have hngreater : ¬Says greater call true := fun h => Bool.false_ne_true (hgreater.iff.1 h)
  simp only [AtMostOne, List.forall_mem_cons, List.not_mem_nil, false_implies, implies_true, and_true, hnless,
    hngreater]

/-- The answer where the path leads somewhere. -/
theorem Asks.answer_test {field : Json} (h : Asks s call source path value) (hfield : source.lookup? path = some field)
    (q : Question) : Says (s.predicate q) call (q.test field value) := by
  have hanswer := h.answer q
  rwa [hfield, Option.any_some] at hanswer

/-- Comparable values are compared in their order. -/
theorem Asks.orders {field : Json} {o : Ordering} (h : Asks s call source path value)
    (hfield : source.lookup? path = some field) (horder : field.compare? value = some o) : s.Orders call o := by
  have hcomparable : field.Comparable value := by
    by_contra hnot
    rw [Json.compare?_eq_none hnot] at horder
    cases horder
  refine ⟨?_, ?_, ?_⟩
  · have hless := h.answer_test hfield .less
    rwa [Question.test, horder, Option.some_beq_some] at hless
  · have hequal := h.answer_test hfield .equal
    rwa [Question.test, Json.equals_of_comparable hcomparable, horder, Option.some_beq_some] at hequal
  · have hgreater := h.answer_test hfield .greater
    rwa [Question.test, horder, Option.some_beq_some] at hgreater

/-- A value that has no order with the argument is neither less nor greater than it, and neither is an absent one. -/
theorem Asks.unordered (h : Asks s call source path value)
    (hnone : ∀ field, source.lookup? path = some field → field.compare? value = none) :
    Says (s.predicate .less) call false ∧ Says (s.predicate .greater) call false := by
  cases hfound : source.lookup? path with
  | none =>
    have hno : ∀ q, Says (s.predicate q) call false := by
      intro q
      have hanswer := h.answer q
      rwa [hfound, Option.any_none] at hanswer
    exact ⟨hno .less, hno .greater⟩
  | some field =>
    constructor
    · have hless := h.answer_test hfound .less
      rwa [Question.test, hnone field hfound] at hless
    · have hgreater := h.answer_test hfound .greater
      rwa [Question.test, hnone field hfound] at hgreater

theorem Asks.atMostOne (h : Asks s call source path value) :
    AtMostOne (s.predicate .less) (s.predicate .equal) (s.predicate .greater) call := by
  by_cases horder : ∃ field o, source.lookup? path = some field ∧ field.compare? value = some o
  · obtain ⟨field, o, hfield, ho⟩ := horder
    exact (h.orders hfield ho).atMostOne
  · have hnone : ∀ field, source.lookup? path = some field → field.compare? value = none := by
      intro field hfield
      rw [Option.eq_none_iff_forall_ne_some]
      exact fun o ho => horder ⟨field, o, hfield, ho⟩
    obtain ⟨hless, hgreater⟩ := h.unordered hnone
    exact atMostOne_of_unordered hless hgreater

/-! ## Integers -/

/-- The comparisons by order answer as for two integers. -/
structure Subject.ComparesIntegers (s : Subject) (call : PredicateCall) (a b : Int) : Prop where
  less : Says (s.predicate .less) call (decide (a < b))
  equal : Says (s.predicate .equal) call (decide (a = b))
  greater : Says (s.predicate .greater) call (decide (b < a))

theorem Subject.comparesIntegers_iff {a b : Int} : s.ComparesIntegers call a b ↔ s.Orders call (cmp a b) := by
  have hless : decide (a < b) = (cmp a b == .lt) := by
    rw [Bool.eq_iff_iff, decide_eq_true_iff, beq_iff_eq, cmp_eq_lt_iff]
  have hequal : decide (a = b) = (cmp a b == .eq) := by
    rw [Bool.eq_iff_iff, decide_eq_true_iff, beq_iff_eq, cmp_eq_eq_iff]
  have hgreater : decide (b < a) = (cmp a b == .gt) := by
    rw [Bool.eq_iff_iff, decide_eq_true_iff, beq_iff_eq, cmp_eq_gt_iff]
  constructor
  · rintro ⟨h₁, h₂, h₃⟩
    exact ⟨hless ▸ h₁, hequal ▸ h₂, hgreater ▸ h₃⟩
  · rintro ⟨h₁, h₂, h₃⟩
    exact ⟨hless ▸ h₁, hequal ▸ h₂, hgreater ▸ h₃⟩

/-- **Integers are compared by their 53 leading digits**, so as themselves just if they are equal or differ in these. -/
theorem integers_compared_rounded {a b : Int} (h : Asks s call source path (.ofInt b))
    (hfield : source.lookup? path = some (.ofInt a)) (ha : -2 ^ 63 ≤ a ∧ a < 2 ^ 64) (hb : -2 ^ 63 ≤ b ∧ b < 2 ^ 64) :
    s.ComparesIntegers call (Double.rounded a) (Double.rounded b) ∧
      (s.ComparesIntegers call a b ↔ a = b ∨ Double.rounded a ≠ Double.rounded b) ∧
      (a.natAbs ≤ 2 ^ 53 → b.natAbs ≤ 2 ^ 53 → s.ComparesIntegers call a b) := by
  have horders : s.Orders call (cmp (Double.rounded a) (Double.rounded b)) :=
    h.orders hfield (Json.Number.compare?_int ha hb)
  refine ⟨Subject.comparesIntegers_iff.2 horders, ?_, fun hsmall hsmall' => ?_⟩
  · rw [Subject.comparesIntegers_iff, ← Double.cmp_rounded_iff]
    exact ⟨fun horders' => horders.unique horders', fun heq => heq ▸ horders⟩
  · rw [Double.rounded_of_natAbs_le hsmall, Double.rounded_of_natAbs_le hsmall'] at horders
    exact Subject.comparesIntegers_iff.2 horders

/-- The largest integer up to which all are told apart, and the opposite of it, among the arguments of a flow. -/
theorem integers_compared_rounded_opposites :
    let call : PredicateCall := {
      message := none
      nodeArgs := some (.obj [("n", .ofInt (2 ^ 53))])
      args := Dict.ofList [("key", .str "n"), ("value", .ofInt (-2 ^ 53))] }
    Says "argsFieldLess" call false ∧ Says "argsFieldEqual" call false ∧ Says "argsFieldGreater" call true := by
  intro call
  have hasks : Asks .arguments call (.obj [("n", .ofInt (2 ^ 53))]) (.str "n") (.ofInt (-2 ^ 53)) := ⟨rfl, rfl, rfl⟩
  obtain ⟨-, -, hsmall⟩ := integers_compared_rounded hasks rfl (by decide) (by decide)
  obtain ⟨hless, hequal, hgreater⟩ := hsmall (by decide) (by decide)
  exact ⟨hless, hequal, hgreater⟩

/-- Beyond 53 digits two integers may be taken for one. -/
theorem integers_compared_equal_when_apart :
    let call : PredicateCall := {
      message := some (.obj [("n", .ofInt (2 ^ 53 + 1))])
      nodeArgs := none
      args := Dict.ofList [("key", .str "n"), ("value", .ofInt (2 ^ 53))] }
    Asks .result call (.obj [("n", .ofInt (2 ^ 53 + 1))]) (.str "n") (.ofInt (2 ^ 53)) ∧
      (Json.obj [("n", .ofInt (2 ^ 53 + 1))]).lookup? (.str "n") = some (.ofInt (2 ^ 53 + 1)) ∧
      Says "fieldEqual" call true ∧ ¬Subject.result.ComparesIntegers call (2 ^ 53 + 1) (2 ^ 53) := by
  intro call
  have hasks : Asks .result call (.obj [("n", .ofInt (2 ^ 53 + 1))]) (.str "n") (.ofInt (2 ^ 53)) := ⟨rfl, rfl, rfl⟩
  have hequal : Says "fieldEqual" call true := hasks.answer .equal
  refine ⟨hasks, rfl, hequal, fun hcompares => ?_⟩
  have hsame : true = decide ((2 : Int) ^ 53 + 1 = 2 ^ 53) := hequal.iff.1 hcompares.equal
  exact absurd hsame (by decide)

/-! ## Containment -/

/-- The same call with another path. -/
def atPath (call : PredicateCall) (path : Json) : PredicateCall :=
  { call with args := call.args.insert "key" path }

theorem Asks.atPath (h : Asks s call source path value) (path' : Json) :
    Asks s (atPath call path') source path' value where
  source := by cases s <;> exact h.source
  path := by simp [Predicates.atPath]
  value := by simpa [Predicates.atPath] using h.value

/-- Some item of the array at a path is equal to the argument, by the path of the item. -/
def EqualsSomeItem (s : Subject) (call : PredicateCall) (path : Json) (items : List Json) : Prop :=
  ∃ i < items.length, Says (s.predicate .equal) (atPath call (path.extend i)) true

section Items

variable {items : List Json}

theorem says_contain_iff (h : Asks s call source path value) (harray : source.lookup? path = some (.arr items)) :
    Says (s.predicate .contain) call true ↔ ∃ item ∈ items, item.same value = true := by
  have hanswer := h.answer .contain
  rw [harray, Option.any_some] at hanswer
  rw [hanswer.iff, Question.test, Json.contains, List.any_eq_true]

theorem equalsSomeItem_iff (h : Asks s call source path value) (harray : source.lookup? path = some (.arr items)) :
    EqualsSomeItem s call path items ↔ ∃ item ∈ items, item.equals value = true := by
  have hitem : ∀ i (hi : i < items.length),
      Says (s.predicate .equal) (atPath call (path.extend i)) true ↔ items[i].equals value = true := by
    intro i hi
    have hanswer := (h.atPath (path.extend i)).answer .equal
    rw [Json.lookup?_extend_of_arr harray, List.getElem?_eq_getElem hi, Option.any_some] at hanswer
    exact hanswer.iff
  constructor
  · rintro ⟨i, hi, hanswer⟩
    exact ⟨items[i], List.getElem_mem hi, (hitem i hi).1 hanswer⟩
  · rintro ⟨item, hmem, hequals⟩
    obtain ⟨i, hi, rfl⟩ := List.getElem_of_mem hmem
    exact ⟨i, hi, (hitem i hi).2 hequals⟩

/-- **What an array contains is equal to one of its items.** The converse holds just if the array has the argument
itself wherever it has a number of its value. -/
theorem contain_agrees_with_equal_iff (h : Asks s call source path value)
    (harray : source.lookup? path = some (.arr items)) (hvalue : value.InRange) :
    (Says (s.predicate .contain) call true → EqualsSomeItem s call path items) ∧
      ((Says (s.predicate .contain) call true ↔ EqualsSomeItem s call path items) ↔
        ∀ x y, .num x ∈ items → value = .num y → x.compare? y = some .eq → ∃ z, .num z ∈ items ∧ z.same y = true) := by
  rw [says_contain_iff h harray, equalsSomeItem_iff h harray]
  have hsound : (∃ item ∈ items, item.same value = true) → ∃ item ∈ items, item.equals value = true := by
    rintro ⟨item, hmem, hsame⟩
    exact ⟨item, hmem, (Json.equals_iff hvalue).2 (.inl hsame)⟩
  refine ⟨hsound, ⟨fun hagree x y hx hy hcompare => ?_, fun hown => ⟨hsound, ?_⟩⟩⟩
  · have hequals : (Json.num x).equals value = true := (Json.equals_iff hvalue).2 (.inr ⟨x, y, rfl, hy, hcompare⟩)
    obtain ⟨item, hmem, hsame⟩ := hagree.2 ⟨_, hx, hequals⟩
    subst hy
    cases item with
    | num z => exact ⟨z, hmem, hsame⟩
    | _ => cases hsame
  · rintro ⟨item, hmem, hequals⟩
    rcases (Json.equals_iff hvalue).1 hequals with hsame | ⟨x, y, rfl, rfl, hcompare⟩
    · exact ⟨item, hmem, hsame⟩
    · obtain ⟨z, hz, hsame⟩ := hown x y hmem rfl hcompare
      exact ⟨_, hz, hsame⟩

/-- A list among items, for which nothing but the list itself will do. -/
theorem contain_agrees_with_equal_iff_nested :
    let items : List Json := [.ofInt 1, .arr [.ofInt 1]]
    let call : PredicateCall := {
      message := none
      nodeArgs := some (.obj [("xs", .arr items)])
      args := Dict.ofList [("key", .arr [.str "xs"]), ("value", .arr [.ofInt 1])] }
    (Says "argsFieldContain" call true ↔ EqualsSomeItem .arguments call (.arr [.str "xs"]) items) ∧
      Says "argsFieldContain" call true := by
  intro items call
  have hasks : Asks .arguments call (.obj [("xs", .arr items)]) (.arr [.str "xs"]) (.arr [.ofInt 1]) := ⟨rfl, rfl, rfl⟩
  obtain ⟨-, hagree⟩ := contain_agrees_with_equal_iff hasks rfl trivial
  exact ⟨hagree.2 nofun, hasks.answer .contain⟩

/-- The double `1.0` is equal to the integer `1`, yet an array with the one does not contain the other. -/
theorem contain_misses_equal_number :
    let one : Double := { negative := false, bits := 0x3ff0000000000000 }
    let items : List Json := [.num (.real one)]
    let call : PredicateCall := {
      message := some (.obj [("xs", .arr items)])
      nodeArgs := none
      args := Dict.ofList [("key", .str "xs"), ("value", .ofInt 1)] }
    Asks .result call (.obj [("xs", .arr items)]) (.str "xs") (.ofInt 1) ∧
      (Json.obj [("xs", .arr items)]).lookup? (.str "xs") = some (.arr items) ∧
      ¬(Says "fieldContain" call true ↔ EqualsSomeItem .result call (.str "xs") items) := by
  intro one items call
  have hasks : Asks .result call (.obj [("xs", .arr items)]) (.str "xs") (.ofInt 1) := ⟨rfl, rfl, rfl⟩
  have hmissed : Says "fieldContain" call false := hasks.answer .contain
  have hone : (Json.num (.real ⟨false, 0x3ff0000000000000, by decide⟩)).equals (.ofInt 1) = true := by decide
  have hequal : EqualsSomeItem .result call (.str "xs") items :=
    (equalsSomeItem_iff hasks rfl).2 ⟨_, List.mem_cons_self, hone⟩
  refine ⟨hasks, rfl, fun hagree => ?_⟩
  exact absurd (hmissed.iff.1 (hagree.2 hequal)) (by decide)

end Items

/-! ## Lengths -/

/-- The predicate that compares lengths in a wanted order. -/
def lengthPredicate : Ordering → String
  | .lt => "fieldLenLess"
  | .eq => "fieldLenEqual"
  | .gt => "fieldLenGreater"

theorem says_length {message : Json} {n : Nat} (hmessage : call.message = some message)
    (hpath : call.args.get? "key" = some path) (hlength : call.args.get? "length" = some (.ofNat n))
    (wanted : Ordering) :
    Says (lengthPredicate wanted) call
      (((message.lookup? path).bind Json.length?).any fun k => compare k n == wanted) := by
  have hmem : (lengthPredicate wanted, [messageParam, "key", "length"], fun call => compareLength call wanted) ∈
      builtinPredicates := by
    cases wanted <;> simp [builtinPredicates, lengthPredicate]
  have hnat : (Json.ofNat n).asNat? = some n := by simp [Json.asNat?, Json.ofNat]
  exact (says_iff hmem).2
    (compareLength_eq_ok (message_eq_ok_iff.2 hmessage) (arg_eq_ok_iff.2 hpath) (arg_eq_ok_iff.2 hlength) hnat)

/-! ## Trichotomy -/

/-- **The comparisons of a result form a trichotomy**, read from the other side with the two values exchanged; those of
its length form another. -/
theorem comparisons_trichotomy {message : Json} (hmessage : call.message = some message)
    (hpath : call.args.get? "key" = some path) :
    (∀ value, call.args.get? "value" = some value →
      AtMostOne "fieldLess" "fieldEqual" "fieldGreater" call ∧
      (∀ field, message.lookup? path = some field → field.Comparable value → field.InRange → value.InRange →
        ∃ o, field.compare? value = some o ∧ OneOf "fieldLess" "fieldEqual" "fieldGreater" call o ∧
          ∀ call' message' path', Asks .result call' message' path' field → message'.lookup? path' = some value →
            OneOf "fieldLess" "fieldEqual" "fieldGreater" call' o.swap) ∧
      ((∀ field, message.lookup? path = some field → ¬field.Comparable value) →
        Says "fieldLess" call false ∧ Says "fieldGreater" call false)) ∧
    ∀ n : Nat, call.args.get? "length" = some (.ofNat n) →
      (∀ field k, message.lookup? path = some field → field.HasLength k →
        OneOf "fieldLenLess" "fieldLenEqual" "fieldLenGreater" call (compare k n)) ∧
      ((∀ field k, message.lookup? path = some field → ¬field.HasLength k) →
        Says "fieldLenLess" call false ∧ Says "fieldLenEqual" call false ∧ Says "fieldLenGreater" call false) := by
  constructor
  · intro value hvalue
    have hasks : Asks .result call message path value := ⟨hmessage, hpath, hvalue⟩
    refine ⟨hasks.atMostOne, fun field hfield hcomparable hin hin' => ?_, fun hnot => ?_⟩
    · obtain ⟨o, ho⟩ := Json.exists_compare? hcomparable hin hin'
      refine ⟨o, ho, hasks.orders hfield ho, fun call' message' path' hasks' hfield' => ?_⟩
      have hswap : value.compare? field = some o.swap := by rw [← Json.compare?_swap, ho, Option.map_some]
      exact hasks'.orders hfield' hswap
    · exact hasks.unordered fun field hfield => Json.compare?_eq_none (hnot field hfield)
  · intro n hlength
    have hanswer := says_length hmessage hpath hlength
    refine ⟨fun field k hfield hk => ?_, fun hnot => ?_⟩
    · simp only [hfield, Option.bind_some, Json.length?_eq_some_iff.2 hk, Option.any_some] at hanswer
      exact ⟨hanswer .lt, hanswer .eq, hanswer .gt⟩
    · have hnone : (message.lookup? path).bind Json.length? = none := by
        rw [Option.eq_none_iff_forall_ne_some]
        intro k hk
        obtain ⟨field, hfield, hk⟩ := Option.bind_eq_some_iff.1 hk
        exact hnot field k hfield (Json.length?_eq_some_iff.1 hk)
      simp only [hnone, Option.any_none] at hanswer
      exact ⟨hanswer .lt, hanswer .eq, hanswer .gt⟩

/-- The string `"ab"` comes before `"b"` and has two characters. -/
theorem comparisons_trichotomy_strings :
    let call : PredicateCall := {
      message := some (.obj [("x", .str "ab")])
      nodeArgs := none
      args := Dict.ofList [("key", .str "x"), ("value", .str "b"), ("length", .ofNat 2)] }
    OneOf "fieldLess" "fieldEqual" "fieldGreater" call .lt ∧
      OneOf "fieldLenLess" "fieldLenEqual" "fieldLenGreater" call .eq := by
  intro call
  have hmessage : call.message = some (.obj [("x", .str "ab")]) := rfl
  have hpath : call.args.get? "key" = some (.str "x") := rfl
  obtain ⟨hvalue, hlength⟩ := comparisons_trichotomy hmessage hpath
  obtain ⟨-, hcomparable, -⟩ := hvalue (.str "b") rfl
  obtain ⟨o, ho, horders, -⟩ := hcomparable (.str "ab") rfl (.strings _ _) trivial trivial
  have hlt : (Json.str "ab").compare? (.str "b") = some .lt := by decide
  obtain rfl : o = .lt := Option.some.inj (ho.symm.trans hlt)
  obtain ⟨hk, -⟩ := hlength 2 rfl
  exact ⟨horders, hk _ _ rfl (.str "ab")⟩

end Predicates

end TaskFlow
