import TaskFlow.Condition.Codec
import TaskFlow.Proofs.Json.Record

/-!
# Guards read back

- `Guard.stored`: the JSON values that a guard holds, the arguments of its calls;
- `Guard.read?_toJson`: a guard of any nesting is read back, if those values are in key order: its kind is found again
  (`Guard.tagged?_draft`), then what is read depends on the kind and its fields (`Guard.read?_of_tagged?`).
-/

namespace TaskFlow

@[simp] theorem FunctionRef.ofDraft?_toJson (f : FunctionRef) : ofDraft? f.toJson.draft = some f := by
  rw [ofDraft?, toJson, Json.record?_draft (by simp)]
  simp [Json.required?_cons]

theorem GuardKind.ofDraft?_text (numbered : Bool) (kind : GuardKind) :
    ofDraft? numbered (.str kind.text) = some kind := by
  cases kind <;> simp [ofDraft?, all, text]

/-- The fields of a call are read back from any record that begins with the kind. -/
theorem Call.ofFields?_toFields {c : Call} (hargs : ∀ v ∈ c.args.values, v.Normal) (kind : Json) :
    ofFields? (Json.draftFields (("kind", kind) :: c.toFields)) = some c := by
  have hnode : Json.nullable? Json.string? (Json.ofOption .str c.node).draft = some c.node :=
    Json.nullable?_ofOption rfl fun s _ => Json.string?_draft s
  have hvalues : Json.dict? Json.any? (Json.ofDict id c.args).draft = some c.args :=
    Json.dict?_ofDict fun v hv => Json.any?_draft (hargs v hv)
  rw [ofFields?, toFields]
  simp [Json.required?_cons, Json.optional?_cons, hnode, hvalues]

namespace Guard

/-- The JSON values that a guard holds. -/
def stored (g : Guard) : List Json := g.calls.flatMap (·.args.values)

/-- The kind of a written guard and its fields. -/
theorem tagged?_draft (numbered : Bool) (kind : GuardKind) {fields : List (String × Json)}
    (hnames : fields.map Prod.fst = kind.names) :
    tagged? numbered (Json.obj (("kind", .str kind.text) :: fields)).draft =
      some (kind, Json.draftFields (("kind", .str kind.text) :: fields)) := by
  have hnodup : ((("kind", .str kind.text) :: fields : List (String × Json)).map Prod.fst).Nodup := by
    rw [List.map_cons, hnames]
    cases kind <;> decide
  have honce : Json.atMostOnce (Json.draftFields (("kind", .str kind.text) :: fields)) "kind" = true :=
    Json.atMostOnce_of_nodup (by rwa [Json.map_fst_draftFields]) "kind"
  have hrecord := Json.record?_draft hnodup kind.names
  have hkind : (Json.draftFields (("kind", .str kind.text) :: fields)).lookup "kind" = some (.str kind.text) := by
    rw [Json.lookup_draftFields, List.lookup_cons_self]
    rfl
  rw [Json.draft] at hrecord ⊢
  simp only [tagged?, honce, hkind, hrecord, Bool.not_true, Bool.false_eq_true, if_false, Option.bind_eq_bind,
    Option.bind_some, GuardKind.ofDraft?_text]
  rfl

/-- What is read depends on the kind and its fields. -/
theorem read?_of_tagged? {nested : Bool} {d : Json.Draft} {kind : GuardKind} {fs : List (String × Json.Draft)}
    (h : tagged? nested d = some (kind, fs)) :
    read? nested d = match kind with
      | .leaf => (Call.ofFields? fs).map .call
      | .and => match fs.lookup "children" with
        | some (.arr items) => (readItems? items).map .all
        | _ => none
      | .or => match fs.lookup "children" with
        | some (.arr items) => (readItems? items).map .any
        | _ => none
      | .not => match fs.lookup "child" with
        | some child => (read? true child).map .negate
        | none => none
      | .alwaysTrue => some .always := by
  rw [read?]
  split
  all_goals
    rename_i heq
    rw [h] at heq
    cases heq
  · rfl
  · split <;> simp [*]
  · split <;> simp [*]
  · split <;> simp [*]
  · rfl

mutual

/-- A written guard is read back, whether inside another one or not. -/
theorem read?_toJson (nested : Bool) : ∀ g : Guard, (∀ v ∈ g.stored, v.Normal) → read? nested g.toJson.draft = some g
  | .always, _ => by rw [toJson, read?_of_tagged? (tagged?_draft nested .alwaysTrue rfl)]
  | .call c, h => by
    have hargs : ∀ v ∈ c.args.values, v.Normal := fun v hv => h v (by simpa [stored, calls] using hv)
    rw [toJson, read?_of_tagged? (tagged?_draft nested .leaf rfl)]
    simp [Call.ofFields?_toFields hargs]
  | .all gs, h => by
    have hitems := readItems?_toItems gs h
    rw [toJson, read?_of_tagged? (tagged?_draft nested .and rfl)]
    simp [Json.lookup_draftFields, List.lookup_cons, Json.draft, hitems]
  | .any gs, h => by
    have hitems := readItems?_toItems gs h
    rw [toJson, read?_of_tagged? (tagged?_draft nested .or rfl)]
    simp [Json.lookup_draftFields, List.lookup_cons, Json.draft, hitems]
  | .negate g, h => by
    have hchild := read?_toJson true g h
    rw [toJson, read?_of_tagged? (tagged?_draft nested .not rfl)]
    simp [Json.lookup_draftFields, List.lookup_cons, hchild]

theorem readItems?_toItems : ∀ gs : List Guard, (∀ v ∈ (callsAll gs).flatMap (·.args.values), v.Normal) →
    readItems? (Json.draftItems (toItems gs)) = some gs
  | [], _ => by rw [toItems, Json.draftItems, readItems?]
  | g :: gs, h => by
    rw [callsAll, List.flatMap_append] at h
    have hg := read?_toJson true g fun v hv => h v (List.mem_append_left _ hv)
    have hgs := readItems?_toItems gs fun v hv => h v (List.mem_append_right _ hv)
    rw [toItems, Json.draftItems, readItems?, hg, hgs]
    rfl

end

/-- A written guard is read back. -/
theorem ofDraft?_toJson {g : Guard} (h : ∀ v ∈ g.stored, v.Normal) : ofDraft? g.toJson.draft = some g := by
  rw [ofDraft?, Json.value?_draft, Option.bind_some, read?_toJson false g h]

end Guard

end TaskFlow
