import TaskFlow.Condition.Basic
import TaskFlow.Json.Record
import TaskFlow.Registry.Codec

/-!
# Guards in JSON

- `Guard.toJson` writes the kind, then the fields of the kind;
- `Guard.ofDraft?` reads them back from a draft without void parts. An array may stand for the object: the kind, then
  the fields in order. Inside another guard the kind may also be given by its number.
-/

namespace TaskFlow

/-- What a stored condition consists of, in the order of the numbers of the kinds. -/
inductive GuardKind where
  | leaf
  | and
  | or
  | not
  | alwaysTrue
deriving DecidableEq

namespace GuardKind

def text : GuardKind → String
  | leaf => "leaf"
  | and => "and"
  | or => "or"
  | not => "not"
  | alwaysTrue => "always_true"

def all : List GuardKind := [leaf, and, or, not, alwaysTrue]

/-- The names of the fields, in order. -/
def names : GuardKind → List String
  | leaf => ["function", "node", "args", "requires_message", "requires_node_args"]
  | and | or => ["children"]
  | not => ["child"]
  | alwaysTrue => []

def ofDraft? (numbered : Bool) : Json.Draft → Option GuardKind
  | .str s => all.find? fun k => k.text == s
  | .num (.int i) => if numbered && 0 ≤ i then all[i.toNat]? else none
  | _ => none

end GuardKind

namespace Call

def toFields (c : Call) : List (String × Json) := [
  ("function", c.function.toJson),
  ("node", Json.ofOption .str c.node),
  ("args", Json.ofDict id c.args),
  ("requires_message", c.requiresMessage),
  ("requires_node_args", c.requiresNodeArgs)]

def ofFields? (fs : List (String × Json.Draft)) : Option Call := do
  return {
    function := ← Json.required? fs "function" FunctionRef.ofDraft?
    node := ← Json.optional? fs "node" Json.string?
    args := ← Json.required? fs "args" (Json.dict? Json.any?)
    requiresMessage := ← Json.required? fs "requires_message" Json.bool?
    requiresNodeArgs := ← Json.required? fs "requires_node_args" Json.bool? }

end Call

namespace Guard

mutual

def toJson : Guard → Json
  | always => .obj [("kind", .str GuardKind.alwaysTrue.text)]
  | call c => .obj (("kind", .str GuardKind.leaf.text) :: c.toFields)
  | all gs => .obj [("kind", .str GuardKind.and.text), ("children", .arr (toItems gs))]
  | any gs => .obj [("kind", .str GuardKind.or.text), ("children", .arr (toItems gs))]
  | negate g => .obj [("kind", .str GuardKind.not.text), ("child", toJson g)]

def toItems : List Guard → List Json
  | [] => []
  | g :: gs => toJson g :: toItems gs

end

/-! ## Reading -/

/-- The kind of a guard and the fields of that kind. -/
def tagged? (numbered : Bool) : Json.Draft → Option (GuardKind × List (String × Json.Draft))
  | .obj fields => do
    if !Json.atMostOnce fields "kind" then none
    let kind ← (fields.lookup "kind").bind (GuardKind.ofDraft? numbered)
    let fs ← Json.record? kind.names (.obj fields)
    return (kind, fs)
  | .arr (tag :: items) => do
    let kind ← GuardKind.ofDraft? numbered tag
    let fs ← Json.record? kind.names (.arr items)
    return (kind, fs)
  | _ => none

theorem sizeOf_of_lookup {k : String} {d : Json.Draft} {fs : List (String × Json.Draft)} (h : fs.lookup k = some d) :
    sizeOf d < sizeOf fs := by
  induction fs with
  | nil => simp at h
  | cons f fs ih =>
    obtain ⟨k', d'⟩ := f
    rw [Fields.lookup_cons] at h
    split at h
    · cases h
      simp
      omega
    · have := ih h
      simp
      omega

theorem sizeOf_zip_le (names : List String) (items : List Json.Draft) {f : String × Json.Draft}
    (h : f ∈ names.zip items) : sizeOf f.2 < sizeOf items := by
  induction names generalizing items with
  | nil => simp at h
  | cons n ns ih =>
    cases items with
    | nil => simp at h
    | cons d ds =>
      rcases List.mem_cons.1 (by simpa using h) with rfl | h
      · simp
        omega
      · have := ih ds h
        simp
        omega

theorem mem_of_lookup {k : String} {d : Json.Draft} {fs : List (String × Json.Draft)} (h : fs.lookup k = some d) :
    (k, d) ∈ fs := by
  induction fs with
  | nil => simp at h
  | cons f fs ih =>
    obtain ⟨k', d'⟩ := f
    rw [Fields.lookup_cons] at h
    split at h
    · rename_i hk
      cases h
      simp [hk]
    · exact List.mem_cons_of_mem _ (ih h)

/-- The fields of a record are parts of it. -/
theorem sizeOf_of_record? {names : List String} {d : Json.Draft} {fs : List (String × Json.Draft)} {k : String}
    {v : Json.Draft} (h : Json.record? names d = some fs) (hv : fs.lookup k = some v) : sizeOf v < sizeOf d := by
  unfold Json.record? at h
  split at h
  · split at h
    · cases h
      have := sizeOf_of_lookup hv
      simp
      omega
    · cases h
  · split at h
    · cases h
      have := sizeOf_zip_le _ _ (mem_of_lookup hv)
      simp at this ⊢
      omega
    · cases h
  · cases h

/-- The fields of a guard are parts of it. -/
theorem sizeOf_of_tagged? {numbered : Bool} {d : Json.Draft} {kind : GuardKind} {fs : List (String × Json.Draft)}
    {k : String} {v : Json.Draft} (h : tagged? numbered d = some (kind, fs)) (hv : fs.lookup k = some v) :
    sizeOf v < sizeOf d := by
  unfold tagged? at h
  split at h
  · split at h
    · cases h
    · obtain ⟨kind', _, h⟩ := Option.bind_eq_some_iff.1 h
      obtain ⟨fs', hfs, h⟩ := Option.bind_eq_some_iff.1 h
      cases h
      exact sizeOf_of_record? hfs hv
  · obtain ⟨kind', _, h⟩ := Option.bind_eq_some_iff.1 h
    obtain ⟨fs', hfs, h⟩ := Option.bind_eq_some_iff.1 h
    cases h
    have := sizeOf_of_record? hfs hv
    simp at this ⊢
    omega
  · cases h

mutual

def read? (nested : Bool) (d : Json.Draft) : Option Guard :=
  match _h : tagged? nested d with
  | none => none
  | some (.leaf, fs) => (Call.ofFields? fs).map .call
  | some (.and, fs) =>
    match _hc : fs.lookup "children" with
    | some (.arr items) => (readItems? items).map .all
    | _ => none
  | some (.or, fs) =>
    match _hc : fs.lookup "children" with
    | some (.arr items) => (readItems? items).map .any
    | _ => none
  | some (.not, fs) =>
    match _hc : fs.lookup "child" with
    | some child => (read? true child).map .negate
    | none => none
  | some (.alwaysTrue, _) => some .always
termination_by sizeOf d
decreasing_by
  · have := sizeOf_of_tagged? _h _hc
    simp at this
    omega
  · have := sizeOf_of_tagged? _h _hc
    simp at this
    omega
  · exact sizeOf_of_tagged? _h _hc

def readItems? : List Json.Draft → Option (List Guard)
  | [] => some []
  | d :: ds => do
    let g ← read? true d
    let gs ← readItems? ds
    return g :: gs
termination_by ds => sizeOf ds

end

def ofDraft? (d : Json.Draft) : Option Guard := d.value?.bind fun _ => read? false d

end Guard

end TaskFlow
