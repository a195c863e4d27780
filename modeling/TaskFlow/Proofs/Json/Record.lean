import TaskFlow.Document.Codec
import TaskFlow.Proofs.Data.Dict
import TaskFlow.Proofs.Data.NameSet

/-!
# Records read back

- `normalize_of_normal`, `any?_draft`: a value whose objects are in order is read as it is;
- `listOf?_draft`, `dict?_ofDict`, `nullable?_ofOption`: a container is read back if its items are; names, sets of names
  and numbers always are;
- `record?_draft`, `required?_cons`, `optional?_cons`: the fields of a written record are those it was written with.
-/

namespace TaskFlow.Json

variable {α : Type}

/-! ## Values in key order -/

mutual

theorem normalize_of_normal : ∀ j : Json, j.Normal → j.normalize = j
  | .null, _ | .bool _, _ | .num _, _ | .str _, _ => rfl
  | .arr items, h => by rw [normalize, normalizeItems_of_normal items h]
  | .obj fields, h => by rw [normalize, normalizeFields_of_normal fields h.2, Fields.ofList_of_sorted h.1]

theorem normalizeItems_of_normal : ∀ js : List Json, NormalItems js → normalizeItems js = js
  | [], _ => rfl
  | j :: js, h => by rw [normalizeItems, normalize_of_normal j h.1, normalizeItems_of_normal js h.2]

theorem normalizeFields_of_normal : ∀ fs : List (String × Json), NormalFields fs → normalizeFields fs = fs
  | [], _ => rfl
  | (k, j) :: fs, h => by rw [normalizeFields, normalize_of_normal j h.1, normalizeFields_of_normal fs h.2]

end

mutual

def decidableNormal : ∀ j : Json, Decidable j.Normal
  | .null | .bool _ | .num _ | .str _ => .isTrue trivial
  | .arr items => decidableNormalItems items
  | .obj fields => @instDecidableAnd _ _ inferInstance (decidableNormalFields fields)

def decidableNormalItems : ∀ js : List Json, Decidable (NormalItems js)
  | [] => .isTrue trivial
  | j :: js => @instDecidableAnd _ _ (decidableNormal j) (decidableNormalItems js)

def decidableNormalFields : ∀ fs : List (String × Json), Decidable (NormalFields fs)
  | [] => .isTrue trivial
  | (_, j) :: fs => @instDecidableAnd _ _ (decidableNormal j) (decidableNormalFields fs)

end

instance : DecidablePred Normal := decidableNormal

theorem any?_draft {j : Json} (h : j.Normal) : any? j.draft = some j := by
  rw [any?, value?_draft, Option.map_some, normalize_of_normal j h]

/-! ## Containers -/

theorem draftFields_eq_map (fs : List (String × Json)) : draftFields fs = fs.map fun f => (f.1, f.2.draft) := by
  induction fs with
  | nil => rfl
  | cons f fs ih => rw [draftFields, ih, List.map_cons]

variable {write : α → Json} {read : Draft → Option α}

theorem readAll?_draftItems {as : List α} (h : ∀ a ∈ as, read (write a).draft = some a) :
    readAll? read (draftItems (as.map write)) = some as := by
  induction as with
  | nil => rfl
  | cons a as ih =>
    have ha := h a List.mem_cons_self
    have has := ih fun a ha => h a (List.mem_cons_of_mem _ ha)
    simp [draftItems, readAll?, ha, has]

theorem listOf?_draft {as : List α} (h : ∀ a ∈ as, read (write a).draft = some a) :
    listOf? read (Json.arr (as.map write)).draft = some as := readAll?_draftItems h

theorem readFields?_draftFields {fs : List (String × α)} (h : ∀ f ∈ fs, read (write f.2).draft = some f.2) :
    readFields? read (draftFields (fs.map fun f => (f.1, write f.2))) = some fs := by
  induction fs with
  | nil => rfl
  | cons f fs ih =>
    have hf := h f List.mem_cons_self
    have hfs := ih fun f hf => h f (List.mem_cons_of_mem _ hf)
    simp [draftFields, readFields?, hf, hfs]

theorem dict?_ofDict {d : Dict α} (h : ∀ a ∈ d.values, read (write a).draft = some a) :
    dict? read (ofDict write d).draft = some d := by
  have hentries : ∀ e ∈ d.entries, read (write e.2).draft = some e.2 := fun e he => h e.2 (List.mem_map_of_mem he)
  rw [ofDict, draft, dict?, readFields?_draftFields hentries, Option.map_some, Dict.ofList_entries]

@[simp] theorem bool?_draft (b : Bool) : bool? (Json.bool b).draft = some b := rfl

@[simp] theorem string?_draft (s : String) : string? (Json.str s).draft = some s := rfl

@[simp] theorem nat?_ofNat (n : Nat) : nat? (ofNat n).draft = some n := by
  simp [ofNat, draft, nat?]

@[simp] theorem word32?_ofWord32 (w : UInt32) : word32? (ofWord32 w).draft = some w := by
  have hword : w.toNat < UInt32.size := w.toNat_lt
  simp [word32?, natBelow?, ofWord32, hword]

@[simp] theorem word64?_ofWord64 (w : UInt64) : word64? (ofWord64 w).draft = some w := by
  have hword : w.toNat < UInt64.size := w.toNat_lt
  simp [word64?, natBelow?, ofWord64, hword]

@[simp] theorem names?_ofNames (names : List String) : names? (ofNames names).draft = some names :=
  listOf?_draft fun s _ => string?_draft s

@[simp] theorem nameSet?_ofNameSet (s : NameSet) : nameSet? (ofNameSet s).draft = some s := by
  rw [nameSet?, ofNameSet, names?_ofNames, Option.map_some, NameSet.ofList_names]

/-! ## Records -/

theorem lookup_draftFields (fields : List (String × Json)) (name : String) :
    (draftFields fields).lookup name = (fields.lookup name).map draft := by
  induction fields with
  | nil => rfl
  | cons f fs ih =>
    obtain ⟨k, j⟩ := f
    rw [draftFields, Fields.lookup_cons, Fields.lookup_cons, ih]
    split <;> rfl

theorem map_fst_draftFields (fields : List (String × Json)) :
    (draftFields fields).map Prod.fst = fields.map Prod.fst := by
  rw [draftFields_eq_map, List.map_map]
  rfl

theorem atMostOnce_of_nodup {fields : List (String × Draft)} (h : (fields.map Prod.fst).Nodup) (name : String) :
    atMostOnce fields name = true := by
  have hcount : (fields.filter fun f => f.1 == name).length = (fields.map Prod.fst).count name := by
    rw [List.count, List.countP_map, List.countP_eq_length_filter]
    rfl
  have hle := List.nodup_iff_count_le_one.1 h name
  rw [atMostOnce, hcount]
  exact decide_eq_true hle

/-- What is written under names that differ is a record of any of them. -/
theorem record?_draft {fields : List (String × Json)} (h : (fields.map Prod.fst).Nodup) (names : List String) :
    record? names (Json.obj fields).draft = some (draftFields fields) := by
  have honce : ∀ name ∈ names, atMostOnce (draftFields fields) name = true := fun name _ =>
    atMostOnce_of_nodup (by rwa [map_fst_draftFields]) name
  rw [draft, record?, if_pos (List.all_eq_true.2 honce)]

/-- The first field of a name is the one that is read. -/
theorem required?_cons (k : String) (j : Json) (fields : List (String × Json)) (name : String)
    (read : Draft → Option α) :
    required? (draftFields ((k, j) :: fields)) name read =
      if name = k then read j.draft else required? (draftFields fields) name read := by
  rw [required?, draftFields, Fields.lookup_cons]
  split <;> rfl

/-- A value that may be null. -/
def nullable? (read : Draft → Option α) : Draft → Option (Option α)
  | .null => some none
  | d => (read d).map some

theorem optional?_cons (k : String) (j : Json) (fields : List (String × Json)) (name : String)
    (read : Draft → Option α) :
    optional? (draftFields ((k, j) :: fields)) name read =
      if name = k then nullable? read j.draft else optional? (draftFields fields) name read := by
  rw [optional?, draftFields, Fields.lookup_cons]
  by_cases hk : name = k
  · rw [if_pos hk, if_pos hk]
    cases j <;> rfl
  · rw [if_neg hk, if_neg hk]
    rfl

theorem nullable?_of_ne {read : Draft → Option α} {d : Draft} (h : d ≠ .null) :
    nullable? read d = (read d).map some := by
  cases d with
  | null => exact absurd rfl h
  | _ => rfl

/-- An optional value is read back by a reader that refuses null. -/
theorem nullable?_ofOption {o : Option α} (hnull : read .null = none)
    (h : ∀ a ∈ o, read (write a).draft = some a) : nullable? read (ofOption write o).draft = some o := by
  cases o with
  | none => rfl
  | some a =>
    have ha : read (write a).draft = some a := h a rfl
    have hne : (write a).draft ≠ .null := by
      intro hd
      rw [hd, hnull] at ha
      cases ha
    rw [ofOption, nullable?_of_ne hne, ha, Option.map_some]

end TaskFlow.Json
