import TaskFlow.Document.Codec
import TaskFlow.Proofs.Json.Text

/-!
# One text, one value

- `Tells`: the text of an item tells the item, whatever may stand behind it; an integer is told from all numbers
  (`tells_int`), a string from all strings (`tells_quote`), the items of a container from all lists of items
  (`spread_append_inj`);
- `Integral`: the values whose numbers are integers, of any size; `tells_write`: the text of such a value without blanks
  is the text of no other value, so that `compact_inj` holds;
- `ofDict_inj`, `ofOption_inj`: no two containers are written as one value, if no two of their items are.

The other value may hold any numbers: a double never has the text of an integer. Two doubles are another matter, which
is why one of the values is `Integral`.
-/

namespace TaskFlow.Json

/-! ## Scalars -/

/-- The text of an item, with anything behind it that ends a number, is the text of no other item. -/
def Tells {α : Type} (text : α → List Char) (a : α) : Prop :=
  ∀ b r s, Ends r → Ends s → text a ++ r = text b ++ s → a = b ∧ r = s

theorem Ends.isDigit {rest : List Char} (h : Ends rest) : ∀ c ∈ rest.head?, c.isDigit = false :=
  fun c hc => (h c hc).1

theorem Marked.append {rest : List Char} (h : Marked rest) (more : List Char) : Marked (rest ++ more) := by
  cases rest with
  | nil => simp [Marked] at h
  | cons c rest => exact h

theorem Marked.isDigit {rest : List Char} (h : Marked rest) : ∀ c ∈ rest.head?, c.isDigit = false := by
  intro c hc
  rcases h with h | h
  · obtain rfl : '.' = c := Option.some.inj (h.symm.trans hc)
    rfl
  · obtain rfl : 'e' = c := Option.some.inj (h.symm.trans hc)
    rfl

theorem Marked.not_ends {rest : List Char} (h : Marked rest) : ¬Ends rest := by
  intro hends
  rcases h with h | h
  · exact (hends '.' h).2.1 rfl
  · exact (hends 'e' h).2.2.1 rfl

theorem signed_append (negative : Bool) (cs rest : List Char) :
    signed negative cs ++ rest = signed negative (cs ++ rest) := by
  cases negative <;> rfl

/-- An integer is told from every number, doubles included. -/
theorem tells_int (i : Int) : Tells (fun x : Number => x.write.toList) (.int i) := by
  intro x r s hr hs h
  have hi := numeric_toDigits i.natAbs
  simp only [toList_write_int i, signed_append] at h
  cases x with
  | int k =>
    simp only [toList_write_int, signed_append] at h
    obtain ⟨hsign, hdigits, hrest⟩ := signed_append_inj hi (numeric_toDigits k.natAbs) hr.isDigit hs.isDigit h
    have habs : i.natAbs = k.natAbs := by
      have hvalue := congrArg (fun ds => Nat.ofDigitChars 10 ds 0) hdigits
      simpa using hvalue
    have hik : i = k := by
      rw [decide_eq_decide] at hsign
      omega
    exact ⟨by rw [hik], hrest⟩
  | real x =>
    -- a double goes on with a point or an exponent where the integer ends
    obtain ⟨ds, rest, htext, hds, hmarked⟩ := exists_toList_writeDouble x
    have hreal : (Number.write (.real x)).toList = signed x.negative (ds ++ rest) := htext
    rw [hreal, signed_append, List.append_assoc] at h
    have hmore := hmarked.append s
    obtain ⟨-, -, hrest⟩ := signed_append_inj hi hds hr.isDigit hmore.isDigit h
    exact absurd (hrest ▸ hr) hmore.not_ends

theorem tells_quote (s : String) : Tells (fun s => (quote s).toList) s := by
  intro t r r' _ _ h
  simp only [toList_quote, List.cons_append, List.append_assoc, List.cons.injEq, true_and, List.nil_append] at h
  have hs := stringTail_escaped s r
  rw [h, stringTail_escaped] at hs
  obtain ⟨rfl, rfl⟩ := Prod.mk.inj (Option.some.inj hs)
  exact ⟨rfl, rfl⟩

/-! ## Containers -/

section Items

variable {α : Type} {text : α → List Char} {close : Char}

/-- What stands behind an item of a container: a comma and more items, or nothing. -/
theorem spread_tight_cons (level : Nat) (t : List Char) (ts : List (List Char)) :
    Layout.tight.spread level (t :: ts) = t ++ if ts = [] then [] else ',' :: Layout.tight.spread level ts := by
  cases ts with
  | nil => simp [Layout.spread, Layout.tight]
  | cons u us => simp [Layout.spread, Layout.tight]

/-- The closing character is told from the beginning of an item. -/
theorem cons_ne_spread (hopen : ∀ a, ∃ c cs, text a = c :: cs ∧ Opens c) (hclose : Closes close) (level : Nat) (a : α)
    (as : List α) (r s : List Char) : close :: r ≠ Layout.tight.spread level ((a :: as).map text) ++ s := by
  intro heq
  obtain ⟨c, cs, htext, hc⟩ := hopen a
  rw [List.map_cons, spread_tight_cons, htext] at heq
  exact hclose.ne_of_opens hc (List.cons.inj heq).1.symm

/-- The items of a container are told up to its closing character. By induction on the items of one of the two texts:
the first items agree, then either both texts close or both go on behind a comma. -/
theorem spread_append_inj (hopen : ∀ a, ∃ c cs, text a = c :: cs ∧ Opens c) (hclose : Closes close) (level : Nat)
    {as : List α} (h : ∀ a ∈ as, Tells text a) {bs : List α} {r s : List Char}
    (heq : Layout.tight.spread level (as.map text) ++ close :: r =
      Layout.tight.spread level (bs.map text) ++ close :: s) : as = bs ∧ r = s := by
  induction as generalizing bs with
  | nil =>
    cases bs with
    | nil => exact ⟨rfl, (List.cons.inj heq).2⟩
    | cons b bs => exact absurd heq (cons_ne_spread hopen hclose level b bs _ _)
  | cons a as ih =>
    cases bs with
    | nil => exact absurd heq.symm (cons_ne_spread hopen hclose level a as _ _)
    | cons b bs =>
      have hends : ∀ (ts : List (List Char)) (rest : List Char),
          Ends ((if ts = [] then [] else ',' :: Layout.tight.spread level ts) ++ close :: rest) := by
        intro ts rest
        split
        · exact hclose.ends rest
        · exact ends_comma _
      simp only [List.map_cons, spread_tight_cons, List.append_assoc] at heq
      obtain ⟨rfl, hrest⟩ := h a List.mem_cons_self b _ _ (hends _ r) (hends _ s) heq
      cases as with
      | nil =>
        cases bs with
        | nil => exact ⟨rfl, by simpa using hrest⟩
        | cons b bs => exact absurd (List.cons.inj hrest).1.symm hclose.comma_ne
      | cons a' as =>
        cases bs with
        | nil => exact absurd (List.cons.inj hrest).1 hclose.comma_ne
        | cons b bs =>
          obtain ⟨hitems, hbehind⟩ := ih (fun a ha => h a (List.mem_cons_of_mem _ ha)) (List.cons.inj hrest).2
          exact ⟨by rw [hitems], hbehind⟩

end Items

/-! ## Values -/

/-- Every number is an integer. -/
inductive Integral : Json → Prop where
  | null : Integral .null
  | bool (b : Bool) : Integral (.bool b)
  | num (i : Int) : Integral (.num (.int i))
  | str (s : String) : Integral (.str s)
  | arr {items : List Json} (h : ∀ j ∈ items, Integral j) : Integral (.arr items)
  | obj {fields : List (String × Json)} (h : ∀ f ∈ fields, Integral f.2) : Integral (.obj fields)

@[simp] theorem integral_bool (b : Bool) : Integral (.bool b) := .bool b

@[simp] theorem integral_str (s : String) : Integral (.str s) := .str s

@[simp] theorem integral_arr_iff {items : List Json} : Integral (.arr items) ↔ ∀ j ∈ items, Integral j := by
  refine ⟨fun h => ?_, .arr⟩
  cases h with
  | arr h => exact h

@[simp] theorem integral_obj_iff {fields : List (String × Json)} :
    Integral (.obj fields) ↔ ∀ f ∈ fields, Integral f.2 := by
  refine ⟨fun h => ?_, .obj⟩
  cases h with
  | obj h => exact h

theorem writeItems_eq_map (l : Layout) (level : Nat) (js : List Json) :
    l.writeItems level js = js.map (l.write level) := by
  induction js with
  | nil => rfl
  | cons j js ih => rw [Layout.writeItems, ih, List.map_cons]

/-- The text of a field. -/
def fieldText (level : Nat) (f : String × Json) : List Char :=
  (quote f.1).toList ++ ':' :: Layout.tight.write level f.2

theorem writeFields_eq_map (level : Nat) (fs : List (String × Json)) :
    Layout.tight.writeFields level fs = fs.map (fieldText level) := by
  induction fs with
  | nil => rfl
  | cons f fs ih =>
    rw [Layout.writeFields, ih, List.map_cons]
    simp [fieldText, Layout.tight]

theorem tells_fieldText {level : Nat} {f : String × Json} (h : Tells (Layout.tight.write level) f.2) :
    Tells (fieldText level) f := by
  intro g r s hr hs heq
  have hcolon : ∀ rest, Ends (':' :: rest) := fun rest => ends_cons (by decide) rest
  simp only [fieldText, List.append_assoc, List.cons_append] at heq
  obtain ⟨hkey, hrest⟩ := tells_quote f.1 g.1 _ _ (hcolon _) (hcolon _) heq
  obtain ⟨hvalue, hrest⟩ := h g.2 r s hr hs (List.cons.inj hrest).2
  exact ⟨Prod.ext hkey hvalue, hrest⟩

theorem exists_opens_fieldText (level : Nat) (f : String × Json) : ∃ c cs, fieldText level f = c :: cs ∧ Opens c :=
  ⟨'"', _, by rw [fieldText, toList_quote]; rfl, by decide⟩

/-- The characters that a value may begin with. -/
def BeginsWith : Json → Char → Prop
  | .null, c => c = 'n'
  | .bool true, c => c = 't'
  | .bool false, c => c = 'f'
  | .num _, c => c.isDigit = true ∨ c = '-'
  | .str _, c => c = '"'
  | .arr _, c => c = '['
  | .obj _, c => c = '\x7b'

theorem exists_beginsWith (level : Nat) (j : Json) : ∃ c cs, Layout.tight.write level j = c :: cs ∧ j.BeginsWith c := by
  cases j with
  | null => exact ⟨'n', _, rfl, rfl⟩
  | bool b =>
    cases b with
    | true => exact ⟨'t', _, rfl, rfl⟩
    | false => exact ⟨'f', _, rfl, rfl⟩
  | num x => exact exists_write_eq_cons x
  | str s => exact ⟨'"', _, by rw [Layout.write, toList_quote]; rfl, rfl⟩
  | arr items => exact ⟨'[', _, by rw [Layout.write]; rfl, rfl⟩
  | obj fields => exact ⟨'\x7b', _, by rw [Layout.write]; rfl, rfl⟩

/-- Two values of one kind; of constants, the same one. -/
inductive Alike : Json → Json → Prop where
  | null : Alike .null .null
  | bool (b : Bool) : Alike (.bool b) (.bool b)
  | num (x y : Number) : Alike (.num x) (.num y)
  | str (s t : String) : Alike (.str s) (.str t)
  | arr (items items' : List Json) : Alike (.arr items) (.arr items')
  | obj (fields fields' : List (String × Json)) : Alike (.obj fields) (.obj fields')

/-- The first character tells the kind. -/
theorem alike_of_beginsWith {j k : Json} {c : Char} (hj : j.BeginsWith c) (hk : k.BeginsWith c) : Alike j k := by
  unfold BeginsWith at hj hk
  split at hj <;> split at hk
  all_goals first
    | constructor
    | (subst hj; exact absurd hk (by decide))
    | (subst hk; exact absurd hj (by decide))

theorem alike_of_write {level : Nat} {j k : Json} {r s : List Char}
    (h : Layout.tight.write level j ++ r = Layout.tight.write level k ++ s) : Alike j k := by
  obtain ⟨c, cs, hj, hc⟩ := exists_beginsWith level j
  obtain ⟨d, ds, hk, hd⟩ := exists_beginsWith level k
  rw [hj, hk] at h
  obtain rfl : c = d := (List.cons.inj h).1
  exact alike_of_beginsWith hc hd

/-- **Writing tells values apart**: the text of a value whose numbers are integers is the text of no other value,
whatever ends a number behind the two. By induction on the value; the first character leaves the values of its own kind
to be told apart. -/
theorem tells_write {j : Json} (hj : j.Integral) (level : Nat) : Tells (Layout.tight.write level) j := by
  induction hj generalizing level with
  | null =>
    intro k r s _ _ h
    cases alike_of_write h
    exact ⟨rfl, List.append_cancel_left h⟩
  | bool b =>
    intro k r s _ _ h
    cases alike_of_write h
    exact ⟨rfl, List.append_cancel_left h⟩
  | num i =>
    intro k r s hr hs h
    cases alike_of_write h with
    | num _ x =>
      obtain ⟨rfl, hrest⟩ := tells_int i x r s hr hs h
      exact ⟨rfl, hrest⟩
  | str t =>
    intro k r s hr hs h
    cases alike_of_write h with
    | str _ u =>
      obtain ⟨rfl, hrest⟩ := tells_quote t u r s hr hs h
      exact ⟨rfl, hrest⟩
  | arr hitems ih =>
    intro k r s hr hs h
    cases alike_of_write h with
    | arr items items' =>
      simp only [Layout.write, enclose_tight, writeItems_eq_map, List.cons_append, List.append_assoc,
        List.nil_append] at h
      obtain ⟨rfl, hrest⟩ := spread_append_inj (exists_opens_write .tight (level + 1)) (.inl rfl) (level + 1)
        (fun j hj => ih j hj (level + 1)) (List.cons.inj h).2
      exact ⟨rfl, hrest⟩
  | obj hfields ih =>
    intro k r s hr hs h
    cases alike_of_write h with
    | obj fields fields' =>
      simp only [Layout.write, enclose_tight, writeFields_eq_map, List.cons_append, List.append_assoc,
        List.nil_append] at h
      obtain ⟨rfl, hrest⟩ := spread_append_inj (exists_opens_fieldText (level + 1)) (.inr rfl) (level + 1)
        (fun f hf => tells_fieldText (ih f hf (level + 1))) (List.cons.inj h).2
      exact ⟨rfl, hrest⟩

/-- No two values have one text without blanks, if the numbers of one of them are integers. -/
theorem compact_inj {j k : Json} (hj : j.Integral) (h : j.compact = k.compact) : j = k := by
  have hends : Ends [] := fun _ hc => nomatch hc
  have hwrite : Layout.tight.write 0 j ++ [] = Layout.tight.write 0 k ++ [] := by
    rw [← toList_compact, ← toList_compact, h]
  exact (tells_write hj 0 k [] [] hends hends hwrite).1

/-! ## Numbers and containers of records -/

@[simp] theorem integral_ofNat (n : Nat) : (ofNat n).Integral := .num n

@[simp] theorem integral_ofWord32 (w : UInt32) : (ofWord32 w).Integral := integral_ofNat w.toNat

@[simp] theorem integral_ofWord64 (w : UInt64) : (ofWord64 w).Integral := integral_ofNat w.toNat

@[simp] theorem integral_ofNames (names : List String) : (ofNames names).Integral := by
  simp [ofNames]

@[simp] theorem integral_ofNameSet (s : NameSet) : (ofNameSet s).Integral := integral_ofNames s.names

@[simp] theorem ofNat_inj {m n : Nat} : ofNat m = ofNat n ↔ m = n := by
  simp only [ofNat, Json.num.injEq, Number.int.injEq]
  omega

@[simp] theorem ofWord32_inj {v w : UInt32} : ofWord32 v = ofWord32 w ↔ v = w := by
  rw [ofWord32, ofWord32, ofNat_inj, UInt32.toNat_inj]

@[simp] theorem ofWord64_inj {v w : UInt64} : ofWord64 v = ofWord64 w ↔ v = w := by
  rw [ofWord64, ofWord64, ofNat_inj, UInt64.toNat_inj]

@[simp] theorem ofNames_inj {ns ms : List String} : ofNames ns = ofNames ms ↔ ns = ms := by
  have hstr : Function.Injective Json.str := fun _ _ h => Json.str.inj h
  simp [ofNames, hstr.list_map.eq_iff]

@[simp] theorem ofNameSet_inj {s t : NameSet} : ofNameSet s = ofNameSet t ↔ s = t := by
  rw [ofNameSet, ofNameSet, ofNames_inj]
  exact ⟨NameSet.ext, congrArg NameSet.names⟩

section Container

variable {α : Type} {write : α → Json}

theorem integral_ofOption {o : Option α} (h : ∀ a ∈ o, (write a).Integral) : (ofOption write o).Integral := by
  cases o with
  | none => exact .null
  | some a => exact h a rfl

theorem integral_ofDict {d : Dict α} (h : ∀ a ∈ d.values, (write a).Integral) : (ofDict write d).Integral := by
  refine .obj fun f hf => ?_
  obtain ⟨e, he, rfl⟩ := List.mem_map.1 hf
  exact h e.2 (List.mem_map_of_mem he)

/-- Absence is written as null, so that no value may be. -/
theorem ofOption_inj (hwrite : Function.Injective write) (hnull : ∀ a, write a ≠ .null) {o p : Option α} :
    ofOption write o = ofOption write p ↔ o = p := by
  refine ⟨fun h => ?_, fun h => by rw [h]⟩
  cases o with
  | none =>
    cases p with
    | none => rfl
    | some b => exact absurd h.symm (hnull b)
  | some a =>
    cases p with
    | none => exact absurd h (hnull a)
    | some b => rw [hwrite h]

theorem ofDict_inj (hwrite : Function.Injective write) {d e : Dict α} : ofDict write d = ofDict write e ↔ d = e := by
  refine ⟨fun h => Dict.ext ?_, fun h => by rw [h]⟩
  have hentry : Function.Injective fun f : String × α => (f.1, write f.2) := by
    intro f g hfg
    obtain ⟨hkey, hvalue⟩ := Prod.mk.inj hfg
    exact Prod.ext hkey (hwrite hvalue)
  exact hentry.list_map (Json.obj.inj h)

end Container

end TaskFlow.Json
