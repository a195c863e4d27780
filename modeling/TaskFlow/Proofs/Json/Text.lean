import Mathlib.Data.List.DropRight
import Mathlib.Data.List.Forall2
import TaskFlow.Proofs.Json.Scalar

/-!
# Text read back

- `Layout`: where the blanks of a text stand; `Json.pretty` and `Json.compact` differ in nothing else
  (`toList_prettyAt`, `toList_compact`);
- `Spells`: a text that a reader takes for a given value, whatever stands behind it; `container_enclose`: so the text of
  a container is taken for its items;
- `spells_write`: a text in any layout is taken for the value that it was written from, at any depth that the reader
  allows; `Draft.parse?_indented` for whole indented texts.
-/

namespace TaskFlow.Json

/-! ## Shape -/

mutual

/-- Every number is an integer of 64 bits. -/
def Whole : Json → Prop
  | .num x => x.Whole
  | .arr items => WholeItems items
  | .obj fields => WholeFields fields
  | _ => True

def WholeItems : List Json → Prop
  | [] => True
  | j :: js => Whole j ∧ WholeItems js

def WholeFields : List (String × Json) → Prop
  | [] => True
  | (_, j) :: fs => Whole j ∧ WholeFields fs

end

mutual

def decidableWhole : ∀ j : Json, Decidable j.Whole
  | .null | .bool _ | .str _ => .isTrue trivial
  | .num x => inferInstanceAs (Decidable x.Whole)
  | .arr items => decidableWholeItems items
  | .obj fields => decidableWholeFields fields

def decidableWholeItems : ∀ js : List Json, Decidable (WholeItems js)
  | [] => .isTrue trivial
  | j :: js => @instDecidableAnd _ _ (decidableWhole j) (decidableWholeItems js)

def decidableWholeFields : ∀ fs : List (String × Json), Decidable (WholeFields fs)
  | [] => .isTrue trivial
  | (_, j) :: fs => @instDecidableAnd _ _ (decidableWhole j) (decidableWholeFields fs)

end

instance : DecidablePred Whole := decidableWhole

mutual

/-- How many containers are nested in one another. -/
def depth : Json → Nat
  | .arr items => depthItems items + 1
  | .obj fields => depthFields fields + 1
  | _ => 0

def depthItems : List Json → Nat
  | [] => 0
  | j :: js => max (depth j) (depthItems js)

def depthFields : List (String × Json) → Nat
  | [] => 0
  | (_, j) :: fs => max (depth j) (depthFields fs)

end

/-! ## Layouts -/

/-- The blanks of a text: in front of each part at a level, and behind each colon. -/
structure Layout where
  newline : Nat → List Char
  gap : List Char
  newline_blank : ∀ level, ∀ c ∈ newline level, isBlank c = true
  gap_blank : ∀ c ∈ gap, isBlank c = true

namespace Layout

/-- Two blanks of indentation for each level. -/
def indented : Layout where
  newline level := '\n' :: List.replicate (2 * level) ' '
  gap := [' ']
  newline_blank level c hc := by
    rcases List.mem_cons.1 hc with rfl | hc
    · rfl
    · rw [List.eq_of_mem_replicate hc]
      rfl
  gap_blank c hc := by
    rw [List.mem_singleton.1 hc]
    rfl

/-- No blanks at all. -/
def tight : Layout where
  newline _ := []
  gap := []
  newline_blank _ _ hc := nomatch hc
  gap_blank _ hc := nomatch hc

variable (l : Layout)

/-- Texts parted by commas, blanks in front of each. -/
def spread (level : Nat) : List (List Char) → List Char
  | [] => []
  | [t] => l.newline level ++ t
  | t :: ts => l.newline level ++ t ++ ',' :: spread level ts

/-- The text of a container between its opening and its closing character. -/
def enclose (level : Nat) (ts : List (List Char)) : List Char :=
  if ts = [] then [] else l.spread (level + 1) ts ++ l.newline level

mutual

def write (level : Nat) : Json → List Char
  | .null => "null".toList
  | .bool true => "true".toList
  | .bool false => "false".toList
  | .num x => x.write.toList
  | .str s => (quote s).toList
  | .arr items => '[' :: l.enclose level (writeItems (level + 1) items) ++ [']']
  | .obj fields => '\x7b' :: l.enclose level (writeFields (level + 1) fields) ++ ['\x7d']

def writeItems (level : Nat) : List Json → List (List Char)
  | [] => []
  | j :: js => write level j :: writeItems level js

def writeFields (level : Nat) : List (String × Json) → List (List Char)
  | [] => []
  | (k, j) :: fs => ((quote k).toList ++ ':' :: l.gap ++ write level j) :: writeFields level fs

end

@[simp] theorem writeItems_eq_nil_iff {level : Nat} {js : List Json} : l.writeItems level js = [] ↔ js = [] := by
  cases js <;> simp [writeItems]

@[simp] theorem writeFields_eq_nil_iff {level : Nat} {fs : List (String × Json)} :
    l.writeFields level fs = [] ↔ fs = [] := by
  cases fs <;> simp [writeFields]

/-- One text more, with others behind it. -/
theorem spread_cons (level : Nat) (t : List Char) {ts : List (List Char)} (h : ts ≠ []) :
    l.spread level (t :: ts) = l.newline level ++ t ++ ',' :: l.spread level ts := by
  cases ts with
  | nil => exact absurd rfl h
  | cons u us => rfl

end Layout

theorem toList_newline (level : Nat) : (newline level).toList = Layout.indented.newline level := by
  simp [newline, Layout.indented]

mutual

theorem toList_prettyAt (level : Nat) : ∀ j : Json, (prettyAt level j).toList = Layout.indented.write level j
  | .null | .bool true | .bool false | .num _ | .str _ => by simp [prettyAt, Layout.write]
  | .arr [] | .obj [] => by simp [prettyAt, Layout.write, Layout.writeItems, Layout.writeFields, Layout.enclose]
  | .arr (j :: js) => by
    simp [prettyAt, Layout.write, Layout.enclose, toList_prettyItems (level + 1) (j :: js), toList_newline]
  | .obj (f :: fs) => by
    simp [prettyAt, Layout.write, Layout.enclose, toList_prettyFields (level + 1) (f :: fs), toList_newline]

theorem toList_prettyItems (level : Nat) : ∀ js : List Json,
    (prettyItems level js).toList = Layout.indented.spread level (Layout.indented.writeItems level js)
  | [] => rfl
  | [j] => by
    simp [prettyItems, Layout.writeItems, Layout.spread, toList_prettyAt level j, toList_newline]
  | j :: i :: js => by
    rw [Layout.writeItems, Layout.spread_cons _ _ _ (by simp), ← toList_prettyItems level (i :: js)]
    simp [prettyItems, toList_prettyAt level j, toList_newline]

theorem toList_prettyFields (level : Nat) : ∀ fs : List (String × Json),
    (prettyFields level fs).toList = Layout.indented.spread level (Layout.indented.writeFields level fs)
  | [] => rfl
  | [(k, j)] => by
    have hj := toList_prettyAt level j
    simp [prettyFields, Layout.writeFields, Layout.spread, hj, toList_newline, Layout.indented]
  | (k, j) :: f :: fs => by
    rw [Layout.writeFields, Layout.spread_cons _ _ _ (by simp), ← toList_prettyFields level (f :: fs)]
    have hj := toList_prettyAt level j
    simp [prettyFields, hj, toList_newline, Layout.indented]

end

theorem enclose_tight (level : Nat) (ts : List (List Char)) :
    Layout.tight.enclose level ts = Layout.tight.spread (level + 1) ts := by
  cases ts <;> simp [Layout.enclose, Layout.spread, Layout.tight]

mutual

theorem toList_compact (level : Nat) : ∀ j : Json, (compact j).toList = Layout.tight.write level j
  | .null | .bool true | .bool false | .num _ | .str _ => by simp [compact, Layout.write]
  | .arr js => by simp [compact, Layout.write, enclose_tight, toList_compactItems (level + 1) js]
  | .obj fs => by simp [compact, Layout.write, enclose_tight, toList_compactFields (level + 1) fs]

theorem toList_compactItems (level : Nat) : ∀ js : List Json,
    (compactItems js).toList = Layout.tight.spread level (Layout.tight.writeItems level js)
  | [] => rfl
  | [j] => by
    simp [compactItems, Layout.writeItems, Layout.spread, toList_compact level j, Layout.tight]
  | j :: i :: js => by
    rw [Layout.writeItems, Layout.spread_cons _ _ _ (by simp), ← toList_compactItems level (i :: js)]
    simp [compactItems, toList_compact level j, Layout.tight]

theorem toList_compactFields (level : Nat) : ∀ fs : List (String × Json),
    (compactFields fs).toList = Layout.tight.spread level (Layout.tight.writeFields level fs)
  | [] => rfl
  | [(k, j)] => by
    simp [compactFields, Layout.writeFields, Layout.spread, toList_compact level j, Layout.tight]
  | (k, j) :: f :: fs => by
    rw [Layout.writeFields, Layout.spread_cons _ _ _ (by simp), ← toList_compactFields level (f :: fs)]
    simp [compactFields, toList_compact level j, Layout.tight]

end

/-! ## Characters between values -/

/-- The beginning of a value: no blank, and no end of a container. -/
def Opens (c : Char) : Prop := isBlank c = false ∧ c ≠ ']' ∧ c ≠ '\x7d'

instance (c : Char) : Decidable (Opens c) := inferInstanceAs (Decidable (_ ∧ _ ∧ _))

theorem opens_of_isDigit {c : Char} (hc : c.isDigit = true) : Opens c := by
  have hne : ∀ d, d.isDigit = false → c ≠ d := fun d hd => ne_of_isDigit hc hd
  have hblank : isBlank c = false := by
    simp [isBlank, hne ' ' rfl, hne '\n' rfl, hne '\t' rfl, hne '\r' rfl]
  exact ⟨hblank, hne ']' rfl, hne '\x7d' rfl⟩

theorem ends_cons {c : Char} (hc : c.isDigit = false ∧ c ≠ '.' ∧ c ≠ 'e' ∧ c ≠ 'E') (rest : List Char) :
    Ends (c :: rest) := by
  intro d hd
  obtain rfl : c = d := by simpa using hd
  exact hc

theorem ends_comma (rest : List Char) : Ends (',' :: rest) := ends_cons (by decide) rest

/-- The end of a container. -/
def Closes (c : Char) : Prop := c = ']' ∨ c = '\x7d'

namespace Closes

variable {c d : Char}

theorem solid (hc : Closes c) : isBlank c = false := by
  rcases hc with rfl | rfl <;> rfl

theorem ends (hc : Closes c) (rest : List Char) : Ends (c :: rest) := by
  rcases hc with rfl | rfl <;> exact ends_cons (by decide) rest

theorem comma_ne (hc : Closes c) : ',' ≠ c := by
  rcases hc with rfl | rfl <;> decide

theorem ne_of_opens (hc : Closes c) (hd : Opens d) : d ≠ c := by
  rcases hc with rfl | rfl
  · exact hd.2.1
  · exact hd.2.2

end Closes

section Blanks

variable {blanks rest : List Char}

/-- Blanks behind a number end it. -/
theorem ends_blanks (hblanks : ∀ c ∈ blanks, isBlank c = true) (hrest : Ends rest) : Ends (blanks ++ rest) := by
  cases blanks with
  | nil => exact hrest
  | cons c cs =>
    have hblank : c = ' ' ∨ c = '\n' ∨ c = '\t' ∨ c = '\r' := by
      simpa [isBlank, or_assoc] using hblanks c List.mem_cons_self
    rcases hblank with rfl | rfl | rfl | rfl <;> exact ends_cons (by decide) _

theorem skipBlanks_append (hblanks : ∀ c ∈ blanks, isBlank c = true) : skipBlanks (blanks ++ rest) = skipBlanks rest :=
  List.dropWhile_append_of_pos hblanks

theorem skipBlanks_solid {c : Char} (hc : isBlank c = false) (rest : List Char) :
    skipBlanks (c :: rest) = c :: rest := by
  simp [skipBlanks, hc]

theorem skipBlanks_skipBlanks (cs : List Char) : skipBlanks (skipBlanks cs) = skipBlanks cs :=
  List.dropWhile_idempotent _ _

end Blanks

/-! ## Containers -/

/-- A reader takes a text for a value, whatever may stand behind it. -/
structure Spells {α : Type} (item : Reader α) (t : List Char) (a : α) : Prop where
  opens : ∃ c cs, t = c :: cs ∧ Opens c
  reads : ∀ rest, Ends rest → item (t ++ rest) = some (a, rest)

section Container

variable {α : Type} {item : Reader α} {close : Char} (l : Layout) (level : Nat)

theorem Spells.reads_blanks {t : List Char} {a : α} (h : Spells item t a) {blanks : List Char}
    (hblanks : ∀ c ∈ blanks, isBlank c = true) {rest : List Char} (hrest : Ends rest) :
    item (skipBlanks (blanks ++ t ++ rest)) = some (a, rest) := by
  obtain ⟨c, cs, ht, hc, -⟩ := h.opens
  rw [List.append_assoc, skipBlanks_append hblanks, ht, List.cons_append, skipBlanks_solid hc, ← List.cons_append, ← ht]
  exact h.reads rest hrest

/-- Texts of items up to the closing character are taken for the items, one after the other. -/
theorem itemsTail_spread (hclose : Closes close) {ts : List (List Char)} {as : List α}
    (h : List.Forall₂ (Spells item) ts as) (hne : ts ≠ []) {n : Nat} (hn : ts.length ≤ n) {blanks : List Char}
    (hblanks : ∀ c ∈ blanks, isBlank c = true) (rest : List Char) :
    itemsTail item close n (l.spread level ts ++ blanks ++ close :: rest) = some (as, rest) := by
  induction h generalizing n with
  | nil => exact absurd rfl hne
  | @cons t a ts as ht hts ih =>
    obtain ⟨m, rfl⟩ : ∃ m, n = m + 1 := ⟨n - 1, by simp at hn; omega⟩
    rcases Decidable.em (ts = []) with rfl | hmore
    · cases hts
      have hitem := ht.reads_blanks (l.newline_blank level) (ends_blanks hblanks (hclose.ends rest))
      rw [Layout.spread, itemsTail, List.append_assoc _ blanks, hitem]
      simp only [skipBlanks_append hblanks, skipBlanks_solid hclose.solid, if_true]
    · have hitem := ht.reads_blanks (l.newline_blank level) (ends_comma (l.spread level ts ++ blanks ++ close :: rest))
      have hrest := ih hmore (n := m) (by simpa using hn)
      have hcomma : isBlank ',' = false := rfl
      rw [l.spread_cons level t hmore, itemsTail]
      simp only [List.append_assoc, List.cons_append] at hitem hrest ⊢
      rw [hitem]
      simp only [skipBlanks_solid hcomma, if_neg hclose.comma_ne, if_true, hrest, Option.map_some]

/-- Blanks in front of the first item do not matter. -/
theorem itemsTail_skipBlanks (n : Nat) (cs : List Char) :
    itemsTail item close n (skipBlanks cs) = itemsTail item close n cs := by
  cases n with
  | zero => rfl
  | succ n => rw [itemsTail, itemsTail, skipBlanks_skipBlanks]

/-- The text of a container behind its opening character is taken for its items. -/
theorem container_enclose (hclose : Closes close) {ts : List (List Char)} {as : List α}
    (h : List.Forall₂ (Spells item) ts as) {n : Nat} (hn : ts.length ≤ n) (rest : List Char) :
    container item close n (l.enclose level ts ++ close :: rest) = some (as, rest) := by
  cases h with
  | nil => simp [Layout.enclose, container, skipBlanks_solid hclose.solid]
  | @cons t a ts as ht hts =>
    obtain ⟨more, hmore⟩ : ∃ more, l.spread (level + 1) (t :: ts) = l.newline (level + 1) ++ (t ++ more) := by
      cases ts with
      | nil => exact ⟨[], by simp [Layout.spread]⟩
      | cons u us => exact ⟨',' :: l.spread (level + 1) (u :: us), by simp [Layout.spread]⟩
    obtain ⟨c, cs, hopen, hc⟩ := ht.opens
    have htail := itemsTail_spread l (level + 1) hclose (.cons ht hts) (by simp) hn (l.newline_blank level) rest
    have hskip : skipBlanks (l.enclose level (t :: ts) ++ close :: rest) =
        c :: (cs ++ more ++ l.newline level ++ close :: rest) := by
      rw [Layout.enclose, if_neg (List.cons_ne_nil t ts), hmore, hopen]
      simp [skipBlanks_append (l.newline_blank (level + 1)), skipBlanks_solid hc.1]
    rw [container, hskip]
    simp only [if_neg (hclose.ne_of_opens hc)]
    rw [← hskip, itemsTail_skipBlanks]
    simpa [Layout.enclose] using htail

end Container

/-! ## Values -/

theorem spells_member {item : Reader Draft} {t : List Char} {d : Draft} (h : Spells item t d) (k : String)
    {gap : List Char} (hgap : ∀ c ∈ gap, isBlank c = true) :
    Spells (member item) ((quote k).toList ++ ':' :: gap ++ t) (k, d) where
  opens := ⟨'"', _, by rw [toList_quote]; rfl, by decide⟩
  reads rest hrest := by
    have hitem := h.reads_blanks hgap hrest
    have htext : (quote k).toList ++ ':' :: gap ++ t ++ rest =
        '"' :: (escaped k ++ '"' :: ':' :: (gap ++ t ++ rest)) := by
      simp [toList_quote]
    rw [htext, member, stringTail_escaped]
    have hcolon : isBlank ':' = false := rfl
    simp only [Option.bind_eq_bind, Option.bind_some, skipBlanks_solid hcolon, hitem]
    rfl

/-- What a value is written as begins with none of the characters that stand between values. -/
theorem exists_opens_write (l : Layout) (level : Nat) (j : Json) :
    ∃ c cs, l.write level j = c :: cs ∧ Opens c := by
  cases j with
  | null => exact ⟨'n', _, rfl, by decide⟩
  | bool b =>
    cases b with
    | true => exact ⟨'t', _, rfl, by decide⟩
    | false => exact ⟨'f', _, rfl, by decide⟩
  | num x =>
    obtain ⟨c, cs, hwrite, hc⟩ := exists_write_eq_cons x
    refine ⟨c, cs, hwrite, ?_⟩
    rcases hc with hdigit | rfl
    · exact opens_of_isDigit hdigit
    · decide
  | str s => exact ⟨'"', _, by rw [Layout.write, toList_quote]; rfl, by decide⟩
  | arr items => exact ⟨'[', _, by rw [Layout.write]; rfl, by decide⟩
  | obj fields => exact ⟨'\x7b', _, by rw [Layout.write]; rfl, by decide⟩

theorem draftAt_of_readWith {n depth : Nat} {cs rest : List Char} {d : Draft}
    (h : readWith (draftAt n depth) n (depth != 0) cs = some (d, rest)) :
    draftAt n (depth + 1) cs = some (d, rest) := by
  rw [draftAt, h]

/-- A container is no shorter than each of its parts, and has a character for each of them. -/
theorem length_le_length_spread (l : Layout) (level : Nat) (ts : List (List Char)) :
    ts.length ≤ (l.spread level ts).length + 1 ∧ ∀ t ∈ ts, t.length ≤ (l.spread level ts).length := by
  induction ts with
  | nil => simp [Layout.spread]
  | cons t ts ih =>
    obtain ⟨hcount, hparts⟩ := ih
    rcases Decidable.em (ts = []) with rfl | hmore
    · simp [Layout.spread]
    · rw [l.spread_cons level t hmore]
      refine ⟨by simp; omega, fun u hu => ?_⟩
      rcases List.mem_cons.1 hu with rfl | hu
      · simp
        omega
      · have hpart := hparts u hu
        simp
        omega

theorem length_le_of_enclose {l : Layout} {level n : Nat} {ts : List (List Char)} {opening closing : Char}
    (h : (opening :: l.enclose level ts ++ [closing]).length ≤ n) : ts.length ≤ n ∧ ∀ t ∈ ts, t.length ≤ n := by
  obtain ⟨hcount, hparts⟩ := length_le_length_spread l (level + 1) ts
  rcases Decidable.em (ts = []) with rfl | hne
  · simp
  · rw [Layout.enclose, if_neg hne] at h
    simp at h
    exact ⟨by omega, fun t ht => Nat.le_trans (hparts t ht) (by omega)⟩

section Value

variable (l : Layout) (n : Nat)

mutual

/-- **Reading undoes writing**: at any depth that is allowed, what a value is written as is taken for the value. By
recursion on the value; the reader takes no more than `n` items for a container, which no text of that length has. -/
theorem spells_write (level : Nat) : ∀ {depth : Nat} (j : Json), j.Whole → j.depth < depth →
    (l.write level j).length ≤ n → Spells (draftAt n depth) (l.write level j) j.draft
  | 0, j, _, hdepth, _ => absurd hdepth (Nat.not_lt_zero _)
  | depth + 1, .null, hj, _, _ => ⟨exists_opens_write l level _, fun _ _ => draftAt_of_readWith rfl⟩
  | depth + 1, .bool true, hj, _, _ => ⟨exists_opens_write l level _, fun _ _ => draftAt_of_readWith rfl⟩
  | depth + 1, .bool false, hj, _, _ => ⟨exists_opens_write l level _, fun _ _ => draftAt_of_readWith rfl⟩
  | depth + 1, .num x, hj, _, _ => by
    refine ⟨exists_opens_write l level _, fun rest hrest => draftAt_of_readWith ?_⟩
    exact readWith_write hj hrest
  | depth + 1, .str s, hj, _, _ => by
    refine ⟨exists_opens_write l level _, fun rest _ => draftAt_of_readWith ?_⟩
    have htext : (quote s).toList ++ rest = '"' :: (escaped s ++ '"' :: rest) := by
      simp [toList_quote]
    rw [Layout.write, htext, readWith, stringTail_escaped]
    rfl
  | depth + 1, .arr items, hj, hdepth, hn => by
    refine ⟨exists_opens_write l level _, fun rest _ => draftAt_of_readWith ?_⟩
    obtain ⟨hcount, hparts⟩ := length_le_of_enclose hn
    have hinner : depthItems items < depth := Nat.lt_of_succ_lt_succ hdepth
    have hallowed : (depth != 0) = true := bne_iff_ne.2 (Nat.ne_zero_of_lt hinner)
    have hitems := spells_writeItems (level + 1) items hj hinner hparts
    have hcontainer := container_enclose l level (.inl rfl) hitems hcount rest
    rw [Layout.write, List.cons_append, List.cons_append, List.append_assoc, List.singleton_append, readWith,
      if_pos hallowed, hcontainer]
    rfl
  | depth + 1, .obj fields, hj, hdepth, hn => by
    refine ⟨exists_opens_write l level _, fun rest _ => draftAt_of_readWith ?_⟩
    obtain ⟨hcount, hparts⟩ := length_le_of_enclose hn
    have hinner : depthFields fields < depth := Nat.lt_of_succ_lt_succ hdepth
    have hallowed : (depth != 0) = true := bne_iff_ne.2 (Nat.ne_zero_of_lt hinner)
    have hfields := spells_writeFields (level + 1) fields hj hinner hparts
    have hcontainer := container_enclose l level (.inr rfl) hfields hcount rest
    rw [Layout.write, List.cons_append, List.cons_append, List.append_assoc, List.singleton_append, readWith,
      if_pos hallowed, hcontainer]
    rfl

theorem spells_writeItems (level : Nat) : ∀ {depth : Nat} (js : List Json), WholeItems js → depthItems js < depth →
    (∀ t ∈ l.writeItems level js, t.length ≤ n) →
    List.Forall₂ (Spells (draftAt n depth)) (l.writeItems level js) (draftItems js)
  | _, [], _, _, _ => .nil
  | depth, j :: js, hjs, hdepth, hn => by
    rw [depthItems] at hdepth
    rw [Layout.writeItems] at hn ⊢
    have hj : Spells (draftAt n depth) (l.write level j) j.draft :=
      spells_write level j hjs.1 (by omega) (hn _ List.mem_cons_self)
    exact .cons hj (spells_writeItems level js hjs.2 (by omega) fun t ht => hn t (List.mem_cons_of_mem _ ht))

theorem spells_writeFields (level : Nat) : ∀ {depth : Nat} (fs : List (String × Json)), WholeFields fs →
    depthFields fs < depth → (∀ t ∈ l.writeFields level fs, t.length ≤ n) →
    List.Forall₂ (Spells (member (draftAt n depth))) (l.writeFields level fs) (draftFields fs)
  | _, [], _, _, _ => .nil
  | depth, (k, j) :: fs, hfs, hdepth, hn => by
    rw [depthFields] at hdepth
    rw [Layout.writeFields] at hn ⊢
    have hlength : (l.write level j).length ≤ n := by
      have hfield := hn _ List.mem_cons_self
      simp at hfield
      omega
    have hj : Spells (draftAt n depth) (l.write level j) j.draft := spells_write level j hfs.1 (by omega) hlength
    exact .cons (spells_member hj k l.gap_blank)
      (spells_writeFields level fs hfs.2 (by omega) fun t ht => hn t (List.mem_cons_of_mem _ ht))

end

end Value

theorem parse?_of_write (l : Layout) {j : Json} (hj : j.Whole) (hdepth : j.depth < depthLimit) {s : String}
    (hs : s.toList = l.write 0 j) : Draft.parse? s = some j.draft := by
  obtain ⟨⟨c, cs, htext, hc, -⟩, hreads⟩ :=
    spells_write l s.toList.length 0 j hj hdepth (by rw [hs])
  have hread := hreads [] (fun _ h => nomatch h)
  have hskip : skipBlanks s.toList = s.toList := by
    rw [hs, htext, skipBlanks_solid hc]
  rw [List.append_nil, ← hs] at hread
  simp only [Draft.parse?, hskip, hread]
  rfl

/-- The text of a value over several lines is read as the value. -/
theorem Draft.parse?_indented {j : Json} (hj : j.Whole) (hdepth : j.depth < depthLimit) :
    Draft.parse? j.pretty = some j.draft :=
  parse?_of_write .indented hj hdepth (toList_prettyAt 0 j)

end TaskFlow.Json
