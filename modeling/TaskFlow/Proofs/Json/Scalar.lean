import Mathlib.Data.List.TakeDrop
import TaskFlow.Json.Parser
import TaskFlow.Json.Printer

/-!
# Strings and numbers read back

- `stringTail_escaped`: what stands between the quotes of a quoted string is read as the string, character by character
  (`stringTail_escapeChar`);
- `Number.Whole`: the integers of 64 bits, the numbers that are written in digits and read back as they are;
- `readWith_write`: such a number is read back, provided that what stands behind it `Ends` it;
- `signed_append_inj`: digits with a sign are told from what stands behind them; a double has a point or an exponent
  behind its first digits (`exists_toList_writeDouble`), an integer has none (`toList_write_int`).
-/

namespace TaskFlow.Json

/-! ## Strings -/

theorem digit?_digitChar {d : Nat} (h : d < 16) : Numeral.digit? d.digitChar = some d := by
  have hall : ∀ d < 16, Numeral.digit? d.digitChar = some d := by decide
  exact hall d h

theorem toList_controlEscape {c : Char} (h : c.toNat < 0x20) :
    (controlEscape c).toList = ['\\', 'u', '0', '0', (c.toNat / 16).digitChar, (c.toNat % 16).digitChar] := by
  have hall : ∀ n < 0x20, List.replicate (4 - (Nat.toDigits 16 n).length) '0' ++ Nat.toDigits 16 n =
      ['0', '0', (n / 16).digitChar, (n % 16).digitChar] := by decide
  simp only [controlEscape, Decimal.zeros, String.toList_append, String.toList_ofList, List.append_assoc,
    hall c.toNat h]
  rfl

theorem stringTail_controlEscape {c : Char} (h : c.toNat < 0x20) (acc cs : List Char) :
    stringTail .outside acc ((controlEscape c).toList ++ cs) = stringTail .outside (c :: acc) cs := by
  have hzero : Numeral.digit? '0' = some 0 := by decide
  have hhigh := digit?_digitChar (d := c.toNat / 16) (by omega)
  have hlow := digit?_digitChar (d := c.toNat % 16) (by omega)
  have hsum : 16 * (c.toNat / 16) + c.toNat % 16 = c.toNat := by omega
  have hcode : codeUnit? c.toNat none = some (.inl c) := by
    have hnoHigh : isHighSurrogate c.toNat = false := by
      simp [isHighSurrogate]
      omega
    have hnoLow : isLowSurrogate c.toNat = false := by
      simp [isLowSurrogate]
      omega
    simp [codeUnit?, hnoHigh, hnoLow, Char.ofNat_toNat]
  rw [toList_controlEscape h]
  simp [stringTail, hzero, hhigh, hlow, hsum, hcode]

/-- An escaped character is read as itself. -/
theorem stringTail_escapeChar (c : Char) (acc cs : List Char) :
    stringTail .outside acc ((escapeChar c).toList ++ cs) = stringTail .outside (c :: acc) cs := by
  unfold escapeChar
  split
  -- the characters that have a letter of their own behind the backslash, or stand there themselves
  iterate 7 (· simp [stringTail, shortEscape?])
  rename_i hquote hback _ _ _ _ _
  split
  · rename_i hcontrol
    exact stringTail_controlEscape hcontrol acc cs
  · rename_i hprint
    have hsolid : ¬c.toNat < 0x20 := hprint
    rw [String.toList_singleton, List.singleton_append, stringTail, if_neg hquote, if_neg hback, if_neg hsolid]

theorem stringTail_escape (cs acc rest : List Char) :
    stringTail .outside acc (cs.flatMap (fun c => (escapeChar c).toList) ++ '"' :: rest) =
      some (String.ofList (acc.reverse ++ cs), rest) := by
  induction cs generalizing acc with
  | nil => simp [stringTail]
  | cons c cs ih =>
    rw [List.flatMap_cons, List.append_assoc, stringTail_escapeChar, ih]
    simp

/-- What a quoted string holds between its quotes. -/
def escaped (s : String) : List Char := s.toList.flatMap fun c => (escapeChar c).toList

theorem toList_quote (s : String) : (quote s).toList = '"' :: escaped s ++ ['"'] := by
  simp [quote, escaped, String.toList_join, List.flatMap_map]

/-- A quoted string is read as itself. -/
theorem stringTail_escaped (s : String) (rest : List Char) :
    stringTail .outside [] (escaped s ++ '"' :: rest) = some (s, rest) := by
  rw [escaped, stringTail_escape]
  simp

/-! ## Numbers -/

/-- No digit is dropped from a number of 64 bits, since the numbers of its first digits are smaller. -/
theorem takeDigits_eq {cs : List Char} {significand : Nat} (h : Nat.ofDigitChars 10 cs significand < UInt64.size) :
    takeDigits significand cs = (Nat.ofDigitChars 10 cs significand, cs.length, 0) := by
  induction cs generalizing significand with
  | nil => simp [takeDigits]
  | cons c cs ih =>
    rw [Nat.ofDigitChars_cons] at h ⊢
    have hnext : 10 * significand + (c.toNat - '0'.toNat) < UInt64.size := by
      rw [Nat.ofDigitChars_eq_ofDigitChars_zero] at h
      have hpos : 0 < 10 ^ cs.length := Nat.pow_pos (by omega)
      have hle := Nat.le_mul_of_pos_left (10 * significand + (c.toNat - '0'.toNat)) hpos
      omega
    rw [takeDigits]
    simp only [if_pos hnext, ih h, List.length_cons]

/-- What may stand behind a number: nothing that could belong to it. -/
def Ends (rest : List Char) : Prop := ∀ c ∈ rest.head?, c.isDigit = false ∧ c ≠ '.' ∧ c ≠ 'e' ∧ c ≠ 'E'

theorem span_toDigits {n : Nat} {rest : List Char} (hrest : Ends rest) :
    (Nat.toDigits 10 n ++ rest).span Char.isDigit = (Nat.toDigits 10 n, rest) := by
  have hdigits : ∀ c ∈ Nat.toDigits 10 n, c.isDigit = true := fun c hc =>
    Nat.isDigit_of_mem_toDigits (by omega) (by omega) hc
  have hstop : rest.takeWhile Char.isDigit = [] ∧ rest.dropWhile Char.isDigit = rest := by
    cases rest with
    | nil => simp
    | cons c rest => simp [(hrest c rfl).1]
  rw [List.span_eq_takeWhile_dropWhile, List.takeWhile_append_of_pos hdigits, List.dropWhile_append_of_pos hdigits,
    hstop.1, hstop.2, List.append_nil]

/-- Only zero begins with a zero. -/
theorem head?_toDigits {n : Nat} (hn : 0 < n) : (Nat.toDigits 10 n).head? ≠ some '0' := by
  induction n using Nat.base_induction 10 (by omega) with
  | single m hm =>
    have hall : ∀ m < 10, 0 < m → m.digitChar ≠ '0' := by decide
    simpa [Nat.toDigits_of_lt_base hm] using hall m hm hn
  | digit m k hk hm ih =>
    have hne : Nat.toDigits 10 m ≠ [] := Nat.toDigits_ne_nil
    rw [← Nat.toDigits_append_toDigits (by omega) hm hk, List.head?_append, Option.or_of_isSome (by simp [hne])]
    exact ih hm

/-- The digits of a number of 64 bits are read as the number, or behind a sign as its opposite. Only zero and what is
too small for an integer become doubles there. -/
theorem number_toDigits {n : Nat} (hn : n < UInt64.size) (negative : Bool) {rest : List Char} (hrest : Ends rest) :
    number negative (Nat.toDigits 10 n ++ rest) =
      if negative then
        if n = 0 || Word.half < n then (Double.nearest? true n 1).map fun x => (.real x, rest)
        else some (.int (-(n : Int)), rest)
      else some (.int n, rest) := by
  have hsignificand : takeDigits 0 (Nat.toDigits 10 n) = (n, (Nat.toDigits 10 n).length, 0) := by
    rw [takeDigits_eq] <;> simp [hn]
  have hlead : ((Nat.toDigits 10 n).isEmpty ||
      ((Nat.toDigits 10 n).length != 1 && (Nat.toDigits 10 n).head? == some '0')) = false := by
    have hne : Nat.toDigits 10 n ≠ [] := Nat.toDigits_ne_nil
    rcases Nat.eq_zero_or_pos n with rfl | hpos
    · simp [Nat.toDigits_zero]
    · simp [hne, head?_toDigits hpos]
  have hpoint : ∀ r, rest ≠ '.' :: r := by
    rintro r rfl
    exact (hrest '.' rfl).2.1 rfl
  have hlower : ∀ r, rest ≠ 'e' :: r := by
    rintro r rfl
    exact (hrest 'e' rfl).2.2.1 rfl
  have hupper : ∀ r, rest ≠ 'E' :: r := by
    rintro r rfl
    exact (hrest 'E' rfl).2.2.2 rfl
  unfold number
  simp only [span_toDigits hrest, hlead, hsignificand, Bool.false_eq_true, if_false, Bool.false_and, takeDigits,
    Option.bind_eq_bind, Option.bind_some, Bool.false_or, decide_eq_true_eq, ne_eq, not_true_eq_false]
  split
  · split
    · rw [Option.map_eq_bind]
      rfl
    · rfl
  · rfl

/-- An integer of 64 bits, with or without a sign: such a number is written in digits only and read back as it is. -/
def Number.Whole : Number → Prop
  | .int i => -(Word.half : Int) ≤ i ∧ i < UInt64.size
  | .real _ => False

instance : DecidablePred Number.Whole
  | .int i => inferInstanceAs (Decidable (-(Word.half : Int) ≤ i ∧ i < UInt64.size))
  | .real _ => inferInstanceAs (Decidable False)

theorem toList_write_natCast (n : Nat) : (Number.write (.int n)).toList = Nat.toDigits 10 n := Nat.toList_repr

theorem toList_write_neg {n : Nat} (hn : 0 < n) : (Number.write (.int (-n))).toList = '-' :: Nat.toDigits 10 n := by
  obtain ⟨m, rfl⟩ : ∃ m, n = m + 1 := ⟨n - 1, by omega⟩
  show (Int.repr (-((m + 1 : Nat) : Int))).toList = _
  rw [Int.repr_eq_if, if_neg (by omega)]
  simp [Nat.toList_repr]

theorem ne_of_isDigit {c d : Char} (hc : c.isDigit = true) (hd : d.isDigit = false) : c ≠ d := by
  rintro rfl
  simp [hc] at hd

/-- A digit begins nothing but a number. -/
theorem readWith_of_isDigit {item : Reader Draft} {n : Nat} {allowed : Bool} {c : Char} (hc : c.isDigit = true)
    (cs : List Char) :
    readWith item n allowed (c :: cs) = (number false (c :: cs)).map fun (x, rest) => (.num x, rest) := by
  have hn := ne_of_isDigit hc (d := 'n') rfl
  have ht := ne_of_isDigit hc (d := 't') rfl
  have hf := ne_of_isDigit hc (d := 'f') rfl
  have hquote := ne_of_isDigit hc (d := '"') rfl
  have hopen := ne_of_isDigit hc (d := '[') rfl
  have hbrace := ne_of_isDigit hc (d := '\x7b') rfl
  have hminus := ne_of_isDigit hc (d := '-') rfl
  unfold readWith
  split <;> simp_all

theorem exists_toDigits_eq_cons (n : Nat) : ∃ c cs, Nat.toDigits 10 n = c :: cs ∧ c.isDigit = true := by
  obtain ⟨c, cs, hcons⟩ := List.exists_cons_of_ne_nil (Nat.toDigits_ne_nil (n := n) (b := 10))
  exact ⟨c, cs, hcons, Nat.isDigit_of_mem_toDigits (by omega) (by omega) (hcons ▸ List.mem_cons_self)⟩

/-- A number of 64 bits is a natural number or the opposite of a positive one. -/
theorem Number.Whole.cases {x : Number} (hx : x.Whole) :
    (∃ n : Nat, x = .int n ∧ n < UInt64.size) ∨ ∃ n : Nat, x = .int (-n) ∧ 0 < n ∧ n ≤ Word.half := by
  cases x with
  | real x => exact hx.elim
  | int i =>
    obtain ⟨hlow, hhigh⟩ := hx
    rcases Decidable.em (i < 0) with hneg | hpos
    · obtain ⟨n, rfl⟩ : ∃ n : Nat, i = -n := ⟨i.natAbs, by omega⟩
      exact .inr ⟨n, rfl, by omega, by omega⟩
    · obtain ⟨n, rfl⟩ : ∃ n : Nat, i = n := ⟨i.natAbs, by omega⟩
      exact .inl ⟨n, rfl, by omega⟩

/-- A number of 64 bits is read as itself. -/
theorem readWith_write {item : Reader Draft} {n : Nat} {allowed : Bool} {x : Number} (hx : x.Whole) {rest : List Char}
    (hrest : Ends rest) : readWith item n allowed (x.write.toList ++ rest) = some (.num x, rest) := by
  have hhalf : Word.half < UInt64.size := by decide
  rcases hx.cases with ⟨m, rfl, hm⟩ | ⟨m, rfl, hpos, hm⟩
  · obtain ⟨c, cs, hcons, hc⟩ := exists_toDigits_eq_cons m
    have hnumber := number_toDigits hm false hrest
    rw [hcons, List.cons_append] at hnumber
    rw [toList_write_natCast, hcons, List.cons_append, readWith_of_isDigit hc, hnumber]
    rfl
  · have hnumber := number_toDigits (n := m) (by omega) true hrest
    have hword : ¬(m = 0 ∨ Word.half < m) := by omega
    rw [toList_write_neg hpos, List.cons_append, readWith, hnumber]
    simp [hword]

/-! ## Digits of a number -/

/-- Digits with a minus in front of them, or without. -/
def signed (negative : Bool) (cs : List Char) : List Char := if negative then '-' :: cs else cs

/-- One digit at least. -/
def Numeric (ds : List Char) : Prop := ds ≠ [] ∧ ∀ c ∈ ds, c.isDigit = true

theorem numeric_zero : Numeric ['0'] := by simp [Numeric]

theorem numeric_toDigits (n : Nat) : Numeric (Nat.toDigits 10 n) :=
  ⟨Nat.toDigits_ne_nil, fun _ hc => Nat.isDigit_of_mem_toDigits (by omega) (by omega) hc⟩

theorem Numeric.append {ds es : List Char} (hds : Numeric ds) (hes : ∀ c ∈ es, c.isDigit = true) :
    Numeric (ds ++ es) := by
  refine ⟨by simp [hds.1], fun c hc => ?_⟩
  rcases List.mem_append.1 hc with hc | hc
  · exact hds.2 c hc
  · exact hes c hc

theorem Numeric.take {ds : List Char} (hds : Numeric ds) {n : Nat} (hn : 0 < n) : Numeric (ds.take n) := by
  refine ⟨?_, fun c hc => hds.2 c (List.mem_of_mem_take hc)⟩
  simp [hds.1]
  omega

theorem isDigit_of_mem_zeros {n : Nat} {c : Char} (hc : c ∈ (Decimal.zeros n).toList) : c.isDigit = true := by
  rw [Decimal.zeros, String.toList_ofList] at hc
  rw [List.eq_of_mem_replicate hc]
  rfl

theorem toList_write_int (i : Int) :
    (Number.write (.int i)).toList = signed (decide (i < 0)) (Nat.toDigits 10 i.natAbs) := by
  by_cases hneg : i < 0
  · obtain ⟨n, rfl⟩ : ∃ n : Nat, i = -n := ⟨i.natAbs, by omega⟩
    have hpos : 0 < n := by omega
    rw [toList_write_neg hpos]
    simp [signed, hpos]
  · obtain ⟨n, rfl⟩ : ∃ n : Nat, i = n := ⟨i.natAbs, by omega⟩
    rw [toList_write_natCast]
    simp [signed]

/-- A point or an exponent stands in front. -/
def Marked (rest : List Char) : Prop := rest.head? = some '.' ∨ rest.head? = some 'e'

theorem exists_toList_positional {digits : List Char} (hdigits : Numeric digits) (e : Int) :
    ∃ ds rest, (positional digits e).toList = ds ++ rest ∧ Numeric ds ∧ Marked rest := by
  unfold positional
  split
  · refine ⟨['0'], '.' :: (Decimal.zeros (e.natAbs - 1) ++ String.ofList digits).toList, ?_, numeric_zero, .inl rfl⟩
    simp
  · refine ⟨digits.take (e.natAbs + 1) ++ (Decimal.zeros (e.natAbs + 1 - digits.length)).toList,
      '.' :: (if (digits.drop (e.natAbs + 1)).isEmpty then "0" else
        String.ofList (digits.drop (e.natAbs + 1))).toList, ?_, ?_, .inl rfl⟩
    · simp
    · exact (hdigits.take (by omega)).append fun c hc => isDigit_of_mem_zeros hc

theorem exists_toList_scientific {digits : List Char} (hdigits : Numeric digits) (e : Int) :
    ∃ ds rest, (scientific digits e).toList = ds ++ rest ∧ Numeric ds ∧ Marked rest := by
  have hlead : Numeric (digits.take 1) := hdigits.take Nat.one_pos
  by_cases hone : digits.length ≤ 1
  · exact ⟨_, _, by simp [scientific, hone]; rfl, hlead, .inr rfl⟩
  · exact ⟨_, _, by simp [scientific, hone]; rfl, hlead, .inl rfl⟩

/-- A double is written with a point or an exponent behind its first digits. -/
theorem exists_toList_writeDouble (x : Double) :
    ∃ ds rest, (writeDouble x).toList = signed x.negative (ds ++ rest) ∧ Numeric ds ∧ Marked rest := by
  have hsign : ∀ s : String, ((if x.negative then "-" else "") ++ s).toList = signed x.negative s.toList := by
    intro s
    cases x.negative <;> simp [signed]
  have hdigits := numeric_toDigits (x.shortest .toEven).digits
  simp only [writeDouble]
  split
  · exact ⟨['0'], ['.', '0'], by rw [hsign]; rfl, numeric_zero, .inl rfl⟩
  · rw [hsign]
    split
    · obtain ⟨ds, rest, htext, hds⟩ := exists_toList_positional hdigits _
      exact ⟨ds, rest, by rw [htext], hds⟩
    · obtain ⟨ds, rest, htext, hds⟩ := exists_toList_scientific hdigits _
      exact ⟨ds, rest, by rw [htext], hds⟩

/-- Every number is written with a digit in front, or with a minus. -/
theorem exists_write_eq_cons (x : Number) : ∃ c cs, x.write.toList = c :: cs ∧ (c.isDigit = true ∨ c = '-') := by
  have hsigned : ∀ (negative : Bool) (ds rest : List Char), Numeric ds →
      ∃ c cs, signed negative (ds ++ rest) = c :: cs ∧ (c.isDigit = true ∨ c = '-') := by
    intro negative ds rest hds
    cases negative with
    | true => exact ⟨'-', ds ++ rest, rfl, .inr rfl⟩
    | false =>
      obtain ⟨c, cs, rfl⟩ := List.exists_cons_of_ne_nil hds.1
      exact ⟨c, cs ++ rest, rfl, .inl (hds.2 c List.mem_cons_self)⟩
  cases x with
  | int i =>
    rw [toList_write_int, ← List.append_nil (Nat.toDigits 10 i.natAbs)]
    exact hsigned _ _ [] (numeric_toDigits _)
  | real x =>
    obtain ⟨ds, rest, htext, hds, -⟩ := exists_toList_writeDouble x
    rw [Number.write, htext]
    exact hsigned _ ds rest hds

/-- Digits are told from what no digit begins, whatever digits and whatever such text. -/
theorem append_inj_of_numeric {ds es r s : List Char} (hds : Numeric ds) (hes : Numeric es)
    (hr : ∀ c ∈ r.head?, c.isDigit = false) (hs : ∀ c ∈ s.head?, c.isDigit = false) (h : ds ++ r = es ++ s) :
    ds = es ∧ r = s := by
  have hspan : ∀ {ds r : List Char}, Numeric ds → (∀ c ∈ r.head?, c.isDigit = false) →
      (ds ++ r).takeWhile Char.isDigit = ds := by
    intro ds r hds hr
    have hnil : r.takeWhile Char.isDigit = [] := by
      cases r with
      | nil => rfl
      | cons c r => simp [hr c rfl]
    rw [List.takeWhile_append_of_pos hds.2, hnil, List.append_nil]
  have heq : ds = es := by rw [← hspan hds hr, h, hspan hes hs]
  exact ⟨heq, List.append_cancel_left (heq ▸ h)⟩

theorem signed_append_inj {m n : Bool} {ds es r s : List Char} (hds : Numeric ds) (hes : Numeric es)
    (hr : ∀ c ∈ r.head?, c.isDigit = false) (hs : ∀ c ∈ s.head?, c.isDigit = false)
    (h : signed m (ds ++ r) = signed n (es ++ s)) : m = n ∧ ds = es ∧ r = s := by
  have hminus : ∀ {ds r : List Char} (cs : List Char), Numeric ds → '-' :: cs ≠ ds ++ r := by
    rintro ds r cs ⟨hne, hall⟩ h
    obtain ⟨c, ds, rfl⟩ := List.exists_cons_of_ne_nil hne
    obtain rfl : '-' = c := (List.cons.inj h).1
    exact absurd (hall '-' List.mem_cons_self) (by decide)
  cases m <;> cases n
  · exact ⟨rfl, append_inj_of_numeric hds hes hr hs h⟩
  · exact absurd h.symm (hminus _ hds)
  · exact absurd h (hminus _ hes)
  · exact ⟨rfl, append_inj_of_numeric hds hes hr hs (List.cons.inj h).2⟩

end TaskFlow.Json
