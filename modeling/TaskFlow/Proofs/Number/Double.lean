import Mathlib.Algebra.Order.Field.Power
import Mathlib.Algebra.Order.Ring.Int
import Mathlib.Order.Compare
import Mathlib.Order.Monotone.Odd
import Mathlib.Tactic.Linarith
import Mathlib.Tactic.Positivity
import Mathlib.Tactic.Ring
import TaskFlow.Number.Double

/-!
# The values of doubles

- `Double.value`: the value of a double as a quotient; doubles are compared by it (`compare_eq_cmp_value`), since the
  values increase with the bits of the magnitude (`strictMono_bitsValue`);
- `Double.rounded`: an integer to 53 binary digits. This is the value of the double nearest to it (`value_ofInt?`), an
  integer of 53 digits is its own (`rounded_of_natAbs_le`), and the order of integers is never reversed
  (`rounded_mono`);
- `exists_ofInt?`: the integers of 64 bits all have a nearest double.
-/

namespace TaskFlow.Double

/-! ## Values -/

/-- The value that the bits of a magnitude stand for. -/
def bitsValue (bits : Nat) : ℚ :=
  if bits < 2 ^ 52 then bits * 2 ^ (-1074 : Int)
  else ((2 ^ 52 + bits % 2 ^ 52 : Nat) : ℚ) * 2 ^ (((bits / 2 ^ 52 : Nat) : Int) - 1075)

/-- The value of a position on the line of doubles. -/
def keyValue (key : Int) : ℚ := if key < 0 then -bitsValue key.natAbs else bitsValue key.natAbs

/-- The value of a double. -/
def value (x : Double) : ℚ :=
  (if x.negative then -1 else 1) * (x.significand * 2 ^ x.exponent)

/-- A significand of at most 53 digits in its place; below the least place of full significands any will do. -/
theorem bitsValue_place {place m : Nat} (hm : m ≤ 2 ^ 53) (hfull : 2 ^ 52 ≤ m ∨ place = 0) :
    bitsValue (place * 2 ^ 52 + m) = m * 2 ^ ((place : Int) - 1074) := by
  unfold bitsValue
  rcases Nat.lt_or_ge m (2 ^ 52) with hsmall | hlarge
  · obtain rfl : place = 0 := by omega
    rw [if_pos (by omega)]
    norm_num
  · rw [if_neg (by omega)]
    rcases Nat.lt_or_ge m (2 ^ 53) with hlt | hge
    · have hmod : 2 ^ 52 + (place * 2 ^ 52 + m) % 2 ^ 52 = m := by omega
      have hdiv : (place * 2 ^ 52 + m) / 2 ^ 52 = place + 1 := by omega
      rw [hmod, hdiv]
      congr 2
      push_cast
      ring
    · -- the significand is carried into the next place
      obtain rfl : m = 2 ^ 53 := by omega
      have hmod : 2 ^ 52 + (place * 2 ^ 52 + 2 ^ 53) % 2 ^ 52 = 2 ^ 52 := by omega
      have hdiv : (place * 2 ^ 52 + 2 ^ 53) / 2 ^ 52 = place + 2 := by omega
      have hexponent : ((place + 2 : Nat) : Int) - 1075 = ((place : Int) - 1074) + 1 := by push_cast; ring
      rw [hmod, hdiv, hexponent, zpow_add_one₀ two_ne_zero]
      push_cast
      ring

theorem strictMono_bitsValue : StrictMono bitsValue := by
  refine strictMono_nat_of_lt_succ fun bits => ?_
  -- the next magnitude has the next significand in the same place
  obtain ⟨place, m, hbits, hm, hfull⟩ : ∃ place m, bits = place * 2 ^ 52 + m ∧ m + 1 ≤ 2 ^ 53 ∧
      (2 ^ 52 ≤ m ∨ place = 0) :=
    ⟨bits / 2 ^ 52 - 1, bits - (bits / 2 ^ 52 - 1) * 2 ^ 52, by omega, by omega, by omega⟩
  rw [hbits, add_assoc, bitsValue_place (by omega) hfull, bitsValue_place hm (by omega)]
  have hunit : (0 : ℚ) < 2 ^ ((place : Int) - 1074) := by positivity
  exact mul_lt_mul_of_pos_right (by exact_mod_cast Nat.lt_succ_self m) hunit

theorem bitsValue_zero : bitsValue 0 = 0 := by simp [bitsValue]

theorem keyValue_neg (key : Int) : keyValue (-key) = -keyValue key := by
  unfold keyValue
  rcases lt_trichotomy key 0 with h | rfl | h
  · rw [if_neg (by omega), if_pos h, Int.natAbs_neg, neg_neg]
  · simp [bitsValue_zero]
  · rw [if_pos (by omega), if_neg (by omega), Int.natAbs_neg]

theorem cmp_keyValue (k l : Int) : cmp (keyValue k) (keyValue l) = cmp k l := by
  have hmono : StrictMono keyValue := by
    refine strictMono_of_odd_strictMonoOn_nonneg keyValue_neg fun a ha b hb hab => ?_
    rw [Set.mem_Ici] at ha hb
    unfold keyValue
    rw [if_neg (by omega), if_neg (by omega)]
    exact strictMono_bitsValue (by omega)
  exact hmono.cmp_map_eq k l

theorem value_eq_bitsValue (x : Double) : x.value = (if x.negative then -1 else 1) * bitsValue x.bits := by
  have hmagnitude : (x.significand * 2 ^ x.exponent : ℚ) = bitsValue x.bits := by
    simp only [significand, exponent, bitsValue, Nat.pow_eq]
    split <;> rfl
  rw [value, hmagnitude]

theorem value_eq_keyValue (x : Double) : x.value = keyValue x.key := by
  rw [value_eq_bitsValue, keyValue, key]
  cases x.negative with
  | false => simp
  | true =>
    rcases Nat.eq_zero_or_pos x.bits with h | h
    · simp [h, bitsValue_zero]
    · simp [h]

/-- Doubles are compared by their values. -/
theorem compare_eq_cmp_value (x y : Double) : x.compare y = cmp x.value y.value := by
  rw [value_eq_keyValue, value_eq_keyValue, cmp_keyValue]
  unfold compare
  rcases lt_trichotomy x.key y.key with h | h | h
  · rw [if_pos h, (cmp_eq_lt_iff _ _).2 h]
  · rw [if_neg h.not_lt, if_pos h, (cmp_eq_eq_iff _ _).2 h]
  · rw [if_neg h.not_gt, if_neg h.ne', (cmp_eq_gt_iff _ _).2 h]

/-! ## The natural nearest to a quotient -/

theorem roundHalfEven_bounds (num den : Nat) :
    num / den ≤ roundHalfEven num den ∧ roundHalfEven num den ≤ num / den + 1 := by
  unfold roundHalfEven
  dsimp only
  split_ifs <;> omega

theorem roundHalfEven_mul_self {den : Nat} (hden : 0 < den) (n : Nat) : roundHalfEven (n * den) den = n := by
  have hdiv : n * den / den = n := Nat.mul_div_cancel n hden
  have hmod : n * den % den = 0 := Nat.mul_mod_left n den
  simp [roundHalfEven, hdiv, hmod, hden]

theorem roundHalfEven_mono {a b den : Nat} (h : a ≤ b) : roundHalfEven a den ≤ roundHalfEven b den := by
  have hdiv : a / den ≤ b / den := Nat.div_le_div_right h
  rcases hdiv.lt_or_eq with hlt | heq
  · have ha := (roundHalfEven_bounds a den).2
    have hb := (roundHalfEven_bounds b den).1
    omega
  · -- the same whole part, so the remainders are in order
    have hmod : a % den ≤ b % den := by
      have ha := Nat.div_add_mod a den
      have hb := Nat.div_add_mod b den
      rw [heq] at ha
      omega
    unfold roundHalfEven
    dsimp only
    rw [heq]
    split_ifs <;> omega

/-! ## Integers to 53 binary digits -/

/-- The unit in the last of the 53 leading binary digits of a natural number. -/
def unit (n : Nat) : Nat := 2 ^ (n.log2 - 52)

/-- The 53 leading binary digits of a natural number as one, a half going to the even neighbour. -/
def leading (n : Nat) : Nat := roundHalfEven n (unit n)

/-- An integer to 53 binary digits, a half going to the even neighbour. -/
def rounded (i : Int) : Int :=
  let n := i.natAbs
  if i < 0 then -((leading n * unit n : Nat) : Int) else (leading n * unit n : Nat)

theorem unit_pos (n : Nat) : 0 < unit n := by unfold unit; positivity

theorem unit_eq_one {n : Nat} (h : n.log2 ≤ 52) : unit n = 1 := by
  rw [unit, show n.log2 - 52 = 0 by omega, pow_zero]

theorem leading_of_log2_le {n : Nat} (h : n.log2 ≤ 52) : leading n = n := by
  have hself := roundHalfEven_mul_self one_pos n
  rwa [Nat.mul_one, ← unit_eq_one h] at hself

/-- A power of two below a number is a whole number of its units. -/
theorem two_pow_log2 (n : Nat) : 2 ^ n.log2 = 2 ^ min n.log2 52 * unit n := by
  rw [unit, ← pow_add]
  congr 1
  omega

/-- The digits of a number, or the next power of two. -/
theorem leading_bounds {n : Nat} (h : n ≠ 0) :
    2 ^ min n.log2 52 ≤ leading n ∧ leading n ≤ 2 * 2 ^ min n.log2 52 := by
  have hlow : 2 ^ min n.log2 52 * unit n ≤ n := two_pow_log2 n ▸ Nat.log2_self_le h
  have hhigh : n ≤ 2 * 2 ^ min n.log2 52 * unit n := by
    have hlt : n < 2 ^ (n.log2 + 1) := Nat.lt_log2_self
    rw [Nat.mul_assoc, ← two_pow_log2]
    omega
  constructor
  · rw [← roundHalfEven_mul_self (unit_pos n) (2 ^ min n.log2 52)]
    exact roundHalfEven_mono hlow
  · rw [← roundHalfEven_mul_self (unit_pos n) (2 * 2 ^ min n.log2 52)]
    exact roundHalfEven_mono hhigh

theorem leading_mul_unit_mono {m n : Nat} (h : m ≤ n) : leading m * unit m ≤ leading n * unit n := by
  rcases Nat.eq_zero_or_pos m with rfl | hm
  · simp [leading, roundHalfEven]
  have hlog : m.log2 ≤ n.log2 := (Nat.le_log2 (by omega)).2 (le_trans (Nat.log2_self_le hm.ne') h)
  rcases hlog.lt_or_eq with hlt | heq
  · -- a power of two lies between them
    calc leading m * unit m ≤ 2 * 2 ^ min m.log2 52 * unit m := Nat.mul_le_mul_right _ (leading_bounds hm.ne').2
      _ = 2 ^ (m.log2 + 1) := by rw [Nat.mul_assoc, ← two_pow_log2, pow_succ']
      _ ≤ 2 ^ n.log2 := Nat.pow_le_pow_right two_pos hlt
      _ = 2 ^ min n.log2 52 * unit n := two_pow_log2 n
      _ ≤ leading n * unit n := Nat.mul_le_mul_right _ (leading_bounds (by omega)).1
  · have hunit : unit m = unit n := by rw [unit, unit, heq]
    rw [leading, leading, hunit]
    exact Nat.mul_le_mul_right _ (roundHalfEven_mono h)

/-- The order of integers is never reversed. -/
theorem rounded_mono {i j : Int} (h : i ≤ j) : rounded i ≤ rounded j := by
  have hneg : j < 0 → leading j.natAbs * unit j.natAbs ≤ leading i.natAbs * unit i.natAbs :=
    fun hj => leading_mul_unit_mono (by omega)
  have hpos : 0 ≤ i → leading i.natAbs * unit i.natAbs ≤ leading j.natAbs * unit j.natAbs :=
    fun hi => leading_mul_unit_mono (by omega)
  unfold rounded
  dsimp only
  split_ifs <;> omega

/-- An integer of at most 53 digits stays as it is, and so does the next one. -/
theorem rounded_of_natAbs_le {i : Int} (h : i.natAbs ≤ 2 ^ 53) : rounded i = i := by
  have hkept : leading i.natAbs * unit i.natAbs = i.natAbs := by
    rcases h.lt_or_eq with hlt | heq
    · have hlog : i.natAbs.log2 ≤ 52 := by
        rcases Nat.eq_zero_or_pos i.natAbs with hzero | hpos
        · rw [hzero]
          decide
        · exact Nat.lt_succ_iff.1 ((Nat.log2_lt hpos.ne').2 hlt)
      rw [unit_eq_one hlog, leading_of_log2_le hlog, Nat.mul_one]
    · rw [heq]
      decide
  rw [rounded, hkept]
  split_ifs <;> omega

/-- Two integers stay in order just if they are equal or differ in their leading digits. -/
theorem cmp_rounded_iff {i j : Int} :
    cmp (rounded i) (rounded j) = cmp i j ↔ i = j ∨ rounded i ≠ rounded j := by
  rcases lt_trichotomy i j with h | rfl | h
  · have hle := rounded_mono h.le
    rw [(cmp_eq_lt_iff i j).2 h, cmp_eq_lt_iff]
    omega
  · rw [cmp_self_eq_eq, cmp_self_eq_eq]
    exact iff_of_true rfl (.inl rfl)
  · have hle := rounded_mono h.le
    rw [(cmp_eq_gt_iff i j).2 h, cmp_eq_gt_iff]
    omega

/-! ## The double nearest to an integer -/

theorem lastPlace_one {n : Nat} (h : n ≠ 0) : lastPlace n 1 = (n.log2 : Int) - 52 := by
  have hplace : max ((n.log2 : Int) - (1 : Nat).log2 - 53) (-1074) = (n.log2 : Int) - 53 := by
    rw [show (1 : Nat).log2 = 0 by decide]
    omega
  have hfull : Nat.pow 2 53 ≤
      n * Nat.pow 2 (-((n.log2 : Int) - 53)).toNat / (1 * Nat.pow 2 ((n.log2 : Int) - 53).toNat) := by
    simp only [Nat.pow_eq, Nat.one_mul]
    rw [Nat.le_div_iff_mul_le (by positivity), ← pow_add]
    calc 2 ^ (53 + ((n.log2 : Int) - 53).toNat) = 2 ^ n.log2 * 2 ^ (-((n.log2 : Int) - 53)).toNat := by
          rw [← pow_add]
          congr 1
          omega
      _ ≤ n * 2 ^ (-((n.log2 : Int) - 53)).toNat := Nat.mul_le_mul_right _ (Nat.log2_self_le h)
  unfold lastPlace
  rw [hplace, if_neg (Nat.not_lt.2 hfull)]
  omega

/-- The significand of the double nearest to a natural number, of full width. -/
def fullSignificand (n : Nat) : Nat := leading n * 2 ^ (52 - n.log2)

theorem fullSignificand_bounds {n : Nat} (h : n ≠ 0) : 2 ^ 52 ≤ fullSignificand n ∧ fullSignificand n ≤ 2 ^ 53 := by
  have hpow : 2 ^ min n.log2 52 * 2 ^ (52 - n.log2) = 2 ^ 52 := by
    rw [← pow_add]
    congr 1
    omega
  obtain ⟨hlow, hhigh⟩ := leading_bounds h
  constructor
  · rw [← hpow]
    exact Nat.mul_le_mul_right _ hlow
  · calc fullSignificand n ≤ 2 * 2 ^ min n.log2 52 * 2 ^ (52 - n.log2) := Nat.mul_le_mul_right _ hhigh
      _ = 2 ^ 53 := by rw [Nat.mul_assoc, hpow]; norm_num

/-- The digits of a natural number as a quotient, in full width and times the unit. -/
theorem roundHalfEven_shifted (n : Nat) :
    roundHalfEven (n * 2 ^ (52 - n.log2)) (unit n) = fullSignificand n := by
  rcases Nat.le_total n.log2 52 with h | h
  · have hself := roundHalfEven_mul_self one_pos (n * 2 ^ (52 - n.log2))
    rw [Nat.mul_one] at hself
    rw [fullSignificand, leading_of_log2_le h, unit_eq_one h, hself]
  · rw [fullSignificand, show 52 - n.log2 = 0 by omega, pow_zero, Nat.mul_one, Nat.mul_one, leading]

theorem nearest?_one {n : Nat} (h : n ≠ 0) (negative : Bool) :
    nearest? negative n 1 =
      let bits := (n.log2 + 1022) * 2 ^ 52 + fullSignificand n
      if hfinite : bits < 2047 * Nat.pow 2 52 then some ⟨negative, bits, hfinite⟩ else none := by
  have hplace : ((n.log2 : Int) - 52 + 1074).toNat = n.log2 + 1022 := by omega
  have hup : (-((n.log2 : Int) - 52)).toNat = 52 - n.log2 := by omega
  have hdown : ((n.log2 : Int) - 52).toNat = n.log2 - 52 := by omega
  unfold nearest?
  rw [if_neg h]
  simp only [lastPlace_one h, hplace, hup, hdown, Nat.pow_eq, Nat.one_mul, ← unit.eq_1, roundHalfEven_shifted]

theorem bitsValue_nearest {n : Nat} (h : n ≠ 0) :
    bitsValue ((n.log2 + 1022) * 2 ^ 52 + fullSignificand n) = (leading n * unit n : Nat) := by
  obtain ⟨hlow, hhigh⟩ := fullSignificand_bounds h
  have hexponent : ((52 - n.log2 : Nat) : Int) + (((n.log2 + 1022 : Nat) : Int) - 1074) = (n.log2 - 52 : Nat) := by
    omega
  rw [bitsValue_place hhigh (.inl hlow), fullSignificand, unit]
  push_cast
  rw [mul_assoc, ← zpow_natCast, ← zpow_add₀ two_ne_zero, ← zpow_natCast]
  exact_mod_cast congrArg (fun e : Int => (leading n : ℚ) * 2 ^ e) hexponent

/-- The double nearest to an integer has the value of its 53 leading digits. -/
theorem value_ofInt? {i : Int} {x : Double} (h : ofInt? i = some x) : x.value = rounded i := by
  rcases eq_or_ne i 0 with rfl | hi
  · cases h
    rw [value_eq_bitsValue, rounded_of_natAbs_le (by decide)]
    simp [zero, bitsValue_zero]
  have hn : i.natAbs ≠ 0 := by omega
  rw [ofInt?, nearest?_one hn] at h
  dsimp only at h
  split_ifs at h with hfinite
  cases h
  rw [value_eq_bitsValue, bitsValue_nearest hn, rounded]
  simp only [decide_eq_true_eq]
  split_ifs
  · push_cast
    ring
  · push_cast
    ring

/-- Integers of 64 bits have a nearest double. -/
theorem exists_ofInt? {i : Int} (h : i.natAbs < 2 ^ 64) : ∃ x, ofInt? i = some x := by
  rcases eq_or_ne i 0 with rfl | hi
  · exact ⟨zero false, rfl⟩
  have hn : i.natAbs ≠ 0 := by omega
  have hlog : i.natAbs.log2 < 64 := (Nat.log2_lt hn).2 h
  have hsignificand := (fullSignificand_bounds hn).2
  rw [ofInt?, nearest?_one hn]
  dsimp only
  rw [dif_pos (by rw [Nat.pow_eq]; omega)]
  exact ⟨_, rfl⟩

/-- Integers as their nearest doubles are compared by their 53 leading digits. -/
theorem compare_ofInt? {i j : Int} {x y : Double} (hx : ofInt? i = some x) (hy : ofInt? j = some y) :
    x.compare y = cmp (rounded i) (rounded j) := by
  rw [compare_eq_cmp_value, value_ofInt? hx, value_ofInt? hy, Int.cast_strictMono.cmp_map_eq]

end TaskFlow.Double
