import TaskFlow.System.Error

/-!
# Lengths of durations

- `Word.bind_ofNat?`: a number that is checked on the way to a larger one fails only where that one does, so no step of
  a sum of naturals refuses what the whole would accept;
- `DurationSpec.total`: the length as a number without bounds; `seconds?_eq`: the length in use is this number, where
  it is a word;
- `DurationSpec.throttling_exact`: every length that is a word is given exactly, every other one is an error.
-/

namespace TaskFlow

/-! ## Checked words -/

namespace Word

theorem ofNat?_eq_some_iff {n : Nat} {a : UInt64} : ofNat? n = some a ↔ a.toNat = n := by
  have hvalue := toNat_ofNat? n
  constructor
  · intro h
    rw [h] at hvalue
    split at hvalue
    · exact Option.some.inj hvalue
    · cases hvalue
  · rintro rfl
    rw [ofNat?, if_pos a.toNat_lt]
    simp

theorem ofNat?_eq_none_iff {n : Nat} : ofNat? n = none ↔ UInt64.size ≤ n := by
  simp [ofNat?]

/-- A number checked on the way to one that is not smaller: the check fails only where that of the other does. -/
theorem bind_ofNat? {n m : Nat} {f : UInt64 → Option UInt64} (hle : n ≤ m)
    (hf : ∀ a : UInt64, a.toNat = n → f a = ofNat? m) : (ofNat? n).bind f = ofNat? m := by
  cases h : ofNat? n with
  | none =>
    rw [ofNat?_eq_none_iff] at h
    exact (ofNat?_eq_none_iff.2 (Nat.le_trans h hle)).symm
  | some a => exact hf a (ofNat?_eq_some_iff.1 h)

end Word

theorem ConfigError.message_tooLong (owner : String) :
    (ConfigError.throttling owner .tooLong).message = owner ++ ": throttling duration is too large" := by
  show owner ++ ": " ++ "throttling duration is too large" = _
  rw [String.append_assoc]
  rfl

/-! ## The length of a duration -/

namespace DurationSpec

/-- The whole length in seconds, however long. -/
def total (d : DurationSpec) : Nat :=
  d.days.toNat * 86400 + d.hours.toNat * 3600 + d.minutes.toNat * 60 + d.seconds.toNat

/-- The checked steps amount to one check of the total. -/
theorem seconds?_eq (d : DurationSpec) : d.seconds? = Word.ofNat? d.total := by
  have hdays : Word.checkedMul d.days 86400 = Word.ofNat? (d.days.toNat * 86400) := rfl
  have hhours : Word.checkedMul d.hours 3600 = Word.ofNat? (d.hours.toNat * 3600) := rfl
  have hminutes : Word.checkedMul d.minutes 60 = Word.ofNat? (d.minutes.toNat * 60) := rfl
  unfold seconds? total
  rw [hdays, hhours, hminutes]
  -- what each step checks is a part of the total
  refine Word.bind_ofNat? (by omega) fun days hdays => ?_
  refine Word.bind_ofNat? (by omega) fun hours hhours => ?_
  refine Word.bind_ofNat? (by omega) fun minutes hminutes => ?_
  refine Word.bind_ofNat? (by omega) fun sum hsum => ?_
  refine Word.bind_ofNat? (by omega) fun sum' hsum' => ?_
  rw [Word.checkedAdd]
  congr 1
  omega

/-- **Durations are exact**: a length of less than `2 ^ 64` seconds is given as it is, and a longer one is an error of
its owner's configuration. -/
theorem throttling_exact (d : DurationSpec) (owner : String) :
    let total := d.days.toNat * 86400 + d.hours.toNat * 3600 + d.minutes.toNat * 60 + d.seconds.toNat
    ((throttling (some d)).mapError (ConfigError.throttling owner)).map (Option.map UInt64.toNat) =
        (if total < UInt64.size then .ok (some total) else .error (.throttling owner .tooLong)) ∧
      (ConfigError.throttling owner .tooLong).message = owner ++ ": throttling duration is too large" := by
  intro total
  refine ⟨?_, ConfigError.message_tooLong owner⟩
  have hseconds : d.seconds? = Word.ofNat? total := d.seconds?_eq
  cases hvalue : Word.ofNat? total with
  | none =>
    have hlong : UInt64.size ≤ total := Word.ofNat?_eq_none_iff.1 hvalue
    rw [if_neg (by omega), throttling, hseconds, hvalue]
    rfl
  | some seconds =>
    have hexact : seconds.toNat = total := Word.ofNat?_eq_some_iff.1 hvalue
    have hfits : seconds.toNat < UInt64.size := seconds.toNat_lt
    rw [if_pos (by omega), throttling, hseconds, hvalue, ← hexact]
    rfl

/-- The last length that is a word, and the first that is none. -/
example : seconds? ⟨213503982334601, 7, 0, 15⟩ = some 18446744073709551615 ∧
    seconds? ⟨213503982334601, 7, 0, 16⟩ = none := by
  decide

end DurationSpec

end TaskFlow
