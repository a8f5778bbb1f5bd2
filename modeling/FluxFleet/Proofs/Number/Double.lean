import FluxFleet.Number.Double
import Mathlib.Tactic.Ring

/-!
# When a floating-point number is a whole one

A finite number is `± m * 2 ^ e` in a normal form: the significand has all its bits, or the exponent
is the least one (`Parts.Normal`). So significand and exponent follow from the value, and two
numbers that equal the same whole number have the same bits or are both zero (`same_of_isInt`).
-/

namespace FluxFleet

namespace Double

variable {x y : Double} {i j : Int}

/-- The normal form of a significand with its exponent. -/
structure Normal (m : Nat) (e : Int) : Prop where
  least : -1074 ≤ e
  below : m < 2 ^ 53
  full : e = -1074 ∨ 2 ^ 52 ≤ m

/-- The parts of a finite number are in normal form, and they give back its bits. -/
theorem parts_finite {s : Bool} {m : Nat} {e : Int} (h : x.parts = .finite s m e) :
    Normal m e ∧
      x.bits.toNat = (if s then 2 ^ 63 else 0) + (e + 1074).toNat * 2 ^ 52 + m := by
  have hbits : x.bits.toNat < 2 ^ 64 := x.bits.toNat_lt
  have h11 : twoTo 11 = 2 ^ 11 := rfl
  have h52 : twoTo 52 = 2 ^ 52 := rfl
  have h63 : twoTo 63 = 2 ^ 63 := rfl
  rw [parts] at h
  -- only the bits as a number matter, and then everything is linear arithmetic
  generalize x.bits.toNat = n at h hbits ⊢
  have hsign : (if decide (twoTo 63 ≤ n) = true then 2 ^ 63 else 0) = n / 2 ^ 63 * 2 ^ 63 := by
    by_cases hn : twoTo 63 ≤ n
    · rw [if_pos (decide_eq_true hn)]
      omega
    · rw [if_neg (by simpa using hn)]
      omega
  rw [h11, h52] at h
  by_cases hall : n / 2 ^ 52 % 2 ^ 11 = 2047
  · rw [if_pos hall] at h
    split at h <;> cases h
  rw [if_neg hall] at h
  by_cases hnone : n / 2 ^ 52 % 2 ^ 11 = 0
  · rw [if_pos hnone] at h
    obtain ⟨rfl, rfl, rfl⟩ := Parts.finite.inj h
    refine ⟨⟨by omega, by omega, Or.inl rfl⟩, ?_⟩
    rw [hsign]
    omega
  · rw [if_neg hnone] at h
    obtain ⟨rfl, rfl, rfl⟩ := Parts.finite.inj h
    refine ⟨⟨by omega, by omega, Or.inr (by omega)⟩, ?_⟩
    rw [hsign]
    omega

/-- A greater exponent gives a greater magnitude. -/
theorem Normal.lt_of_exponent_lt {m m' : Nat} {e e' : Int} (h : Normal m e) (h' : Normal m' e')
    (hlt : e < e') : m * 2 ^ (e + 1074).toNat < m' * 2 ^ (e' + 1074).toNat := by
  have hfull : 2 ^ 52 ≤ m' := h'.full.resolve_left (by have := h.least; omega)
  obtain ⟨k, hk⟩ : ∃ k, (e' + 1074).toNat = (e + 1074).toNat + (k + 1) :=
    ⟨(e' - e - 1).toNat, by have := h.least; omega⟩
  have hm : m < m' * 2 ^ (k + 1) := by
    have hpos : 1 ≤ 2 ^ k := Nat.one_le_two_pow
    have hbelow := h.below
    calc m < 2 ^ 52 * (2 * 1) := by omega
      _ ≤ m' * (2 * 2 ^ k) := Nat.mul_le_mul hfull (Nat.mul_le_mul_left 2 hpos)
      _ = m' * 2 ^ (k + 1) := by ring
  rw [hk, Nat.pow_add, Nat.mul_comm (2 ^ _), ← Nat.mul_assoc]
  exact Nat.mul_lt_mul_of_pos_right hm (Nat.two_pow_pos _)

/-- A magnitude has one normal form. -/
theorem Normal.unique {m m' : Nat} {e e' : Int} (h : Normal m e) (h' : Normal m' e')
    (heq : m * 2 ^ (e + 1074).toNat = m' * 2 ^ (e' + 1074).toNat) : m = m' ∧ e = e' := by
  rcases lt_trichotomy e e' with hlt | rfl | hlt
  · exact absurd heq (Nat.ne_of_lt (h.lt_of_exponent_lt h' hlt))
  · exact ⟨Nat.eq_of_mul_eq_mul_right (Nat.two_pow_pos _) heq, rfl⟩
  · exact absurd heq (Nat.ne_of_gt (h'.lt_of_exponent_lt h hlt))

/-- A finite number equals a whole one if their multiples by the greatest denominator are equal. -/
theorem isInt_iff {s : Bool} {m : Nat} {e : Int} (h : x.parts = .finite s m e) :
    x.isInt i = true ↔ signed s m * 2 ^ (e + 1074).toNat = i * 2 ^ 1074 := by
  have hleast := (parts_finite h).1.least
  have hcast : ∀ n : Nat, ((twoTo n : Nat) : Int) = 2 ^ n := fun n => by
    rw [twoTo, Nat.pow_eq]
    push_cast
    rfl
  rw [isInt, h]
  by_cases he : 0 ≤ e
  · have hpow : (2 : Int) ^ (e + 1074).toNat = 2 ^ e.toNat * 2 ^ 1074 := by
      rw [← pow_add]
      congr 1
      omega
    simp only [he, if_true, beq_iff_eq, hcast]
    rw [hpow, ← mul_assoc]
    exact (mul_left_inj' (pow_ne_zero _ two_ne_zero)).symm
  · have hpow : (2 : Int) ^ 1074 = 2 ^ (-e).toNat * 2 ^ (e + 1074).toNat := by
      rw [← pow_add]
      congr 1
      omega
    simp only [he, if_false, beq_iff_eq, hcast]
    rw [hpow, ← mul_assoc]
    exact (mul_left_inj' (pow_ne_zero _ two_ne_zero)).symm

theorem finite_of_isInt (h : x.isInt i = true) : ∃ s m e, x.parts = .finite s m e := by
  rw [isInt] at h
  rcases hparts : x.parts with _ | s | ⟨s, m, e⟩
  · rw [hparts] at h
    cases h
  · rw [hparts] at h
    cases h
  · exact ⟨s, m, e, rfl⟩

theorem natAbs_signed (s : Bool) (m : Nat) : (signed s m).natAbs = m := by
  cases s <;> simp [signed]

theorem signed_mul (s : Bool) (m n : Nat) : signed s (m * n) = signed s m * n := by
  cases s <;> simp [signed]

theorem signed_inj {s s' : Bool} {m : Nat} (hm : m ≠ 0) (h : signed s m = signed s' m) :
    s = s' := by
  cases s <;> cases s' <;> simp only [signed, Bool.false_eq_true, if_false, if_true] at h
  · rfl
  · omega
  · omega
  · rfl

/-- Two numbers that equal the same whole number are the same key. -/
theorem same_of_isInt (hx : x.isInt i = true) (hy : y.isInt i = true) : x.same y = true := by
  obtain ⟨s, m, e, hpx⟩ := finite_of_isInt hx
  obtain ⟨s', m', e', hpy⟩ := finite_of_isInt hy
  obtain ⟨hnx, hbx⟩ := parts_finite hpx
  obtain ⟨hny, hby⟩ := parts_finite hpy
  rw [isInt_iff hpx] at hx
  rw [isInt_iff hpy] at hy
  have heq := hx.trans hy.symm
  have hmagnitude : m * 2 ^ (e + 1074).toNat = m' * 2 ^ (e' + 1074).toNat := by
    have habs := congrArg Int.natAbs heq
    rw [Int.natAbs_mul, Int.natAbs_mul, natAbs_signed, natAbs_signed, Int.natAbs_pow,
      Int.natAbs_pow] at habs
    exact habs
  obtain ⟨rfl, rfl⟩ := hnx.unique hny hmagnitude
  rw [same, Bool.or_eq_true]
  by_cases hm : m = 0
  · subst hm
    exact Or.inr (by simp only [isZero, hpx, hpy, Bool.and_self])
  · -- the magnitude is the same and not zero, so the signs are equal too
    obtain rfl := signed_inj hm (mul_right_cancel₀ (pow_ne_zero _ two_ne_zero) heq)
    have hbits : x.bits.toNat = y.bits.toNat := hbx.trans hby.symm
    exact Or.inl (beq_iff_eq.mpr (UInt64.toNat_inj.mp hbits))

/-- Only zero equals the whole number zero. -/
theorem isInt_of_isZero (h : x.isZero = true) : x.isInt i = true ↔ i = 0 := by
  rw [isZero] at h
  split at h
  · next s e hparts =>
    rw [isInt_iff hparts]
    have hzero : signed s 0 = 0 := by cases s <;> rfl
    rw [hzero, zero_mul, eq_comm, mul_eq_zero]
    exact or_iff_left (pow_ne_zero _ two_ne_zero)
  · cases h

/-- The whole number that a number equals, if it equals one. -/
def whole? (x : Double) : Option Int := x.truncate?.filter fun i => x.isInt i

theorem whole?_eq_some_iff : x.whole? = some i ↔ x.isInt i = true := by
  rw [whole?, Option.filter_eq_some_iff]
  constructor
  · exact fun h => h.2
  · intro h
    refine ⟨?_, h⟩
    obtain ⟨s, m, e, hparts⟩ := finite_of_isInt h
    rw [isInt, hparts] at h
    rw [truncate?, hparts]
    by_cases he : 0 ≤ e
    · simp only [he, if_true, beq_iff_eq] at h ⊢
      rw [← h, signed_mul]
    · simp only [he, if_false, beq_iff_eq] at h ⊢
      have hm : m = i.natAbs * twoTo (-e).toNat := by
        rw [← natAbs_signed s m, h, Int.natAbs_mul, Int.natAbs_natCast]
      have hpos : 0 < twoTo (-e).toNat := Nat.two_pow_pos _
      rw [hm, signed_mul] at h
      rw [hm, Nat.mul_div_cancel _ hpos, mul_right_cancel₀ (by exact_mod_cast hpos.ne') h]

end Double

end FluxFleet
