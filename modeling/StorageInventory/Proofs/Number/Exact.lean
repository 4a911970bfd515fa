import Mathlib.Data.List.TakeDrop
import Mathlib.Data.List.TakeWhile
import StorageInventory.Proofs.Number.Digits
import StorageInventory.Size

/-!
# Whole numbers in binary64

A whole number that is a mantissa of 53 bits times a power of two is a number of the format, so
nothing is lost where such a number is read, multiplied or cut to a whole number again
(`Binary64.nearest_isNat`, `times_isNat`, `read?_toDigits`), nor where a size is read
(`Size.inUnits_toString`).
-/

namespace StorageInventory

namespace Binary64
variable {a b n num den : Nat}

/-- The number of the format is the whole number `n`. -/
inductive IsNat (n : Nat) : Binary64 → Prop
  | finite (h : mantissa * Nat.pow 2 exponent.toNat = n * Nat.pow 2 (-exponent).toNat) :
    IsNat n (.finite false mantissa exponent)

/-- A whole number that the format holds without rounding, far from its greatest numbers. -/
def Fits (n : Nat) : Prop := ∃ a b, n = a * Nat.pow 2 b ∧ a < Nat.pow 2 53 ∧ b ≤ 900

theorem fits_of_lt (h : n < Nat.pow 2 53) : Fits n :=
  ⟨n, 0, (Nat.mul_one n).symm, h, Nat.zero_le _⟩

theorem fits_mul_two_pow (h : n < Nat.pow 2 53) (hb : b ≤ 900) : Fits (n * Nat.pow 2 b) :=
  ⟨n, b, rfl, h, hb⟩

theorem roundedQuotient_mul (hden : 0 < den) (q : Nat) : roundedQuotient (q * den) den = q := by
  simp [roundedQuotient, Nat.mul_div_cancel q hden, hden]

/-- The power of two below a ratio is not above the last bit of a whole number by more than a
mantissa. -/
theorem magnitude_le (hden : 0 < den) (hnum : num = n * den) (hpos : 0 < n)
    (hn : n < Nat.pow 2 (53 + b)) : magnitude num den ≤ 52 + b := by
  have hnum0 : num ≠ 0 := by rw [hnum]; exact (Nat.mul_pos hpos hden).ne'
  unfold magnitude
  dsimp only
  split
  next hreaches =>
    rcases Int.lt_or_le 0 ((num.log2 : Int) - den.log2) with hlt | hle
    · obtain ⟨k, hk⟩ := Int.eq_ofNat_of_zero_le (Int.le_of_lt hlt)
      have hscaled : den * 2 ^ k ≤ num := by
        simpa [reaches, scaled, hk] using hreaches
      have hpow : 2 ^ k ≤ n := by
        rw [hnum, Nat.mul_comm n den] at hscaled
        exact Nat.le_of_mul_le_mul_left hscaled hden
      have hk53 : k < 53 + b := (Nat.pow_lt_pow_iff_right (by decide)).mp (hpow.trans_lt hn)
      omega
    · omega
  next =>
    have hlt : num < 2 ^ (53 + b + (den.log2 + 1)) := by
      rw [hnum, Nat.pow_add]
      exact Nat.mul_lt_mul'' hn Nat.lt_log2_self
    have hlog : num.log2 < 53 + b + (den.log2 + 1) := (Nat.log2_lt hnum0).mpr hlt
    omega

theorem nearest_isNat (hden : 0 < den) (hnum : num = n * den) (h : Fits n) :
    IsNat n (nearest false num den) := by
  obtain ⟨a, b, hn, ha, hb⟩ := h
  rcases Nat.eq_zero_or_pos n with hzero | hpos
  · rw [nearest, if_pos (by rw [hnum, hzero, Nat.zero_mul])]
    exact .finite (by simp [hzero])
  have hnum0 : num ≠ 0 := by rw [hnum]; exact (Nat.mul_pos hpos hden).ne'
  have hmagnitude : magnitude num den ≤ 52 + b := by
    refine magnitude_le hden hnum hpos ?_
    have hpow : Nat.pow 2 (53 + b) = Nat.pow 2 53 * Nat.pow 2 b := Nat.pow_add 2 53 b
    rw [hn, hpow]
    exact Nat.mul_lt_mul_of_pos_right ha (Nat.two_pow_pos b)
  obtain ⟨exponent, hexponent⟩ : ∃ e : Int, e = max (magnitude num den - 52) exponentRange.2 :=
    ⟨_, rfl⟩
  have hle : exponent ≤ b := by simp only [exponentRange] at hexponent; omega
  -- The whole number is divided by a power of two that divides it, or multiplied by one.
  have hquotient : ∃ mantissa,
      roundedQuotient (scaled num den exponent).1 (scaled num den exponent).2 = mantissa ∧
        mantissa * Nat.pow 2 exponent.toNat = n * Nat.pow 2 (-exponent).toNat := by
    rcases Int.le_total exponent 0 with hneg | hnonneg
    · obtain ⟨k, hk⟩ := Int.eq_ofNat_of_zero_le (Int.neg_nonneg.mpr hneg)
      have hzero : exponent.toNat = 0 := Int.toNat_of_nonpos hneg
      refine ⟨n * 2 ^ k, ?_, by simp [hzero, hk]⟩
      have hscaled : scaled num den exponent = (n * 2 ^ k * den, den) := by
        simp [scaled, hk, hzero, hnum, Nat.mul_right_comm]
      rw [hscaled]
      exact roundedQuotient_mul hden _
    · obtain ⟨k, rfl⟩ := Int.eq_ofNat_of_zero_le hnonneg
      have hkb : k ≤ b := by omega
      have hpow : Nat.pow 2 b = Nat.pow 2 (b - k) * Nat.pow 2 k := (Nat.pow_sub_mul_pow 2 hkb).symm
      have hsplit : n = a * Nat.pow 2 (b - k) * Nat.pow 2 k := by rw [hn, hpow, Nat.mul_assoc]
      have hnonpos : (-(k : Int)).toNat = 0 := Int.toNat_of_nonpos (by omega)
      refine ⟨a * Nat.pow 2 (b - k), ?_, by rw [hnonpos, Int.toNat_natCast, ← hsplit]; simp⟩
      have hscaled : scaled num den k =
          (a * Nat.pow 2 (b - k) * (den * Nat.pow 2 k), den * Nat.pow 2 k) := by
        have hmul : n * den = a * Nat.pow 2 (b - k) * (den * Nat.pow 2 k) := by
          conv => lhs; rw [hsplit]
          rw [Nat.mul_assoc, Nat.mul_comm (Nat.pow 2 k) den]
        rw [scaled, hnonpos, hnum, Int.toNat_natCast, hmul]
        simp
      rw [hscaled]
      exact roundedQuotient_mul (Nat.mul_pos hden (Nat.two_pow_pos k)) _
  obtain ⟨mantissa, hmantissa, hvalue⟩ := hquotient
  have hrange : ¬(exponentRange.1 < exponent ∨
      exponent = exponentRange.1 ∧ 0x20000000000000 ≤ mantissa) := by
    simp only [exponentRange]
    omega
  simp only [nearest, if_neg hnum0, ← hexponent, hmantissa, if_neg hrange]
  exact .finite hvalue

/-- The ratio of a whole number has that number as its quotient. -/
theorem IsNat.ratio_eq (h : IsNat n (.finite false mantissa exponent)) :
    (ratio mantissa exponent).1 = n * (ratio mantissa exponent).2 ∧
      0 < (ratio mantissa exponent).2 := by
  cases h with
  | finite hvalue => exact ⟨hvalue, Nat.two_pow_pos _⟩

theorem times_isNat (hx : IsNat n x) (k : Nat) (h : Fits (n * k)) : IsNat (n * k) (x.times k) := by
  cases hx with
  | @finite mantissa exponent hvalue =>
    obtain ⟨hratio, hden⟩ := IsNat.ratio_eq (.finite hvalue)
    have hnum : (ratio mantissa exponent).1 * k = n * k * (ratio mantissa exponent).2 := by
      rw [hratio, Nat.mul_right_comm]
    exact nearest_isNat hden hnum h

theorem IsNat.clamped_eq (hx : IsNat n x) (greatest : Nat) :
    x.clamped greatest = min n greatest := by
  cases hx with
  | @finite mantissa exponent hvalue =>
    obtain ⟨hratio, hden⟩ := IsNat.ratio_eq (.finite hvalue)
    simp only [clamped, hratio, Nat.mul_div_cancel _ hden]

/-! ## Numbers that are read -/

theorem ofDecimal_isNat (h : n < Nat.pow 2 53) : IsNat n (ofDecimal false n 0) := by
  have hlength : (Nat.toDigits 10 n).length ≤ 16 :=
    (Nat.length_toDigits_le_iff (by decide) (by decide)).mpr (h.trans (by decide))
  unfold ofDecimal
  split
  next hzero => exact .finite (by simp [hzero])
  next =>
    rw [if_neg (by omega), if_neg (by omega)]
    exact nearest_isNat (n := n) (by decide) (by simp) (fits_of_lt h)

theorem digitRun_toDigits (n : Nat) : digitRun (Nat.toDigits 10 n) = (Nat.toDigits 10 n, []) := by
  have hall : ∀ c ∈ Nat.toDigits 10 n, c.isDigit = true :=
    fun _ => Nat.isDigit_of_mem_toDigits (by decide) (by decide)
  rw [digitRun, List.span_eq_takeWhile_dropWhile, List.takeWhile_eq_self_iff.mpr hall,
    List.dropWhile_eq_nil_iff.mpr hall]

theorem toLower_of_isDigit {c : Char} (h : c.isDigit = true) : c.toLower = c := by
  have hall : ∀ n < 58, 48 ≤ n → (Char.ofNat n).toLower = Char.ofNat n := by decide
  rw [Char.isDigit, Bool.and_eq_true, decide_eq_true_eq, decide_eq_true_eq] at h
  have hc := hall c.toNat (Nat.lt_succ_of_le h.2) h.1
  rwa [Char.ofNat_toNat] at hc

/-- The digits of a whole number are read as the nearest number of the format. -/
theorem read?_toDigits (n : Nat) : read? (Nat.toDigits 10 n) = some (ofDecimal false n 0) := by
  obtain ⟨d, ds, hds, hd⟩ := Numeral.toDigits_first n
  have hsign : read? (Nat.toDigits 10 n) = unsigned? false (Nat.toDigits 10 n) := by
    rw [hds]
    unfold read?
    split
    · rename_i heq; cases heq; cases hd
    · rename_i heq; cases heq; cases hd
    · rfl
  -- A name of a number that is not finite begins with a letter.
  have hname : ∀ c cs, c.isDigit = false → (Nat.toDigits 10 n).map Char.toLower ≠ c :: cs := by
    intro c cs hc heq
    rw [hds, List.map_cons, toLower_of_isDigit hd] at heq
    cases heq
    exact Bool.false_ne_true (hc.symm.trans hd)
  have hinf := hname 'i' ['n', 'f'] rfl
  have hinfinity := hname 'i' ['n', 'f', 'i', 'n', 'i', 't', 'y'] rfl
  have hnan := hname 'n' ['a', 'n'] rfl
  rw [hsign, unsigned?]
  simp [hinf, hinfinity, hnan, digitRun_toDigits, Numeral.digits?_toDigits, power?]

end Binary64

/-- A size that the format holds is read as the whole number that it is. -/
theorem Size.inUnits_toString {n unit : Nat} (hn : n < Nat.pow 2 53)
    (hfits : Binary64.Fits (n * unit)) (hsize : n * unit < UInt64.size) :
    inUnits (toString n) unit = UInt64.ofNat (n * unit) := by
  have hproduct := Binary64.times_isNat (Binary64.ofDecimal_isNat hn) unit hfits
  have hmin : min (n * unit) greatest = n * unit := Nat.min_eq_left (Nat.le_pred_of_lt hsize)
  simp only [inUnits, Numeral.toList_toString, Binary64.read?_toDigits, hproduct.clamped_eq, hmin]

end StorageInventory
