/-
  ContentGate.Proofs.Decimal.Integers — integers as floats.

  A float has 53 binary digits.  The weight of the last of them is the `unit`
  of an integer: one up to `2^53`, and then doubled with every further digit.

  Lean rounds a mantissa in two shifts: the first one leaves 53 digits and
  rounds them, which may carry, and the second one undoes the carry.  What
  comes out is a multiple of the unit, and nothing is lost of a multiple
  (`roundWithAccuracy_eq`).  53 digits are packed into bits and read from them
  without loss, as a content (`content_pack`) and as the exact value that the
  bits stand for (`ofFloat_pack`).

  Small integers are converted and multiplied with the float one, large ones
  are shifted to the left first; either way what is rounded is the integer
  times a power of two (`ofNat_eq_pack`).

  Main statements:
    * `roundWithAccuracy_eq` — rounding goes to a multiple of the unit;
    * `whole?_ofNat` — the float nearest to an integer below `2^64` is whole.
-/
import Mathlib.Algebra.Ring.Int.Defs
import Mathlib.Algebra.Ring.Nat
import ContentGate.Proofs.Decimal.Order

namespace ContentGate.Decimal

open Float.Model (UnpackedFloat Format totalExponent)
open Float.Model.UnpackedFloat (ExtendedMantissa)

/-! ## §1. Units -/

/-- The weight of the last of the 53 leading binary digits of an integer. -/
def unit (n : Nat) : Nat := 2 ^ (n.log2 - 52)

theorem unit_pos (n : Nat) : 0 < unit n := Nat.two_pow_pos _

theorem log2_mul_two_pow {n : Nat} (hn : n ≠ 0) (j : Nat) : (n * 2 ^ j).log2 = n.log2 + j := by
  have hpos : n * 2 ^ j ≠ 0 := Nat.mul_ne_zero hn (Nat.ne_of_gt (Nat.two_pow_pos j))
  rw [Nat.log2_eq_iff hpos, Nat.add_right_comm, Nat.pow_add, Nat.pow_add]
  constructor
  · exact Nat.mul_le_mul_right _ (Nat.log2_self_le hn)
  · exact Nat.mul_lt_mul_of_pos_right Nat.lt_log2_self (Nat.two_pow_pos j)

/-- Fifty-three digits stand before the unit. -/
theorem div_unit_bounds {n : Nat} (h : 52 ≤ n.log2) :
    2 ^ 52 ≤ n / unit n ∧ n / unit n < 2 ^ 53 := by
  have hn : n ≠ 0 := by
    rintro rfl
    simp at h
  have hlow := Nat.log2_self_le hn
  have hhigh := Nat.lt_log2_self (n := n)
  have hsplit : n.log2 = 52 + (n.log2 - 52) := by omega
  rw [Nat.le_div_iff_mul_le (unit_pos n), Nat.div_lt_iff_lt_mul (unit_pos n)]
  unfold unit
  rw [← Nat.pow_add, ← Nat.pow_add, ← hsplit]
  refine ⟨hlow, ?_⟩
  rwa [show 53 + (n.log2 - 52) = n.log2 + 1 by omega]

/-! ## §2. Rounding -/

theorem shift_mantissa (em : ExtendedMantissa) (k : Nat) :
    (em >>> k).mantissa = em.mantissa / 2 ^ k := by
  induction k with
  | zero => exact (Nat.div_one _).symm
  | succ k ih =>
    show (em >>> k).mantissa / 2 = _
    rw [ih, Nat.div_div_eq_div_mul, Nat.pow_succ]

/-- Nothing is lost of a multiple of the power of two. -/
theorem shift_exact {m k : Nat} (h : 2 ^ k ∣ m) :
    (⟨m, false, false⟩ : ExtendedMantissa) >>> k = ⟨m / 2 ^ k, false, false⟩ := by
  induction k with
  | zero =>
    rw [Nat.pow_zero, Nat.div_one]
    rfl
  | succ k ih =>
    have hk : 2 ^ k ∣ m := Nat.dvd_trans (Nat.pow_dvd_pow 2 (Nat.le_succ k)) h
    have heven : m / 2 ^ k % 2 = 0 := by
      rw [Nat.pow_succ] at h
      exact Nat.mod_eq_zero_of_dvd (Nat.dvd_div_of_mul_dvd h)
    show ((⟨m, false, false⟩ : ExtendedMantissa) >>> k).shiftRightOne = _
    rw [ih hk]
    simp only [ExtendedMantissa.shiftRightOne, heven, Nat.div_div_eq_div_mul, Nat.pow_succ]
    rfl

theorem roundedMantissa_cases (em : ExtendedMantissa) :
    em.roundedMantissa = em.mantissa ∨ em.roundedMantissa = em.mantissa + 1 := by
  obtain ⟨m, r, s⟩ := em
  cases r with
  | false => cases s <;> exact .inl rfl
  | true =>
    cases s with
    | true => exact .inr rfl
    | false =>
      show m + m % 2 = m ∨ m + m % 2 = m + 1
      omega

theorem targetExponent_eq (t : Int) : Format.binary64.targetExponent t = max (t - 53) (-1074) := rfl

theorem totalExponent_eq (m : Nat) (e : Int) : totalExponent m e = m.log2 + 1 + e := rfl

/-- Away from the least numbers, a mantissa is shifted by its unit. -/
theorem shiftToTargetExponent_eq {m : Nat} {e : Int} (h : -1021 ≤ totalExponent m e) :
    UnpackedFloat.shiftToTargetExponent .binary64 m e .exact
      = ((⟨m, false, false⟩ : ExtendedMantissa) >>> (m.log2 - 52), e + (m.log2 - 52 : Nat)) := by
  unfold UnpackedFloat.shiftToTargetExponent UnpackedFloat.shiftToExponent
  have hshift : (Format.binary64.targetExponent (totalExponent m e) - e).toNat = m.log2 - 52 := by
    rw [totalExponent_eq] at h
    rw [targetExponent_eq, totalExponent_eq]
    omega
  dsimp only
  rw [hshift]
  rfl

/-- What rounding to the unit gives has 53 digits, or is the next power of two. -/
theorem roundedMantissa_shift {m : Nat} (hm : 52 ≤ m.log2) :
    ∃ q, ((⟨m, false, false⟩ : ExtendedMantissa) >>> (m.log2 - 52)).roundedMantissa = q
      ∧ 2 ^ 52 ≤ q ∧ q ≤ 2 ^ 53 ∧ (unit m ∣ m → q * unit m = m) := by
  obtain ⟨hlow, hhigh⟩ := div_unit_bounds hm
  refine ⟨_, rfl, ?_⟩
  have hround := roundedMantissa_cases ((⟨m, false, false⟩ : ExtendedMantissa) >>> (m.log2 - 52))
  rw [shift_mantissa, ← unit] at hround
  dsimp only at hround
  refine ⟨by omega, by omega, ?_⟩
  intro hdvd
  rw [shift_exact hdvd]
  exact Nat.div_mul_cancel hdvd

/-- The second shift undoes a carry, and loses nothing. -/
theorem shift_carry {q : Nat} (hlow : 2 ^ 52 ≤ q) (hhigh : q ≤ 2 ^ 53) :
    q.log2 ≤ 53 ∧ (q / 2 ^ (q.log2 - 52)).log2 = 52
      ∧ q / 2 ^ (q.log2 - 52) * 2 ^ (q.log2 - 52) = q := by
  obtain rfl | hlt := Nat.eq_or_lt_of_le hhigh
  · rw [Nat.log2_two_pow]
    decide
  · have hlog : q.log2 = 52 := (Nat.log2_eq_iff (by omega)).2 ⟨hlow, hlt⟩
    simp [hlog]

theorem finite_congr {s t : UnpackedFloat.Sign} {m n : Nat} {e f : Int} {hm : 0 < m} {hn : 0 < n}
    (hs : s = t) (hmn : m = n) (hef : e = f) :
    UnpackedFloat.finite s m e hm = .finite t n f hn := by
  subst hs hmn hef
  rfl

/-- **Rounding**: an integer becomes a multiple of its unit, and stays what it is if it is one. -/
theorem roundWithAccuracy_eq {m : Nat} {e : Int} (hm : 52 ≤ m.log2) (he : -1074 ≤ e)
    (s : UnpackedFloat.Sign) :
    ∃ r k hr, UnpackedFloat.roundWithAccuracy .binary64 s m e .exact = .finite s r (e + (k : Nat)) hr
      ∧ r.log2 = 52 ∧ k + 51 ≤ m.log2 ∧ unit m ∣ r * 2 ^ k ∧ (unit m ∣ m → r * 2 ^ k = m) := by
  obtain ⟨q, hq, hlow, hhigh, hexact⟩ := roundedMantissa_shift hm
  obtain ⟨hlog, hlog', hcarry⟩ := shift_carry hlow hhigh
  have hq52 : 52 ≤ q.log2 := (Nat.le_log2 (by omega)).2 hlow
  have hr : 0 < q / 2 ^ (q.log2 - 52) := by
    apply Nat.pos_of_ne_zero
    intro hzero
    rw [hzero] at hlog'
    simp at hlog'
  have hvalue : q / 2 ^ (q.log2 - 52) * 2 ^ (m.log2 - 52 + (q.log2 - 52)) = q * unit m := by
    rw [Nat.add_comm, Nat.pow_add, ← Nat.mul_assoc, hcarry, unit]
  -- The exponent grows by both shifts.
  refine ⟨q / 2 ^ (q.log2 - 52), m.log2 - 52 + (q.log2 - 52), hr, ?_, hlog', by omega, ?_, ?_⟩
  · unfold UnpackedFloat.roundWithAccuracy
    rw [shiftToTargetExponent_eq (by rw [totalExponent_eq]; omega)]
    dsimp only
    rw [hq, shiftToTargetExponent_eq (by rw [totalExponent_eq]; omega)]
    dsimp only
    have hfinal : ((⟨q, false, false⟩ : ExtendedMantissa) >>> (q.log2 - 52)).mantissa
        = q / 2 ^ (q.log2 - 52) := shift_mantissa _ _
    rw [dif_neg (by rw [hfinal]; exact Nat.ne_of_gt hr)]
    exact finite_congr rfl hfinal (Int.add_assoc _ _ _)
  · rw [hvalue]
    exact Nat.dvd_mul_left _ _
  · rwa [hvalue]

/-! ## §3. Bits -/

section
variable (bits : UInt64)

theorem toNat_exponentBits :
    (bits >>> 52 &&& 0x7FF).toNat
      = (@UnpackedFloat.unpackExponent .binary64 bits.toBitVec).toNat := by
  show _ = bits.toNat >>> 52 % 2 ^ 11
  rw [UInt64.toNat_and, UInt64.toNat_shiftRight]
  exact Nat.and_two_pow_sub_one_eq_mod _ 11

theorem toNat_fractionBits :
    (bits &&& 0xFFFFFFFFFFFFF).toNat
      = (@UnpackedFloat.unpackMantissa .binary64 bits.toBitVec).toNat := by
  show _ = bits.toNat >>> 0 % 2 ^ 52
  rw [UInt64.toNat_and, Nat.shiftRight_zero]
  exact Nat.and_two_pow_sub_one_eq_mod _ 52

theorem signBit_eq :
    (bits >>> 63 == 1)
      = ((@UnpackedFloat.unpackSign .binary64 bits.toBitVec).toNat == 1) := by
  show (bits >>> 63 == 1) = (bits.toNat >>> 63 % 2 ^ 1 == 1)
  have hbound : bits.toNat >>> 63 < 2 ^ 1 := by
    rw [Nat.shiftRight_eq_div_pow]
    exact Nat.div_lt_of_lt_mul bits.toNat_lt
  rw [Nat.mod_eq_of_lt hbound, Bool.eq_iff_iff, beq_iff_eq, beq_iff_eq, ← UInt64.toNat_inj,
    UInt64.toNat_shiftRight]
  rfl

end

section
variable {m : Nat} {e : Int} {hm : 0 < m}

/-- A number with 53 digits is packed as they are, without the first. -/
theorem pack_eq (hlog : m.log2 = 52) (he : e ≤ 971) (s : UnpackedFloat.Sign) :
    UnpackedFloat.pack .binary64 (.finite s m e hm)
      = UnpackedFloat.packComponents .binary64 s (BitVec.ofNat 11 (e + 1075).toNat)
          (BitVec.ofNat 52 m) := by
  have hbiased : (e + Format.binary64.exponentBias + Format.binary64.mantissaBitsWithoutImplicit)
      = e + 1075 := Int.add_assoc e 1023 52
  unfold UnpackedFloat.pack
  dsimp only
  rw [hbiased, if_neg (by simp; omega), if_pos (by rw [hlog]; rfl)]

/-- The leading digit is `2^52`, and the others are the fraction. -/
theorem fraction_of_log2 (hlog : m.log2 = 52) :
    0x10000000000000 + (BitVec.ofNat 52 m).toNat = m := by
  have hm : m ≠ 0 := by
    rintro rfl
    simp at hlog
  have := (Nat.log2_eq_iff hm).1 hlog
  rw [BitVec.toNat_ofNat]
  omega

theorem toNat_biased (hlow : -1074 ≤ e) (hhigh : e ≤ 971) :
    ((BitVec.ofNat 11 (e + 1075).toNat).toNat : Int) = e + 1075 := by
  rw [BitVec.toNat_ofNat, Nat.mod_eq_of_lt (by omega)]
  omega

/-- A biased exponent within the bounds is neither that of the infinities nor that of zero. -/
theorem biased_ne (hlow : -1074 ≤ e) (hhigh : e ≤ 971) {b : BitVec 11}
    (hb : b.toNat = 0 ∨ b.toNat = 2047) : BitVec.ofNat 11 (e + 1075).toNat ≠ b := by
  intro heq
  have := toNat_biased hlow hhigh
  rw [heq] at this
  omega

theorem unpackSign_positive (exponent : BitVec 11) (fraction : BitVec 52) :
    UnpackedFloat.unpackSign (UnpackedFloat.packComponents .binary64 .positive exponent fraction)
      = 0#1 := by
  show (0#1 ++ exponent ++ fraction).extractLsb' 63 1 = 0#1
  rw [BitVec.extractLsb'_append_eq_of_le (by decide), BitVec.extractLsb'_append_eq_of_le (by decide)]
  rfl

/-- **A number with 53 digits is packed without loss.** -/
theorem content_pack (hlog : m.log2 = 52) (hlow : -1074 ≤ e) (hhigh : e ≤ 971) :
    content (.ofModel (.pack (.finite .positive m e hm))) = .finite .positive m e hm := by
  show UnpackedFloat.unpack .binary64 (UnpackedFloat.pack .binary64 (.finite .positive m e hm)) = _
  rw [pack_eq hlog hhigh]
  unfold UnpackedFloat.unpack
  dsimp only
  rw [if_neg (by
      rw [UnpackedFloat.unpackExponent_packComponents]
      exact biased_ne hlow hhigh (.inr rfl)),
    if_neg (by
      rw [UnpackedFloat.unpackExponent_packComponents]
      exact biased_ne hlow hhigh (.inl rfl))]
  apply finite_congr
  · rw [unpackSign_positive]
    rfl
  · rw [UnpackedFloat.unpackMantissa_packComponents, BitVec.toNat_append, Nat.shiftLeft_eq,
      Nat.mul_comm, ← Nat.two_pow_add_eq_or_of_lt (BitVec.isLt _)]
    exact fraction_of_log2 hlog
  · rw [UnpackedFloat.unpackExponent_packComponents, toNat_biased hlow hhigh]
    show e + 1075 - (1023 + 52) = e
    omega

/-- **What a number with 53 digits stands for, read from its bits.** -/
theorem ofFloat_pack (hlog : m.log2 = 52) (hlow : -1074 ≤ e) (hhigh : e ≤ 971) :
    Binary.ofFloat (.ofModel (.pack (.finite .positive m e hm))) = .finite false m e := by
  have hbiased := toNat_biased hlow hhigh
  show Binary.ofBits (.ofBitVec (UnpackedFloat.pack .binary64 (.finite .positive m e hm))) = _
  rw [pack_eq hlog hhigh]
  unfold Binary.ofBits
  rw [toNat_exponentBits, toNat_fractionBits, signBit_eq]
  rw [UnpackedFloat.unpackExponent_packComponents, UnpackedFloat.unpackMantissa_packComponents,
    unpackSign_positive]
  dsimp only
  have htop : ((BitVec.ofNat 11 (e + 1075).toNat).toNat == 0x7FF) = false := by
    rw [beq_eq_false_iff_ne]
    omega
  have hleast : ((BitVec.ofNat 11 (e + 1075).toNat).toNat == 0) = false := by
    rw [beq_eq_false_iff_ne]
    omega
  rw [htop, hleast, if_neg Bool.false_ne_true, if_neg Bool.false_ne_true, fraction_of_log2 hlog,
    hbiased, Int.add_sub_cancel]
  rfl

end

/-! ## §4. Integers -/

/-- The fraction that is read from `m · 2^(k - j)`. -/
theorem fraction_eq {m k j v : Nat} (h : m * 2 ^ k = v * 2 ^ j) :
    m * 2 ^ (-(j : Int) + k).toNat = v * 2 ^ (-(-(j : Int) + k)).toNat := by
  -- Of the two powers the smaller one is cancelled.
  cases Nat.le_total j k with
  | inl hle =>
    obtain ⟨d, rfl⟩ := Nat.le.dest hle
    rw [Nat.pow_add, Nat.mul_comm (2 ^ j), ← Nat.mul_assoc] at h
    have hd : (-(j : Int) + (j + d : Nat)).toNat = d ∧ (-(-(j : Int) + (j + d : Nat))).toNat = 0 := by
      omega
    rw [hd.1, hd.2, Nat.pow_zero, Nat.mul_one]
    exact Nat.eq_of_mul_eq_mul_right (Nat.two_pow_pos j) h
  | inr hle =>
    obtain ⟨d, rfl⟩ := Nat.le.dest hle
    rw [Nat.pow_add, Nat.mul_comm (2 ^ k), ← Nat.mul_assoc] at h
    have hd : (-((k + d : Nat) : Int) + k).toNat = 0 ∧ (-(-((k + d : Nat) : Int) + k)).toNat = d := by
      omega
    rw [hd.1, hd.2, Nat.pow_zero, Nat.mul_one]
    exact Nat.eq_of_mul_eq_mul_right (Nat.two_pow_pos k) h

theorem whole?_finite {m k j v : Nat} (h : m * 2 ^ k = v * 2 ^ j) :
    (Binary.finite false m (-(j : Int) + k)).whole? = some (v : Int) := by
  show (if m * 2 ^ (-(j : Int) + k).toNat % 2 ^ (-(-(j : Int) + k)).toNat = 0 then
    some ((m * 2 ^ (-(j : Int) + k).toNat / 2 ^ (-(-(j : Int) + k)).toNat : Nat) : Int) else none) = _
  rw [fraction_eq h, Nat.mul_mod_left, if_pos rfl, Nat.mul_div_cancel _ (Nat.two_pow_pos _)]

theorem whole?_zero (j : Nat) :
    (Binary.finite false 0 (-(j : Int) + (0 : Nat))).whole? = some ((0 : Nat) : Int) :=
  whole?_finite (by rw [Nat.zero_mul, Nat.zero_mul])

theorem ofNat_eq {n : Nat} (hn : n ≠ 0) (hn64 : n < 2 ^ 64) :
    ofNat n = Float.ofScientific n false 0 := by
  have hlength : (Nat.toDigits 10 n).length ≤ 20 :=
    (Nat.length_toDigits_le_iff (by decide) (by decide)).2 (Nat.lt_trans hn64 (by decide))
  unfold ofNat nearest
  dsimp only
  rw [if_neg hn, if_neg (by omega), if_neg (by omega)]
  rfl

/-- The power of ten that an integer is multiplied with. -/
theorem content_one :
    content Float.exactlyRepresentablePowersOfTen[0] = .finite .positive (2 ^ 52) (-52) (by decide) := by
  rfl

/-- An integer is rounded after it is brought to 53 digits. -/
theorem ofNat_content {n : Nat} (hn : n ≠ 0) (hn53 : n < 2 ^ 53) :
    UnpackedFloat.ofNat .binary64 n = UnpackedFloat.roundWithAccuracy .binary64 .positive
      (n * 2 ^ (52 - n.log2)) (-((52 - n.log2 : Nat) : Int)) .exact := by
  have hn52 : n.log2 < 53 := (Nat.log2_lt hn).2 hn53
  have hshift : (0 - Format.binary64.targetExponent (totalExponent n 0)).toNat = 52 - n.log2 := by
    rw [targetExponent_eq, totalExponent_eq]
    omega
  unfold UnpackedFloat.ofNat UnpackedFloat.ofInt UnpackedFloat.normalize
  rw [Int.compare_eq_gt.2 (by omega)]
  dsimp only
  unfold UnpackedFloat.round UnpackedFloat.decreaseExponent
  dsimp only
  rw [Int.toNat_natCast, hshift, Nat.shiftLeft_eq, Int.zero_sub]

/-- An integer of at most 53 digits, as a float. -/
theorem content_toFloat {n : Nat} (hn : n ≠ 0) (hn53 : n < 2 ^ 53) :
    ∃ hm, content n.toUInt64.toFloat
      = .finite .positive (n * 2 ^ (52 - n.log2)) (-((52 - n.log2 : Nat) : Int)) hm := by
  have hn52 : n.log2 < 53 := (Nat.log2_lt hn).2 hn53
  have hlog : (n * 2 ^ (52 - n.log2)).log2 = 52 := by
    rw [log2_mul_two_pow hn]
    omega
  obtain ⟨r, k, hr, hround, hr52, -, -, hexact⟩ := roundWithAccuracy_eq
    (Nat.le_of_eq hlog.symm) (e := -((52 - n.log2 : Nat) : Int)) (by omega) .positive
  have hvalue : r * 2 ^ k = n * 2 ^ (52 - n.log2) := by
    apply hexact
    rw [unit, hlog]
    exact Nat.one_dvd _
  -- With 53 digits already there is nothing to shift.
  have hk : k = 0 := by
    have hr' := log2_mul_two_pow (Nat.ne_of_gt hr) k
    rw [hvalue] at hr'
    omega
  subst hk
  rw [Nat.pow_zero, Nat.mul_one] at hvalue
  subst hvalue
  refine ⟨hr, ?_⟩
  have hnat : n.toUInt64.toNat = n := UInt64.toNat_ofNat_of_lt' (Nat.lt_trans hn53 (by decide))
  show content (.ofModel (.pack (UnpackedFloat.ofNat .binary64 n.toUInt64.toNat))) = _
  have hlow : -1074 ≤ -((52 - n.log2 : Nat) : Int) := by omega
  have hhigh : -((52 - n.log2 : Nat) : Int) ≤ 971 := by omega
  rw [hnat, ofNat_content hn hn53, hround, Int.natCast_zero, Int.add_zero]
  exact content_pack hr52 hlow hhigh

/-- **The float nearest to an integer**: the rounded product of the integer and a power of two. -/
theorem ofNat_eq_pack {n : Nat} (hn : n ≠ 0) (hn64 : n < 2 ^ 64) :
    ∃ j, 52 ≤ n.log2 + j ∧ j ≤ 104 ∧
      ofNat n = .ofModel (.pack (UnpackedFloat.roundWithAccuracy .binary64 .positive (n * 2 ^ j)
        (-(j : Int)) .exact)) := by
  rw [ofNat_eq hn hn64]
  unfold Float.ofScientific
  by_cases hsmall : n < 2 ^ 53
  · -- A product of two floats: the integer and one.
    obtain ⟨hm, hcontent⟩ := content_toFloat hn hsmall
    refine ⟨52 - n.log2 + 52, by omega, by omega, ?_⟩
    rw [dif_pos ⟨hsmall, by decide⟩]
    show Float.ofModel (.pack (UnpackedFloat.mul .binary64 (content n.toUInt64.toFloat)
      (content Float.exactlyRepresentablePowersOfTen[0]))) = _
    rw [hcontent, content_one]
    show Float.ofModel (.pack (UnpackedFloat.roundWithAccuracy .binary64 .positive
      (n * 2 ^ (52 - n.log2) * 2 ^ 52) (-(52 - n.log2 : Nat) + -52) .exact)) = _
    rw [Nat.mul_assoc, ← Nat.pow_add, ← Int.neg_add]
    rfl
  · -- A product of two contents: the integer, shifted by 53 digits, and one.
    refine ⟨53, by omega, by omega, ?_⟩
    rw [dif_neg (fun h => hsmall h.1)]
    have hsize : ¬ (0 : Int) < -((2 ^ 11 : Int) + n.log2) := by omega
    show Float.ofModel (.pack (UnpackedFloat.ofScientific .binary64 n 0)) = _
    unfold UnpackedFloat.ofScientific
    rw [dif_neg hn, if_neg (by decide), if_neg hsize, if_pos (by decide)]
    show Float.ofModel (.pack (UnpackedFloat.roundWithAccuracy .binary64 .positive
      (n <<< 53 * 1) (-53 + 0) .exact)) = _
    rw [Nat.shiftLeft_eq, Nat.mul_one]
    rfl

/-- **The float nearest to an integer is whole**: a multiple of the integer's unit, and the integer
itself if that is one. -/
theorem whole?_ofNat {n : Nat} (h : n < 2 ^ 64) :
    ∃ v : Nat, (Binary.ofFloat (ofNat n)).whole? = some (v : Int)
      ∧ unit n ∣ v ∧ (unit n ∣ n → v = n) := by
  by_cases hn : n = 0
  · subst hn
    have hzero : Binary.ofFloat (ofNat 0) = .finite false 0 (-(1074 : Nat) + (0 : Nat)) := by decide
    rw [hzero]
    exact ⟨0, whole?_zero 1074, Nat.dvd_zero _, fun _ => rfl⟩
  obtain ⟨j, hj, hj', hpack⟩ := ofNat_eq_pack hn h
  have hlog := log2_mul_two_pow hn j
  have hn64 : n.log2 < 64 := (Nat.log2_lt hn).2 h
  obtain ⟨r, k, hr, hround, hr52, hk, hdvd, hexact⟩ :=
    roundWithAccuracy_eq (m := n * 2 ^ j) (e := -(j : Int)) (by omega) (by omega) .positive
  have hfloat : Binary.ofFloat (ofNat n) = .finite false r (-(j : Int) + k) := by
    rw [hpack, hround]
    exact ofFloat_pack hr52 (by omega) (by omega)
  rw [hfloat]
  unfold unit at hdvd hexact ⊢
  rw [hlog] at hdvd hexact
  cases Nat.lt_or_ge n.log2 52 with
  | inl hshort =>
    -- All digits are kept.
    have hvalue : r * 2 ^ k = n * 2 ^ j :=
      hexact (Nat.dvd_mul_left_of_dvd (Nat.pow_dvd_pow 2 (by omega)) n)
    refine ⟨n, whole?_finite hvalue, ?_, fun _ => rfl⟩
    rw [Nat.sub_eq_zero_of_le (by omega)]
    exact Nat.one_dvd n
  | inr hlong =>
    -- The unit of the product is that of the integer times the power, which is cancelled.
    rw [show n.log2 + j - 52 = n.log2 - 52 + j by omega, Nat.pow_add] at hdvd hexact
    obtain ⟨w, hw⟩ := hdvd
    have hvalue : r * 2 ^ k = w * 2 ^ (n.log2 - 52) * 2 ^ j := by
      rw [hw, Nat.mul_comm, Nat.mul_assoc]
    refine ⟨_, whole?_finite hvalue, Nat.dvd_mul_left _ _, ?_⟩
    intro hunit
    have hvalue' := hexact (Nat.mul_dvd_mul_right hunit _)
    rw [hvalue] at hvalue'
    exact Nat.eq_of_mul_eq_mul_right (Nat.two_pow_pos j) hvalue'

end ContentGate.Decimal
