/-
  ContentGate.Proofs.Decimal.Order — the order of floats, and what is no number.

  Lean gives every float its IEEE content: NaN, an infinity, a zero, or a
  sign, a mantissa and an exponent (`content`).  All operations on floats are
  defined on contents, so what is needed of them here is proved there, by the
  cases of a content.

  Two floats compare as their contents do (`compare?_eq`).  Exchanged, they
  compare the other way round, and only NaN compares with nothing.

  NaN is not made by rounding: a mantissa and an exponent are rounded to a
  zero or a finite number, and packed into 64 bits they are at most an
  infinity.  So no digits are read as NaN.  The only texts that are read as
  NaN are those that spell it (`isNaN_of_float?`).

  Main statements:
    * `compare?_swap`, `compare?_eq_none_iff`, `compare?_self` — the order;
    * `isNaN_nearest` — the float nearest to a decimal is a number;
    * `isNaN_of_float?` — the texts of NaN.
-/
import ContentGate.Evaluation.Compare

namespace ContentGate.Decimal

open Float.Model (UnpackedFloat Format)

/-! ## §1. Contents -/

/-- What a float stands for. -/
def content (x : Float) : UnpackedFloat := x.toModel.unpack

/-- Contents that are exchanged compare the other way round. -/
theorem content_compare_swap (a b : UnpackedFloat) :
    b.compare a = (a.compare b).map Ordering.swap := by
  cases a with
  | notANumber => cases b <;> rfl
  | infinity s =>
    cases b with
    | infinity t => cases s <;> cases t <;> rfl
    | notANumber => cases s <;> rfl
    | zero t => cases s <;> rfl
    | finite t n f hn => cases s <;> cases t <;> rfl
  | zero s =>
    cases b with
    | infinity t => cases t <;> rfl
    | notANumber => rfl
    | zero t => rfl
    | finite t n f hn => cases t <;> rfl
  | finite s m e hm =>
    cases b with
    | infinity t => cases s <;> cases t <;> rfl
    | notANumber => cases s <;> rfl
    | zero t => cases s <;> rfl
    | finite t n f hn =>
      -- Only here are numbers compared: the exponents, and then the mantissas.
      have hswap : (compare f e).then (compare n m) = ((compare e f).then (compare m n)).swap := by
        rw [Ordering.swap_then, Int.compare_swap, Nat.compare_swap]
      cases s with
      | positive =>
        cases t with
        | positive => exact congrArg some hswap
        | negative => rfl
      | negative =>
        cases t with
        | positive => rfl
        | negative => exact congrArg (fun o => some o.swap) hswap

/-- Contents compare unless one of them is NaN. -/
theorem isSome_content_compare (a b : UnpackedFloat) :
    (a.compare b).isSome = !(a.isNaN || b.isNaN) := by
  cases a with
  | notANumber => cases b <;> rfl
  | infinity s =>
    cases s with
    | positive | negative => cases b <;> rfl
  | zero s =>
    cases b with
    | finite t n f hn => cases t <;> rfl
    | infinity t => cases t <;> rfl
    | notANumber | zero t => rfl
  | finite s m e hm =>
    cases b with
    | finite t n f hn => cases s <;> cases t <;> rfl
    | infinity t => cases t <;> rfl
    | zero t => cases s <;> rfl
    | notANumber => rfl

theorem content_compare_eq_none_iff (a b : UnpackedFloat) :
    a.compare b = none ↔ a.isNaN = true ∨ b.isNaN = true := by
  rw [← Option.isNone_iff_eq_none, ← Option.not_isSome, isSome_content_compare, Bool.not_not,
    Bool.or_eq_true_iff]

/-! ## §2. The order of floats -/

theorem lt_iff (x y : Float) : x < y ↔ (content x).compare (content y) = some .lt := by
  show decide (x.toModel < y.toModel) = true ↔ _
  rw [decide_eq_true_iff]
  show x.toModel.unpack.lt y.toModel.unpack = true ↔ _
  exact beq_iff_eq

theorem beq_iff (x y : Float) : (x == y) = true ↔ (content x).compare (content y) = some .eq := by
  show x.toModel.unpack.beq y.toModel.unpack = true ↔ _
  exact beq_iff_eq

/-- **Floats compare as their contents do.** -/
theorem compare?_eq (x y : Float) : compare? x y = (content x).compare (content y) := by
  unfold compare?
  simp only [lt_iff, beq_iff]
  -- The second test asks the other way round.
  rw [content_compare_swap (content x) (content y)]
  cases (content x).compare (content y) with
  | none => rfl
  | some o => cases o <;> rfl

/-- **Floats that are exchanged compare the other way round.** -/
theorem compare?_swap (x y : Float) : compare? y x = (compare? x y).map Ordering.swap := by
  rw [compare?_eq, compare?_eq]
  exact content_compare_swap _ _

/-- **Only NaN compares with nothing.** -/
theorem compare?_eq_none_iff (x y : Float) :
    compare? x y = none ↔ x.isNaN = true ∨ y.isNaN = true := by
  rw [compare?_eq]
  exact content_compare_eq_none_iff _ _

/-- **Every float but NaN is equal to itself.** -/
theorem compare?_self {x : Float} (h : x.isNaN = false) : compare? x x = some .eq := by
  have hswap := compare?_swap x x
  cases hself : compare? x x with
  | none =>
    -- Then it would be NaN.
    rw [compare?_eq_none_iff, h] at hself
    simp at hself
  | some o =>
    rw [hself] at hswap
    cases o with
    | eq => rfl
    | lt | gt => cases hswap

theorem beq_eq (x y : Float) : (x == y) = (compare? x y == some .eq) := by
  rw [Bool.eq_iff_iff, beq_iff, compare?_eq, beq_iff_eq]

theorem beq_comm (x y : Float) : (x == y) = (y == x) := by
  rw [beq_eq, beq_eq, compare?_swap y x]
  cases compare? y x with
  | none => rfl
  | some o => cases o <;> rfl

theorem beq_self {x : Float} (h : x.isNaN = false) : (x == x) = true := by
  rw [beq_eq, compare?_self h]
  rfl

/-! ## §3. What is no number -/

/-- What is no NaN in either case. -/
theorem isNaN_dite {P : Prop} [Decidable P] {a : P → UnpackedFloat} {b : ¬ P → UnpackedFloat}
    (ha : ∀ h, (a h).isNaN = false) (hb : ∀ h, (b h).isNaN = false) :
    (if h : P then a h else b h).isNaN = false := by
  by_cases h : P
  · rw [dif_pos h]
    exact ha h
  · rw [dif_neg h]
    exact hb h

theorem isNaN_ite {P : Prop} [Decidable P] {a b : UnpackedFloat} (ha : a.isNaN = false)
    (hb : b.isNaN = false) : (if P then a else b).isNaN = false := by
  rw [← dite_eq_ite]
  exact isNaN_dite (fun _ => ha) fun _ => hb

/-- Packed components are no NaN, unless the exponent is the greatest. -/
theorem isNaN_unpack_packComponents {e : BitVec 11} (he : e ≠ -1#11) (s : UnpackedFloat.Sign)
    (m : BitVec 52) :
    (UnpackedFloat.unpack .binary64 (UnpackedFloat.packComponents .binary64 s e m)).isNaN
      = false := by
  have hexponent : UnpackedFloat.unpackExponent (UnpackedFloat.packComponents .binary64 s e m)
      ≠ -1#11 := by
    rwa [UnpackedFloat.unpackExponent_packComponents]
  unfold UnpackedFloat.unpack
  dsimp only
  rw [if_neg hexponent]
  exact isNaN_ite (isNaN_dite (fun _ => rfl) fun _ => rfl) rfl

theorem isNaN_unpack_packedInfinity (s : UnpackedFloat.Sign) :
    (UnpackedFloat.unpack .binary64 (UnpackedFloat.packedInfinity .binary64 s)).isNaN = false := by
  cases s <;> decide

/-- **Packing makes no NaN**, and keeps it. -/
theorem isNaN_pack (a : UnpackedFloat) : (Float.Model.pack a).unpack.isNaN = a.isNaN := by
  show (UnpackedFloat.unpack .binary64 (UnpackedFloat.pack .binary64 a)).isNaN = _
  cases a with
  | notANumber => decide
  | infinity s => exact isNaN_unpack_packedInfinity s
  | zero s => cases s <;> decide
  | finite s m e hm =>
    show _ = false
    unfold UnpackedFloat.pack
    dsimp only
    split
    · exact isNaN_unpack_packedInfinity s
    · rename_i hbound
      split
      · -- A normal number: its exponent is below the greatest one.
        apply isNaN_unpack_packComponents
        intro heq
        have hbits := congrArg BitVec.toNat heq
        simp at hbits hbound
        omega
      · exact isNaN_unpack_packComponents (by decide) _ _

theorem isNaN_neg (x : Float) : (-x).isNaN = x.isNaN := by
  show (Float.Model.pack x.toModel.unpack.neg).unpack.isNaN = x.toModel.unpack.isNaN
  rw [isNaN_pack]
  cases x.toModel.unpack <;> rfl

/-- **Rounding makes no NaN.** -/
theorem isNaN_roundWithAccuracy (f : Format) (s : UnpackedFloat.Sign) (m : Nat) (e : Int)
    (accuracy : UnpackedFloat.Accuracy) :
    (UnpackedFloat.roundWithAccuracy f s m e accuracy).isNaN = false := by
  unfold UnpackedFloat.roundWithAccuracy
  exact isNaN_dite (fun _ => rfl) (fun _ => rfl)

section
variable {a b : UnpackedFloat}

/-- A number other than zero and the infinities. -/
def IsOrdinary (a : UnpackedFloat) : Prop := ∃ s m e hm, a = .finite s m e hm

theorem isNaN_mul (ha : a.isNaN = false) (hb : IsOrdinary b) :
    (UnpackedFloat.mul .binary64 a b).isNaN = false := by
  obtain ⟨s, m, e, hm, rfl⟩ := hb
  cases a with
  | notANumber => cases ha
  | finite t n f hn => exact isNaN_roundWithAccuracy _ _ _ _ _
  | infinity t | zero t => rfl

theorem isNaN_div (ha : a.isNaN = false) (hb : IsOrdinary b) :
    (UnpackedFloat.div .binary64 a b).isNaN = false := by
  obtain ⟨s, m, e, hm, rfl⟩ := hb
  cases a with
  | notANumber => cases ha
  | finite t n f hn => exact isNaN_roundWithAccuracy _ _ _ _ _
  | infinity t | zero t => rfl

end

theorem isNaN_ofInt (n : Int) : (UnpackedFloat.ofInt .binary64 n).isNaN = false := by
  unfold UnpackedFloat.ofInt UnpackedFloat.normalize
  split
  · exact isNaN_roundWithAccuracy _ _ _ _ _
  · rfl
  · exact isNaN_roundWithAccuracy _ _ _ _ _

/-- The tabled powers of ten are ordinary numbers. -/
theorem isOrdinary_powersOfTen {p : Float} (h : p ∈ Float.exactlyRepresentablePowersOfTen) :
    IsOrdinary (content p) := by
  have htable : (Float.exactlyRepresentablePowersOfTen.all fun p =>
      match content p with
      | .finite .. => true
      | _ => false) = true := by decide +kernel
  have hp := Array.all_eq_true_iff_forall_mem.1 htable p h
  cases hc : content p with
  | finite s m e hm => exact ⟨s, m, e, hm, rfl⟩
  | notANumber | infinity s | zero s =>
    rw [hc] at hp
    cases hp

/-- A decimal with a power of ten that is not tabled. -/
theorem isNaN_ofScientific_content (m : Nat) (e : Int) :
    (UnpackedFloat.ofScientific .binary64 m e).isNaN = false := by
  unfold UnpackedFloat.ofScientific
  apply isNaN_dite (fun _ => rfl)
  intro hm
  -- Far from one, it is an infinity or zero.
  apply isNaN_ite rfl
  apply isNaN_ite rfl
  apply isNaN_ite
  · exact isNaN_mul rfl ⟨_, _, _, _, rfl⟩
  · exact isNaN_div rfl ⟨_, _, _, _, rfl⟩

theorem isNaN_ofScientific (m : Nat) (s : Bool) (e : Nat) :
    (Float.ofScientific m s e).isNaN = false := by
  unfold Float.ofScientific
  split
  · have hm : (content m.toUInt64.toFloat).isNaN = false :=
      (isNaN_pack _).trans (isNaN_ofInt _)
    -- The digits are multiplied with a tabled power of ten, or divided by one.
    split
    · exact (isNaN_pack _).trans (isNaN_div hm (isOrdinary_powersOfTen (Array.getElem_mem _)))
    · exact (isNaN_pack _).trans (isNaN_mul hm (isOrdinary_powersOfTen (Array.getElem_mem _)))
  · exact (isNaN_pack _).trans (isNaN_ofScientific_content _ _)

/-! ## §4. Texts -/

/-- **The float nearest to a decimal is a number.** -/
theorem isNaN_nearest (digits : Nat) (exponent : Int) :
    (nearest digits exponent).isNaN = false := by
  unfold nearest
  simp only
  split
  · decide
  · split
    · decide
    · split
      · decide
      · exact isNaN_ofScientific _ _ _

theorem isNaN_signed (negative : Bool) (x : Float) : (signed negative x).isNaN = x.isNaN := by
  cases negative with
  | false => rfl
  | true => exact isNaN_neg x

/-- Does a text spell NaN: the word `nan` in any case, behind a sign or none? -/
def spellsNaN (cs : List Char) : Bool := Text.isWordAnyCase ['n', 'a', 'n'] (sign cs).2

/-- **A text is read as NaN exactly if it spells NaN.** -/
theorem isNaN_of_float? {cs : List Char} {x : Float} (h : float? cs = some x) :
    x.isNaN = spellsNaN cs := by
  unfold float? at h
  unfold spellsNaN
  simp only at h
  split at h
  · -- An infinity: its words are not that of NaN.
    rename_i hinf
    obtain rfl := Option.some.inj h
    rw [isNaN_signed]
    simp only [Text.isWordAnyCase, Bool.or_eq_true, beq_iff_eq] at hinf ⊢
    rcases hinf with hword | hword <;> rw [hword] <;> decide
  · split at h
    · rename_i hnan
      obtain rfl := Option.some.inj h
      rw [hnan]
      decide
    · rename_i hnan
      obtain ⟨w, -, rfl⟩ := Option.map_eq_some_iff.1 h
      rw [isNaN_signed, isNaN_nearest]
      exact (Bool.eq_false_iff.2 hnan).symm

/-- What spells NaN is read as a float. -/
theorem float?_of_spellsNaN {cs : List Char} (h : spellsNaN cs = true) :
    ∃ x, float? cs = some x := by
  unfold spellsNaN at h
  unfold float?
  simp only
  split
  · exact ⟨_, rfl⟩
  · exact ⟨_, rfl⟩

end ContentGate.Decimal
