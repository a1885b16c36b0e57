/-
  ContentGate.Proofs.Evaluation.SameQuestions — attributes and calls.

  A tag can ask about its visitor by an attribute, which becomes a predicate,
  or by a call of a function.  Both ask the profile the same: whether the
  visitor is logged in, has a capability, or has a true option.

  Meta entries are asked for with a user's number, and the call has to get
  that number from another call, as a float.  The float is read back as a
  signed integer: a number of more than 53 significant binary digits has
  become another one by then, and one from `2^63` on has been kept within 64
  bits (`intArgument_ofNat`).  The profile is then asked about someone else, of
  whom it knows nothing.  So predicate and call agree on a true entry exactly
  for the numbers that keep what they are (`KeepsItsNumber`).

  Main statements:
    * `intArgument_ofNat` — a user's number as a float and back;
    * `sameAnswer_userMeta_iff` — when a meta entry has two answers;
    * `own_questions_agree_iff` — all four questions.
-/
import ContentGate.Evaluation.Context
import ContentGate.Proofs.Decimal.Integers

namespace ContentGate

open Decimal (unit clampInt64)

/-! ## §1. A user's number as a float and back -/

namespace Function

theorem toNat_userOfInt_clampInt64 (n : Nat) :
    (userOfInt (clampInt64 n)).toNat = min n (2 ^ 63 - 1) := by
  have hmin : (max Decimal.int64Min (min (n : Int) Decimal.int64Max)).toNat
      = min n (2 ^ 63 - 1) := by
    unfold Decimal.int64Min Decimal.int64Max
    omega
  unfold userOfInt
  rw [Decimal.toInt_clampInt64, hmin]
  exact UInt64.toNat_ofNat_of_lt' (Nat.lt_of_le_of_lt (Nat.min_le_right _ _) (by decide))

/-- The user numbers that are the same after they have been floats: those of at most 53 significant
binary digits that a signed integer of 64 bits can hold, and the greatest such integer. -/
def KeepsItsNumber (id : UserId) : Prop :=
  (id.toNat < 2 ^ 63 ∧ unit id.toNat ∣ id.toNat) ∨ id.toNat = 2 ^ 63 - 1

instance (id : UserId) : Decidable (KeepsItsNumber id) := inferInstanceAs (Decidable (_ ∨ _))

/-- The greatest signed integer is rounded up to the next power of two. -/
theorem whole?_ofNat_int64Max :
    (Decimal.Binary.ofFloat (Decimal.ofNat (2 ^ 63 - 1))).whole? = some (2 ^ 63) := by
  decide +kernel

/-- **The number of a user is read back as an integer**; that is the same user exactly if the number
is kept. -/
theorem intArgument_ofNat (function : String) (id : UserId) :
    ∃ n, intArgument function (.number (Decimal.ofNat id.toNat)) = .ok n
      ∧ (userOfInt n = id ↔ KeepsItsNumber id) := by
  obtain ⟨v, hwhole, hunit, hexact⟩ := Decimal.whole?_ofNat id.toNat_lt
  refine ⟨clampInt64 v, ?_, ?_⟩
  · have hint : (Value.number (Decimal.ofNat id.toNat)).int64? = some (clampInt64 v) := by
      show (Decimal.Binary.ofFloat (Decimal.ofNat id.toNat)).whole?.bind _ = _
      rw [hwhole]
      rfl
    unfold intArgument
    rw [hint]
  · rw [← UInt64.toNat_inj, toNat_userOfInt_clampInt64]
    unfold KeepsItsNumber
    constructor
    · intro heq
      cases Nat.lt_or_ge v (2 ^ 63 - 1) with
      | inl hlt =>
        -- The value of the float is the number, and so the number is a multiple of its unit.
        rw [Nat.min_eq_left (Nat.le_of_lt hlt)] at heq
        rw [heq] at hlt hunit
        exact .inl ⟨Nat.lt_of_lt_of_le hlt (Nat.sub_le _ _), hunit⟩
      | inr hge =>
        rw [Nat.min_eq_right hge] at heq
        exact .inr heq.symm
    · intro hkeeps
      cases hkeeps with
      | inl hkeeps =>
        rw [hexact hkeeps.2]
        omega
      | inr hmax =>
        -- The float is beyond the integers of 64 bits, which brings it back to the greatest one.
        rw [hmax, whole?_ofNat_int64Max] at hwhole
        have hv : (2 ^ 63 : Int) = v := Option.some.inj hwhole
        omega

end Function

/-! ## §2. What a profile says -/

namespace Profile

variable (p : Profile) (user : UserId) (key : String)

/-- An answer that is kept for a profile's own user. -/
theorem truthy_ofOwn (v : Value) :
    (if user == 0 || user != p.id then Value.null else v).truthy
      = (user != 0 && user == p.id && v.truthy) := by
  cases hzero : user == 0 with
  | false => cases hown : user == p.id <;> simp [bne, hzero, hown, Value.truthy]
  | true => simp [bne, hzero, Value.truthy]

theorem truthy_option :
    (p.visitor.option user key).truthy
      = (user != 0 && user == p.id && (lookup key p.options).truthy) :=
  truthy_ofOwn p user _

theorem truthy_userMeta :
    (p.visitor.userMeta user key).truthy
      = (user != 0 && user == p.id && (lookup key p.userMeta).truthy) :=
  truthy_ofOwn p user _

end Profile

/-! ## §3. Predicates and calls -/

namespace Context

variable {κ : Type}

/-- In a session, the value of a predicate is the truth of a call. -/
def SameAnswer (c : Context κ) (σ : Session κ) (p : Predicate) (call : Expression) : Prop :=
  (c.value (.predicate p)).run.run σ = (Value.bool <$> c.holds call).run.run σ

theorem sameAnswer_iff {c : Context κ} {σ : Session κ} {p : Predicate} {call : Expression}
    {b : Bool} {v : Value} (hp : c.answer p = pure b) (hcall : c.value call = pure v) :
    c.SameAnswer σ p call ↔ b = v.truthy := by
  have hleft : c.value (.predicate p) = pure (.bool b) := by
    show (c.answer p >>= fun b => pure (Value.bool b)) = _
    rw [hp]
    rfl
  have hright : Value.bool <$> c.holds call = pure (.bool v.truthy) := by
    show Value.bool <$> (c.value call >>= fun v => pure v.truthy) = _
    rw [hcall]
    rfl
  unfold SameAnswer
  rw [hleft, hright]
  show ((Except.ok (.bool b), σ) : Except EvalError Value × Session κ) = (.ok (.bool v.truthy), σ) ↔ _
  constructor
  · intro h
    injection h with h
    injection h with h
    injection h
  · intro h
    rw [h]

variable (c : Context κ) (p : Profile) (σ : Session κ) (capability key : String)

/-- The context for a profile, with the functions that every registry may start with. -/
def ofProfile : Context κ := { c with visitor := p.visitor, functions := .builtins }

theorem sameAnswer_userLoggedIn :
    (c.ofProfile p).SameAnswer σ .userLoggedIn (.call "is_user_logged_in" []) :=
  (sameAnswer_iff (v := .bool p.visitor.isLoggedIn) rfl rfl).2 rfl

theorem sameAnswer_userCan :
    (c.ofProfile p).SameAnswer σ (.userCan capability)
      (.call "current_user_can" [.literal (.string capability)]) :=
  (sameAnswer_iff (v := .bool (p.visitor.can capability)) rfl rfl).2 rfl

theorem sameAnswer_userOption :
    (c.ofProfile p).SameAnswer σ (.userOption p.id key)
      (.call "get_user_option" [.literal (.string key)]) := by
  apply (sameAnswer_iff (v := p.visitor.option p.id key) rfl rfl).2
  show (p.id != 0 && (p.visitor.option p.id key).truthy) = _
  rw [Profile.truthy_option]
  cases p.id != 0 <;> rfl

/-- The call that asks for a meta entry of the current user. -/
def userMetaCall : Expression :=
  .call "get_user_meta" [.call "get_current_user_id" [], .literal (.string key)]

theorem value_userMetaCall {n : Int64}
    (hn : Function.intArgument "get_user_meta" (.number (Decimal.ofNat p.id.toNat)) = .ok n) :
    (c.ofProfile p).value (userMetaCall key)
      = pure (p.visitor.userMeta (Function.userOfInt n) key) := by
  show (liftM (Function.intArgument "get_user_meta" (.number (Decimal.ofNat p.id.toNat)) >>=
    fun n => Except.ok (p.visitor.userMeta (Function.userOfInt n) key)) : Evaluation κ Value) = _
  rw [hn]
  rfl

/-- **A meta entry has the same answer twice** exactly if the user's number is kept, or the entry is
not true anyway. -/
theorem sameAnswer_userMeta_iff :
    (c.ofProfile p).SameAnswer σ (.userMeta p.id key) (userMetaCall key)
      ↔ Function.KeepsItsNumber p.id ∨ (Profile.lookup key p.userMeta).truthy = false := by
  obtain ⟨n, hn, hkeeps⟩ := Function.intArgument_ofNat "get_user_meta" p.id
  rw [sameAnswer_iff rfl (value_userMetaCall c p key hn), ← hkeeps]
  show (p.id != 0 && (p.visitor.userMeta p.id key).truthy) = _ ↔ _
  rw [Profile.truthy_userMeta, Profile.truthy_userMeta]
  by_cases hown : Function.userOfInt n = p.id
  · rw [hown]
    cases p.id != 0 <;> simp
  · -- The call asks about someone else; that its own number is lost shows it is not zero.
    have hnonzero : (p.id != 0) = true := by
      rw [bne_iff_ne]
      intro hzero
      exact hown (hkeeps.2 (hzero ▸ by decide))
    have hother : (Function.userOfInt n == p.id) = false := beq_eq_false_iff_ne.2 hown
    simp [hnonzero, hother, hown]

/-- **Attributes and calls ask the same question**, of every profile, with one exception: a meta
entry that is true is not found by the call where the user's number is not kept. -/
theorem own_questions_agree_iff :
    (c.ofProfile p).SameAnswer σ .userLoggedIn (.call "is_user_logged_in" [])
      ∧ (c.ofProfile p).SameAnswer σ (.userCan capability)
          (.call "current_user_can" [.literal (.string capability)])
      ∧ (c.ofProfile p).SameAnswer σ (.userOption p.id key)
          (.call "get_user_option" [.literal (.string key)])
      ∧ ((c.ofProfile p).SameAnswer σ (.userMeta p.id key)
            (.call "get_user_meta" [.call "get_current_user_id" [], .literal (.string key)])
          ↔ Function.KeepsItsNumber p.id ∨ (Profile.lookup key p.userMeta).truthy = false) :=
  ⟨sameAnswer_userLoggedIn c p σ, sameAnswer_userCan c p σ capability,
    sameAnswer_userOption c p σ key, sameAnswer_userMeta_iff c p σ key⟩

end Context

/-- The user with the first number that is not kept, who has a level. -/
def Profile.numbered : Profile where
  id := 9007199254740993
  userMeta := [("level", .string "gold")]

/-- A page without commerce, shown to that user. -/
def Context.numbered : Context Unit where
  visitor := Profile.numbered.visitor
  functions := .builtins

/-- The predicate finds the level of that user, and the call, which asks about the user before,
does not. -/
theorem Context.level_not_found :
    (Context.numbered.value (.predicate (.userMeta 9007199254740993 "level"))).run.run ⟨(), {}, {}, []⟩
        = (.ok (.bool true), ⟨(), {}, {}, []⟩)
      ∧ (Context.numbered.value
          (.call "get_user_meta" [.call "get_current_user_id" [], .literal (.string "level")])).run.run
            ⟨(), {}, {}, []⟩
        = (.ok .null, ⟨(), {}, {}, []⟩) := by
  have hint : (Value.number (Decimal.ofNat 9007199254740993)).int64? = some 9007199254740992 := by
    decide +kernel
  have hn : Function.intArgument "get_user_meta" (.number (Decimal.ofNat 9007199254740993))
      = .ok 9007199254740992 := by
    unfold Function.intArgument
    rw [hint]
  have hcall := value_userMetaCall Context.numbered .numbered "level" hn
  constructor
  · rfl
  · show ((Context.numbered.ofProfile .numbered).value (userMetaCall "level")).run.run _ = _
    rw [hcall]
    rfl

end ContentGate
