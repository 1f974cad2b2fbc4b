import Mathlib.Tactic

/-!
# Integers of a fixed width

A format holds the integers of a range.  Conversion into a format keeps the low bits of
a number, so that a number comes back unchanged if and only if the format holds it, and
nothing is lost on the way through a format which is not narrower.
-/

namespace OpcuaStack

structure IntegerFormat where
  signed : Bool
  bits : ℕ
deriving DecidableEq

namespace IntegerFormat

variable {f g : IntegerFormat} {number other : Int}

def least (f : IntegerFormat) : Int := if f.signed then -2 ^ (f.bits - 1) else 0

def greatest (f : IntegerFormat) : Int :=
  if f.signed then 2 ^ (f.bits - 1) - 1 else 2 ^ f.bits - 1

/-- The number is representable. -/
def Holds (f : IntegerFormat) (number : Int) : Prop :=
  f.least ≤ number ∧ number ≤ f.greatest

instance (f : IntegerFormat) (number : Int) : Decidable (f.Holds number) :=
  inferInstanceAs (Decidable (_ ∧ _))

/-- The number which the low bits stand for. -/
def wrapped (f : IntegerFormat) (number : Int) : Int :=
  if f.signed then number.bmod (2 ^ f.bits) else number % 2 ^ f.bits

theorem two_pow_cast (f : IntegerFormat) : ((2 ^ f.bits : ℕ) : Int) = 2 ^ f.bits := by
  push_cast
  rfl

theorem wrapped_emod (f : IntegerFormat) (number : Int) :
    f.wrapped number % 2 ^ f.bits = number % 2 ^ f.bits := by
  unfold wrapped
  split
  · rw [← two_pow_cast f]
    exact Int.bmod_emod
  · exact Int.emod_emod ..

theorem wrapped_congr (h : number % 2 ^ f.bits = other % 2 ^ f.bits) :
    f.wrapped number = f.wrapped other := by
  unfold wrapped
  split
  · rw [Int.bmod_def, Int.bmod_def, two_pow_cast f, h]
  · exact h

theorem wrapped_wrapped (hbits : f.bits ≤ g.bits) (number : Int) :
    f.wrapped (g.wrapped number) = f.wrapped number := by
  have hdvd : (2 ^ f.bits : Int) ∣ 2 ^ g.bits := pow_dvd_pow 2 hbits
  apply wrapped_congr
  calc
    g.wrapped number % 2 ^ f.bits = g.wrapped number % 2 ^ g.bits % 2 ^ f.bits :=
      (Int.emod_emod_of_dvd _ hdvd).symm
    _ = number % 2 ^ g.bits % 2 ^ f.bits := by rw [g.wrapped_emod]
    _ = number % 2 ^ f.bits := Int.emod_emod_of_dvd _ hdvd

theorem wrapped_eq_iff (hbits : 0 < f.bits) : f.wrapped number = number ↔ f.Holds number := by
  obtain ⟨half, hhalf⟩ := Nat.exists_eq_succ_of_ne_zero hbits.ne'
  have hdouble : (2 : Int) ^ f.bits = 2 * 2 ^ (f.bits - 1) := by
    rw [hhalf, Nat.succ_sub_one, pow_succ']
  have hpositive : (0 : Int) < 2 ^ (f.bits - 1) := by positivity
  unfold wrapped Holds least greatest
  cases f.signed with
  | true =>
      rw [if_pos rfl, if_pos rfl, if_pos rfl, Int.bmod_def, two_pow_cast f, hdouble]
      have hlow := Int.emod_nonneg number (by omega : 2 * (2 : Int) ^ (f.bits - 1) ≠ 0)
      have hhigh := Int.emod_lt_of_pos number (by omega : 0 < 2 * (2 : Int) ^ (f.bits - 1))
      generalize (2 : Int) ^ (f.bits - 1) = half at *
      constructor
      · intro h
        split at h <;> omega
      · rintro ⟨hleast, hgreatest⟩
        by_cases hsign : 0 ≤ number
        · rw [Int.emod_eq_of_lt hsign (by omega), if_pos (by omega)]
        · have hshift : number % (2 * half) = number + 2 * half := by
            rw [← Int.add_emod_right, Int.emod_eq_of_lt (by omega) (by omega)]
          rw [hshift, if_neg (by omega)]
          omega
  | false =>
      rw [if_neg Bool.false_ne_true, if_neg Bool.false_ne_true, if_neg Bool.false_ne_true]
      constructor
      · intro h
        have hlow := Int.emod_nonneg number (by omega : (2 : Int) ^ f.bits ≠ 0)
        have hhigh := Int.emod_lt_of_pos number (by omega : 0 < (2 : Int) ^ f.bits)
        omega
      · rintro ⟨hleast, hgreatest⟩
        exact Int.emod_eq_of_lt hleast (by omega)

theorem wrapped_of_holds (hbits : 0 < f.bits) (h : f.Holds number) :
    f.wrapped number = number := (wrapped_eq_iff hbits).mpr h

theorem holds_wrapped (hbits : 0 < f.bits) (number : Int) : f.Holds (f.wrapped number) :=
  (wrapped_eq_iff hbits).mp (wrapped_wrapped le_rfl number)

theorem Holds.of_narrower (h : f.Holds number) (hbits : f.bits < g.bits)
    (hsigned : g.signed) : g.Holds number := by
  have hunsigned : (2 : Int) ^ f.bits ≤ 2 ^ (g.bits - 1) :=
    pow_le_pow_right₀ (by norm_num) (by omega)
  have hhalf : (2 : Int) ^ (f.bits - 1) ≤ 2 ^ (g.bits - 1) :=
    pow_le_pow_right₀ (by norm_num) (by omega)
  have hpositive : (0 : Int) < 2 ^ (g.bits - 1) := by positivity
  unfold Holds least greatest at *
  rw [if_pos hsigned, if_pos hsigned]
  split at h <;> omega

end IntegerFormat
end OpcuaStack
