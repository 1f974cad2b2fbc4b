import OpcuaStack.MachineIntegers
import OpcuaStack.VariantCodec

/-!
# Reading a variant as another type

The `get` overloads of `types/variant.h` and `Variant::ChangeType`.  Every integer is
read through an `Int64`, and a cast is checked by casting back.  The output is assigned
before the check.
-/

namespace OpcuaStack

/-- The integer types which a variant is read as. -/
inductive IntegerType where
  | int8 | uint8 | int16 | uint16 | int32 | uint32 | int64 | uint64
deriving DecidableEq

namespace IntegerType

def plain : IntegerType → PlainType
  | .int8 => .int8
  | .uint8 => .uint8
  | .int16 => .int16
  | .uint16 => .uint16
  | .int32 => .int32
  | .uint32 => .uint32
  | .int64 => .int64
  | .uint64 => .uint64

abbrev Carrier (T : IntegerType) : Type := T.plain.Carrier

def format : IntegerType → IntegerFormat
  | .int8 => ⟨true, 8⟩
  | .uint8 => ⟨false, 8⟩
  | .int16 => ⟨true, 16⟩
  | .uint16 => ⟨false, 16⟩
  | .int32 => ⟨true, 32⟩
  | .uint32 => ⟨false, 32⟩
  | .int64 => ⟨true, 64⟩
  | .uint64 => ⟨false, 64⟩

def toInt : (T : IntegerType) → T.Carrier → Int
  | .int8, (value : Int8) => value.toInt
  | .uint8, (value : UInt8) => value.toNat
  | .int16, (value : Int16) => value.toInt
  | .uint16, (value : UInt16) => value.toNat
  | .int32, (value : Int32) => value.toInt
  | .uint32, (value : UInt32) => value.toNat
  | .int64, (value : Int64) => value.toInt
  | .uint64, (value : UInt64) => value.toNat

/-- `static_cast`. -/
def cast : (T : IntegerType) → Int → T.Carrier
  | .int8, number => Int8.ofInt number
  | .uint8, number => UInt8.ofInt number
  | .int16, number => Int16.ofInt number
  | .uint16, number => UInt16.ofInt number
  | .int32, number => Int32.ofInt number
  | .uint32, number => UInt32.ofInt number
  | .int64, number => Int64.ofInt number
  | .uint64, number => UInt64.ofInt number

theorem toInt_injective (T : IntegerType) : Function.Injective T.toInt := by
  intro value other h
  cases T with
  | int8 => exact Int8.toInt_inj.mp h
  | uint8 => exact UInt8.toNat_inj.mp (Int.ofNat_inj.mp h)
  | int16 => exact Int16.toInt_inj.mp h
  | uint16 => exact UInt16.toNat_inj.mp (Int.ofNat_inj.mp h)
  | int32 => exact Int32.toInt_inj.mp h
  | uint32 => exact UInt32.toNat_inj.mp (Int.ofNat_inj.mp h)
  | int64 => exact Int64.toInt_inj.mp h
  | uint64 => exact UInt64.toNat_inj.mp (Int.ofNat_inj.mp h)

theorem toInt_cast (T : IntegerType) (number : Int) :
    T.toInt (T.cast number) = T.format.wrapped number := by
  have hmod : ∀ modulus : ℕ, 0 < modulus →
      (((number % (modulus : Int)).toNat % modulus : ℕ) : Int) = number % modulus := by
    intro modulus hpositive
    have hnonneg := Int.emod_nonneg number (by omega : (modulus : Int) ≠ 0)
    have hlt := Int.emod_lt_of_pos number (by omega : 0 < (modulus : Int))
    rw [Nat.mod_eq_of_lt (by omega), Int.toNat_of_nonneg hnonneg]
  cases T with
  | int8 => exact Int8.toInt_ofInt
  | uint8 => exact hmod (2 ^ 8) (by norm_num)
  | int16 => exact Int16.toInt_ofInt
  | uint16 => exact hmod (2 ^ 16) (by norm_num)
  | int32 => exact Int32.toInt_ofInt
  | uint32 => exact hmod (2 ^ 32) (by norm_num)
  | int64 => exact Int64.toInt_ofInt
  | uint64 => exact hmod (2 ^ 64) (by norm_num)

theorem bits_pos (T : IntegerType) : 0 < T.format.bits := by
  cases T <;> decide

theorem bits_le (T : IntegerType) : T.format.bits ≤ 64 := by
  cases T <;> decide

theorem holds_toInt (T : IntegerType) (value : T.Carrier) :
    T.format.Holds (T.toInt value) := by
  have hunsigned : ∀ {number bits : ℕ}, number < 2 ^ bits → (number : Int) ≤ 2 ^ bits - 1 := by
    intro number bits h
    have hcast : (number : Int) < 2 ^ bits := by exact_mod_cast h
    omega
  cases T with
  | int8 => exact ⟨Int8.le_toInt value, Int.le_sub_one_of_lt (Int8.toInt_lt value)⟩
  | uint8 => exact ⟨Int.natCast_nonneg _, hunsigned (UInt8.toNat_lt value)⟩
  | int16 => exact ⟨Int16.le_toInt value, Int.le_sub_one_of_lt (Int16.toInt_lt value)⟩
  | uint16 => exact ⟨Int.natCast_nonneg _, hunsigned (UInt16.toNat_lt value)⟩
  | int32 => exact ⟨Int32.le_toInt value, Int.le_sub_one_of_lt (Int32.toInt_lt value)⟩
  | uint32 => exact ⟨Int.natCast_nonneg _, hunsigned (UInt32.toNat_lt value)⟩
  | int64 => exact ⟨Int64.le_toInt value, Int.le_sub_one_of_lt (Int64.toInt_lt value)⟩
  | uint64 => exact ⟨Int.natCast_nonneg _, hunsigned (UInt64.toNat_lt value)⟩

theorem cast_toInt (T : IntegerType) (value : T.Carrier) : T.cast (T.toInt value) = value := by
  apply T.toInt_injective
  rw [toInt_cast, IntegerFormat.wrapped_of_holds T.bits_pos (T.holds_toInt value)]

end IntegerType

/-! ## Reading an integer -/

namespace Variant

/-- `get` of an integer: what it returns, and what it leaves in its output. -/
def getInteger (T : IntegerType) (value : Variant) (old : T.Carrier) : Bool × T.Carrier :=
  match value.getInt64 with
  | none => (false, old)
  | some number =>
      -- Only `Int64` has an overload which checks nothing.
      if T = .int64 then (true, T.cast number)
      else (wrapInt64 (T.toInt (T.cast number)) == number, T.cast number)

/-- The output alone.  A number which does not fit is cut, and kept. -/
def getInt {α : Type} (cast : Int → α) (value : Variant) (old : α) : α :=
  value.getInt64.elim old cast

/-- `get_or`. -/
def getIntegerOr (T : IntegerType) (value : Variant) (orValue : T.Carrier) : T.Carrier :=
  (value.getInteger T orValue).2

/-- `Variant::get` of a text, with what it writes for a value of any other type. -/
def getLocalizedText (formatted : Variant → Option LocalizedText) :
    Variant → Option LocalizedText
  | .scalar .empty _ => some {}
  | .scalar .localizedText (value : LocalizedText) => some value
  | value => formatted value

def getString (formatted : Variant → Option ByteText) : Variant → Option ByteText
  | .scalar .empty _ => some []
  | .scalar .string (value : ByteText) => some value
  | value => formatted value

/-- `ChangeTypeTo` for an integer. -/
def changeTypeToInteger (T : IntegerType) (value : Variant) : Option Variant :=
  let (returned, number) := value.getInteger T (T.cast 0)
  if returned then some (.scalar T.plain number) else none

def isScalar : Variant → Bool
  | .scalar .. | .dataValue _ | .variant _ => true
  | .array .. | .dataValueArray _ | .variantArray _ => false

section ChangeType

variable (formattedText : Variant → Option LocalizedText)
  (formattedString : Variant → Option ByteText)

/-- The switch of `ChangeType`. -/
def changeTypeTo (value : Variant) : Binary.BuiltInType → Option Variant
  | .plain .bool => value.getBool.map (.scalar .bool)
  | .plain .int8 => value.changeTypeToInteger .int8
  | .plain .uint8 => value.changeTypeToInteger .uint8
  | .plain .int16 => value.changeTypeToInteger .int16
  | .plain .uint16 => value.changeTypeToInteger .uint16
  | .plain .int32 => value.changeTypeToInteger .int32
  | .plain .uint32 => value.changeTypeToInteger .uint32
  | .plain .int64 => value.changeTypeToInteger .int64
  | .plain .uint64 => value.changeTypeToInteger .uint64
  | .plain .double => value.getDouble.map (.scalar .double)
  | .plain .string => (value.getString formattedString).map (.scalar .string)
  | .plain .qualifiedName => (value.getIf .qualifiedName).map (.scalar .qualifiedName)
  | .plain .localizedText =>
      (value.getLocalizedText formattedText).map (.scalar .localizedText)
  | .plain .nodeId => (value.getIf .nodeId).map (.scalar .nodeId)
  | _ => none

/-- `ChangeType`: what it returns, and what the variant is afterwards. -/
def changeType (value : Variant) (newType : Binary.BuiltInType) : Bool × Variant :=
  if !value.isScalar then (false, value)
  else if Binary.variantType value = newType then (true, value)
  else (value.changeTypeTo formattedText formattedString newType).elim (false, value)
    fun changed => (true, changed)

theorem changeType_of_false {value : Variant} {newType : Binary.BuiltInType}
    (h : (value.changeType formattedText formattedString newType).1 = false) :
    (value.changeType formattedText formattedString newType).2 = value := by
  unfold changeType at h ⊢
  split
  next => rfl
  next hscalar =>
    rw [if_neg hscalar] at h
    split
    next => rfl
    next htype =>
      rw [if_neg htype] at h
      cases hchanged : value.changeTypeTo formattedText formattedString newType with
      | none => rfl
      | some changed =>
          rw [hchanged] at h
          cases h

end ChangeType

end Variant

/-! ## What is asked of it -/

/-- A value of a boolean or an integer type. -/
inductive Integral where
  | bool (value : Bool)
  | integer (S : IntegerType) (value : S.Carrier)

namespace Integral

def variant : Integral → Variant
  | .bool value => .scalar .bool value
  | .integer S value => .scalar S.plain value

/-- The number it stands for. -/
def number : Integral → Int
  | .bool value => if value then 1 else 0
  | .integer S value => S.toInt value

theorem getInt64_variant (source : Integral) :
    source.variant.getInt64 = some (IntegerType.int64.format.wrapped source.number) := by
  have hheld : ∀ {number : Int}, IntegerType.int64.format.Holds number →
      some number = some (IntegerType.int64.format.wrapped number) := fun h =>
    congrArg some (IntegerFormat.wrapped_of_holds (by decide) h).symm
  have hnarrow : ∀ (S : IntegerType) (value : S.Carrier), S.format.bits < 64 →
      IntegerType.int64.format.Holds (S.toInt value) := fun S value hbits =>
    (S.holds_toInt value).of_narrower hbits rfl
  cases source with
  | bool value => cases value <;> exact hheld (by decide)
  | integer S value =>
      cases S with
      | int8 => exact hheld (hnarrow .int8 value (by decide))
      | uint8 => exact hheld (hnarrow .uint8 value (by decide))
      | int16 => exact hheld (hnarrow .int16 value (by decide))
      | uint16 => exact hheld (hnarrow .uint16 value (by decide))
      | int32 => exact hheld (hnarrow .int32 value (by decide))
      | uint32 => exact hheld (hnarrow .uint32 value (by decide))
      | int64 => exact hheld (IntegerType.int64.holds_toInt value)
      | uint64 =>
          have hsigned : (UInt64.toInt64 value).toInt =
              ((UInt64.toNat value : ℕ) : Int).bmod (2 ^ 64) := BitVec.toInt_eq_toNat_bmod _
          have hread : (integer .uint64 value).variant.getInt64 =
              some (UInt64.toInt64 value).toInt := rfl
          have hnumber : (integer .uint64 value).number = ((UInt64.toNat value : ℕ) : Int) := rfl
          have hwrapped : ∀ number : Int,
              IntegerType.int64.format.wrapped number = number.bmod (2 ^ 64) := fun _ => rfl
          rw [hread, hsigned, hnumber, hwrapped]

theorem getInteger_variant (source : Integral) (T : IntegerType) (old : T.Carrier) :
    source.variant.getInteger T old =
      (if T = .int64 then true
        else IntegerType.int64.format.wrapped (T.format.wrapped source.number) ==
          IntegerType.int64.format.wrapped source.number,
        T.cast source.number) := by
  have hcast : T.cast (IntegerType.int64.format.wrapped source.number) =
      T.cast source.number := by
    apply T.toInt_injective
    rw [T.toInt_cast, T.toInt_cast, IntegerFormat.wrapped_wrapped T.bits_le]
  rw [Variant.getInteger, getInt64_variant]
  dsimp only
  rw [hcast, T.toInt_cast]
  split <;> rfl

/-- What is asked of reading a value as an integer: it succeeds for a number which the
type holds and gives it, and leaves everything as it was if it does not. -/
structure ExtractsExactly (source : Integral) (T : IntegerType) (old : T.Carrier) : Prop where
  returns : (source.variant.getInteger T old).1 = true ↔ T.format.Holds source.number
  exact : T.format.Holds source.number →
    T.toInt (source.variant.getInteger T old).2 = source.number
  keeps : (source.variant.getInteger T old).1 = false →
    (source.variant.getInteger T old).2 = old
  getOr : (source.variant.getInteger T old).1 = false →
    source.variant.getIntegerOr T old = old
  changes : ∀ formattedText formattedString,
    (source.variant.changeType formattedText formattedString (.plain T.plain)).1 = false →
      (source.variant.changeType formattedText formattedString (.plain T.plain)).2 =
        source.variant

variable {source : Integral} {T : IntegerType} {old : T.Carrier}

/-- A number which the type holds is read whatever the way through an `Int64` does. -/
theorem extractsExactly_of_holds (h : T.format.Holds source.number) :
    source.ExtractsExactly T old := by
  have hwrapped := IntegerFormat.wrapped_of_holds T.bits_pos h
  have hreturned : (source.variant.getInteger T old).1 = true := by
    rw [getInteger_variant, hwrapped]
    dsimp only
    split
    · rfl
    · exact beq_self_eq_true _
  exact
    { returns := iff_of_true hreturned h
      exact := fun _ => by rw [getInteger_variant, T.toInt_cast, hwrapped]
      keeps := fun hfalse => absurd (hreturned.symm.trans hfalse) Bool.true_eq_false.mp
      getOr := fun hfalse => absurd (hreturned.symm.trans hfalse) Bool.true_eq_false.mp
      changes := fun _ _ => Variant.changeType_of_false _ _ }

theorem not_extractsExactly_of_wide (h : ¬T.format.Holds source.number)
    (hwide : T.format.bits = 64) : ¬source.ExtractsExactly T old := by
  intro hexact
  refine h (hexact.returns.mp ?_)
  rw [getInteger_variant]
  dsimp only
  split
  · rfl
  · rw [IntegerFormat.wrapped_wrapped (by rw [hwide]; exact le_rfl)]
    exact beq_self_eq_true _

theorem extractsExactly_iff_of_narrow (h : ¬T.format.Holds source.number)
    (hnarrow : T.format.bits < 64) :
    source.ExtractsExactly T old ↔
      ¬T.format.Holds (IntegerType.int64.format.wrapped source.number) ∧
        old = T.cast source.number := by
  have hother : T ≠ .int64 := fun heq => by rw [heq] at hnarrow; exact absurd hnarrow (by decide)
  have hheld : IntegerType.int64.format.wrapped (T.format.wrapped source.number) =
      T.format.wrapped source.number :=
    IntegerFormat.wrapped_of_holds (by decide)
      ((IntegerFormat.holds_wrapped T.bits_pos _).of_narrower hnarrow rfl)
  have hreturned : (source.variant.getInteger T old).1 = true ↔
      T.format.Holds (IntegerType.int64.format.wrapped source.number) := by
    rw [getInteger_variant, if_neg hother, hheld, beq_iff_eq,
      ← IntegerFormat.wrapped_eq_iff T.bits_pos, IntegerFormat.wrapped_wrapped T.bits_le]
  have houtput : (source.variant.getInteger T old).2 = T.cast source.number := by
    rw [getInteger_variant]
  constructor
  · intro hexact
    have hrefused : (source.variant.getInteger T old).1 = false :=
      Bool.eq_false_iff.mpr fun htrue => h (hexact.returns.mp htrue)
    refine ⟨fun hlow => ?_, (hexact.keeps hrefused).symm.trans houtput⟩
    rw [hreturned.mpr hlow] at hrefused
    cases hrefused
  · rintro ⟨hlow, hold⟩
    exact
      { returns := iff_of_false (fun htrue => hlow (hreturned.mp htrue)) h
        exact := fun hholds => absurd hholds h
        keeps := fun _ => houtput.trans hold.symm
        getOr := fun _ => houtput.trans hold.symm
        changes := fun _ _ => Variant.changeType_of_false _ _ }

/-- An integer is read as it should be if and only if the type holds it, or the type is
narrower than the `Int64` on the way, does not hold what the number is there, and the
output holds the low bits of the number already. -/
theorem integer_extracted_iff (source : Integral) (T : IntegerType) (old : T.Carrier) :
    source.ExtractsExactly T old ↔
      T.format.Holds source.number ∨
        T.format.bits < 64 ∧
          ¬T.format.Holds (IntegerType.int64.format.wrapped source.number) ∧
          old = T.cast source.number := by
  by_cases h : T.format.Holds source.number
  · exact iff_of_true (extractsExactly_of_holds h) (Or.inl h)
  rw [or_iff_right h]
  by_cases hnarrow : T.format.bits < 64
  · rw [and_iff_right hnarrow]
    exact extractsExactly_iff_of_narrow h hnarrow
  · have hwide : T.format.bits = 64 := le_antisymm T.bits_le (not_lt.mp hnarrow)
    exact iff_of_false (not_extractsExactly_of_wide h hwide) fun hboth => hnarrow hboth.1

/-- -1 is read as a `UInt64`, the largest `UInt64` as an `Int8`, and a refused 300 leaves
44 in the output. -/
theorem numbers_misread :
    ((integer .int32 (-1 : Int32)).variant.getInteger .uint64 (0 : UInt64) =
        (true, (0xffffffffffffffff : UInt64))) ∧
      ((integer .uint64 (0xffffffffffffffff : UInt64)).variant.getInteger .int8 (0 : Int8) =
        (true, (-1 : Int8))) ∧
      ((integer .int32 (300 : Int32)).variant.getInteger .uint8 (7 : UInt8) =
        (false, (44 : UInt8))) ∧
      ¬(integer .int32 (-1 : Int32)).ExtractsExactly .uint64 (0 : UInt64) ∧
      ¬(integer .uint64 (0xffffffffffffffff : UInt64)).ExtractsExactly .int8 (0 : Int8) ∧
      ¬(integer .int32 (300 : Int32)).ExtractsExactly .uint8 (7 : UInt8) := by
  have hnegative : (integer .int32 (-1 : Int32)).variant.getInteger .uint64 (0 : UInt64) =
      (true, (0xffffffffffffffff : UInt64)) := by
    refine (getInteger_variant _ .uint64 _).trans ?_
    exact Prod.ext (by decide) (by decide : UInt64.ofInt (-1) = 0xffffffffffffffff)
  have hlargest : (integer .uint64 (0xffffffffffffffff : UInt64)).variant.getInteger .int8
      (0 : Int8) = (true, (-1 : Int8)) := by
    refine (getInteger_variant _ .int8 _).trans ?_
    exact Prod.ext (by decide) (by decide : Int8.ofInt 0xffffffffffffffff = -1)
  have hrefused : (integer .int32 (300 : Int32)).variant.getInteger .uint8 (7 : UInt8) =
      (false, (44 : UInt8)) := by
    refine (getInteger_variant _ .uint8 _).trans ?_
    exact Prod.ext (by decide) (by decide : UInt8.ofInt 300 = 44)
  refine ⟨hnegative, hlargest, hrefused, fun h => ?_, fun h => ?_, fun h => ?_⟩
  · have hholds := h.returns.mp (congrArg Prod.fst hnegative)
    exact absurd hholds (by decide)
  · have hholds := h.returns.mp (congrArg Prod.fst hlargest)
    exact absurd hholds (by decide)
  · have hkept := h.keeps (congrArg Prod.fst hrefused)
    exact absurd ((congrArg Prod.snd hrefused).symm.trans hkept) (by decide : (44 : UInt8) ≠ 7)

end Integral
end OpcuaStack
