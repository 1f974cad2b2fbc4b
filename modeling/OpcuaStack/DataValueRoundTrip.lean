import OpcuaStack.VariantRoundTrip

/-!
# Which DataValues come back from their encoding

A part of a DataValue is written if a predicate says that it is there, and read back
as its default if it was not written.  The predicates are coarser than that: an array
of null elements counts as no value, and every status of good severity as `Good`.
-/

namespace OpcuaStack
namespace Binary
namespace Bounded

variable (forms : Representations)

theorem variantIsNull_iff (value : Variant) :
    variantIsNull value = true ↔
      value = .null ∨ ∃ elements, value = .array .empty elements := by
  constructor
  · intro hnull
    cases value with
    | scalar type value =>
        obtain rfl : type = .empty := by simpa [variantIsNull, variantType] using hnull
        exact .inl rfl
    | array type elements =>
        obtain rfl : type = .empty := by simpa [variantIsNull, variantType] using hnull
        exact .inr ⟨elements, rfl⟩
    | dataValue | variant | dataValueArray | variantArray =>
        simp [variantIsNull, variantType] at hnull
  · rintro (rfl | ⟨elements, rfl⟩) <;> rfl

/-- A code is held in the higher half of a status, and returns if it fits there. -/
theorem code_ofCode_iff (code : StatusCode) :
    (Status.ofCode code).code = code ↔ code.raw.toNat < 2 ^ 16 := by
  obtain ⟨raw⟩ := code
  have hnumber : ((raw <<< 16) >>> 16).toNat = raw.toNat % 2 ^ 16 := by
    simp only [UInt32.toNat_shiftRight, UInt32.toNat_shiftLeft, Nat.shiftLeft_eq,
      Nat.shiftRight_eq_div_pow, UInt32.reduceToNat, Nat.reduceMod, Nat.reducePow]
    omega
  rw [Status.ofCode, Status.code, StatusCode.mk.injEq, ← UInt32.toNat_inj, hnumber]
  dsimp only
  omega

/-- The status of a DataValue returns if it is `Good`, or is not of good severity. -/
theorem statusOnWire_iff (code : StatusCode) :
    (if codeIsGood code then .good else (Status.ofCode code).code) = code ↔
      code = .good ∨ codeIsGood code = false ∧ code.raw.toNat < 2 ^ 16 := by
  cases hgood : codeIsGood code with
  | true =>
      rw [if_pos rfl]
      simp [eq_comm]
  | false =>
      rw [if_neg Bool.false_ne_true, code_ofCode_iff]
      constructor
      · intro hfits
        exact .inr ⟨rfl, hfits⟩
      · rintro (rfl | ⟨-, hfits⟩)
        · exact absurd hgood (by decide)
        · exact hfits

/-- The value of a DataValue returns unless it is an array of null elements. -/
theorem valueOnWire_iff (value : Variant) :
    (if variantIsNull value then .null else value) = value ↔
      ∀ elements, value ≠ .array .empty elements := by
  by_cases hnull : variantIsNull value
  · rw [if_pos hnull]
    obtain rfl | ⟨elements, rfl⟩ := (variantIsNull_iff value).mp hnull
    · exact iff_of_true rfl fun _ => nofun
    · exact iff_of_false nofun fun hno => hno elements rfl
  · rw [if_neg hnull]
    refine iff_of_true rfl fun elements helements => hnull ?_
    exact (variantIsNull_iff value).mpr (.inr ⟨elements, helements⟩)

theorem dataValueOnWire_eq_iff {value : DataValue} (hqualifier : value.qualifier = 0) :
    dataValueOnWire value value.value = value ↔
      (∀ elements, value.value ≠ .array .empty elements) ∧
        (value.statusCode = .good ∨
          codeIsGood value.statusCode = false ∧
            value.statusCode.raw.toNat < 2 ^ 16) := by
  rw [← valueOnWire_iff, ← statusOnWire_iff]
  obtain ⟨value, qualifier, source, server, code⟩ := value
  obtain rfl : qualifier = 0 := hqualifier
  rw [dataValueOnWire, DataValue.mk.injEq]
  simp

section

variable {value : DataValue}
  (hsource : int64Min ≤ value.sourceTimestamp.ticks ∧
    value.sourceTimestamp.ticks ≤ int64Max)
  (hserver : int64Min ≤ value.serverTimestamp.ticks ∧
    value.serverTimestamp.ticks ≤ int64Max)
  (hvalue : (decodeVariant forms).Returns (encodeVariant forms value.value)
    value.value)
  (hfits : ∀ written, encodeDataValue forms value = some written →
    written.length < 2 ^ 63)
include hsource hserver hvalue hfits

/-- One encoding returns one DataValue only. -/
theorem returns_iff_onWire :
    (decodeDataValue forms).Returns (encodeDataValue forms value) value ↔
      dataValueOnWire value value.value = value := by
  have hwire := returns_dataValueOnWire forms
    (yields_dateTime hsource.1 hsource.2) (yields_dateTime hserver.1 hserver.2)
    hvalue
  constructor
  · intro hreturns
    have ⟨written, hwritten, _⟩ := hreturns
    rw [hwritten] at hwire hreturns
    exact hwire.unique (hfits written hwritten) hreturns
  · intro heq
    rwa [heq] at hwire

/-- A DataValue without qualifier, whose value returns by itself, returns from its
encoding in front of any bytes exactly if the value is no array of null elements and
the status is `Good` or not of good severity. -/
theorem dataValue_returns_iff (hqualifier : value.qualifier = 0) :
    (decodeDataValue forms).Returns (encodeDataValue forms value) value ↔
      (∀ elements, value.value ≠ .array .empty elements) ∧
        (value.statusCode = .good ∨
          codeIsGood value.statusCode = false ∧
            value.statusCode.raw.toNat < 2 ^ 16) :=
  (returns_iff_onWire forms hsource hserver hvalue hfits).trans
    (dataValueOnWire_eq_iff hqualifier)

end

/-! ## What is dropped -/

def unstamped (value : Variant) (statusCode : StatusCode) : DataValue where
  value := value
  qualifier := 0
  sourceTimestamp := {}
  serverTimestamp := {}
  statusCode := statusCode

/-- `Good_Pending`. -/
def goodPending : StatusCode := ⟨1⟩

theorem nullElements_return :
    (decodeVariant sampleForms).Returns
      (encodeVariant sampleForms (.array .empty [(), ()]))
      (.array .empty [(), ()]) :=
  returns_variant sampleForms (.array .empty [(), ()])
    ⟨⟨by decide, by decide⟩, fun _ _ _ => .pure ()⟩

theorem null_returns :
    (decodeVariant sampleForms).Returns (encodeVariant sampleForms .null) .null :=
  returns_variant sampleForms .null fun _ => .pure ()

theorem unstamped_fits {value : Variant} {statusCode : StatusCode} (length : ℕ)
    (hlength : (encodeDataValue sampleForms (unstamped value statusCode)).map
      List.length = some length) (hshort : length < 2 ^ 63) (written : ByteString)
    (hwritten : encodeDataValue sampleForms (unstamped value statusCode) =
      some written) : written.length < 2 ^ 63 := by
  rw [hwritten, Option.map_some, Option.some.injEq] at hlength
  rwa [hlength]

theorem bad_returns :
    (decodeDataValue sampleForms).Returns
      (encodeDataValue sampleForms (unstamped .null .bad))
      (unstamped .null .bad) :=
  (dataValue_returns_iff sampleForms (by decide) (by decide) null_returns
    (unstamped_fits 5 (by decide) (by norm_num)) rfl).mpr
    ⟨fun _ => nofun, .inr (by decide)⟩

/-- Two null elements come back as no value, and `Good_Pending` as `Good`, though
the values themselves return. -/
theorem dropped_not_returned :
    ((decodeVariant sampleForms).Returns
        (encodeVariant sampleForms (.array .empty [(), ()]))
        (.array .empty [(), ()]) ∧
      ¬ (decodeDataValue sampleForms).Returns
        (encodeDataValue sampleForms (unstamped (.array .empty [(), ()]) .good))
        (unstamped (.array .empty [(), ()]) .good)) ∧
    (decodeVariant sampleForms).Returns (encodeVariant sampleForms .null) .null ∧
      ¬ (decodeDataValue sampleForms).Returns
        (encodeDataValue sampleForms (unstamped .null goodPending))
        (unstamped .null goodPending) := by
  refine ⟨⟨nullElements_return, fun hreturns => ?_⟩, null_returns,
    fun hreturns => ?_⟩
  · have hsame := (returns_iff_onWire sampleForms (by decide) (by decide)
      nullElements_return (unstamped_fits 1 (by decide) (by norm_num))).mp
      hreturns
    exact ((dataValueOnWire_eq_iff rfl).mp hsame).1 [(), ()] rfl
  · have hsame := (returns_iff_onWire sampleForms (by decide) (by decide)
      null_returns (unstamped_fits 1 (by decide) (by norm_num))).mp hreturns
    exact absurd ((dataValueOnWire_eq_iff rfl).mp hsame).2 (by decide)

end Bounded
end Binary
end OpcuaStack
