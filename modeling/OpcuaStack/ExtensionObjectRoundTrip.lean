import OpcuaStack.IdentifierRoundTrip

/-!
# Bodies of ExtensionObjects

No body, an empty body and a body which is not known are three states on the wire.
The decoder takes the first for the second, and the encoder takes a body in any
other form than bytes for the first.
-/

namespace OpcuaStack
namespace Binary
namespace Bounded

open Scanner

/-! ## What was read is what is written -/

theorem retraces_number {α : Type} {width : ℕ} (hwidth : width < 2 ^ 63)
    {make : ℕ → α} {write : α → ByteString}
    (h : ∀ raw < 256 ^ width, write (make raw) = littleEndian width raw) :
    Retraces write (decodeNumber width make) := by
  intro w value next hvalue
  obtain ⟨bytes, place, htake, hrest⟩ := bind_eq_value hvalue
  obtain ⟨rfl, rfl⟩ := Attempt.value.inj hrest
  have hlength : bytes.length = width := Ensures.take hwidth w bytes place htake
  have hraw : ofLittleEndian bytes < 256 ^ width :=
    hlength ▸ ofLittleEndian_lt bytes
  have hbytes : littleEndian width (ofLittleEndian bytes) = bytes :=
    hlength ▸ littleEndian_ofLittleEndian bytes
  rw [h _ hraw, hbytes]
  exact Retraces.take hwidth w bytes place htake

theorem retraces_uInt8 : Retraces encodeUInt8 decodeUInt8 := by
  refine retraces_number (by norm_num) fun raw hraw => ?_
  have hbyte : raw < 256 := by simpa using hraw
  rw [encodeUInt8, littleEndian, littleEndian, Nat.mod_eq_of_lt hbyte]

theorem retraces_uInt32 : Retraces encodeUInt32 decodeUInt32 := by
  refine retraces_number (by norm_num) fun raw hraw => ?_
  rw [encodeUInt32, UInt32.toNat_ofNat_of_lt' hraw]

theorem retraces_int32 : Retraces encodeInt32 decodeInt32 := by
  intro w value next hvalue
  obtain ⟨raw, place, hraw, hrest⟩ := bind_eq_value hvalue
  obtain ⟨rfl, rfl⟩ := Attempt.value.inj hrest
  exact retraces_uInt32 w raw place hraw

theorem retraces_body {w place next : Window UInt8} {length : Int32}
    {body : ByteString} (hlength : decodeInt32 w = .value length place)
    (hbody : decodeExtensionBody length place = .value body next) :
    body.length < 2 ^ 31 ∧
      w.remaining =
        encodeInt32 (Int32.ofNat body.length) ++ (body ++ next.remaining) := by
  unfold decodeExtensionBody at hbody
  split at hbody
  next => cases hbody
  next hnonneg =>
    have hcount : body.length = length.toNatClampNeg :=
      Ensures.splitOff _ place body next hbody
    have hint : 0 ≤ length.toInt := by
      rw [Int32.lt_iff_toInt_lt] at hnonneg
      simpa using hnonneg
    have hnat : (length.toNatClampNeg : ℤ) = length.toInt := by
      rw [Int32.toNatClampNeg]
      exact Int.toNat_of_nonneg hint
    have hlt := length.toInt_lt
    constructor
    · omega
    · have hsame : Int32.ofNat body.length = length := by
        apply Int32.toInt_inj.mp
        rw [Int32.toInt_ofNat_of_lt (by omega), hcount, hnat]
      rw [hsame, retraces_int32 w length place hlength,
        Retraces.splitOff _ place body next hbody]
      rfl

/-! ## Objects which come back -/

/-- What an ExtensionObject comes back with: bytes, whose number is an `Int32`. -/
structure HasBytes (value : ExtensionObject) : Prop where
  typeId : Carried value.dataTypeId
  body : ∃ body, value.value = .binary body ∧ body.length < 2 ^ 31

theorem ensures_extensionObject : Ensures HasBytes decodeExtensionObject := by
  refine ensures_expandedNodeId.bind fun typeId htypeId => ?_
  refine (Ensures.trivially decodeUInt8).bind fun encoding _ => ?_
  refine .ite (fun _ => .pure ⟨htypeId, [], rfl, by norm_num⟩) fun _ => ?_
  intro w value next hvalue
  obtain ⟨length, place, hlength, hrest⟩ := bind_eq_value hvalue
  obtain ⟨body, final, hbody, hrest⟩ := bind_eq_value hrest
  obtain ⟨rfl, -⟩ := Attempt.value.inj hrest
  exact ⟨htypeId, body, rfl, (retraces_body hlength hbody).1⟩

theorem returns_extensionObject {value : ExtensionObject} (h : HasBytes value) :
    decodeExtensionObject.Returns (encodeExtensionObject value) value := by
  obtain ⟨typeId, value⟩ := value
  obtain ⟨body, rfl, hbody⟩ := h.body
  obtain ⟨hnonneg, hcount⟩ := toNatClampNeg_ofNat hbody
  refine (returns_expandedNodeId h.typeId).bind (.of_yields ?_)
  refine (yields_uInt8 0x01).bind ?_
  rw [if_neg (by decide)]
  refine (yields_int32 _).bind ?_
  have hbytes : (decodeExtensionBody (Int32.ofNat body.length)).Yields body body := by
    rw [decodeExtensionBody, if_neg hnonneg, hcount]
    exact Yields.splitOff body
  exact hbytes.bind_nil (.pure _)

/-! ## Bytes which come back -/

theorem behind_typeId {w place : Window UInt8} {typeId : ExpandedNodeId}
    {written rest : ByteString}
    (hvalue : decodeExpandedNodeId w = .value typeId place)
    (hwritten : encodeExpandedNodeId typeId = some written)
    (hw : w.remaining = written ++ rest) : place.remaining = rest := by
  obtain ⟨piece, hpiece, hyields⟩ :=
    returns_expandedNodeId (ensures_expandedNodeId w typeId place hvalue)
  obtain rfl := Option.some.inj (hwritten.symm.trans hpiece)
  obtain ⟨next, hnext, hrest⟩ := hyields w rest hw
  obtain ⟨-, rfl⟩ := Attempt.value.inj (hvalue.symm.trans hnext)
  exact hrest

theorem encodeExtensionObject_binary {typeId : ExpandedNodeId}
    {written body : ByteString}
    (hwritten : encodeExpandedNodeId typeId = some written) :
    encodeExtensionObject { dataTypeId := typeId, value := .binary body } =
      some (written ++ 0x01 :: (encodeInt32 (Int32.ofNat body.length) ++ body)) := by
  rw [encodeExtensionObject, hwritten]
  rfl

/-- An input which is read to its end is written again exactly if it announces a
body. -/
theorem encode_decoded_iff {w next : Window UInt8} {value : ExtensionObject}
    {written tail : ByteString} {encoding : UInt8}
    (hvalue : decodeExtensionObject w = .value value next)
    (hend : next.remaining = [])
    (hwritten : encodeExpandedNodeId value.dataTypeId = some written)
    (hw : w.remaining = written ++ encoding :: tail)
    (hencoding : encoding = 0x00 ∨ encoding = 0x01) :
    encodeExtensionObject value = some w.remaining ↔ encoding = 0x01 := by
  obtain ⟨typeId, place, htypeId, hrest⟩ := bind_eq_value hvalue
  obtain ⟨read, behind, hread, hrest⟩ := bind_eq_value hrest
  have hsameId : value.dataTypeId = typeId := by
    split at hrest
    next =>
      obtain ⟨rfl, -⟩ := Attempt.value.inj hrest
      rfl
    next =>
      obtain ⟨length, other, -, hrest⟩ := bind_eq_value hrest
      obtain ⟨body, final, -, hrest⟩ := bind_eq_value hrest
      obtain ⟨rfl, -⟩ := Attempt.value.inj hrest
      rfl
  rw [hsameId] at hwritten
  have hplace := behind_typeId htypeId hwritten hw
  have hbyte := retraces_uInt8 place read behind hread
  rw [hplace, encodeUInt8, List.singleton_append, List.cons.injEq] at hbyte
  obtain ⟨rfl, htail⟩ := hbyte
  obtain rfl | rfl := hencoding
  · rw [if_pos rfl] at hrest
    obtain ⟨rfl, rfl⟩ := Attempt.value.inj hrest
    rw [encodeExtensionObject_binary hwritten, hw, htail, hend, Option.some.injEq,
      List.append_right_inj]
    exact iff_of_false (by simp) (by decide)
  · rw [if_neg (by decide)] at hrest
    obtain ⟨length, other, hlength, hrest⟩ := bind_eq_value hrest
    obtain ⟨body, final, hbody, hrest⟩ := bind_eq_value hrest
    obtain ⟨rfl, rfl⟩ := Attempt.value.inj hrest
    have hretraced := (retraces_body hlength hbody).2
    rw [hend, List.append_nil] at hretraced
    rw [encodeExtensionObject_binary hwritten, hw, htail, hretraced]
    exact iff_of_true rfl rfl

/-! ## Objects inside a variant -/

mutual

/-- The ExtensionObjects of a variant, at any depth. -/
def extensionObjects : Variant → List ExtensionObject
  | .scalar .extensionObject (value : ExtensionObject) => [value]
  | .scalar _ _ => []
  | .dataValue value => sharedDataValueObjects value
  | .variant value => sharedVariantObjects value
  | .array .extensionObject (elements : List ExtensionObject) => elements
  | .array _ _ => []
  | .dataValueArray elements => sharedDataValuesObjects elements
  | .variantArray elements => variantsObjects elements

def dataValueObjects : DataValue → List ExtensionObject
  | ⟨value, _, _, _, _⟩ => extensionObjects value

def sharedDataValueObjects : Option DataValue → List ExtensionObject
  | none => []
  | some value => dataValueObjects value

def sharedVariantObjects : Option Variant → List ExtensionObject
  | none => []
  | some value => extensionObjects value

def sharedDataValuesObjects : List (Option DataValue) → List ExtensionObject
  | [] => []
  | value :: values =>
      sharedDataValueObjects value ++ sharedDataValuesObjects values

def variantsObjects : List Variant → List ExtensionObject
  | [] => []
  | value :: values => extensionObjects value ++ variantsObjects values

end

/-- What is written for the object stands inside what was written, if anything
was. -/
def WrittenInside (object : ExtensionObject) (written : Option ByteString) : Prop :=
  ∀ bytes, written = some bytes →
    ∃ piece, encodeExtensionObject object = some piece ∧ piece <:+: bytes

namespace WrittenInside

variable {object : ExtensionObject} {first second : Option ByteString}

theorem self (object : ExtensionObject) :
    WrittenInside object (encodeExtensionObject object) :=
  fun bytes hbytes => ⟨bytes, hbytes, List.infix_refl bytes⟩

theorem left (h : WrittenInside object first) :
    WrittenInside object (joined first second) := by
  intro bytes hbytes
  obtain ⟨a, b, ha, -, rfl⟩ := exists_of_joined_eq_some hbytes
  obtain ⟨piece, hpiece, hinfix⟩ := h a ha
  exact ⟨piece, hpiece, hinfix.trans (List.prefix_append a b).isInfix⟩

theorem right (h : WrittenInside object second) :
    WrittenInside object (joined first second) := by
  intro bytes hbytes
  obtain ⟨a, b, -, hb, rfl⟩ := exists_of_joined_eq_some hbytes
  obtain ⟨piece, hpiece, hinfix⟩ := h b hb
  exact ⟨piece, hpiece, hinfix.trans (List.suffix_append a b).isInfix⟩

theorem of_mem {objects : List ExtensionObject} (h : object ∈ objects) :
    WrittenInside object (joinedMap encodeExtensionObject objects) := by
  induction objects with
  | nil => exact absurd h List.not_mem_nil
  | cons head rest ih =>
      rcases List.mem_cons.mp h with rfl | hrest
      · exact (self object).left
      · exact (ih hrest).right

end WrittenInside

theorem extensionObjects_of_null {value : Variant} (h : variantIsNull value) :
    extensionObjects value = [] := by
  cases value with
  | scalar type value =>
      obtain rfl : type = .empty := by simpa [variantIsNull, variantType] using h
      rfl
  | array type elements =>
      obtain rfl : type = .empty := by simpa [variantIsNull, variantType] using h
      rfl
  | dataValue | variant | dataValueArray | variantArray =>
      simp [variantIsNull, variantType] at h

variable (forms : Representations)

mutual

/-- By recursion on the variant. -/
theorem objects_inside : (value : Variant) → ∀ object ∈ extensionObjects value,
    WrittenInside object (encodeVariant forms value)
  | .scalar type value, object, hobject => by
      cases type with
      | extensionObject =>
          obtain rfl := List.mem_singleton.mp hobject
          exact (WrittenInside.self object).right
      | _ => exact absurd hobject List.not_mem_nil
  | .dataValue value, object, hobject =>
      (sharedDataValueObjects_inside value object hobject).right
  | .variant value, object, hobject =>
      (sharedVariantObjects_inside value object hobject).right
  | .array type elements, object, hobject => by
      cases type with
      | extensionObject => exact (WrittenInside.of_mem hobject).right
      | _ => exact absurd hobject List.not_mem_nil
  | .dataValueArray elements, object, hobject =>
      (sharedDataValuesObjects_inside elements object hobject).right
  | .variantArray elements, object, hobject =>
      (variantsObjects_inside elements object hobject).right

theorem dataValueObjects_inside : (value : DataValue) →
    ∀ object ∈ dataValueObjects value,
      WrittenInside object (encodeDataValue forms value)
  | ⟨value, _, source, server, code⟩, object, hobject => by
      have hinside := objects_inside value object hobject
      have hfull : variantIsNull value = false := by
        refine Bool.eq_false_of_not_eq_true fun hnull => ?_
        rw [dataValueObjects, extensionObjects_of_null hnull] at hobject
        exact absurd hobject List.not_mem_nil
      have hbit := (dataValueMask_bits (!variantIsNull value) (!codeIsGood code)
        (source.ticks != 0) (server.ticks != 0)).1.mpr (by rw [hfull]; rfl)
      rw [encodeDataValue, if_pos hbit]
      exact hinside.left.right

theorem sharedDataValueObjects_inside : (value : Option DataValue) →
    ∀ object ∈ sharedDataValueObjects value,
      WrittenInside object (encodeSharedDataValue forms value)
  | none, _, hobject => absurd hobject List.not_mem_nil
  | some value, object, hobject => dataValueObjects_inside value object hobject

theorem sharedVariantObjects_inside : (value : Option Variant) →
    ∀ object ∈ sharedVariantObjects value,
      WrittenInside object (encodeSharedVariant forms value)
  | none, _, hobject => absurd hobject List.not_mem_nil
  | some value, object, hobject => objects_inside value object hobject

theorem sharedDataValuesObjects_inside : (values : List (Option DataValue)) →
    ∀ object ∈ sharedDataValuesObjects values,
      WrittenInside object (encodeSharedDataValues forms values)
  | [], _, hobject => absurd hobject List.not_mem_nil
  | value :: values, object, hobject =>
      (List.mem_append.mp hobject).elim
        (fun hhead => (sharedDataValueObjects_inside value object hhead).left)
        fun hrest => (sharedDataValuesObjects_inside values object hrest).right

theorem variantsObjects_inside : (values : List Variant) →
    ∀ object ∈ variantsObjects values,
      WrittenInside object (encodeVariants forms values)
  | [], _, hobject => absurd hobject List.not_mem_nil
  | value :: values, object, hobject =>
      (List.mem_append.mp hobject).elim
        (fun hhead => (objects_inside value object hhead).left)
        fun hrest => (variantsObjects_inside values object hrest).right

end

/-- The object is written as one which has no body. -/
def WrittenWithoutBody (object : ExtensionObject) : Prop :=
  encodeExtensionObject object =
    encodeExtensionObject { object with value := .empty }

theorem writtenWithoutBody_iff {object : ExtensionObject} {written : ByteString}
    (hwritten : encodeExtensionObject object = some written) :
    WrittenWithoutBody object ↔ ∀ body, object.value ≠ .binary body := by
  obtain ⟨typeId, value⟩ := object
  obtain ⟨id, rest, hid, -, -⟩ := exists_of_joined_eq_some hwritten
  cases value with
  | binary body =>
      refine iff_of_false ?_ fun hno => hno body rfl
      rw [WrittenWithoutBody, encodeExtensionObject_binary hid,
        encodeExtensionObject, hid, joined_some, Option.some.injEq, List.append_right_inj]
      simp [encodeUInt8]
  | empty | json =>
      refine iff_of_true rfl fun body hbody => ?_
      cases hbody

/-- When ExtensionObjects pass unchanged: bytes which are read to their end are
written again exactly if they announce a body; an object comes back exactly if it has
a body of bytes, and an identifier which comes back; and the objects in a variant
which has been written stand in its bytes with whatever body they have, exactly if
none of these is a JSON value. -/
theorem extensionObjects_pass_iff :
    (∀ (w next : Window UInt8) (value : ExtensionObject) (written tail : ByteString)
        (encoding : UInt8),
      decodeExtensionObject w = .value value next → next.remaining = [] →
        encodeExpandedNodeId value.dataTypeId = some written →
          w.remaining = written ++ encoding :: tail →
            encoding = 0x00 ∨ encoding = 0x01 →
              (encodeExtensionObject value = some w.remaining ↔
                encoding = 0x01)) ∧
      (∀ value : ExtensionObject,
        (∀ written, encodeExtensionObject value = some written →
          written.length < 2 ^ 63) →
          (decodeExtensionObject.Returns (encodeExtensionObject value) value ↔
            HasBytes value)) ∧
      ∀ (value : Variant) (bytes : ByteString),
        encodeVariant forms value = some bytes →
          (∀ object ∈ extensionObjects value, ∃ piece,
            encodeExtensionObject object = some piece ∧ piece <:+: bytes) ∧
          ((∀ object ∈ extensionObjects value, object.value ≠ .empty →
              ¬ WrittenWithoutBody object) ↔
            ∀ object ∈ extensionObjects value, ∀ json,
              object.value ≠ .json json) := by
  refine ⟨fun w next value written tail encoding => encode_decoded_iff,
    fun value hfits => ?_, fun value bytes hbytes => ?_⟩
  · exact ⟨fun hreturns => ensures_extensionObject.of_returns hreturns hfits,
      returns_extensionObject⟩
  · have hinside : ∀ object ∈ extensionObjects value, ∃ piece,
        encodeExtensionObject object = some piece ∧ piece <:+: bytes :=
      fun object hobject => objects_inside forms value object hobject bytes hbytes
    refine ⟨hinside, forall₂_congr fun object hobject => ?_⟩
    obtain ⟨piece, hpiece, -⟩ := hinside object hobject
    rw [writtenWithoutBody_iff hpiece]
    cases object.value <;> simp

/-- The null identifier, and no body. -/
def noBodyBytes : ByteString := [0x00, 0x00, 0x00]

theorem noBodyBytes_fits : noBodyBytes.length < 2 ^ 63 := by decide

theorem noBody_decoded :
    ∃ next, decodeExtensionObject (.opening noBodyBytes noBodyBytes_fits) =
      .value { value := .binary [] } next ∧ next.remaining = [] :=
  ⟨_, rfl, rfl⟩

def binaryObject : ExtensionObject where
  dataTypeId := { nodeId := { identifier := .numeric 5 } }
  value := .binary [0xaa]

/-- The bytes of an object with one byte in its body. -/
def binaryObjectBytes : ByteString := [0x00, 0x05, 0x01, 0x01, 0x00, 0x00, 0x00, 0xaa]

theorem binaryObjectBytes_fits : binaryObjectBytes.length < 2 ^ 63 := by decide

/-- The bytes are written again, the object comes back, and it stands in a variant with
its body. -/
theorem binaryObject_passes :
    encodeExtensionObject binaryObject = some binaryObjectBytes ∧
      decodeExtensionObject.Returns (encodeExtensionObject binaryObject) binaryObject ∧
      ∀ object ∈ extensionObjects (.scalar .extensionObject binaryObject),
        object.value ≠ .empty → ¬ WrittenWithoutBody object := by
  obtain ⟨hbytes, hobject, hvariant⟩ := extensionObjects_pass_iff sampleForms
  have hdecoded : ∃ next, decodeExtensionObject
      (.opening binaryObjectBytes binaryObjectBytes_fits) = .value binaryObject next ∧
        next.remaining = [] := ⟨_, rfl, rfl⟩
  have hwritten : encodeExtensionObject binaryObject = some binaryObjectBytes := by
    obtain ⟨next, hvalue, hend⟩ := hdecoded
    exact (hbytes _ next binaryObject [0x00, 0x05] [0x01, 0x00, 0x00, 0x00, 0xaa] 0x01 hvalue
      hend rfl rfl (.inr rfl)).mpr rfl
  refine ⟨hwritten, (hobject binaryObject fun written h => ?_).mpr ?_,
    (hvariant (.scalar .extensionObject binaryObject) _ rfl).2.mpr ?_⟩
  · obtain rfl := Option.some.inj (hwritten.symm.trans h)
    exact binaryObjectBytes_fits
  · exact ⟨⟨fun _ => NodeIdentifier.noConfusion, trivial, by decide⟩, _, rfl, by decide⟩
  · intro object hmem json
    obtain rfl := List.mem_singleton.mp hmem
    exact ExtensionBody.noConfusion

/-- No body becomes an empty one, for the bytes as for the object, and a JSON body
becomes none. -/
theorem bodies_not_kept :
    ((∃ next, decodeExtensionObject (.opening noBodyBytes noBodyBytes_fits) =
        .value { value := .binary [] } next ∧ next.remaining = []) ∧
      encodeExtensionObject { value := .binary [] } ≠ some noBodyBytes) ∧
    ¬ decodeExtensionObject.Returns (encodeExtensionObject {}) {} ∧
    WrittenWithoutBody { value := .json .null } := by
  refine ⟨⟨noBody_decoded, by decide⟩, fun hreturns => ?_, rfl⟩
  have hfits : ∀ written, encodeExtensionObject {} = some written →
      written.length < 2 ^ 63 := by
    intro written hwritten
    obtain rfl : noBodyBytes = written := Option.some.inj hwritten
    exact noBodyBytes_fits
  obtain ⟨body, hbody, -⟩ := (ensures_extensionObject.of_returns hreturns hfits).body
  cases hbody

end Bounded
end Binary
end OpcuaStack
