import OpcuaStack.IdentifierRoundTrip

/-!
# How many array elements an input decodes to

An array whose elements take bytes is guarded by the bytes which are left, and the
guards add up: all such elements of a value together are no more than the bytes
taken.  Null elements take no bytes, and each array of them is guarded by a cap of
its own.  These caps do not add up: a few bytes announce as many elements as the cap
allows, and nothing limits how often.
-/

namespace OpcuaStack
namespace Binary
namespace Bounded

open Scanner

/-! ## Elements of a value -/

/-- Elements of arrays: those which take bytes of their own, and null ones. -/
@[ext]
structure Elements where
  written : ℕ := 0
  null : ℕ := 0

namespace Elements

instance : Zero Elements := ⟨{}⟩

instance : Add Elements :=
  ⟨fun first second =>
    { written := first.written + second.written
      null := first.null + second.null }⟩

@[simp] theorem written_zero : (0 : Elements).written = 0 := rfl

@[simp] theorem null_zero : (0 : Elements).null = 0 := rfl

@[simp] theorem written_add (first second : Elements) :
    (first + second).written = first.written + second.written := rfl

/-- An array of elements which take bytes, with what is inside them. -/
def ofArray (elements : List Elements) : Elements :=
  { written := elements.length } + elements.sum

theorem sum_leaves {α : Type} (values : List α) :
    (values.map fun _ => (0 : Elements)).sum = 0 := by
  induction values with
  | nil => rfl
  | cons value values ih =>
      rw [List.map_cons, List.sum_cons, ih]
      rfl

theorem ofArray_leaves {α : Type} (values : List α) :
    ofArray (values.map fun _ => 0) = { written := values.length } := by
  rw [ofArray, sum_leaves, List.length_map]
  rfl

theorem written_sum (elements : List Elements) :
    elements.sum.written = (elements.map Elements.written).sum := by
  induction elements with
  | nil => rfl
  | cons first rest ih => simp [ih]

end Elements

mutual

def variantElements : Variant → Elements
  | .scalar _ _ => 0
  | .dataValue value => sharedDataValueElements value
  | .variant value => sharedVariantElements value
  | .array type elements =>
      if type = .empty then { null := elements.length }
      else { written := elements.length }
  | .dataValueArray elements => .ofArray (sharedDataValuesElements elements)
  | .variantArray elements => .ofArray (variantsElements elements)

def dataValueElements : DataValue → Elements
  | ⟨value, _, _, _, _⟩ => variantElements value

def sharedDataValueElements : Option DataValue → Elements
  | none => 0
  | some value => dataValueElements value

def sharedVariantElements : Option Variant → Elements
  | none => 0
  | some value => variantElements value

def sharedDataValuesElements : List (Option DataValue) → List Elements
  | [] => []
  | value :: values =>
      sharedDataValueElements value :: sharedDataValuesElements values

def variantsElements : List Variant → List Elements
  | [] => []
  | value :: values => variantElements value :: variantsElements values

end

theorem nullArrayElements (elements : List PlainType.empty.Carrier) :
    variantElements (.array .empty elements) = { null := elements.length } := by
  rw [variantElements, if_pos rfl]

/-- The elements of all arrays of a value, at any depth. -/
def arrayElements (value : Variant) : ℕ :=
  (variantElements value).written + (variantElements value).null

theorem sharedDataValuesElements_eq (values : List (Option DataValue)) :
    sharedDataValuesElements values = values.map sharedDataValueElements := by
  induction values with
  | nil => rfl
  | cons value values ih => rw [sharedDataValuesElements, List.map_cons, ih]

theorem variantsElements_eq (values : List Variant) :
    variantsElements values = values.map variantElements := by
  induction values with
  | nil => rfl
  | cons value values ih => rw [variantsElements, List.map_cons, ih]

/-! ## Elements which an input announces -/

/-- What is kept of a value when its elements are counted from the bytes. -/
abbrev Count : Nesting → Type
  | .variant => Elements
  | .dataValue => Elements
  | .diagnosticInfo => DiagnosticInfo

abbrev Counts := Scanners UInt8 Count

variable (forms : Representations) (counts : Counts)

/-- A DiagnosticInfo holds no arrays and is read as it is. -/
def diagnosticCalls : Calls
  | .variant => refuse
  | .dataValue => refuse
  | .diagnosticInfo => counts .diagnosticInfo

def countElement (type : PlainType) : Decoder Elements := do
  let _ ← decodeElement forms (diagnosticCalls counts) type
  return 0

def countArray (element : Decoder Elements) : Decoder Elements := do
  let elements ← decodeArray element
  return .ofArray elements

def countNullArray : Decoder Elements := do
  let elements ← decodeNullArray
  return { null := elements.length }

def countVariantArray (type : BuiltInType) : Decoder Elements :=
  match type with
  | .plain type =>
      if type = .empty then countNullArray
      else countArray (countElement forms counts type)
  | .dataValue => countArray (counts .dataValue)
  | .variant => countArray (counts .variant)

def countVariantScalar (type : BuiltInType) : Decoder Elements :=
  match type with
  | .plain type => countElement forms counts type
  | .dataValue => counts .dataValue
  | .variant => counts .variant

def countVariant : Decoder Elements := do
  let encodingMask ← decodeUInt8
  if encodingMask &&& 0x40 ≠ 0 then
    refuse
  else
    (BuiltInType.ofId (encodingMask &&& 0x3f)).elim refuse fun type =>
      if encodingMask &&& 0x80 ≠ 0 then countVariantArray forms counts type
      else countVariantScalar forms counts type

def countDataValue : Decoder Elements := do
  let mask ← decodeUInt8
  if mask &&& 0xc0 ≠ 0 then
    refuse
  else
    let elements ← decodeIf mask 0x01 (counts .variant) 0
    let _ ← decodeIf mask 0x02 decodeStatus .good
    let _ ← decodeIf mask 0x04 decodeDateTime {}
    let _ ← decodeIf mask 0x10 decodeUInt16 0
    let _ ← decodeIf mask 0x08 decodeDateTime {}
    let _ ← decodeIf mask 0x20 decodeUInt16 0
    return elements

def countBody (counts : Counts) : Counts
  | .variant => countVariant forms counts
  | .dataValue => countDataValue counts
  | .diagnosticInfo => diagnosticInfoBody (diagnosticCalls counts)

/-- The elements of the arrays which the bytes in the window announce. -/
def announced (w : Window UInt8) : Elements :=
  match Scanners.nested (countBody forms) .variant w with
  | .value elements _ => elements
  | .refused | .pastEnd | .unfinished => 0

/-! ## Counting sees what is decoded -/

/-- What counting sees of a decoded value. -/
def elementsSeen : ∀ nesting : Nesting, nesting.Carrier → Count nesting
  | .variant => variantElements
  | .dataValue => dataValueElements
  | .diagnosticInfo => id

section Counting

variable {calls : Calls} {counts : Counts}
  (h : ∀ nesting, Watches (elementsSeen nesting) (calls nesting) (counts nesting))
include h

theorem watches_diagnosticInfo :
    Watches id (diagnosticInfoBody calls)
      (diagnosticInfoBody (diagnosticCalls counts)) := by
  refine (Watches.same decodeUInt8).bind fun mask => ?_
  refine (Watches.same _).bind fun symbolicId => ?_
  refine (Watches.same _).bind fun namespaceUri => ?_
  refine (Watches.same _).bind fun locale => ?_
  refine (Watches.same _).bind fun localizedText => ?_
  refine (Watches.same _).bind fun additionalInfo => ?_
  refine (Watches.same _).bind fun innerStatusCode => ?_
  have hinner : Watches id (decodePresent mask 0x40 (calls .diagnosticInfo))
      (decodePresent mask 0x40 (counts .diagnosticInfo)) :=
    Watches.ite ((h .diagnosticInfo).bind fun _ => Watches.pure rfl)
      (Watches.pure rfl)
  exact hinner.bind fun _ => Watches.pure rfl

theorem watches_element (type : PlainType) :
    Watches (fun _ => 0) (decodeElement forms calls type)
      (countElement forms counts type) := by
  have hsame : Watches id (decodeElement forms calls type)
      (decodeElement forms (diagnosticCalls counts) type) := by
    cases type with
    | diagnosticInfo => exact h .diagnosticInfo
    | _ => exact Watches.same _
  exact hsame.then_seen fun _ => 0

omit h in
theorem watches_array {α : Type} {view : α → Elements} {element : Decoder α}
    {watcher : Decoder Elements} (helement : Watches view element watcher) :
    Watches (fun elements => Elements.ofArray (elements.map view))
      (decodeArray element) (countArray watcher) := by
  have helements : Watches (List.map view) (decodeArray element)
      (decodeArray watcher) := by
    refine (Watches.same decodeInt32).bind fun count => ?_
    refine (Watches.refuse _ _).ite ?_
    refine (Watches.same size).bind fun left => ?_
    exact (Watches.refuse _ _).ite (helement.repeated count.toNatClampNeg)
  exact helements.then_seen Elements.ofArray

theorem watches_sharedDataValue :
    Watches sharedDataValueElements (decodeShared (calls .dataValue))
      (counts .dataValue) :=
  (h .dataValue).of_result fun _ => rfl

theorem watches_sharedVariant :
    Watches sharedVariantElements (decodeShared (calls .variant))
      (counts .variant) :=
  (h .variant).of_result fun _ => rfl

theorem watches_variantArray (type : BuiltInType) :
    Watches variantElements (decodeVariantArray forms calls type)
      (countVariantArray forms counts type) := by
  rcases type with type | _ | _
  · by_cases hempty : type = .empty
    · subst hempty
      have hnull := (Watches.same decodeNullArray).then_seen
        fun elements => ({ null := elements.length } : Elements)
      exact hnull.of_result nullArrayElements
    · have hcount : countVariantArray forms counts (.plain type) =
          countArray (countElement forms counts type) := if_neg hempty
      rw [decodeVariantArray_plain forms hempty, hcount]
      refine (watches_array (watches_element forms h type)).of_result
        fun elements => ?_
      rw [variantElements, if_neg hempty, Elements.ofArray_leaves]
  · refine (watches_array (watches_sharedDataValue h)).of_result fun elements => ?_
    rw [variantElements, sharedDataValuesElements_eq]
  · refine (watches_array (h .variant)).of_result fun elements => ?_
    rw [variantElements, variantsElements_eq]
    rfl

theorem watches_variantScalar (type : BuiltInType) :
    Watches variantElements (decodeVariantScalar forms calls type)
      (countVariantScalar forms counts type) := by
  rcases type with type | _ | _
  · exact (watches_element forms h type).of_result fun _ => rfl
  · exact (watches_sharedDataValue h).of_result fun _ => rfl
  · exact (watches_sharedVariant h).of_result fun _ => rfl

theorem watches_variant :
    Watches variantElements (variantBody forms calls)
      (countVariant forms counts) := by
  refine (Watches.same decodeUInt8).bind fun encodingMask => ?_
  refine (Watches.refuse _ _).ite ?_
  change Watches _ _ ((BuiltInType.ofId (encodingMask &&& 0x3f)).elim _ _)
  cases BuiltInType.ofId (encodingMask &&& 0x3f) with
  | none => exact Watches.refuse _ _
  | some type =>
      exact (watches_variantArray forms h type).ite
        (watches_variantScalar forms h type)

theorem watches_dataValue :
    Watches dataValueElements (dataValueBody calls)
      (countDataValue counts) := by
  refine (Watches.same decodeUInt8).bind fun mask => ?_
  refine (Watches.refuse _ _).ite ?_
  have hvalue : Watches variantElements
      (decodeIf mask 0x01 (calls .variant) .null)
      (decodeIf mask 0x01 (counts .variant) 0) :=
    (h .variant).ite (Watches.pure rfl)
  refine hvalue.bind fun value => ?_
  refine (Watches.same _).bind fun status => ?_
  refine (Watches.same _).bind fun sourceTimestamp => ?_
  refine (Watches.same _).bind fun _ => ?_
  refine (Watches.same _).bind fun serverTimestamp => ?_
  exact (Watches.same _).bind fun _ => Watches.pure rfl

theorem watches_body (nesting : Nesting) :
    Watches (elementsSeen nesting) (body forms calls nesting)
      (countBody forms counts nesting) := by
  cases nesting with
  | variant => exact watches_variant forms h
  | dataValue => exact watches_dataValue h
  | diagnosticInfo => exact watches_diagnosticInfo h

end Counting

theorem announced_eq {w next : Window UInt8} {value : Variant}
    (hvalue : decodeVariant forms w = .value value next) :
    announced forms w = variantElements value := by
  have hwatches := Scanners.watches_nested
    (fun _ _ h => watches_body forms h) Nesting.variant
  rw [announced, hwatches w value next hvalue]
  rfl

/-! ## Written elements are paid for -/

/-- Each decoder takes a byte besides those for the elements of arrays. -/
def cost : ∀ nesting : Nesting, Count nesting → ℕ
  | .variant => fun elements => elements.written + 1
  | .dataValue => fun elements => elements.written + 1
  | .diagnosticInfo => fun _ => 1

theorem spends_number {α : Type} {width : ℕ} (hwidth : width < 2 ^ 63)
    (hpos : 0 < width) (make : ℕ → α) :
    Spends (fun _ => 1) (decodeNumber width make) :=
  (spends_width hwidth make).mono fun _ => hpos

theorem spends_first {α β : Type} {first : Decoder α} {second : α → Decoder β}
    (hfirst : Spends (fun _ => 1) first)
    (hsecond : ∀ result, (second result).Orderly) :
    Spends (fun _ => 1) (first.bind second) :=
  hfirst.bind fun result => Spends.of_orderly (hsecond result)

section Spending

variable {counts : Counts} (h : ∀ nesting, Spends (cost nesting) (counts nesting))
include h

theorem spends_element {type : PlainType} (htype : type ≠ .empty) :
    Spends (fun elements => elements.written + 1)
      (countElement forms counts type) := by
  have hleaf : Spends (fun _ => 1)
      (decodeElement forms (diagnosticCalls counts) type) := by
    have hone := spends_number (α := UInt8) (by norm_num) (by norm_num : 0 < 1) .ofNat
    have htwo := spends_number (α := UInt16) (by norm_num) (by norm_num : 0 < 2) .ofNat
    have hfour := spends_number (α := UInt32) (by norm_num) (by norm_num : 0 < 4) .ofNat
    have height := spends_number (by norm_num) (by norm_num : 0 < 8)
      fun raw => (UInt64.ofNat raw).toInt64
    have hint : Spends (fun _ => 1) decodeInt32 :=
      spends_first hfour fun _ => orderly_pure _
    have htext : Spends (fun _ => 1) decodeByteString :=
      spends_first hint fun length =>
        (orderly_pure _).ite (orderly_take (toNatClampNeg_lt length))
    have hexpanded : Spends (fun _ => 1) decodeExpandedNodeId :=
      spends_first hone fun encoding =>
        (orderly_identifier (encoding &&& 0x3f) false).bind fun _ =>
          (orderly_decodeIf encoding 0x80 orderly_byteString []).bind fun _ =>
            (orderly_decodeIf encoding 0x40 orderly_uInt32 0).bind fun _ =>
              orderly_pure _
    cases type with
    | empty => exact absurd rfl htype
    | diagnosticInfo => exact h .diagnosticInfo
    | uint8 => exact hone
    | uint16 => exact htwo
    | uint32 => exact hfour
    | int32 => exact hint
    | int64 => exact height
    | string | byteString | xmlElement => exact htext
    | bool | int8 => exact spends_first hone fun _ => orderly_pure _
    | int16 => exact spends_first htwo fun _ => orderly_pure _
    | statusCode => exact spends_first hfour fun _ => orderly_pure _
    | uint64 | dateTime => exact spends_first height fun _ => orderly_pure _
    | float =>
        exact spends_first
          (.of_consumes (consumes_take (by norm_num) (by norm_num)))
          fun _ => orderly_pure _
    | double =>
        exact spends_first
          (.of_consumes (consumes_take (by norm_num) (by norm_num)))
          fun _ => orderly_pure _
    | guid =>
        exact spends_first hfour fun _ => orderly_uInt16.bind fun _ =>
          orderly_uInt16.bind fun _ => orderly_data4.bind fun _ =>
            orderly_pure _
    | nodeId =>
        exact spends_first hone fun encoding => orderly_identifier encoding true
    | expandedNodeId => exact hexpanded
    | qualifiedName =>
        exact spends_first htwo fun _ => orderly_byteString.bind fun _ =>
          orderly_pure _
    | localizedText =>
        exact spends_first hone fun mask =>
          (orderly_decodeIf mask 0x01 orderly_byteString []).bind fun _ =>
            (orderly_decodeIf mask 0x02 orderly_byteString []).bind fun _ =>
              orderly_pure _
    | extensionObject =>
        exact spends_first hexpanded fun _ => orderly_uInt8.bind fun _ =>
          (orderly_pure _).ite (orderly_int32.bind fun length =>
            (orderly_extensionBody length).bind fun _ => orderly_pure _)
  exact hleaf.bind fun _ => Spends.pure rfl

omit h in
/-- An element takes one byte more than its own elements do, and so it is paid
for too. -/
theorem spends_array {element : Decoder Elements}
    (helement : Spends (fun elements => elements.written + 1) element) :
    Spends Elements.written (countArray element) := by
  have helements : Spends
      (fun elements => (elements.map fun inner => inner.written + 1).sum)
      (decodeArray element) := by
    refine .bind_free orderly_int32 fun count => ?_
    refine (Spends.refuse _).ite ?_
    refine .bind_free orderly_size fun left => ?_
    exact (Spends.refuse _).ite (helement.repeated count.toNatClampNeg)
  refine helements.bind fun elements => Spends.pure ?_
  have hsum : (elements.map fun inner => inner.written + 1).sum =
      (elements.map Elements.written).sum + elements.length := by
    rw [List.sum_map_add]
    simp
  rw [hsum, Elements.ofArray, Elements.written_add, Elements.written_sum,
    Nat.add_comm]
  exact Nat.sub_self _

theorem spends_variantArray (type : BuiltInType) :
    Spends Elements.written
      (countVariantArray forms counts type) := by
  rcases type with type | _ | _
  · by_cases hempty : type = .empty
    · subst hempty
      exact .bind_free orderly_nullArray fun elements => Spends.pure rfl
    · have hcount : countVariantArray forms counts (.plain type) =
          countArray (countElement forms counts type) := if_neg hempty
      rw [hcount]
      exact spends_array (spends_element forms h hempty)
  · exact spends_array (h .dataValue)
  · exact spends_array (h .variant)

theorem spends_variantScalar (type : BuiltInType) :
    Spends Elements.written
      (countVariantScalar forms counts type) := by
  rcases type with type | _ | _
  · by_cases hempty : type = .empty
    · subst hempty
      exact Spends.bind_free (orderly_pure ()) fun _ =>
        Spends.pure Elements.written_zero
    · exact (spends_element forms h hempty).mono fun _ => Nat.le_succ _
  · exact (h .dataValue).mono fun _ => Nat.le_succ _
  · exact (h .variant).mono fun _ => Nat.le_succ _

theorem spends_variant : Spends (cost .variant) (countVariant forms counts) := by
  refine (Spends.of_consumes consumes_uInt8).bind fun encodingMask => ?_
  change Spends Elements.written _
  refine (Spends.refuse _).ite ?_
  change Spends _ ((BuiltInType.ofId (encodingMask &&& 0x3f)).elim _ _)
  cases BuiltInType.ofId (encodingMask &&& 0x3f) with
  | none => exact Spends.refuse _
  | some type =>
      exact (spends_variantArray forms h type).ite
        (spends_variantScalar forms h type)

theorem spends_dataValue : Spends (cost .dataValue) (countDataValue counts) := by
  refine (Spends.of_consumes consumes_uInt8).bind fun mask => ?_
  change Spends Elements.written _
  refine (Spends.refuse _).ite ?_
  have hvalue : Spends Elements.written
      (decodeIf mask 0x01 (counts .variant) 0) :=
    ((h .variant).mono fun _ => Nat.le_succ _).ite (Spends.pure rfl)
  refine hvalue.bind fun elements => ?_
  refine .bind_free (orderly_decodeIf mask 0x02 orderly_status .good) fun _ => ?_
  refine .bind_free (orderly_decodeIf mask 0x04 orderly_dateTime {}) fun _ => ?_
  refine .bind_free (orderly_decodeIf mask 0x10 orderly_uInt16 0) fun _ => ?_
  refine .bind_free (orderly_decodeIf mask 0x08 orderly_dateTime {}) fun _ => ?_
  refine .bind_free (orderly_decodeIf mask 0x20 orderly_uInt16 0) fun _ => ?_
  exact Spends.pure (Nat.sub_self _)

theorem spends_diagnosticInfo :
    Spends (cost .diagnosticInfo)
      (diagnosticInfoBody (diagnosticCalls counts)) := by
  refine (Spends.of_consumes consumes_uInt8).bind fun mask => ?_
  change Spends (fun _ => 0) _
  have hindex (bit : UInt8) := orderly_present mask bit orderly_int32
  refine .bind_free (hindex 0x01) fun _ => .bind_free (hindex 0x02) fun _ => ?_
  refine .bind_free (hindex 0x08) fun _ => .bind_free (hindex 0x04) fun _ => ?_
  refine .bind_free (orderly_present mask 0x10 orderly_byteString) fun _ => ?_
  refine .bind_free (orderly_present mask 0x20 orderly_status) fun _ => ?_
  have hcall : Spends (fun _ => 0) (counts .diagnosticInfo) :=
    (h .diagnosticInfo).mono fun _ => Nat.zero_le _
  have hinner : Spends (fun _ => 0)
      (decodePresent mask 0x40 (counts .diagnosticInfo)) :=
    (hcall.bind fun _ => Spends.pure rfl).ite (Spends.pure rfl)
  exact hinner.bind fun _ => Spends.pure rfl

theorem spends_body (nesting : Nesting) :
    Spends (cost nesting) (countBody forms counts nesting) := by
  cases nesting with
  | variant => exact spends_variant forms h
  | dataValue => exact spends_dataValue h
  | diagnosticInfo => exact spends_diagnosticInfo h

end Spending

/-- Whatever an input decodes to, the elements which take bytes are fewer than the
bytes taken.  All elements together stay within the length of the input and the cap
for null elements exactly if the null arrays which the input announces do: their
elements may exceed the cap by no more than the bytes which no element needs; so an
input whose null arrays keep to the cap together is safe. -/
theorem elements_bounded_iff {w next : Window UInt8} {value : Variant}
    (hvalue : decodeVariant forms w = .value value next) :
    (announced forms w).written + next.left < w.left ∧
      (arrayElements value ≤ w.left + maxNullArrayElements.toNatClampNeg ↔
        (announced forms w).null ≤
          maxNullArrayElements.toNatClampNeg +
            (w.left - (announced forms w).written)) ∧
      ((announced forms w).null ≤ maxNullArrayElements.toNatClampNeg →
        arrayElements value ≤ w.left + maxNullArrayElements.toNatClampNeg) := by
  have hspends := Scanners.spends_nested
    (fun _ h => spends_body forms h) Nesting.variant
  have hwatches := Scanners.watches_nested
    (fun _ _ h => watches_body forms h) Nesting.variant
  have hspent : (variantElements value).written + 1 + next.left ≤ w.left :=
    hspends w _ next (hwatches w value next hvalue)
  rw [announced_eq forms hvalue, arrayElements]
  refine ⟨?_, ?_, ?_⟩ <;> omega

/-! ## Two null arrays -/

def nullArray (count : ℕ) : Variant :=
  .array .empty (List.replicate count ((() : Unit) : PlainType.empty.Carrier))

def twoNullArrays : Variant :=
  .variantArray [nullArray (2 ^ 24), nullArray (2 ^ 24)]

def twoNullArraysBytes : ByteString :=
  [0x98, 2, 0, 0, 0, 0x80, 0, 0, 0, 1, 0x80, 0, 0, 0, 1]

theorem twoNullArraysBytes_fits : twoNullArraysBytes.length < 2 ^ 63 := by decide

theorem encode_nullArray (count : ℕ) :
    encodeVariant forms (nullArray count) =
      some (encodeArrayHead (.plain .empty) count) := by
  rw [nullArray, encodeVariant, joinedMap_empty, joined_some, List.append_nil]
  exact congrArg (fun length => some (encodeArrayHead _ length))
    List.length_replicate

theorem elements_nullArray (count : ℕ) :
    variantElements (nullArray count) = { null := count } := by
  rw [nullArray, nullArrayElements]
  exact congrArg (fun length => ({ null := length } : Elements))
    List.length_replicate

theorem sendable_nullArray {count : ℕ} (hcount : count ≤ 2 ^ 24) :
    Sendable forms (nullArray count) := by
  have hlength :
      (List.replicate count ((() : Unit) : PlainType.empty.Carrier)).length =
        count := List.length_replicate
  refine ⟨⟨?_, fun _ => ?_⟩, fun _ _ _ => .pure ()⟩
  · exact hlength.trans_lt (by omega)
  · exact hlength.trans_le hcount

theorem twoNullArrays_encoded :
    encodeVariant sampleForms twoNullArrays = some twoNullArraysBytes := by
  rw [twoNullArrays, encodeVariant, encodeVariants, encodeVariants, encodeVariants,
    encode_nullArray]
  decide

theorem twoNullArrays_sendable : Sendable sampleForms twoNullArrays :=
  ⟨by decide, sendable_nullArray sampleForms le_rfl,
    sendable_nullArray sampleForms le_rfl, trivial⟩

theorem twoNullArrays_decoded :
    ∃ next, decodeVariant sampleForms
      (.opening twoNullArraysBytes twoNullArraysBytes_fits) =
        .value twoNullArrays next := by
  obtain ⟨piece, hpiece, hyields⟩ :=
    returns_variant sampleForms twoNullArrays twoNullArrays_sendable
  obtain rfl := Option.some.inj (twoNullArrays_encoded.symm.trans hpiece)
  obtain ⟨next, hnext, -⟩ := hyields
    (.opening twoNullArraysBytes twoNullArraysBytes_fits) []
    (List.append_nil _).symm
  exact ⟨next, hnext⟩

theorem arrayElements_twoNullArrays :
    arrayElements twoNullArrays = 2 + (2 ^ 24 + 2 ^ 24) := by
  rw [arrayElements, twoNullArrays, variantElements, variantsElements_eq,
    List.map_cons, List.map_cons, List.map_nil, elements_nullArray]
  rfl

/-- Fifteen bytes with an array of two null arrays, each as long as is allowed. -/
theorem twoNullArrays_exceed :
    (∃ next, decodeVariant sampleForms
        (.opening twoNullArraysBytes twoNullArraysBytes_fits) =
          .value twoNullArrays next) ∧
      ¬ arrayElements twoNullArrays ≤
        twoNullArraysBytes.length + maxNullArrayElements.toNatClampNeg := by
  refine ⟨twoNullArrays_decoded, ?_⟩
  rw [arrayElements_twoNullArrays]
  decide

theorem twoNullArrays_announced :
    maxNullArrayElements.toNatClampNeg +
        (twoNullArraysBytes.length -
          (announced sampleForms
            (.opening twoNullArraysBytes twoNullArraysBytes_fits)).written) <
      (announced sampleForms
        (.opening twoNullArraysBytes twoNullArraysBytes_fits)).null := by
  obtain ⟨next, hnext⟩ := twoNullArrays_decoded
  have hiff := (elements_bounded_iff sampleForms hnext).2.1
  rw [arrayElements_twoNullArrays] at hiff
  exact not_le.mp (hiff.not.mp (by decide))

end Bounded
end Binary
end OpcuaStack
