import OpcuaStack.VariantCodec

/-!
# Decoding stays inside the input

Every decoder of `codec_utils` checks before it reads, and the three which nest
read a mask byte before they call each other.  So a call always finds fewer bytes
left than its caller did, and what is left at the end is the end of what there was.
-/

namespace OpcuaStack
namespace Binary
namespace Bounded

open Scanner

variable (forms : Representations)

/-! ## Leaves -/

theorem orderly_number {α : Type} {width : ℕ} (hwidth : width < 2 ^ 63)
    (make : ℕ → α) : (decodeNumber width make).Orderly :=
  (orderly_take hwidth).bind fun _ => orderly_pure _

theorem orderly_uInt8 : decodeUInt8.Orderly := orderly_number (by norm_num) _

theorem orderly_uInt16 : decodeUInt16.Orderly := orderly_number (by norm_num) _

theorem orderly_uInt32 : decodeUInt32.Orderly := orderly_number (by norm_num) _

theorem orderly_int64 : decodeInt64.Orderly := orderly_number (by norm_num) _

theorem orderly_bool : decodeBool.Orderly :=
  orderly_uInt8.bind fun _ => orderly_pure _

theorem orderly_int32 : decodeInt32.Orderly :=
  orderly_uInt32.bind fun _ => orderly_pure _

theorem orderly_uInt64 : decodeUInt64.Orderly :=
  orderly_int64.bind fun _ => orderly_pure _

theorem orderly_float : (decodeFloat forms).Orderly :=
  (orderly_take (by norm_num)).bind fun _ => orderly_pure _

theorem orderly_double : (decodeDouble forms).Orderly :=
  (orderly_take (by norm_num)).bind fun _ => orderly_pure _

theorem toNatClampNeg_lt (length : Int32) : length.toNatClampNeg < 2 ^ 63 := by
  have hlength := length.toInt_lt
  rw [Int32.toNatClampNeg]
  omega

theorem orderly_byteString : decodeByteString.Orderly :=
  orderly_int32.bind fun length =>
    (orderly_pure _).ite (orderly_take (toNatClampNeg_lt length))

theorem orderly_decodeIf {α : Type} (mask bit : UInt8) {decode : Decoder α}
    (h : decode.Orderly) (absent : α) :
    (decodeIf mask bit decode absent).Orderly :=
  h.ite (orderly_pure absent)

theorem orderly_qualifiedName : decodeQualifiedName.Orderly :=
  orderly_uInt16.bind fun _ => orderly_byteString.bind fun _ => orderly_pure _

theorem orderly_localizedText : (decodeLocalizedText forms).Orderly :=
  orderly_uInt8.bind fun mask =>
    (orderly_decodeIf mask 0x01 orderly_byteString []).bind fun _ =>
      (orderly_decodeIf mask 0x02 orderly_byteString []).bind fun _ =>
        orderly_pure _

theorem orderly_dateTime : decodeDateTime.Orderly :=
  orderly_int64.bind fun _ => orderly_pure _

theorem orderly_data4 : decodeData4.Orderly :=
  (orderly_require (by norm_num)).bind fun _ =>
    (orderly_uInt8.repeated 8).bind fun _ => orderly_pure _

theorem orderly_guid : decodeGuid.Orderly :=
  orderly_uInt32.bind fun _ => orderly_uInt16.bind fun _ =>
    orderly_uInt16.bind fun _ => orderly_data4.bind fun _ => orderly_pure _

theorem orderly_status : decodeStatus.Orderly :=
  orderly_uInt32.bind fun _ => orderly_pure _

theorem orderly_identifier (format : UInt8) (withGuid : Bool) :
    (decodeIdentifier format withGuid).Orderly := by
  unfold decodeIdentifier
  refine .ite ?_ (.ite ?_ (.ite ?_ (.ite ?_ (.ite ?_ (.ite ?_ orderly_refuse)))))
  · exact orderly_uInt8.bind fun _ => orderly_pure _
  · exact orderly_uInt8.bind fun _ => orderly_uInt16.bind fun _ => orderly_pure _
  · exact orderly_uInt16.bind fun _ => orderly_uInt32.bind fun _ => orderly_pure _
  · exact orderly_uInt16.bind fun _ => orderly_byteString.bind fun _ =>
      orderly_pure _
  · exact orderly_uInt16.bind fun _ => orderly_guid.bind fun _ => orderly_pure _
  · exact orderly_uInt16.bind fun _ => orderly_byteString.bind fun _ =>
      orderly_pure _

theorem orderly_nodeId : decodeNodeId.Orderly :=
  orderly_uInt8.bind fun encoding => orderly_identifier encoding true

theorem orderly_expandedNodeId : decodeExpandedNodeId.Orderly :=
  orderly_uInt8.bind fun encoding =>
    (orderly_identifier (encoding &&& 0x3f) false).bind fun _ =>
      (orderly_decodeIf encoding 0x80 orderly_byteString []).bind fun _ =>
        (orderly_decodeIf encoding 0x40 orderly_uInt32 0).bind fun _ =>
          orderly_pure _

theorem orderly_extensionBody (length : Int32) :
    (decodeExtensionBody length).Orderly :=
  orderly_refuse.ite (orderly_splitOff _)

theorem orderly_extensionObject : decodeExtensionObject.Orderly :=
  orderly_expandedNodeId.bind fun _ => orderly_uInt8.bind fun _ =>
    (orderly_pure _).ite
      (orderly_int32.bind fun length =>
        (orderly_extensionBody length).bind fun _ => orderly_pure _)

theorem orderly_nullArray : decodeNullArray.Orderly :=
  orderly_int32.bind fun _ => orderly_refuse.ite (orderly_pure _)

/-! ## The decoders of the secure channel

Over a window the decoders do what those over a cursor do.
-/

theorem follows_number {α : Type} {width : ℕ} (hwidth : width < 2 ^ 63)
    (make : ℕ → α) :
    (decodeNumber width make).Follows
      ((fun bytes => make (ofLittleEndian bytes)) <$> Reader.take width) :=
  (Follows.take hwidth).map fun bytes => make (ofLittleEndian bytes)

theorem follows_uInt8 : decodeUInt8.Follows Binary.decodeUInt8 :=
  follows_number (by norm_num) _

theorem follows_uInt16 : decodeUInt16.Follows Binary.decodeUInt16 :=
  follows_number (by norm_num) _

theorem follows_uInt32 : decodeUInt32.Follows Binary.decodeUInt32 :=
  follows_number (by norm_num) _

theorem follows_int32 : decodeInt32.Follows Binary.decodeInt32 :=
  follows_uInt32.map UInt32.toInt32

theorem follows_byteString :
    decodeByteString.Follows Binary.decodeByteString :=
  follows_int32.bind fun length =>
    (Follows.pure []).ite (Follows.take (toNatClampNeg_lt length))

theorem uInt8_eq {w : Window UInt8} (h : w.offset + 1 ≤ w.items.length) :
    decodeUInt8 w = .value (w.remaining.headD 0) (w.advance 1 h) := by
  have hleft := w.length_remaining
  rw [Window.left] at hleft
  have hrun : decodeUInt8 w =
      (take 1).bind
        (fun bytes => Scanner.pure (UInt8.ofNat (ofLittleEndian bytes))) w := rfl
  rw [hrun, Scanner.bind, take_eq (by norm_num), dif_pos h]
  cases hremaining : w.remaining with
  | nil =>
      rw [hremaining, List.length_nil] at hleft
      omega
  | cons byte rest =>
      simp [Scanner.pure, ofLittleEndian]

/-- By induction on the count: byte by byte is the same as all at once. -/
theorem repeated_uInt8_eq (count : ℕ) {w : Window UInt8}
    (h : w.offset + count ≤ w.items.length) :
    repeated decodeUInt8 count w =
      .value (w.remaining.take count) (w.advance count h) := by
  induction count generalizing w with
  | zero => rfl
  | succ count ih =>
      have hone : w.offset + 1 ≤ w.items.length := by omega
      have hrest :
          (w.advance 1 hone).offset + count ≤
            (w.advance 1 hone).items.length := by
        simp only [Window.advance]
        omega
      have hrun : repeated decodeUInt8 (count + 1) w =
          decodeUInt8.bind
            (fun byte => (repeated decodeUInt8 count).bind
              fun bytes => Scanner.pure (byte :: bytes)) w := rfl
      rw [hrun, Scanner.bind, uInt8_eq hone]
      dsimp only
      rw [Scanner.bind, ih hrest]
      have hleft := w.length_remaining
      rw [Window.left] at hleft
      cases hremaining : w.remaining with
      | nil =>
          rw [hremaining, List.length_nil] at hleft
          omega
      | cons byte rest =>
          simp only [Scanner.pure, Window.remaining_advance, hremaining,
            List.headD_cons, List.drop_succ_cons, List.drop_zero,
            List.take_succ_cons]
          congr 1
          simp only [Window.advance, Window.mk.injEq, true_and]
          omega

theorem follows_data4 : decodeData4.Follows (Reader.takeVector 8) := by
  intro w
  have hleft : w.cursor.remaining.length = w.items.length - w.offset :=
    w.length_remaining
  have hwithin := w.within
  have hrun : decodeData4 w =
      (require 8).bind
        (fun _ => (repeated decodeUInt8 8).bind
          fun bytes => Scanner.pure (.ofFn fun place => bytes.getD place 0)) w :=
    rfl
  rw [hrun, Scanner.bind, require_eq (by norm_num)]
  by_cases h : w.offset + 8 ≤ w.items.length
  · refine Or.inr ⟨.ofFn fun place => w.remaining.getD place 0, 8, h, ?_, ?_⟩
    · rw [if_pos h]
      dsimp only
      rw [Scanner.bind, repeated_uInt8_eq 8 h]
      dsimp only
      rw [Scanner.pure]
      congr 1
      ext place hplace
      simp
    · have hplaces : 8 ≤ w.remaining.length :=
        (by omega : 8 ≤ w.cursor.remaining.length)
      rw [Reader.takeVector, dif_pos (by omega)]
      congr 2
      ext place hplace
      have hthere : place < w.remaining.length := by omega
      simp [List.getElem?_eq_getElem hthere]
  · refine Or.inl ⟨?_, ?_⟩
    · rw [if_neg h]
    · rw [Reader.takeVector, dif_neg (by omega)]

theorem follows_guid : decodeGuid.Follows Binary.decodeGuid :=
  follows_uInt32.bind fun _ => follows_uInt16.bind fun _ =>
    follows_uInt16.bind fun _ => follows_data4.bind fun _ => .pure _

theorem follows_identifier (format : UInt8) :
    (decodeIdentifier format true).Follows (decodeNodeIdBody format) := by
  unfold decodeIdentifier decodeNodeIdBody
  simp only [and_true]
  refine .ite ?_ (.ite ?_ (.ite ?_ (.ite ?_ (.ite ?_ (.ite ?_ .refuse)))))
  · exact follows_uInt8.bind fun _ => .pure _
  · exact follows_uInt8.bind fun _ => follows_uInt16.bind fun _ => .pure _
  · exact follows_uInt16.bind fun _ => follows_uInt32.bind fun _ => .pure _
  · exact follows_uInt16.bind fun _ => follows_byteString.bind fun _ => .pure _
  · exact follows_uInt16.bind fun _ => follows_guid.bind fun _ => .pure _
  · exact follows_uInt16.bind fun _ => follows_byteString.bind fun _ => .pure _

theorem follows_nodeId : decodeNodeId.Follows Binary.decodeNodeId :=
  follows_uInt8.bind follows_identifier

/-! ## Decoders which nest -/

theorem consumes_uInt8 : decodeUInt8.Consumes :=
  (consumes_take (by norm_num) (by norm_num)).bind fun _ => orderly_pure _

section Agreement

variable {calls calls' : Calls} {bound : ℕ}

theorem agreeBelow_decodeIf {α : Type} (mask bit : UInt8)
    {decode decode' : Decoder α} (h : AgreeBelow bound decode decode')
    (absent : α) :
    AgreeBelow bound (decodeIf mask bit decode absent)
      (decodeIf mask bit decode' absent) :=
  h.ite ((orderly_pure absent).agreeBelow bound)

theorem agreeBelow_shared {α : Type} {decode decode' : Decoder α}
    (h : AgreeBelow bound decode decode') :
    AgreeBelow bound (decodeShared decode) (decodeShared decode') :=
  h.bind fun _ => (orderly_pure _).agreeBelow bound

theorem agreeBelow_array {α : Type} {element element' : Decoder α}
    (h : AgreeBelow bound element element') :
    AgreeBelow bound (decodeArray element) (decodeArray element') :=
  (orderly_int32.agreeBelow bound).bind fun count =>
    (orderly_refuse.agreeBelow bound).ite
      ((orderly_size.agreeBelow bound).bind fun _ =>
        (orderly_refuse.agreeBelow bound).ite
          (h.repeated count.toNatClampNeg))

theorem orderly_present {α : Type} (mask bit : UInt8) {decode : Decoder α}
    (h : decode.Orderly) : (decodePresent mask bit decode).Orderly :=
  orderly_decodeIf mask bit (h.bind fun _ => orderly_pure _) none

theorem agreeBelow_element
    (h : ∀ nesting, AgreeBelow bound (calls nesting) (calls' nesting))
    (type : PlainType) :
    AgreeBelow bound (decodeElement forms calls type)
      (decodeElement forms calls' type) := by
  cases type with
  | empty => exact (orderly_pure ()).agreeBelow bound
  | bool => exact orderly_bool.agreeBelow bound
  | int8 =>
      exact (orderly_uInt8.bind fun _ => orderly_pure _).agreeBelow bound
  | uint8 => exact orderly_uInt8.agreeBelow bound
  | int16 =>
      exact (orderly_uInt16.bind fun _ => orderly_pure _).agreeBelow bound
  | uint16 => exact orderly_uInt16.agreeBelow bound
  | int32 => exact orderly_int32.agreeBelow bound
  | uint32 => exact orderly_uInt32.agreeBelow bound
  | int64 => exact orderly_int64.agreeBelow bound
  | uint64 => exact orderly_uInt64.agreeBelow bound
  | float => exact (orderly_float forms).agreeBelow bound
  | double => exact (orderly_double forms).agreeBelow bound
  | string => exact orderly_byteString.agreeBelow bound
  | dateTime => exact orderly_dateTime.agreeBelow bound
  | guid => exact orderly_guid.agreeBelow bound
  | byteString => exact orderly_byteString.agreeBelow bound
  | xmlElement => exact orderly_byteString.agreeBelow bound
  | nodeId => exact orderly_nodeId.agreeBelow bound
  | expandedNodeId => exact orderly_expandedNodeId.agreeBelow bound
  | statusCode => exact orderly_status.agreeBelow bound
  | qualifiedName => exact orderly_qualifiedName.agreeBelow bound
  | localizedText => exact (orderly_localizedText forms).agreeBelow bound
  | extensionObject => exact orderly_extensionObject.agreeBelow bound
  | diagnosticInfo => exact h .diagnosticInfo

theorem decodeVariantArray_plain {type : PlainType} (hempty : type ≠ .empty)
    (made : Calls) :
    decodeVariantArray forms made (.plain type) =
      (decodeArray (decodeElement forms made type)).bind
        fun elements => Scanner.pure (.array type elements) := by
  cases type <;> first | rfl | exact absurd rfl hempty

theorem agreeBelow_variantArray
    (h : ∀ nesting, AgreeBelow bound (calls nesting) (calls' nesting))
    (type : BuiltInType) :
    AgreeBelow bound (decodeVariantArray forms calls type)
      (decodeVariantArray forms calls' type) := by
  rcases type with type | _ | _
  · by_cases hempty : type = .empty
    · subst hempty
      exact (orderly_nullArray.bind fun _ => orderly_pure _).agreeBelow bound
    · rw [decodeVariantArray_plain forms hempty, decodeVariantArray_plain forms hempty]
      exact (agreeBelow_array (agreeBelow_element forms h type)).bind
        fun _ => (orderly_pure _).agreeBelow bound
  · exact (agreeBelow_array (agreeBelow_shared (h .dataValue))).bind
      fun _ => (orderly_pure _).agreeBelow bound
  · exact (agreeBelow_array (h .variant)).bind
      fun _ => (orderly_pure _).agreeBelow bound

theorem agreeBelow_variantScalar
    (h : ∀ nesting, AgreeBelow bound (calls nesting) (calls' nesting))
    (type : BuiltInType) :
    AgreeBelow bound (decodeVariantScalar forms calls type)
      (decodeVariantScalar forms calls' type) := by
  rcases type with type | _ | _
  · exact (agreeBelow_element forms h type).bind
      fun _ => (orderly_pure _).agreeBelow bound
  · exact (agreeBelow_shared (h .dataValue)).bind
      fun _ => (orderly_pure _).agreeBelow bound
  · exact (agreeBelow_shared (h .variant)).bind
      fun _ => (orderly_pure _).agreeBelow bound

/-- One byte is taken first, and so the calls run where fewer are left. -/
theorem agreeBelow_variantBody
    (h : ∀ nesting, AgreeBelow bound (calls nesting) (calls' nesting)) :
    AgreeBelow (bound + 1) (variantBody forms calls)
      (variantBody forms calls') := by
  refine consumes_uInt8.agreeBelow_bind orderly_uInt8 fun encodingMask => ?_
  refine (orderly_refuse.agreeBelow bound).ite ?_
  cases BuiltInType.ofId (encodingMask &&& 0x3f) with
  | none => exact orderly_refuse.agreeBelow bound
  | some type =>
      exact (agreeBelow_variantArray forms h type).ite
        (agreeBelow_variantScalar forms h type)

theorem agreeBelow_dataValueBody
    (h : ∀ nesting, AgreeBelow bound (calls nesting) (calls' nesting)) :
    AgreeBelow (bound + 1) (dataValueBody calls) (dataValueBody calls') := by
  refine consumes_uInt8.agreeBelow_bind orderly_uInt8 fun mask => ?_
  refine (orderly_refuse.agreeBelow bound).ite ?_
  refine (agreeBelow_decodeIf mask 0x01 (h .variant) .null).bind fun value => ?_
  refine Orderly.agreeBelow ?_ bound
  exact (orderly_decodeIf mask 0x02 orderly_status .good).bind fun _ =>
    (orderly_decodeIf mask 0x04 orderly_dateTime {}).bind fun _ =>
      (orderly_decodeIf mask 0x10 orderly_uInt16 0).bind fun _ =>
        (orderly_decodeIf mask 0x08 orderly_dateTime {}).bind fun _ =>
          (orderly_decodeIf mask 0x20 orderly_uInt16 0).bind fun _ =>
            orderly_pure _

theorem agreeBelow_diagnosticInfoBody
    (h : ∀ nesting, AgreeBelow bound (calls nesting) (calls' nesting)) :
    AgreeBelow (bound + 1) (diagnosticInfoBody calls)
      (diagnosticInfoBody calls') := by
  refine consumes_uInt8.agreeBelow_bind orderly_uInt8 fun mask => ?_
  have hindex (bit : UInt8) :=
    (orderly_present mask bit orderly_int32).agreeBelow bound
  refine (hindex 0x01).bind fun _ => (hindex 0x02).bind fun _ =>
    (hindex 0x08).bind fun _ => (hindex 0x04).bind fun _ => ?_
  refine ((orderly_present mask 0x10 orderly_byteString).agreeBelow bound).bind
    fun _ => ?_
  refine ((orderly_present mask 0x20 orderly_status).agreeBelow bound).bind
    fun _ => ?_
  exact (agreeBelow_decodeIf mask 0x40
    (agreeBelow_shared (h .diagnosticInfo)) none).bind
      fun _ => (orderly_pure _).agreeBelow bound

end Agreement

theorem contracts_body : Scanners.Contracts (body forms) := by
  intro bound calls calls' h nesting
  cases nesting with
  | variant => exact agreeBelow_variantBody forms h
  | dataValue => exact agreeBelow_dataValueBody h
  | diagnosticInfo => exact agreeBelow_diagnosticInfoBody h

theorem decodeVariant_eq :
    decodeVariant forms =
      variantBody forms (Scanners.nested (body forms)) :=
  (contracts_body forms).nested_eq .variant

theorem decodeDataValue_eq :
    decodeDataValue forms = dataValueBody (Scanners.nested (body forms)) :=
  (contracts_body forms).nested_eq .dataValue

theorem decodeDiagnosticInfo_eq :
    decodeDiagnosticInfo forms =
      diagnosticInfoBody (Scanners.nested (body forms)) :=
  (contracts_body forms).nested_eq .diagnosticInfo

/-- A decoder finishes, reads nothing behind the end of the input, and leaves an end
of what was left before. -/
structure StaysInside {α : Type} (decode : Decoder α) (w : Window UInt8) : Prop where
  finishes : decode w ≠ .unfinished
  inside : decode w ≠ .pastEnd
  suffix : ∀ value next, decode w = .value value next →
    next.remaining <:+ w.remaining

theorem Orderly.staysInside {α : Type} {decode : Decoder α}
    (h : decode.Orderly) (w : Window UInt8) : StaysInside decode w := by
  have horderly := h w
  constructor
  · intro hrun
    rw [hrun] at horderly
    exact horderly
  · intro hrun
    rw [hrun] at horderly
    exact horderly
  · intro value next hrun
    rw [hrun] at horderly
    exact horderly

/-- Decoding is bounded, whatever the bytes are and wherever a decoder stands in
them.  The last part says that calls which were made before a byte was taken could
be replaced by ones which never finish: there are none. -/
theorem decoding_bounded (w : Window UInt8) :
    (StaysInside (decodeVariant forms) w ∧
      StaysInside (decodeDataValue forms) w ∧
      StaysInside (decodeDiagnosticInfo forms) w ∧
      StaysInside decodeNodeId w ∧ StaysInside decodeExpandedNodeId w ∧
      StaysInside decodeExtensionObject w) ∧
    (decodeVariant forms w =
        variantBody forms
          (Scanners.afterProgress (Scanners.nested (body forms)) w) w ∧
      decodeDataValue forms w =
        dataValueBody
          (Scanners.afterProgress (Scanners.nested (body forms)) w) w ∧
      decodeDiagnosticInfo forms w =
        diagnosticInfoBody
          (Scanners.afterProgress (Scanners.nested (body forms)) w) w) := by
  have hcontracts := contracts_body forms
  refine ⟨⟨?_, ?_, ?_, ?_, ?_, ?_⟩, ?_, ?_, ?_⟩
  · exact Orderly.staysInside (hcontracts.orderly_nested .variant) w
  · exact Orderly.staysInside (hcontracts.orderly_nested .dataValue) w
  · exact Orderly.staysInside (hcontracts.orderly_nested .diagnosticInfo) w
  · exact Orderly.staysInside orderly_nodeId w
  · exact Orderly.staysInside orderly_expandedNodeId w
  · exact Orderly.staysInside orderly_extensionObject w
  · exact hcontracts.nested_afterProgress .variant w
  · exact hcontracts.nested_afterProgress .dataValue w
  · exact hcontracts.nested_afterProgress .diagnosticInfo w

end Bounded
end Binary
end OpcuaStack
