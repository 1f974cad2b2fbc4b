import OpcuaStack.BuiltInTypes
import OpcuaStack.ByteReader

/-!
# The binary encoding

The parts of `codec_utils` which the secure channel uses.  `Encoder` appends to
a vector, so an encoder is the sequence it appends; `Decoder` is a cursor.
-/

namespace OpcuaStack
namespace Binary

abbrev Decoder := Reader UInt8

/-! ## Integers -/

def encodeUInt8 (value : UInt8) : ByteString := [value]

def encodeUInt16 (value : UInt16) : ByteString := littleEndian 2 value.toNat

def encodeUInt32 (value : UInt32) : ByteString := littleEndian 4 value.toNat

def encodeUInt64 (value : UInt64) : ByteString := littleEndian 8 value.toNat

def encodeInt32 (value : Int32) : ByteString := encodeUInt32 value.toUInt32

def encodeInt64 (value : Int64) : ByteString := encodeUInt64 value.toUInt64

def decodeUInt8 : Decoder UInt8 :=
  (fun bytes => UInt8.ofNat (ofLittleEndian bytes)) <$> Reader.take 1

def decodeUInt16 : Decoder UInt16 :=
  (fun bytes => UInt16.ofNat (ofLittleEndian bytes)) <$> Reader.take 2

def decodeUInt32 : Decoder UInt32 :=
  (fun bytes => UInt32.ofNat (ofLittleEndian bytes)) <$> Reader.take 4

def decodeUInt64 : Decoder UInt64 :=
  (fun bytes => UInt64.ofNat (ofLittleEndian bytes)) <$> Reader.take 8

def decodeInt32 : Decoder Int32 := UInt32.toInt32 <$> decodeUInt32

def decodeInt64 : Decoder Int64 := UInt64.toInt64 <$> decodeUInt64

@[simp] theorem length_encodeUInt32 (value : UInt32) :
    (encodeUInt32 value).length = 4 := length_littleEndian 4 _

theorem reads_littleEndian (width : ℕ) {value : ℕ} {α : Type}
    (h : value < 256 ^ width) (make : ℕ → α) :
    Reads ((fun bytes => make (ofLittleEndian bytes)) <$> Reader.take width)
      (littleEndian width value) (make value) := by
  have htake := Reads.take (littleEndian width value)
  rw [length_littleEndian] at htake
  have hread := htake.map fun bytes => make (ofLittleEndian bytes)
  rwa [ofLittleEndian_littleEndian_of_lt h] at hread

theorem reads_uInt8 (value : UInt8) :
    Reads decodeUInt8 (encodeUInt8 value) value := by
  have hread := reads_littleEndian 1 value.toNat_lt UInt8.ofNat
  have hbyte : littleEndian 1 value.toNat = encodeUInt8 value := by
    have hmod : value.toNat % 256 = value.toNat :=
      Nat.mod_eq_of_lt value.toNat_lt
    simp [littleEndian, encodeUInt8, hmod]
  rwa [hbyte, UInt8.ofNat_toNat] at hread

theorem reads_uInt16 (value : UInt16) :
    Reads decodeUInt16 (encodeUInt16 value) value := by
  have hread := reads_littleEndian 2 value.toNat_lt UInt16.ofNat
  rwa [UInt16.ofNat_toNat] at hread

theorem reads_uInt32 (value : UInt32) :
    Reads decodeUInt32 (encodeUInt32 value) value := by
  have hread := reads_littleEndian 4 value.toNat_lt UInt32.ofNat
  rwa [UInt32.ofNat_toNat] at hread

theorem reads_uInt64 (value : UInt64) :
    Reads decodeUInt64 (encodeUInt64 value) value := by
  have hread := reads_littleEndian 8 value.toNat_lt UInt64.ofNat
  rwa [UInt64.ofNat_toNat] at hread

theorem reads_int32 (value : Int32) :
    Reads decodeInt32 (encodeInt32 value) value :=
  (reads_uInt32 value.toUInt32).map UInt32.toInt32

theorem reads_int64 (value : Int64) :
    Reads decodeInt64 (encodeInt64 value) value :=
  (reads_uInt64 value.toUInt64).map UInt64.toInt64

/-! ## Byte strings -/

/-- `Encode` of a `std::string` or a `ByteString`. -/
def encodeByteString (value : ByteString) : ByteString :=
  encodeInt32 (Int32.ofNat value.length) ++ value

/-- `Decode` into a `std::string` or a `ByteString`; a negative length is the
null value. -/
def decodeByteString : Decoder ByteString := do
  let length ← decodeInt32
  if length < 0 then
    return []
  Reader.take length.toNatClampNeg

theorem reads_byteString {value : ByteString} (h : value.length < 2 ^ 31) :
    Reads decodeByteString (encodeByteString value) value := by
  have hint : (Int32.ofNat value.length).toInt = value.length :=
    Int32.toInt_ofNat_of_lt h
  have hnonneg : ¬ Int32.ofNat value.length < 0 := by
    rw [Int32.lt_iff_toInt_lt, hint]
    simp
  have hlength : (Int32.ofNat value.length).toNatClampNeg = value.length := by
    rw [Int32.toNatClampNeg, hint, Int.toNat_natCast]
  refine (reads_int32 _).bind ?_
  rw [if_neg hnonneg, hlength]
  exact Reads.take value

/-! ## Identifiers -/

def encodeGuid (value : Guid) : ByteString :=
  encodeUInt32 value.data1 ++ (encodeUInt16 value.data2 ++
    (encodeUInt16 value.data3 ++ value.data4.toList))

def decodeGuid : Decoder Guid := do
  let data1 ← decodeUInt32
  let data2 ← decodeUInt16
  let data3 ← decodeUInt16
  let data4 ← Reader.takeVector 8
  return { data1, data2, data3, data4 }

/-- `Encode(const NodeId&)`: the shortest form which holds the identifier. -/
def encodeNodeId (nodeId : NodeId) : ByteString :=
  match nodeId.identifier with
  | .numeric id =>
      if nodeId.namespaceIndex = 0 ∧ id ≤ 0xff then
        encodeUInt8 0x00 ++ encodeUInt8 id.toUInt8
      else if nodeId.namespaceIndex ≤ 0xff ∧ id ≤ 0xffff then
        encodeUInt8 0x01 ++ (encodeUInt8 nodeId.namespaceIndex.toUInt8 ++
          encodeUInt16 id.toUInt16)
      else
        encodeUInt8 0x02 ++ (encodeUInt16 nodeId.namespaceIndex ++
          encodeUInt32 id)
  | .string id =>
      encodeUInt8 0x03 ++ (encodeUInt16 nodeId.namespaceIndex ++
        encodeByteString id)
  | .guid id =>
      encodeUInt8 0x04 ++ (encodeUInt16 nodeId.namespaceIndex ++ encodeGuid id)
  | .byteString id =>
      encodeUInt8 0x05 ++ (encodeUInt16 nodeId.namespaceIndex ++
        encodeByteString id)

/-- The identifier which follows an encoding byte. -/
def decodeNodeIdBody (encoding : UInt8) : Decoder NodeId :=
  if encoding = 0x00 then do
    let shortId ← decodeUInt8
    return { identifier := .numeric shortId.toUInt32 }
  else if encoding = 0x01 then do
    let ns ← decodeUInt8
    let shortId ← decodeUInt16
    return {
      identifier := .numeric shortId.toUInt32
      namespaceIndex := ns.toUInt16 }
  else if encoding = 0x02 then do
    let ns ← decodeUInt16
    let numericId ← decodeUInt32
    return { identifier := .numeric numericId, namespaceIndex := ns }
  else if encoding = 0x03 then do
    let ns ← decodeUInt16
    let stringId ← decodeByteString
    return { identifier := .string stringId, namespaceIndex := ns }
  else if encoding = 0x04 then do
    let ns ← decodeUInt16
    let guidId ← decodeGuid
    return { identifier := .guid guidId, namespaceIndex := ns }
  else if encoding = 0x05 then do
    let ns ← decodeUInt16
    let opaqueId ← decodeByteString
    return { identifier := .byteString opaqueId, namespaceIndex := ns }
  else
    failure

def decodeNodeId : Decoder NodeId := do
  let encoding ← decodeUInt8
  decodeNodeIdBody encoding

theorem reads_guid (value : Guid) :
    Reads decodeGuid (encodeGuid value) value := by
  refine (reads_uInt32 _).bind ((reads_uInt16 _).bind ((reads_uInt16 _).bind ?_))
  exact (Reads.takeVector value.data4).bind_pure (Reads.pure value)

theorem toUInt32_toUInt8_of_le {id : UInt32} (h : id ≤ 0xff) :
    id.toUInt8.toUInt32 = id := by
  have hle : id.toNat ≤ 255 := UInt32.le_iff_toNat_le.mp h
  apply UInt32.toNat_inj.mp
  rw [UInt8.toNat_toUInt32, UInt32.toNat_toUInt8]
  omega

theorem toUInt32_toUInt16_of_le {id : UInt32} (h : id ≤ 0xffff) :
    id.toUInt16.toUInt32 = id := by
  have hle : id.toNat ≤ 65535 := UInt32.le_iff_toNat_le.mp h
  apply UInt32.toNat_inj.mp
  rw [UInt16.toNat_toUInt32, UInt32.toNat_toUInt16]
  omega

theorem toUInt16_toUInt8_of_le {ns : UInt16} (h : ns ≤ 0xff) :
    ns.toUInt8.toUInt16 = ns := by
  have hle : ns.toNat ≤ 255 := UInt16.le_iff_toNat_le.mp h
  apply UInt16.toNat_inj.mp
  rw [UInt8.toNat_toUInt16, UInt16.toNat_toUInt8]
  omega

/-- A length which the encoding of a byte string can hold. -/
def NodeIdentifier.Encodable : NodeIdentifier → Prop
  | .string id | .byteString id => id.length < 2 ^ 31
  | .numeric _ | .guid _ => True

theorem reads_nodeId {nodeId : NodeId}
    (h : NodeIdentifier.Encodable nodeId.identifier) :
    Reads decodeNodeId (encodeNodeId nodeId) nodeId := by
  obtain ⟨identifier, ns⟩ := nodeId
  cases identifier with
  | numeric id =>
      unfold encodeNodeId
      dsimp only
      split
      next hshort =>
        obtain ⟨rfl, hid⟩ := hshort
        have hbody : Reads (decodeNodeIdBody 0x00) (encodeUInt8 id.toUInt8)
            { identifier := .numeric id.toUInt8.toUInt32 } :=
          (reads_uInt8 id.toUInt8).bind_pure (Reads.pure _)
        rw [toUInt32_toUInt8_of_le hid] at hbody
        exact (reads_uInt8 0x00).bind hbody
      next =>
        split
        next hshort =>
          have hbody : Reads (decodeNodeIdBody 0x01)
              (encodeUInt8 ns.toUInt8 ++ encodeUInt16 id.toUInt16)
              { identifier := .numeric id.toUInt16.toUInt32
                namespaceIndex := ns.toUInt8.toUInt16 } :=
            (reads_uInt8 ns.toUInt8).bind
              ((reads_uInt16 id.toUInt16).bind_pure (Reads.pure _))
          rw [toUInt32_toUInt16_of_le hshort.2,
            toUInt16_toUInt8_of_le hshort.1] at hbody
          exact (reads_uInt8 0x01).bind hbody
        next =>
          exact (reads_uInt8 0x02).bind
            ((reads_uInt16 ns).bind ((reads_uInt32 id).bind_pure (Reads.pure _)))
  | string id =>
      exact (reads_uInt8 0x03).bind
        ((reads_uInt16 ns).bind ((reads_byteString h).bind_pure (Reads.pure _)))
  | guid id =>
      exact (reads_uInt8 0x04).bind
        ((reads_uInt16 ns).bind ((reads_guid id).bind_pure (Reads.pure _)))
  | byteString id =>
      exact (reads_uInt8 0x05).bind
        ((reads_uInt16 ns).bind ((reads_byteString h).bind_pure (Reads.pure _)))

/-! ## Messages -/

structure DecodedExtensionObject where
  typeId : UInt32 := 0
  encoding : UInt8 := 0
  body : ByteString := []

/-- The number of a numeric identifier. -/
def NodeId.numericId? (nodeId : NodeId) : Option UInt32 :=
  match nodeId.identifier with
  | .numeric id => some id
  | .string _ | .guid _ | .byteString _ => none

def decodeExtensionObject : Decoder DecodedExtensionObject := do
  let nodeId ← decodeNodeId
  let some typeId := NodeId.numericId? nodeId | failure
  let encoding ← decodeUInt8
  if encoding = 0x00 then
    return { typeId, encoding }
  let length ← decodeInt32
  if length < 0 then
    failure
  let body ← Reader.take length.toNatClampNeg
  return { typeId, encoding, body }

def appendMessage (typeId : UInt32) (payload : ByteString) : ByteString :=
  encodeNodeId { identifier := .numeric typeId } ++ payload

/-- `ReadMessage`: the encoding id of a message and everything after it. -/
def readMessage : Decoder (UInt32 × ByteString) := do
  let typeId ← decodeNodeId
  let some numericId := NodeId.numericId? typeId | failure
  if typeId.namespaceIndex ≠ 0 then
    failure
  let payload ← Reader.rest
  return (numericId, payload)

theorem reads_numericNodeId (id : UInt32) :
    Reads decodeNodeId (encodeNodeId { identifier := .numeric id })
      { identifier := .numeric id } :=
  reads_nodeId trivial

theorem reads_nullExtensionObject :
    Reads decodeExtensionObject
      (encodeNodeId { identifier := .numeric 0 } ++ encodeUInt8 0x00) {} :=
  (reads_numericNodeId 0).bind ((reads_uInt8 0x00).bind_pure (Reads.pure _))

theorem readMessage_appendMessage (typeId : UInt32) (payload : ByteString) :
    readMessage.start (appendMessage typeId payload) =
      some (typeId, payload) := by
  refine ReadsAll.start ((reads_numericNodeId typeId).bind_all ?_)
  exact (ReadsAll.rest payload).bind (Reads.pure _).all

end Binary
end OpcuaStack
