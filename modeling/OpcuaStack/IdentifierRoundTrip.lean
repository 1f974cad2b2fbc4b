import OpcuaStack.ReadingCosts
import OpcuaStack.VariantRoundTrip

/-!
# Identifiers on the wire

A NodeId is written in the shortest form which holds it, and comes back.  An
ExpandedNodeId mixes two flags into the byte which names the form, and repeats the
list of forms on both sides; the one for a Guid is on neither list.
-/

namespace OpcuaStack

namespace Binary
namespace Bounded

open Scanner

/-! ## What is decoded -/

/-- A length is an `Int32`, so no decoded text is longer. -/
theorem ensures_byteString :
    Ensures (fun value => value.length < 2 ^ 31) decodeByteString := by
  refine (Ensures.trivially decodeInt32).bind fun length _ => ?_
  refine .ite (fun _ => .pure (by norm_num)) fun _ => ?_
  intro w value next hvalue
  have htaken := Ensures.take (toNatClampNeg_lt length) w value next hvalue
  have hlength := length.toInt_lt
  have hcount : length.toNatClampNeg < 2 ^ 31 := by
    rw [Int32.toNatClampNeg]
    omega
  exact htaken.trans_lt hcount

/-- A decoded identifier, which is no Guid where Guids are not known. -/
structure Decoded (withGuid : Bool) (nodeId : NodeId) : Prop where
  encodable : NodeIdentifier.Encodable nodeId.identifier
  known : withGuid = false → ∀ id, nodeId.identifier ≠ .guid id

theorem ensures_identifier (format : UInt8) (withGuid : Bool) :
    Ensures (Decoded withGuid) (decodeIdentifier format withGuid) := by
  have hnumber {α : Type} (decode : Decoder α) := Ensures.trivially decode
  unfold decodeIdentifier
  refine .ite (fun _ => ?_) fun _ => .ite (fun _ => ?_) fun _ =>
    .ite (fun _ => ?_) fun _ => .ite (fun _ => ?_) fun _ =>
    .ite (fun hguid => ?_) fun _ => .ite (fun _ => ?_) fun _ => .refuse _
  · exact (hnumber _).bind fun _ _ => .pure ⟨trivial, fun _ _ => nofun⟩
  · exact (hnumber _).bind fun _ _ => (hnumber _).bind fun _ _ =>
      .pure ⟨trivial, fun _ _ => nofun⟩
  · exact (hnumber _).bind fun _ _ => (hnumber _).bind fun _ _ =>
      .pure ⟨trivial, fun _ _ => nofun⟩
  · exact (hnumber _).bind fun _ _ => ensures_byteString.bind fun _ hlength =>
      .pure ⟨hlength, fun _ _ => nofun⟩
  · refine (hnumber _).bind fun _ _ => (hnumber _).bind fun _ _ =>
      .pure ⟨trivial, fun hunknown => ?_⟩
    exact absurd hguid.2 (by rw [hunknown]; exact Bool.false_ne_true)
  · exact (hnumber _).bind fun _ _ => ensures_byteString.bind fun _ hlength =>
      .pure ⟨hlength, fun _ _ => nofun⟩

theorem ensures_nodeId :
    Ensures (fun nodeId => NodeIdentifier.Encodable nodeId.identifier)
      decodeNodeId := by
  refine (Ensures.trivially decodeUInt8).bind fun encoding _ => ?_
  intro w value next hvalue
  exact (ensures_identifier encoding true w value next hvalue).encodable

/-- What an ExpandedNodeId can be carried over the wire with. -/
structure Carried (value : ExpandedNodeId) : Prop where
  noGuid : ∀ id, value.nodeId.identifier ≠ .guid id
  encodable : NodeIdentifier.Encodable value.nodeId.identifier
  uriFits : value.namespaceUri.length < 2 ^ 31

theorem ensures_expandedNodeId : Ensures Carried decodeExpandedNodeId := by
  refine (Ensures.trivially decodeUInt8).bind fun encoding _ => ?_
  refine (ensures_identifier _ false).bind fun nodeId hnodeId => ?_
  have huri : Ensures (fun uri => uri.length < 2 ^ 31)
      (decodeIf encoding 0x80 decodeByteString []) :=
    .ite (fun _ => ensures_byteString) fun _ => .pure (by norm_num)
  refine huri.bind fun namespaceUri hlength => ?_
  refine (Ensures.trivially _).bind fun serverIndex _ => ?_
  exact .pure ⟨hnodeId.known rfl, hnodeId.encodable, hlength⟩

/-! ## NodeIds -/

theorem yields_nodeId {nodeId : NodeId}
    (h : NodeIdentifier.Encodable nodeId.identifier) :
    decodeNodeId.Yields (encodeNodeId nodeId) nodeId :=
  follows_nodeId.yields (reads_nodeId h)

/-- The bytes which the form of a numeric identifier takes. -/
def numericLength (nodeId : NodeId) : ℕ :=
  match nodeId.identifier with
  | .numeric _ => (encodeNodeId nodeId).length
  | .string _ | .guid _ | .byteString _ => 0

theorem numericLength_eq (id : UInt32) (ns : UInt16) :
    numericLength ⟨.numeric id, ns⟩ =
      if ns = 0 ∧ id ≤ 0xff then 2
      else if ns ≤ 0xff ∧ id ≤ 0xffff then 4 else 7 := by
  unfold numericLength encodeNodeId
  dsimp only
  split
  · rfl
  · split <;> rfl

theorem numericLength_twoByte (id : UInt8) :
    numericLength ⟨.numeric id.toUInt32, 0⟩ ≤ 2 := by
  have hid : id.toUInt32 ≤ 0xff := by
    rw [UInt32.le_iff_toNat_le, UInt8.toNat_toUInt32]
    exact Nat.le_of_lt_succ id.toNat_lt
  rw [numericLength_eq, if_pos ⟨rfl, hid⟩]

theorem numericLength_fourByte (id : UInt16) (ns : UInt8) :
    numericLength ⟨.numeric id.toUInt32, ns.toUInt16⟩ ≤ 4 := by
  have hid : id.toUInt32 ≤ 0xffff := by
    rw [UInt32.le_iff_toNat_le, UInt16.toNat_toUInt32]
    exact Nat.le_of_lt_succ id.toNat_lt
  have hns : ns.toUInt16 ≤ 0xff := by
    rw [UInt16.le_iff_toNat_le, UInt8.toNat_toUInt16]
    exact Nat.le_of_lt_succ ns.toNat_lt
  rw [numericLength_eq]
  split
  · norm_num
  · rw [if_pos ⟨hns, hid⟩]

theorem numericLength_le (id : UInt32) (ns : UInt16) :
    numericLength ⟨.numeric id, ns⟩ ≤ 7 := by
  rw [numericLength_eq]
  split
  · norm_num
  · split <;> norm_num

theorem spends_width {α : Type} {width : ℕ} (hwidth : width < 2 ^ 63)
    (make : ℕ → α) : Spends (fun _ => width) (decodeNumber width make) :=
  (Spends.take hwidth).bind fun _ => .pure (Nat.sub_self width)

theorem spends_identifier (format : UInt8) :
    Spends (fun nodeId => numericLength nodeId - 1)
      (decodeIdentifier format true) := by
  have hone : Spends (fun _ => 1) decodeUInt8 := spends_width (by norm_num) _
  have htwo : Spends (fun _ => 2) decodeUInt16 := spends_width (by norm_num) _
  have hfour : Spends (fun _ => 4) decodeUInt32 := spends_width (by norm_num) _
  unfold decodeIdentifier
  refine .ite ?_ (.ite ?_ (.ite ?_ (.ite ?_ (.ite ?_ (.ite ?_ (.refuse _))))))
  · refine hone.bind fun shortId => .pure ?_
    have hle := numericLength_twoByte shortId
    omega
  · refine hone.bind fun ns => htwo.bind fun shortId => .pure ?_
    have hle := numericLength_fourByte shortId ns
    omega
  · refine htwo.bind fun ns => hfour.bind fun id => .pure ?_
    have hle := numericLength_le id ns
    omega
  · exact .bind_free orderly_uInt16 fun _ => .bind_free orderly_byteString fun _ =>
      .pure rfl
  · exact .bind_free orderly_uInt16 fun _ => .bind_free orderly_guid fun _ =>
      .pure rfl
  · exact .bind_free orderly_uInt16 fun _ => .bind_free orderly_byteString fun _ =>
      .pure rfl

theorem spends_nodeId : Spends numericLength decodeNodeId :=
  (spends_width (by norm_num) _).bind spends_identifier

/-- A NodeId whose text is shorter than `2 ^ 31` bytes comes back from its encoding
in front of any bytes, and a numeric one is nowhere read from fewer bytes than its
encoding has. -/
theorem nodeId_codec (nodeId : NodeId)
    (h : NodeIdentifier.Encodable nodeId.identifier) :
    decodeNodeId.Yields (encodeNodeId nodeId) nodeId ∧
      ∀ id, nodeId.identifier = .numeric id → ∀ w next,
        decodeNodeId w = .value nodeId next →
          (encodeNodeId nodeId).length + next.left ≤ w.left := by
  refine ⟨yields_nodeId h, fun id hid w next hvalue => ?_⟩
  have hspent := spends_nodeId w nodeId next hvalue
  rw [numericLength, hid] at hspent
  exact hspent

theorem fourByte_codec :
    decodeNodeId.Yields (encodeNodeId ⟨.numeric 0x100, 0xff⟩)
        ⟨.numeric 0x100, 0xff⟩ ∧
      ∀ id, NodeIdentifier.numeric 0x100 = .numeric id → ∀ w next,
        decodeNodeId w = .value ⟨.numeric 0x100, 0xff⟩ next →
          (encodeNodeId ⟨.numeric 0x100, 0xff⟩).length + next.left ≤ w.left :=
  nodeId_codec ⟨.numeric 0x100, 0xff⟩ trivial

/-- The length of a text of `2 ^ 31` bytes does not fit into an `Int32`. -/
def longNodeId : NodeId := ⟨.string (List.replicate (2 ^ 31) 0x61), 0⟩

theorem longNodeId_not_returned :
    ¬ decodeNodeId.Yields (encodeNodeId longNodeId) longNodeId := by
  intro hyields
  have hlength : (encodeNodeId longNodeId).length < 2 ^ 63 := by
    simp only [longNodeId, encodeNodeId, encodeByteString, List.length_append,
      List.length_replicate]
    norm_num [encodeUInt8, encodeUInt16, encodeInt32, encodeUInt32, littleEndian]
  have hencodable := ensures_nodeId.of_returns (Scanner.Returns.of_yields hyields)
    fun piece hpiece => Option.some.inj hpiece ▸ hlength
  have hshort : (List.replicate (2 ^ 31) (0x61 : UInt8)).length < 2 ^ 31 :=
    hencodable
  rw [List.length_replicate] at hshort
  exact lt_irrefl _ hshort

/-! ## ExpandedNodeIds -/

theorem returns_expandedBody {nodeId : NodeId}
    (hnoGuid : ∀ id, nodeId.identifier ≠ .guid id)
    (h : NodeIdentifier.Encodable nodeId.identifier) :
    (decodeIdentifier (expandedNodeIdFormat nodeId) false).Returns
      (encodeExpandedBody nodeId) nodeId := by
  obtain ⟨identifier, ns⟩ := nodeId
  have hns := follows_uInt16.yields (reads_uInt16 ns)
  unfold expandedNodeIdFormat encodeExpandedBody
  cases identifier with
  | numeric id =>
      dsimp only
      split
      next hshort =>
        obtain ⟨rfl, hid⟩ := hshort
        have hbody : (decodeIdentifier 0x00 false).Yields (encodeUInt8 id.toUInt8)
            { identifier := .numeric id.toUInt8.toUInt32 } :=
          (yields_uInt8 id.toUInt8).bind_nil (.pure _)
        rw [toUInt32_toUInt8_of_le hid] at hbody
        exact .of_yields hbody
      next =>
        split
        next hshort =>
          have hbody : (decodeIdentifier 0x01 false).Yields
              (encodeUInt8 ns.toUInt8 ++ encodeUInt16 id.toUInt16)
              { identifier := .numeric id.toUInt16.toUInt32
                namespaceIndex := ns.toUInt8.toUInt16 } :=
            (yields_uInt8 ns.toUInt8).bind
              ((follows_uInt16.yields (reads_uInt16 id.toUInt16)).bind_nil
                (.pure _))
          rw [toUInt32_toUInt16_of_le hshort.2,
            toUInt16_toUInt8_of_le hshort.1] at hbody
          exact .of_yields hbody
        next =>
          exact .of_yields (hns.bind
            ((follows_uInt32.yields (reads_uInt32 id)).bind_nil (.pure _)))
  | string id =>
      exact .of_yields (hns.bind
        ((follows_byteString.yields (reads_byteString h)).bind_nil (.pure _)))
  | guid id => exact absurd rfl (hnoGuid id)
  | byteString id =>
      exact .of_yields (hns.bind
        ((follows_byteString.yields (reads_byteString h)).bind_nil (.pure _)))

theorem expandedNodeIdMask_bits (nodeId : NodeId) (uri server : Bool) :
    let encoding :=
      maskBit uri 0x80 ||| maskBit server 0x40 ||| expandedNodeIdFormat nodeId
    (encoding &&& 0x80 ≠ 0 ↔ uri) ∧ (encoding &&& 0x40 ≠ 0 ↔ server) ∧
      encoding &&& 0x3f = expandedNodeIdFormat nodeId := by
  have hforms : ∀ form ∈ [(0x00 : UInt8), 0x01, 0x02, 0x03, 0x05],
      ∀ uri server, let encoding := maskBit uri 0x80 ||| maskBit server 0x40 ||| form
        (encoding &&& 0x80 ≠ 0 ↔ uri = true) ∧
          (encoding &&& 0x40 ≠ 0 ↔ server = true) ∧ encoding &&& 0x3f = form := by
    decide +kernel
  refine hforms (expandedNodeIdFormat nodeId) ?_ uri server
  unfold expandedNodeIdFormat
  cases nodeId.identifier with
  | numeric id =>
      dsimp only
      split
      · simp
      · split <;> simp
  | string | guid | byteString => simp

theorem returns_expandedNodeId {value : ExpandedNodeId} (h : Carried value) :
    decodeExpandedNodeId.Returns (encodeExpandedNodeId value) value := by
  obtain ⟨nodeId, uri, server⟩ := value
  obtain ⟨huri, hserver, hform⟩ :=
    expandedNodeIdMask_bits nodeId (!uri.isEmpty) (server != 0)
  refine (Scanner.Returns.of_yields (yields_uInt8 _)).bind ?_
  rw [hform]
  refine (returns_expandedBody h.noGuid h.encodable).bind (.of_yields ?_)
  refine (yields_decodeIf
    (fun _ => follows_byteString.yields (reads_byteString h.uriFits))
    fun hclear => ?_).bind
      ((yields_decodeIf
        (fun _ => follows_uInt32.yields (reads_uInt32 server))
        fun hclear => ?_).bind_nil (.pure _))
  · cases uri with
    | nil => rfl
    | cons first rest => exact absurd hclear (huri.mpr rfl)
  · by_contra hne
    exact hserver.mpr (bne_iff_ne.mpr (Ne.symm hne)) hclear

/-- An ExpandedNodeId comes back from its encoding in front of any bytes exactly if
it is no Guid and its texts are shorter than `2 ^ 31` bytes. -/
theorem expandedNodeId_returns_iff {value : ExpandedNodeId}
    (hfits : ∀ written, encodeExpandedNodeId value = some written →
      written.length < 2 ^ 63) :
    decodeExpandedNodeId.Returns (encodeExpandedNodeId value) value ↔
      Carried value :=
  ⟨fun hreturns => ensures_expandedNodeId.of_returns hreturns hfits,
    returns_expandedNodeId⟩

def remoteNodeId : ExpandedNodeId where
  nodeId := ⟨.string [0x61], 2⟩
  namespaceUri := [0x75]
  serverIndex := 3

theorem remoteNodeId_returns :
    decodeExpandedNodeId.Returns (encodeExpandedNodeId remoteNodeId)
      remoteNodeId := by
  have hlength : (encodeExpandedNodeId remoteNodeId).map List.length = some 17 := by
    decide
  have htext : NodeIdentifier.Encodable (.string [0x61]) :=
    (by decide : [(0x61 : UInt8)].length < 2 ^ 31)
  refine (expandedNodeId_returns_iff fun written hwritten => ?_).mpr
    ⟨fun _ => nofun, htext, by decide⟩
  rw [hwritten, Option.map_some, Option.some.injEq] at hlength
  omega

/-- A Guid is not written at all, and the byte for it is refused. -/
theorem guidNodeId_not_returned :
    encodeExpandedNodeId { nodeId := ⟨.guid ⟨1, 2, 3, Vector.replicate 8 4⟩, 0⟩ } =
        none ∧
      ¬ decodeExpandedNodeId.Returns
        (encodeExpandedNodeId
          { nodeId := ⟨.guid ⟨1, 2, 3, Vector.replicate 8 4⟩, 0⟩ })
        { nodeId := ⟨.guid ⟨1, 2, 3, Vector.replicate 8 4⟩, 0⟩ } := by
  refine ⟨rfl, fun hreturns => ?_⟩
  obtain ⟨written, hwritten, -⟩ := hreturns
  cases hwritten

end Bounded
end Binary
end OpcuaStack
