import OpcuaStack.DecoderScripts
import OpcuaStack.GuardedRun
import OpcuaStack.VariantRoundTrip

/-!
# The position of a decoder

A `Decoder` tells how many bytes are before its place and which remain.  Together they
are the bytes it was made for as long as no call reads the body of an ExtensionObject.
Such a call replaces the decoder by one which counts from behind the body, and from
then on bytes are missing.  The sibling which reads a `DecodedExtensionObject` moves on
like the other calls.
-/

namespace OpcuaStack
namespace Binary
namespace Scripted

open Script

/-- The overloads of `Decoder::Decode`. -/
inductive Overload where
  | uInt8
  | uInt16
  | uInt32
  | uInt64
  | bool
  | int32
  | int64
  | float
  | double
  | string
  | qualifiedName
  | localizedText
  | dateTime
  | guid
  | byteString
  | xmlElement
  | nodeId
  | expandedNodeId
  | status
  | diagnosticInfo
  | dataValue
  | variant
  | extensionObject
  | decodedExtensionObject

abbrev Overload.Carrier : Overload → Type
  | .uInt8 => UInt8
  | .uInt16 => UInt16
  | .uInt32 => UInt32
  | .uInt64 => UInt64
  | .bool => Bool
  | .int32 => Int32
  | .int64 => Int64
  | .float => Double
  | .double => Double
  | .string => ByteText
  | .qualifiedName => QualifiedName
  | .localizedText => LocalizedText
  | .dateTime => DateTime
  | .guid => Guid
  | .byteString => ByteString
  | .xmlElement => ByteText
  | .nodeId => NodeId
  | .expandedNodeId => ExpandedNodeId
  | .status => Status
  | .diagnosticInfo => DiagnosticInfo
  | .dataValue => DataValue
  | .variant => Variant
  | .extensionObject => ExtensionObject
  | .decodedExtensionObject => DecodedExtensionObject

variable (forms : Representations)

def decode : (overload : Overload) → Decoder overload.Carrier
  | .uInt8 => decodeUInt8
  | .uInt16 => decodeUInt16
  | .uInt32 => decodeUInt32
  | .uInt64 => decodeUInt64
  | .bool => decodeBool
  | .int32 => decodeInt32
  | .int64 => decodeInt64
  | .float => decodeFloat forms
  | .double => decodeDouble forms
  | .string => decodeByteString
  | .qualifiedName => decodeQualifiedName
  | .localizedText => decodeLocalizedText forms
  | .dateTime => decodeDateTime
  | .guid => decodeGuid
  | .byteString => decodeByteString
  | .xmlElement => decodeByteString
  | .nodeId => decodeNodeId
  | .expandedNodeId => decodeExpandedNodeId
  | .status => decodeStatus
  | .diagnosticInfo => decodeDiagnosticInfo forms
  | .dataValue => decodeDataValue forms
  | .variant => decodeVariant forms
  | .extensionObject => decodeExtensionObject
  | .decodedExtensionObject => decodeDecodedExtensionObject

/-- No overload reads past the end of the input or runs out of its depth. -/
theorem orderly_decode (overload : Overload) : (decode forms overload).scan.Orderly := by
  cases overload with
  | uInt8 => exact scan_uInt8 ▸ Bounded.orderly_uInt8
  | uInt16 => exact scan_uInt16 ▸ Bounded.orderly_uInt16
  | uInt32 => exact scan_uInt32 ▸ Bounded.orderly_uInt32
  | uInt64 => exact scan_uInt64 ▸ Bounded.orderly_uInt64
  | bool => exact scan_bool ▸ Bounded.orderly_bool
  | int32 => exact scan_int32 ▸ Bounded.orderly_int32
  | int64 => exact scan_int64 ▸ Bounded.orderly_int64
  | float => exact scan_float forms ▸ Bounded.orderly_float forms
  | double => exact scan_double forms ▸ Bounded.orderly_double forms
  | string => exact scan_byteString ▸ Bounded.orderly_byteString
  | qualifiedName => exact scan_qualifiedName ▸ Bounded.orderly_qualifiedName
  | localizedText =>
      exact scan_localizedText forms ▸ Bounded.orderly_localizedText forms
  | dateTime => exact scan_dateTime ▸ Bounded.orderly_dateTime
  | guid => exact scan_guid ▸ Bounded.orderly_guid
  | byteString => exact scan_byteString ▸ Bounded.orderly_byteString
  | xmlElement => exact scan_byteString ▸ Bounded.orderly_byteString
  | nodeId => exact scan_nodeId ▸ Bounded.orderly_nodeId
  | expandedNodeId => exact scan_expandedNodeId ▸ Bounded.orderly_expandedNodeId
  | status => exact scan_status ▸ Bounded.orderly_status
  | diagnosticInfo =>
      exact scan_diagnosticInfo forms ▸
        (Bounded.contracts_body forms).orderly_nested .diagnosticInfo
  | dataValue =>
      exact scan_dataValue forms ▸
        (Bounded.contracts_body forms).orderly_nested .dataValue
  | variant =>
      exact scan_variant forms ▸
        (Bounded.contracts_body forms).orderly_nested .variant
  | extensionObject => exact scan_extensionObject ▸ Bounded.orderly_extensionObject
  | decodedExtensionObject => exact follows_decodedExtensionObject.orderly

/-! ## Calls on one decoder -/

inductive Call where
  | decode (overload : Overload)
  | skip (count : UInt64)

namespace Call

/-- Whether the call succeeds, and the decoder after it. -/
def perform (w : Window UInt8) : Call → Bool × Window UInt8
  | .decode overload => ((Scripted.decode forms overload).perform w).map Option.isSome id
  | .skip count => ((Scripted.skip count.toNat).perform w).map Option.isSome id

/-- The call comes to the body of an ExtensionObject and reads it. -/
def meetsBody (w : Window UInt8) : Call → Bool
  | .decode overload => (Scripted.decode forms overload).cuts w
  | .skip count => (Scripted.skip count.toNat).cuts w

end Call

/-- The decoder after the calls. -/
def decoderAfter (w : Window UInt8) (calls : List Call) : Window UInt8 :=
  runFrom (fun place call => (call.perform forms place).2) w calls

def NoBodyMet (w : Window UInt8) (calls : List Call) : Prop :=
  AllMeet (fun place call => (Call.perform forms place call).2)
    (fun place call => call.meetsBody forms place = false) w calls

instance (w : Window UInt8) (calls : List Call) :
    Decidable (NoBodyMet forms w calls) :=
  AllMeet.instDecidable _ _ w calls

/-- `offset() + remaining().size()` is the size of the input. -/
def Accounted (input : ByteString) (w : Window UInt8) : Prop :=
  w.offset + w.remaining.length = input.length

instance (input : ByteString) (w : Window UInt8) : Decidable (Accounted input w) :=
  inferInstanceAs (Decidable (_ = _))

theorem accounted_iff (input : ByteString) (w : Window UInt8) :
    Accounted input w ↔ w.items.length = input.length := by
  have hwithin := w.within
  rw [Accounted, Window.length_remaining, Window.left]
  omega

/-- Each overload takes a byte before it could come to a body. -/
theorem delayed_decode (overload : Overload) : (decode forms overload).Delayed := by
  cases overload with
  | diagnosticInfo | dataValue | variant => exact fun _ => Or.inl (by norm_num)
  | _ => exact Or.inl (by norm_num)

theorem delayed_skip (count : ℕ) : (skip count).Delayed := by
  intro left
  change (if left < count then Script.refuse
    else .fetch count fun _ => .done () : Decoder Unit).Delayed
  split
  · trivial
  · exact Or.inr fun _ => trivial

theorem Call.length_items_le (call : Call) (w : Window UInt8) :
    (call.perform forms w).2.items.length ≤ w.items.length := by
  cases call with
  | decode overload => exact length_items_perform_le _ w
  | skip count => exact length_items_perform_le _ w

/-- A step: the span is the whole one still exactly if no body is read. -/
theorem Call.length_items_eq_iff (call : Call) (w : Window UInt8) :
    (call.perform forms w).2.items.length = w.items.length ↔
      call.meetsBody forms w = false := by
  cases call with
  | decode overload => exact (delayed_decode forms overload).length_items_perform_eq_iff w
  | skip count => exact (delayed_skip count.toNat).length_items_perform_eq_iff w

theorem length_items_decoderAfter_le (w : Window UInt8) (calls : List Call) :
    (decoderAfter forms w calls).items.length ≤ w.items.length := by
  refine runFrom_invariant_of_step
    (P := fun place : Window UInt8 => place.items.length ≤ w.items.length)
    (fun place call hplace => ?_) le_rfl calls
  exact (call.length_items_le forms place).trans hplace

/-- By induction on the calls: a span which got smaller stays so. -/
theorem length_items_decoderAfter_eq_iff (w : Window UInt8) (calls : List Call) :
    (decoderAfter forms w calls).items.length = w.items.length ↔
      NoBodyMet forms w calls := by
  induction calls generalizing w with
  | nil => exact iff_of_true rfl trivial
  | cons call rest ih =>
      have hstep := call.length_items_eq_iff forms w
      have hle := call.length_items_le forms w
      have hrest := length_items_decoderAfter_le forms (call.perform forms w).2 rest
      have hnext := ih (call.perform forms w).2
      change (decoderAfter forms (call.perform forms w).2 rest).items.length = _ ↔
        call.meetsBody forms w = false ∧ NoBodyMet forms (call.perform forms w).2 rest
      constructor
      · intro hlength
        exact ⟨hstep.mp (by omega), hnext.mp (by omega)⟩
      · rintro ⟨hbody, hbodies⟩
        exact (hnext.mpr hbodies).trans (hstep.mpr hbody)

/-- After any calls, the last of which may have succeeded or not, the bytes are accounted for
exactly if none of the calls came to a body. -/
theorem accounted_iff_noBodyMet (input : ByteString) (fits : input.length < 2 ^ 63)
    (calls : List Call) :
    Accounted input (decoderAfter forms (.opening input fits) calls) ↔
      NoBodyMet forms (.opening input fits) calls := by
  rw [accounted_iff]
  exact length_items_decoderAfter_eq_iff forms (.opening input fits) calls

/-- An object with a body of one byte, and two more bytes. -/
def sampleObject : ByteString := [0x00, 0x05, 0x01, 0x01, 0, 0, 0, 0xaa, 7, 8]

theorem length_sampleObject : sampleObject.length < 2 ^ 63 := by decide

def sampleDecoder : Window UInt8 := .opening sampleObject length_sampleObject

theorem sampleObject_accounted :
    Accounted sampleObject
      (decoderAfter Bounded.sampleForms (.opening sampleObject length_sampleObject)
        [.decode .decodedExtensionObject, .decode .uInt8, .skip 1]) :=
  (accounted_iff_noBodyMet Bounded.sampleForms sampleObject length_sampleObject
    [.decode .decodedExtensionObject, .decode .uInt8, .skip 1]).mpr (by decide)

/-- The same bytes read as an ExtensionObject. -/
theorem extensionObject_not_accounted :
    ((Call.decode .extensionObject).perform Bounded.sampleForms sampleDecoder).1 = true ∧
      ¬Accounted sampleObject
        (decoderAfter Bounded.sampleForms sampleDecoder [.decode .extensionObject]) := by
  decide

/-! ## Which calls come to a body -/

theorem steady_number {α : Type} (width : ℕ) (make : ℕ → α) :
    (decodeNumber width make).Steady :=
  (Steady.take width).bind fun _ => .pure _

theorem steady_uInt8 : decodeUInt8.Steady := steady_number 1 _

theorem steady_uInt16 : decodeUInt16.Steady := steady_number 2 _

theorem steady_uInt32 : decodeUInt32.Steady := steady_number 4 _

theorem steady_int32 : decodeInt32.Steady := steady_uInt32.bind fun _ => .pure _

theorem steady_int64 : decodeInt64.Steady := steady_number 8 _

theorem steady_byteString : decodeByteString.Steady :=
  steady_int32.bind fun _ => .ite (.pure _) (.take _)

theorem steady_decodeIf {α : Type} (mask bit : UInt8) {decode : Decoder α}
    (h : decode.Steady) (absent : α) : (decodeIf mask bit decode absent).Steady :=
  h.ite (.pure _)

theorem steady_qualifiedName : decodeQualifiedName.Steady :=
  steady_uInt16.bind fun _ => steady_byteString.bind fun _ => .pure _

theorem steady_localizedText : (decodeLocalizedText forms).Steady :=
  steady_uInt8.bind fun mask =>
    (steady_decodeIf mask 0x01 steady_byteString []).bind fun _ =>
      (steady_decodeIf mask 0x02 steady_byteString []).bind fun _ => .pure _

theorem steady_data4 : decodeData4.Steady :=
  (Steady.check 8).bind fun _ => (steady_uInt8.repeated 8).bind fun _ => .pure _

theorem steady_guid : decodeGuid.Steady :=
  steady_uInt32.bind fun _ => steady_uInt16.bind fun _ => steady_uInt16.bind fun _ =>
    steady_data4.bind fun _ => .pure _

theorem steady_identifier (format : UInt8) (withGuid : Bool) :
    (decodeIdentifier format withGuid).Steady := by
  unfold decodeIdentifier
  refine .ite ?_ (.ite ?_ (.ite ?_ (.ite ?_ (.ite ?_ (.ite ?_ .refuse)))))
  · exact steady_uInt8.bind fun _ => .pure _
  · exact steady_uInt8.bind fun _ => steady_uInt16.bind fun _ => .pure _
  · exact steady_uInt16.bind fun _ => steady_uInt32.bind fun _ => .pure _
  · exact steady_uInt16.bind fun _ => steady_byteString.bind fun _ => .pure _
  · exact steady_uInt16.bind fun _ => steady_guid.bind fun _ => .pure _
  · exact steady_uInt16.bind fun _ => steady_byteString.bind fun _ => .pure _

theorem steady_nodeId : decodeNodeId.Steady :=
  steady_uInt8.bind fun encoding => steady_identifier encoding true

theorem steady_expandedNodeId : decodeExpandedNodeId.Steady :=
  steady_uInt8.bind fun encoding =>
    (steady_identifier (encoding &&& 0x3f) false).bind fun _ =>
      (steady_decodeIf encoding 0x80 steady_byteString []).bind fun _ =>
        (steady_decodeIf encoding 0x40 steady_uInt32 0).bind fun _ => .pure _

theorem steady_decodedExtensionObject : decodeDecodedExtensionObject.Steady := by
  refine steady_nodeId.bind fun nodeId => ?_
  cases NodeId.numericId? nodeId with
  | none => exact .refuse
  | some typeId =>
      refine steady_uInt8.bind fun encoding => .ite (.pure _) ?_
      refine steady_int32.bind fun length => ?_
      exact (Steady.refuse.ite (.take _)).bind fun _ => .pure _

theorem steady_present {α : Type} (mask bit : UInt8) {decode : Decoder α}
    (h : decode.Steady) : (decodePresent mask bit decode).Steady :=
  steady_decodeIf mask bit (h.bind fun _ => .pure _) none

theorem steady_diagnosticInfoBody {calls : Calls} (h : (calls .diagnosticInfo).Steady) :
    (diagnosticInfoBody calls).Steady :=
  steady_uInt8.bind fun mask =>
    (steady_present mask 0x01 steady_int32).bind fun _ =>
      (steady_present mask 0x02 steady_int32).bind fun _ =>
        (steady_present mask 0x08 steady_int32).bind fun _ =>
          (steady_present mask 0x04 steady_int32).bind fun _ =>
            (steady_present mask 0x10 steady_byteString).bind fun _ =>
              (steady_present mask 0x20 (steady_uInt32.bind fun _ => .pure _)).bind
                fun _ => (steady_present mask 0x40 h).bind fun _ => .pure _

/-- By induction on the depth. -/
theorem steady_diagnosticInfo : (decodeDiagnosticInfo forms).Steady := by
  have hdepth (depth : ℕ) :
      (Scripts.unrolled (body forms) depth .diagnosticInfo).Steady := by
    induction depth with
    | zero => exact .unfinished
    | succ depth ih => exact steady_diagnosticInfoBody ih
  exact .left fun count => hdepth (count + 1)

/-- The overloads with an ExtensionObject in what they read. -/
def Overload.holdsObjects : Overload → Bool
  | .dataValue | .variant | .extensionObject => true
  | _ => false

theorem steady_decode {overload : Overload} (h : overload.holdsObjects = false) :
    (decode forms overload).Steady := by
  cases overload with
  | uInt8 => exact steady_uInt8
  | uInt16 => exact steady_uInt16
  | uInt32 | status => exact steady_uInt32.bind fun _ => .pure _
  | uInt64 | dateTime => exact steady_int64.bind fun _ => .pure _
  | bool => exact steady_uInt8.bind fun _ => .pure _
  | int32 => exact steady_int32
  | int64 => exact steady_int64
  | float | double => exact (Steady.take _).bind fun _ => .pure _
  | string | byteString | xmlElement => exact steady_byteString
  | qualifiedName => exact steady_qualifiedName
  | localizedText => exact steady_localizedText forms
  | guid => exact steady_guid
  | nodeId => exact steady_nodeId
  | expandedNodeId => exact steady_expandedNodeId
  | diagnosticInfo => exact steady_diagnosticInfo forms
  | decodedExtensionObject => exact steady_decodedExtensionObject
  | dataValue | variant | extensionObject => cases h

theorem steady_skip (count : ℕ) : (skip count).Steady :=
  Steady.left fun _ => .ite .refuse (.fetch fun _ => .done ())

/-- Without ExtensionObjects, Variants and DataValues no call comes to a body. -/
theorem noBodyMet_of_plain {calls : List Call}
    (h : ∀ call ∈ calls, ∀ overload, call = .decode overload →
      overload.holdsObjects = false) (w : Window UInt8) :
    NoBodyMet forms w calls := by
  refine AllMeet.imp (fun place call hplain => ?_) (AllMeet.of_forall h w)
  cases call with
  | decode overload => exact (steady_decode forms (hplain overload rfl)).not_cuts place
  | skip count => exact (steady_skip count.toNat).not_cuts place

theorem cuts_extensionBody {α : Type} (length : Int32) (make : ByteString → α)
    (w : Window UInt8) :
    (decodeExtensionBody length >>= fun body => pure (make body)).cuts w = true ↔
      0 ≤ length ∧ length.toNatClampNeg ≤ w.left := by
  rw [cuts_bind_pure, decodeExtensionBody]
  by_cases hnegative : length < 0
  · rw [if_pos hnegative]
    exact iff_of_false Bool.false_ne_true fun h => Int32.not_le.mpr hnegative h.1
  · rw [if_neg hnegative, cuts_splitOff]
    exact (and_iff_right (Int32.not_lt.mp hnegative)).symm

/-- An ExtensionObject comes next whose encoding byte is not zero, and as many bytes remain
as its length says. -/
def BodyFollows (w : Window UInt8) : Prop :=
  ∃ typeId place encoding place' length last,
    Bounded.decodeExpandedNodeId w = .value typeId place ∧
    Bounded.decodeUInt8 place = .value encoding place' ∧ encoding ≠ 0x00 ∧
    Bounded.decodeInt32 place' = .value length last ∧ 0 ≤ length ∧
    length.toNatClampNeg ≤ last.left

theorem extensionObject_meetsBody_iff (w : Window UInt8) :
    (Call.decode .extensionObject).meetsBody forms w = true ↔ BodyFollows w := by
  have hbody (typeId : ExpandedNodeId) (encoding : UInt8) (place : Window UInt8) :
      (if encoding = 0x00 then
          pure { dataTypeId := typeId, value := .binary [] }
        else do
          let length ← decodeInt32
          let body ← decodeExtensionBody length
          return ({ dataTypeId := typeId, value := .binary body } : ExtensionObject) :
        Decoder ExtensionObject).cuts place = true ↔
      encoding ≠ 0x00 ∧ ∃ length last,
        Bounded.decodeInt32 place = .value length last ∧ 0 ≤ length ∧
          length.toNatClampNeg ≤ last.left := by
    by_cases hzero : encoding = 0x00
    · rw [if_pos hzero]
      exact iff_of_false Bool.false_ne_true fun h => h.1 hzero
    · rw [if_neg hzero, cuts_bind_iff steady_int32, scan_int32]
      simp only [cuts_extensionBody, hzero, ne_eq, not_false_eq_true, true_and]
  change decodeExtensionObject.cuts w = true ↔ _
  rw [decodeExtensionObject, cuts_bind_iff steady_expandedNodeId, scan_expandedNodeId,
    BodyFollows]
  simp only [cuts_bind_iff steady_uInt8, scan_uInt8, hbody]
  constructor
  · rintro ⟨typeId, place, hid, encoding, place', hencoding, hset, length, last, hlast⟩
    exact ⟨typeId, place, encoding, place', length, last, hid, hencoding, hset, hlast⟩
  · rintro ⟨typeId, place, encoding, place', length, last, hid, hencoding, hset, hlast⟩
    exact ⟨typeId, place, hid, encoding, place', hencoding, hset, length, last, hlast⟩

end Scripted
end Binary
end OpcuaStack
