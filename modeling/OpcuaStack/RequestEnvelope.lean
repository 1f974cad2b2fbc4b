import OpcuaStack.ExtensionObjectRoundTrip
import OpcuaStack.ListUpsert
import OpcuaStack.TraceContext
import OpcuaStack.WireTypes

/-!
# Envelopes of requests

`ua/ua_service_header.cpp`.  The extension slot of a request header carries a list of
parameters.  A trace context travels in it twice, as the W3C text and as a
SpanContextDataType; the other parameters belong to the services.
-/

namespace OpcuaStack

structure KeyValuePair where
  key : QualifiedName := {}
  value : Variant := .null

def KeyValuePair.withValue (value : Variant) (parameter : KeyValuePair) : KeyValuePair :=
  { parameter with value }

structure RequestHeader where
  authenticationToken : NodeId := {}
  timestamp : DateTime := {}
  requestHandle : UInt32 := 0
  returnDiagnostics : UInt32 := 0
  auditEntryId : ByteText := []
  timeoutHint : UInt32 := 0
  additionalHeader : ExtensionObject := {}

/-- The generated codecs of `AdditionalParametersType` and `SpanContextDataType`. -/
structure HeaderCodec where
  parameters : WireType (List KeyValuePair)
  spanContext : WireType SpanContextDataType

namespace RequestEnvelope

open TraceContext

def traceParentParameterName : ByteText := asciiText "traceparent"

def spanContextParameterName : ByteText := asciiText "SpanContext"

def hasKey (key : ByteText) (parameter : KeyValuePair) : Bool :=
  parameter.key.namespaceIndex == 0 && parameter.key.name == key

def findAdditionalParameter (parameters : List KeyValuePair) (key : ByteText) :
    Option Variant :=
  (parameters.find? (hasKey key)).map KeyValuePair.value

/-- The list which `SetAdditionalParameter` stores. -/
def setParameter (parameters : List KeyValuePair) (key : ByteText) (value : Variant) :
    List KeyValuePair :=
  upsert (hasKey key) (.withValue value) { key := { name := key }, value } parameters

def stringOf (value : Variant) : Option ByteText := value.getIf .string

/-! ### One parameter is set -/

theorem hasKey_of_ne {key other : ByteText} (hne : other ≠ key) {parameter : KeyValuePair}
    (hkey : hasKey key parameter = true) : hasKey other parameter = false := by
  simp only [hasKey, Bool.and_eq_true, beq_iff_eq] at hkey
  simp only [hasKey, hkey.2, Bool.and_eq_false_iff, beq_eq_false_iff_ne]
  exact .inr hne.symm

theorem key_withValue (value : Variant) (parameter : KeyValuePair) :
    (parameter.withValue value).key = parameter.key := rfl

theorem hasKey_withValue (key : ByteText) (value : Variant) (parameter : KeyValuePair) :
    hasKey key (parameter.withValue value) = hasKey key parameter := rfl

theorem hasKey_new (key : ByteText) (value : Variant) :
    hasKey key { key := { name := key }, value } = true := by
  simp only [hasKey, beq_self_eq_true, Bool.and_self]

variable {key other : ByteText}

theorem hasKey_disjoint (hne : other ≠ key) (value : Variant) (parameter : KeyValuePair)
    (hkey : hasKey key parameter = true) :
    hasKey other parameter = false ∧ hasKey other (parameter.withValue value) = false :=
  ⟨hasKey_of_ne hne hkey, hasKey_of_ne hne hkey⟩

theorem findAdditionalParameter_setParameter (parameters : List KeyValuePair)
    (key : ByteText) (value : Variant) :
    findAdditionalParameter (setParameter parameters key value) key = some value := by
  rw [findAdditionalParameter, setParameter,
    find?_upsert (hasKey_new key value) (hasKey_withValue key value), Option.map_some]
  cases parameters.find? (hasKey key) <;> rfl

theorem findAdditionalParameter_setParameter_of_ne (hne : other ≠ key)
    (parameters : List KeyValuePair) (value : Variant) :
    findAdditionalParameter (setParameter parameters key value) other =
      findAdditionalParameter parameters other := by
  rw [findAdditionalParameter, setParameter,
    find?_upsert_of_other (hasKey_of_ne hne (hasKey_new key value))
      (hasKey_disjoint hne value), findAdditionalParameter]

theorem keys_setParameter (parameters : List KeyValuePair) (key : ByteText)
    (value : Variant) :
    (setParameter parameters key value).map KeyValuePair.key =
      parameters.map KeyValuePair.key ++
        if parameters.any (hasKey key) then [] else [{ name := key }] :=
  map_upsert (key_withValue value) parameters

theorem any_setParameter_of_ne (hne : other ≠ key) (parameters : List KeyValuePair)
    (value : Variant) :
    (setParameter parameters key value).any (hasKey other) =
      parameters.any (hasKey other) :=
  any_upsert_of_other (hasKey_of_ne hne (hasKey_new key value))
    (hasKey_disjoint hne value) parameters

theorem spanContext_ne_traceParent :
    spanContextParameterName ≠ traceParentParameterName := by decide

end RequestEnvelope

open RequestEnvelope TraceContext

namespace HeaderCodec

variable (codec : HeaderCodec)

def getAdditionalParameters (header : RequestHeader) : List KeyValuePair :=
  (codec.parameters.fromAnyExtensionObject header.additionalHeader).getD []

def setAdditionalParameters (header : RequestHeader) (parameters : List KeyValuePair) :
    RequestHeader :=
  { header with
    additionalHeader :=
      if parameters.isEmpty then {} else codec.parameters.toExtensionObject parameters }

def setAdditionalParameter (header : RequestHeader) (key : ByteText) (value : Variant) :
    RequestHeader :=
  codec.setAdditionalParameters header
    (setParameter (codec.getAdditionalParameters header) key value)

def applyRequestEnvelope (header : RequestHeader) (authenticationToken : NodeId)
    (requestHandle : UInt32) (traceParent : ByteText) : RequestHeader :=
  let header := { header with authenticationToken, requestHandle }
  if traceParent = [] then header
  else
    let header := codec.setAdditionalParameter header traceParentParameterName
      (.scalar .string traceParent)
    match traceParentToSpanContext traceParent with
    | some spanContext =>
        codec.setAdditionalParameter header spanContextParameterName
          (.scalar .extensionObject (codec.spanContext.toExtensionObject spanContext))
    | none => header

def getSpanContextTraceParent (parameters : List KeyValuePair) : ByteText :=
  (((findAdditionalParameter parameters spanContextParameterName).bind
    (Variant.getIf .extensionObject)).bind codec.spanContext.fromAnyExtensionObject).elim []
      spanContextToTraceParent

def getTraceParent (header : RequestHeader) : ByteText :=
  let parameters := codec.getAdditionalParameters header
  let text : Option ByteText :=
    (findAdditionalParameter parameters traceParentParameterName).bind stringOf
  if text.any isW3CTraceParent then text.getD []
  else
    let fromSpanContext := codec.getSpanContextTraceParent parameters
    if fromSpanContext ≠ [] then fromSpanContext else text.getD []

/-! ## The lists of an envelope -/

/-- The parameters with the W3C text among them. -/
def withTraceParent (parameters : List KeyValuePair) (traceParent : ByteText) :
    List KeyValuePair :=
  setParameter parameters traceParentParameterName (.scalar .string traceParent)

/-- The parameters with both forms of the trace context among them. -/
def withTraceContext (parameters : List KeyValuePair) (traceParent : ByteText) :
    List KeyValuePair :=
  (traceParentToSpanContext traceParent).elim (withTraceParent parameters traceParent)
    fun spanContext =>
      setParameter (withTraceParent parameters traceParent) spanContextParameterName
        (.scalar .extensionObject (codec.spanContext.toExtensionObject spanContext))

/-- The lists that an envelope has its codec write are read back. -/
structure ReadsBack (parameters : List KeyValuePair) (traceParent : ByteText) : Prop where
  withTraceParent : codec.parameters.RoundTrips (withTraceParent parameters traceParent)
  withTraceContext :
    codec.parameters.RoundTrips (codec.withTraceContext parameters traceParent)

variable {codec}

theorem getAdditionalParameters_setAdditionalParameter {header : RequestHeader}
    {parameters : List KeyValuePair} {key : ByteText} {value : Variant}
    (hheader : codec.getAdditionalParameters header = parameters)
    (hcodec : codec.parameters.RoundTrips (setParameter parameters key value)) :
    codec.getAdditionalParameters (codec.setAdditionalParameter header key value) =
      setParameter parameters key value := by
  have hne : setParameter parameters key value ≠ [] := upsert_ne_nil _
  have hempty : (setParameter parameters key value).isEmpty = false :=
    List.isEmpty_eq_false_iff.mpr hne
  rw [setAdditionalParameter, setAdditionalParameters, hheader, hempty,
    if_neg Bool.false_ne_true, getAdditionalParameters, hcodec.fromAnyExtensionObject,
    Option.getD_some]

theorem getAdditionalParameters_applyRequestEnvelope {header : RequestHeader}
    {traceParent : ByteText} (htrace : traceParent ≠ [])
    (hcodec : codec.ReadsBack (codec.getAdditionalParameters header) traceParent)
    (authenticationToken : NodeId) (requestHandle : UInt32) :
    codec.getAdditionalParameters
        (codec.applyRequestEnvelope header authenticationToken requestHandle traceParent) =
      codec.withTraceContext (codec.getAdditionalParameters header) traceParent := by
  have hfirst := getAdditionalParameters_setAdditionalParameter
    (rfl : codec.getAdditionalParameters
      { header with authenticationToken, requestHandle } = _) hcodec.withTraceParent
  have hboth := hcodec.withTraceContext
  unfold applyRequestEnvelope
  dsimp only
  rw [if_neg htrace]
  unfold withTraceContext at hboth ⊢
  cases hspan : traceParentToSpanContext traceParent with
  | none => exact hfirst
  | some spanContext =>
      rw [hspan, Option.elim_some] at hboth
      exact getAdditionalParameters_setAdditionalParameter hfirst hboth

/-! ## Stamping -/

variable (codec) in
/-- The trace context was written among the parameters, and the others are where they
were. -/
structure Stamped (before now : List KeyValuePair) (traceParent : ByteText) : Prop where
  text : findAdditionalParameter now traceParentParameterName =
    some (.scalar .string traceParent)
  converted : ∀ spanContext, traceParentToSpanContext traceParent = some spanContext →
    findAdditionalParameter now spanContextParameterName =
      some (.scalar .extensionObject (codec.spanContext.toExtensionObject spanContext))
  unconverted : traceParentToSpanContext traceParent = none →
    findAdditionalParameter before spanContextParameterName = none →
      findAdditionalParameter now spanContextParameterName = none
  others : ∀ place < before.length,
    before.findIdx? (hasKey traceParentParameterName) ≠ some place →
      before.findIdx? (hasKey spanContextParameterName) ≠ some place →
        now[place]? = before[place]?
  keys : now.map KeyValuePair.key =
    before.map KeyValuePair.key ++
      (if before.any (hasKey traceParentParameterName) then []
        else [{ name := traceParentParameterName }]) ++
        if before.any (hasKey spanContextParameterName) ∨
            traceParentToSpanContext traceParent = none then []
        else [{ name := spanContextParameterName }]

theorem withTraceParent_stamped {traceParent : ByteText}
    (hspan : traceParentToSpanContext traceParent = none) (before : List KeyValuePair) :
    codec.Stamped before (withTraceParent before traceParent) traceParent where
  text := findAdditionalParameter_setParameter before _ _
  converted spanContext hsome := by
    rw [hspan] at hsome
    cases hsome
  unconverted _ hnone :=
    (findAdditionalParameter_setParameter_of_ne spanContext_ne_traceParent before _).trans
      hnone
  others place hplace htrace _ := getElem?_upsert hplace htrace
  keys := by
    rw [withTraceParent, keys_setParameter]
    simp only [hspan, or_true, if_true, List.append_nil]

theorem withTraceContext_stamped (before : List KeyValuePair) (traceParent : ByteText) :
    codec.Stamped before (codec.withTraceContext before traceParent) traceParent := by
  unfold withTraceContext
  cases hspan : traceParentToSpanContext traceParent with
  | none => exact withTraceParent_stamped hspan before
  | some spanContext =>
      have hother : hasKey spanContextParameterName
          { key := { name := traceParentParameterName },
            value := .scalar .string traceParent } = false :=
        hasKey_of_ne spanContext_ne_traceParent (hasKey_new _ _)
      have hfirst : (withTraceParent before traceParent).findIdx?
            (hasKey spanContextParameterName) =
          before.findIdx? (hasKey spanContextParameterName) :=
        findIdx?_upsert_of_other hother
          (hasKey_disjoint spanContext_ne_traceParent (.scalar .string traceParent)) before
      rw [Option.elim_some]
      refine ⟨?_, fun other hsome => ?_, fun hnone => ?_, fun place hplace htrace hctx => ?_, ?_⟩
      · rw [findAdditionalParameter_setParameter_of_ne spanContext_ne_traceParent.symm]
        exact findAdditionalParameter_setParameter before _ _
      · obtain rfl : spanContext = other := Option.some.inj (hspan.symm.trans hsome)
        exact findAdditionalParameter_setParameter _ _ _
      · rw [hspan] at hnone
        cases hnone
      · rw [← hfirst] at hctx
        exact (getElem?_upsert (hplace.trans_le (length_le_upsert before)) hctx).trans
          (getElem?_upsert hplace htrace)
      · rw [keys_setParameter, withTraceParent, keys_setParameter,
          any_setParameter_of_ne spanContext_ne_traceParent]
        simp only [hspan, reduceCtorEq, or_false]

/-- The header of an envelope carries its token, its handle and its trace context, and
keeps what else it carried. -/
theorem applyRequestEnvelope_stamps (header : RequestHeader) (authenticationToken : NodeId)
    (requestHandle : UInt32) {traceParent : ByteText} (htrace : traceParent ≠ [])
    (hcodec : codec.ReadsBack (codec.getAdditionalParameters header) traceParent) :
    let after :=
      codec.applyRequestEnvelope header authenticationToken requestHandle traceParent
    after = { header with
        authenticationToken, requestHandle, additionalHeader := after.additionalHeader } ∧
      codec.Stamped (codec.getAdditionalParameters header)
        (codec.getAdditionalParameters after) traceParent ∧
      (isW3CTraceParent traceParent = true ∨
          codec.getSpanContextTraceParent (codec.getAdditionalParameters header) = [] →
        codec.getTraceParent after = traceParent) := by
  have hafter := getAdditionalParameters_applyRequestEnvelope htrace hcodec
    authenticationToken requestHandle
  have hstamped := codec.withTraceContext_stamped (codec.getAdditionalParameters header)
    traceParent
  refine ⟨?_, hafter ▸ hstamped, fun hread => ?_⟩
  · unfold applyRequestEnvelope
    dsimp only
    rw [if_neg htrace]
    cases traceParentToSpanContext traceParent <;> rfl
  · unfold getTraceParent
    dsimp only
    have htext : (some (Variant.scalar .string traceParent)).bind stringOf =
        some traceParent := rfl
    rw [hafter, hstamped.text, htext, Option.any_some, Option.getD_some]
    cases hform : isW3CTraceParent traceParent with
    | true => rfl
    | false =>
        -- A text of another form is not converted, so the entry is the one before.
        have hspan : traceParentToSpanContext traceParent = none := by
          rw [traceParentToSpanContext, hform, Bool.not_false, if_pos rfl]
        have hbefore : codec.withTraceContext (codec.getAdditionalParameters header)
            traceParent = withTraceParent (codec.getAdditionalParameters header)
              traceParent := by
          rw [withTraceContext, hspan, Option.elim_none]
        have hnone := hread.resolve_left (by rw [hform]; exact Bool.false_ne_true)
        have hsame : codec.getSpanContextTraceParent
            (withTraceParent (codec.getAdditionalParameters header) traceParent) = [] := by
          rw [← hnone, getSpanContextTraceParent, getSpanContextTraceParent,
            withTraceParent,
            findAdditionalParameter_setParameter_of_ne spanContext_ne_traceParent]
        rw [hbefore, hsame]
        rfl

end HeaderCodec

/-! ## Envelopes on a header -/

open Binary Binary.Bounded in
/-- The codecs on binary bodies. -/
def binaryHeaderCodec (forms : Representations) : HeaderCodec where
  parameters := {
    binaryEncodingId := 17537
    jsonEncodingId := 17547
    encode := WireType.encodeArray fun parameter =>
      encodeQualifiedName parameter.key ++ (encodeVariant forms parameter.value).getD []
    decode := WireType.decodeBody (WireType.decodeArray do
      let key ← decodeQualifiedName
      let value ← decodeVariant forms
      return { key, value })
    decodeJson := fun _ => none }
  spanContext := {
    binaryEncodingId := 19754
    jsonEncodingId := 19804
    encode := fun spanContext =>
      encodeGuid spanContext.traceId ++ encodeUInt64 spanContext.spanId
    decode := WireType.decodeBody do
      let traceId ← Bounded.decodeGuid
      let spanId ← Bounded.decodeUInt64
      return { traceId, spanId }
    decodeJson := fun _ => none }

open Binary Binary.Bounded in
theorem binaryHeaderCodec_roundTrips {forms : Representations}
    {parameters : List KeyValuePair} (hcount : parameters.length < 2 ^ 31)
    (hfits : ((binaryHeaderCodec forms).parameters.encode parameters).length < 2 ^ 63)
    (h : ∀ parameter ∈ parameters, parameter.key.name.length < 2 ^ 31 ∧
      (decodeVariant forms).Returns (encodeVariant forms parameter.value) parameter.value) :
    (binaryHeaderCodec forms).parameters.RoundTrips parameters := by
  refine WireType.decodeBody_of_yields hfits
    (WireType.yields_array hcount (fun parameter _ => ?_) fun parameter hmem => ?_)
  · exact List.append_ne_nil_of_left_ne_nil (WireType.encodeQualifiedName_ne_nil _) _
  · obtain ⟨hname, written, hwritten, hvalue⟩ := h parameter hmem
    rw [hwritten, Option.getD_some]
    exact (WireType.yields_qualifiedName hname).bind (hvalue.bind_pure fun value =>
      ({ key := parameter.key, value } : KeyValuePair))

namespace HeaderCodec

open Binary Binary.Bounded

def sampleCodec : HeaderCodec := binaryHeaderCodec sampleForms

theorem sampleText_returns {text : ByteText} (h : text.length < 2 ^ 31) :
    (decodeVariant sampleForms).Returns
      (encodeVariant sampleForms (.scalar .string text)) (.scalar .string text) :=
  returns_variant sampleForms (.scalar .string text) fun _ =>
    .of_yields (follows_byteString.yields (reads_byteString h))

theorem sampleSpanContext_returns (spanContext : SpanContextDataType) :
    (decodeVariant sampleForms).Returns
      (encodeVariant sampleForms
        (.scalar .extensionObject (sampleCodec.spanContext.toExtensionObject spanContext)))
      (.scalar .extensionObject (sampleCodec.spanContext.toExtensionObject spanContext)) := by
  have hbytes : HasBytes (sampleCodec.spanContext.toExtensionObject spanContext) :=
    { typeId := ⟨fun _ hguid => NodeIdentifier.noConfusion hguid, trivial, (by norm_num : 0 < 2 ^ 31)⟩
      body := ⟨_, rfl, by
        simp [sampleCodec, binaryHeaderCodec, encodeGuid, encodeUInt64, encodeUInt32,
          encodeUInt16, littleEndian]⟩ }
  exact returns_variant sampleForms (.scalar .extensionObject _) fun _ =>
    returns_extensionObject hbytes

/-- The flags of a Write, among which a trace context is written. -/
def writeFlags : KeyValuePair :=
  { key := { name := asciiText "WriteFlags" }, value := .scalar .uint32 (1 : UInt32) }

theorem writeFlags_returns : writeFlags.key.name.length < 2 ^ 31 ∧
    (decodeVariant sampleForms).Returns
      (encodeVariant sampleForms writeFlags.value) writeFlags.value :=
  ⟨by decide, returns_variant sampleForms (.scalar .uint32 (1 : UInt32)) fun _ =>
    .of_yields (follows_uInt32.yields (reads_uInt32 1))⟩

def flaggedHeader : RequestHeader :=
  { additionalHeader := sampleCodec.parameters.toExtensionObject [writeFlags] }

def sampleTraceParent : ByteText :=
  asciiText "00-abcdef01000000000000000000000000-00000000000000f0-01"

theorem traceParentToSpanContext_sample :
    traceParentToSpanContext sampleTraceParent = some sampleContext := by
  decide

theorem flaggedHeader_parameters :
    sampleCodec.getAdditionalParameters flaggedHeader = [writeFlags] := by
  have htrip : sampleCodec.parameters.RoundTrips [writeFlags] :=
    binaryHeaderCodec_roundTrips (by decide) (by decide)
      (List.forall_mem_singleton.mpr writeFlags_returns)
  rw [getAdditionalParameters, flaggedHeader, htrip.fromAnyExtensionObject,
    Option.getD_some]

def traceParentEntry (traceParent : ByteText) : KeyValuePair :=
  { key := { name := traceParentParameterName }, value := .scalar .string traceParent }

def spanContextEntry (spanContext : SpanContextDataType) : KeyValuePair where
  key := { name := spanContextParameterName }
  value := .scalar .extensionObject (sampleCodec.spanContext.toExtensionObject spanContext)

theorem traceParentEntry_returns {traceParent : ByteText}
    (h : traceParent.length < 2 ^ 31) :
    (traceParentEntry traceParent).key.name.length < 2 ^ 31 ∧
      (decodeVariant sampleForms).Returns
        (encodeVariant sampleForms (traceParentEntry traceParent).value)
        (traceParentEntry traceParent).value :=
  ⟨(by decide : traceParentParameterName.length < 2 ^ 31), sampleText_returns h⟩

theorem spanContextEntry_returns (spanContext : SpanContextDataType) :
    (spanContextEntry spanContext).key.name.length < 2 ^ 31 ∧
      (decodeVariant sampleForms).Returns
        (encodeVariant sampleForms (spanContextEntry spanContext).value)
        (spanContextEntry spanContext).value :=
  ⟨(by decide : spanContextParameterName.length < 2 ^ 31),
    sampleSpanContext_returns spanContext⟩

theorem flaggedHeader_readsBack : sampleCodec.ReadsBack
    (sampleCodec.getAdditionalParameters flaggedHeader) sampleTraceParent := by
  have htext : HeaderCodec.withTraceParent [writeFlags] sampleTraceParent =
      [writeFlags, traceParentEntry sampleTraceParent] := rfl
  have hboth : sampleCodec.withTraceContext [writeFlags] sampleTraceParent =
      [writeFlags, traceParentEntry sampleTraceParent, spanContextEntry sampleContext] := by
    rw [HeaderCodec.withTraceContext, traceParentToSpanContext_sample, Option.elim_some,
      htext]
    rfl
  have hentry := traceParentEntry_returns (by decide : sampleTraceParent.length < 2 ^ 31)
  rw [flaggedHeader_parameters]
  constructor
  · rw [htext]
    refine binaryHeaderCodec_roundTrips (by decide) (by decide) ?_
    simp only [List.forall_mem_cons, List.not_mem_nil, false_imp_iff, implies_true,
      and_true]
    exact ⟨writeFlags_returns, hentry⟩
  · rw [hboth]
    refine binaryHeaderCodec_roundTrips (by decide) (by decide +kernel) ?_
    simp only [List.forall_mem_cons, List.not_mem_nil, false_imp_iff, implies_true,
      and_true]
    exact ⟨writeFlags_returns, hentry, spanContextEntry_returns sampleContext⟩

theorem flaggedHeader_stamped :
    let after :=
      sampleCodec.applyRequestEnvelope flaggedHeader {} 7 sampleTraceParent
    sampleCodec.Stamped [writeFlags] (sampleCodec.getAdditionalParameters after)
        sampleTraceParent ∧
      sampleCodec.getTraceParent after = sampleTraceParent := by
  obtain ⟨-, hstamped, hread⟩ := applyRequestEnvelope_stamps flaggedHeader {} 7
    (by decide) flaggedHeader_readsBack
  rw [flaggedHeader_parameters] at hstamped
  exact ⟨hstamped, hread (.inl (by decide))⟩

/-! ## Headers which lose something -/

/-- A correlation id which is no traceparent. -/
def correlationId : ByteText := asciiText "job 7"

/-- A header which was stamped before. -/
def stampedHeader : RequestHeader :=
  { additionalHeader := sampleCodec.parameters.toExtensionObject
      [spanContextEntry sampleContext] }

/-- A header with an extension of another type. -/
def foreignHeader : RequestHeader :=
  { additionalHeader := { dataTypeId := encodingId 50000, value := .binary [1] } }

theorem stampedHeader_parameters :
    sampleCodec.getAdditionalParameters stampedHeader =
      [spanContextEntry sampleContext] := by
  have htrip : sampleCodec.parameters.RoundTrips [spanContextEntry sampleContext] :=
    binaryHeaderCodec_roundTrips (by decide) (by decide)
      (List.forall_mem_singleton.mpr (spanContextEntry_returns sampleContext))
  rw [getAdditionalParameters, stampedHeader, htrip.fromAnyExtensionObject,
    Option.getD_some]

theorem withTraceContext_correlationId (parameters : List KeyValuePair) :
    sampleCodec.withTraceContext parameters correlationId =
      HeaderCodec.withTraceParent parameters correlationId := by
  have hnone : traceParentToSpanContext correlationId = none := by decide
  rw [HeaderCodec.withTraceContext, hnone, Option.elim_none]

theorem correlationId_returns : (traceParentEntry correlationId).key.name.length < 2 ^ 31 ∧
    (decodeVariant sampleForms).Returns
      (encodeVariant sampleForms (traceParentEntry correlationId).value)
      (traceParentEntry correlationId).value :=
  traceParentEntry_returns (by decide : correlationId.length < 2 ^ 31)

theorem stampedHeader_readsBack : sampleCodec.ReadsBack
    (sampleCodec.getAdditionalParameters stampedHeader) correlationId := by
  have htrip : sampleCodec.parameters.RoundTrips
      [spanContextEntry sampleContext, traceParentEntry correlationId] := by
    refine binaryHeaderCodec_roundTrips (by decide) (by decide) ?_
    simp only [List.forall_mem_cons, List.not_mem_nil, false_imp_iff, implies_true,
      and_true]
    exact ⟨spanContextEntry_returns sampleContext, correlationId_returns⟩
  rw [stampedHeader_parameters]
  exact ⟨htrip, withTraceContext_correlationId _ ▸ htrip⟩

theorem foreignHeader_readsBack : sampleCodec.ReadsBack
    (sampleCodec.getAdditionalParameters foreignHeader) correlationId := by
  have htrip : sampleCodec.parameters.RoundTrips [traceParentEntry correlationId] :=
    binaryHeaderCodec_roundTrips (by decide) (by decide)
      (List.forall_mem_singleton.mpr correlationId_returns)
  exact ⟨htrip, withTraceContext_correlationId _ ▸ htrip⟩

/-- A correlation id does not displace the span context of another trace, and no
extension which is not a list of parameters is kept. -/
theorem envelope_overwrites :
    (correlationId ≠ [] ∧
      sampleCodec.ReadsBack (sampleCodec.getAdditionalParameters stampedHeader)
        correlationId ∧
      sampleCodec.getTraceParent
        (sampleCodec.applyRequestEnvelope stampedHeader {} 7 correlationId) ≠
          correlationId) ∧
      sampleCodec.ReadsBack (sampleCodec.getAdditionalParameters foreignHeader)
        correlationId ∧
      (sampleCodec.applyRequestEnvelope foreignHeader {} 7
          correlationId).additionalHeader =
        sampleCodec.parameters.toExtensionObject [traceParentEntry correlationId] := by
  have hafter := getAdditionalParameters_applyRequestEnvelope
    (by decide : correlationId ≠ []) stampedHeader_readsBack {} 7
  refine ⟨⟨by decide, stampedHeader_readsBack, ?_⟩, foreignHeader_readsBack, ?_⟩
  · rw [getTraceParent, hafter, stampedHeader_parameters, withTraceContext_correlationId]
    decide
  · have hnone : traceParentToSpanContext correlationId = none := by decide
    have hnonempty : ¬correlationId = [] := by decide
    simp only [applyRequestEnvelope, if_neg hnonempty, hnone]
    rfl

end HeaderCodec

end OpcuaStack
