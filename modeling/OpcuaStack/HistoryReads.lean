import OpcuaStack.ClientReplies
import OpcuaStack.EventFilterRoundTrip
import OpcuaStack.HistoryUpdates

/-!
# Reads of history

The conversions of HistoryRead in `services/history_conversion.cpp`.  One request type
stands for raw, processed and event reads, which are told apart by the type of the
details; a client's read comes back from its own request with what the details carry.
-/

namespace OpcuaStack

/-! ## The managed vocabulary -/

structure AggregateFilter where
  startTime : DateTime := {}
  interval : Duration := {}
  aggregateType : NodeId := {}
deriving DecidableEq

def AggregateFilter.isNull (filter : AggregateFilter) : Bool :=
  filter.interval.milliseconds == 0

/-- `from` and `to` are `fromTime` and `toTime`. -/
structure HistoryReadRawDetails where
  nodeId : NodeId := {}
  fromTime : DateTime := {}
  toTime : DateTime := {}
  maxCount : UInt64 := 0
  aggregation : AggregateFilter := {}
  releaseContinuationPoint : Bool := false
  continuationPoint : ByteString := []

structure HistoryReadEventsDetails where
  nodeId : NodeId := {}
  fromTime : DateTime := {}
  toTime : DateTime := {}
  filter : EventFilter := {}

inductive HistoryReadDetails where
  | raw (details : HistoryReadRawDetails)
  | events (details : HistoryReadEventsDetails)

structure DecodedHistoryRead where
  details : HistoryReadDetails
  eventFieldPaths : List (List ByteText) := []

/-! ## The wire -/

/-- What is read of the generated `ReadRawModifiedDetails`. -/
structure WireReadRawModifiedDetails where
  isReadModified : Bool := false
  startTime : DateTime := {}
  endTime : DateTime := {}
  numValuesPerNode : UInt32 := 0
  returnBounds : Bool := false

/-- What is read of the generated `ReadProcessedDetails`. -/
structure WireReadProcessedDetails where
  startTime : DateTime := {}
  endTime : DateTime := {}
  processingInterval : Double := 0
  aggregateType : List NodeId := []

/-- What is read of the generated `ReadEventDetails`. -/
structure WireReadEventDetails where
  startTime : DateTime := {}
  endTime : DateTime := {}
  filter : WireEventFilter := {}

structure HistoryReadValueId where
  nodeId : NodeId := {}
  indexRange : ByteText := []
  dataEncoding : QualifiedName := {}
  continuationPoint : ByteString := []

structure HistoryReadRequest where
  historyReadDetails : ExtensionObject := {}
  timestampsToReturn : UInt32 := 0
  releaseContinuationPoints : Bool := false
  nodesToRead : List HistoryReadValueId := []

/-- `ua::TimestampsToReturn`. -/
def timestampsBoth : UInt32 := 2

def timestampsNeither : UInt32 := 3

/-- The generated codecs of the details and of the results. -/
structure HistoryReadCodec where
  raw : BodyCodec WireReadRawModifiedDetails
  processed : BodyCodec WireReadProcessedDetails
  events : BodyCodec WireReadEventDetails
  data : BodyCodec (List DataValue)
  event : BodyCodec (List (List Variant))
  operands : OperandCodec

namespace HistoryReadCodec

variable (codec : HistoryReadCodec) (base64 : Base64)

def readRawModifiedDetails : WireType WireReadRawModifiedDetails :=
  { codec.raw with binaryEncodingId := 649, jsonEncodingId := 15263 }

def readProcessedDetails : WireType WireReadProcessedDetails :=
  { codec.processed with binaryEncodingId := 652, jsonEncodingId := 15264 }

def readEventDetails : WireType WireReadEventDetails :=
  { codec.events with binaryEncodingId := 646, jsonEncodingId := 15262 }

def historyData : WireType (List DataValue) :=
  { codec.data with binaryEncodingId := 658, jsonEncodingId := 15270 }

def historyEvent : WireType (List (List Variant)) :=
  { codec.event with binaryEncodingId := 661, jsonEncodingId := 15273 }

/-! ## `ToManaged` of a request -/

/-- Modified reads and bounds are not supported. -/
def managedRaw (request : HistoryReadRequest) (node : HistoryReadValueId)
    (raw : WireReadRawModifiedDetails) : Option DecodedHistoryRead :=
  if raw.isReadModified ∨ raw.returnBounds then none
  else some {
    details := .raw {
      nodeId := node.nodeId
      fromTime := raw.startTime
      toTime := raw.endTime
      maxCount := raw.numValuesPerNode.toUInt64
      releaseContinuationPoint := request.releaseContinuationPoints
      continuationPoint := node.continuationPoint } }

/-- The first aggregate type stands for all. -/
def managedProcessed (request : HistoryReadRequest) (node : HistoryReadValueId)
    (processed : WireReadProcessedDetails) : DecodedHistoryRead where
  details := .raw {
    nodeId := node.nodeId
    fromTime := processed.startTime
    toTime := processed.endTime
    releaseContinuationPoint := request.releaseContinuationPoints
    continuationPoint := node.continuationPoint
    aggregation := {
      startTime := processed.startTime
      interval := ⟨processed.processingInterval⟩
      aggregateType := processed.aggregateType.headD {} } }

/-- An event read does not go on from a continuation point. -/
def managedEvents (request : HistoryReadRequest) (node : HistoryReadValueId)
    (events : WireReadEventDetails) : Except Json.Thrown (Option DecodedHistoryRead) :=
  if request.releaseContinuationPoints ∨ node.continuationPoint ≠ [] then .ok none
  else do
    let (fieldPaths, filter) ← codec.operands.toManagedEventFilter events.filter
    return some {
      details := .events {
        nodeId := node.nodeId
        fromTime := events.startTime
        toTime := events.endTime
        filter := filter }
      eventFieldPaths := normalizeEventFieldPaths fieldPaths }

/-- What a request may not ask for. -/
def isUnsupported (request : HistoryReadRequest) (node : HistoryReadValueId) : Bool :=
  decide (timestampsNeither < request.timestampsToReturn) || !node.indexRange.isEmpty ||
    !node.dataEncoding.name.isEmpty || node.dataEncoding.namespaceIndex != 0

/-- `ToManaged`: one node, and details of a type that is known. -/
def toManaged (request : HistoryReadRequest) :
    Except Json.Thrown (Option DecodedHistoryRead) :=
  match request.nodesToRead with
  | [node] =>
      if isUnsupported request node then .ok none
      else
        match codec.readRawModifiedDetails.fromAnyExtensionObject request.historyReadDetails with
        | some raw => .ok (managedRaw request node raw)
        | none =>
            match codec.readProcessedDetails.fromAnyExtensionObject
              request.historyReadDetails with
            | some processed => .ok (some (managedProcessed request node processed))
            | none =>
                match codec.readEventDetails.fromAnyExtensionObject
                  request.historyReadDetails with
                | some events => codec.managedEvents request node events
                | none => .ok none
  | _ => .ok none

/-! ## Requests of the client -/

def wireRaw (details : HistoryReadRawDetails) : WireReadRawModifiedDetails where
  startTime := details.fromTime
  endTime := details.toTime
  numValuesPerNode := details.maxCount.toUInt32

def wireProcessed (details : HistoryReadRawDetails) : WireReadProcessedDetails where
  startTime := details.fromTime
  endTime := details.toTime
  processingInterval := details.aggregation.interval.milliseconds
  aggregateType := [details.aggregation.aggregateType]

def toWireRawRequest (details : HistoryReadRawDetails) : HistoryReadRequest where
  historyReadDetails :=
    if details.aggregation.isNull then
      codec.readRawModifiedDetails.toExtensionObject (wireRaw details)
    else codec.readProcessedDetails.toExtensionObject (wireProcessed details)
  timestampsToReturn := timestampsBoth
  releaseContinuationPoints := details.releaseContinuationPoint
  nodesToRead :=
    [{ nodeId := details.nodeId, continuationPoint := details.continuationPoint }]

def wireEvents (details : HistoryReadEventsDetails) : WireReadEventDetails where
  startTime := details.fromTime
  endTime := details.toTime
  filter := codec.operands.toUaEventFilter defaultEventFieldPaths details.filter

def toWireEventsRequest (details : HistoryReadEventsDetails) : HistoryReadRequest where
  historyReadDetails := codec.readEventDetails.toExtensionObject (codec.wireEvents details)
  timestampsToReturn := timestampsBoth
  nodesToRead := [{ nodeId := details.nodeId }]

/-! ## Results -/

def wireRawResult : StatusOr HistoryReadRawResult → HistoryReadResult
  | .ok value =>
      { continuationPoint := value.continuationPoint
        historyData := codec.historyData.toExtensionObject value.values }
  | .error status _ => { statusCode := status }

def toWireRawResponse (result : StatusOr HistoryReadRawResult) :
    WireResponse HistoryReadResult where
  results := [codec.wireRawResult result]

/-- The events of a `HistoryReadEventsResult` are projected onto the fields which the
request selected. -/
def wireEventsResult (fieldPaths : List (List ByteText)) :
    StatusOr (List Event) → HistoryReadResult
  | .ok events =>
      { historyData := codec.historyEvent.toExtensionObject
          (events.map (projectEventFields base64 (normalizeEventFieldPaths fieldPaths))) }
  | .error status _ => { statusCode := status }

def toWireEventsResponse (result : StatusOr (List Event)) (fieldPaths : List (List ByteText)) :
    WireResponse HistoryReadResult where
  results := [codec.wireEventsResult base64 fieldPaths result]

/-- The decoders of the client. -/
def resultDecoders : HistoryCodec where
  decodeHistoryData := codec.historyData.fromAnyExtensionObject
  decodeHistoryEvent := codec.historyEvent.fromAnyExtensionObject

def reconstructEvents (result : HistoryReadEventsResult) : List Event :=
  result.events.map (reconstructEventFromFields defaultEventFieldPaths)

open ClientDialogue ClientProtocolSession in
/-- `ToManagedEventsResult`, with the events made of their fields. -/
def toManagedEvents (response : WireResponse HistoryReadResult) :
    ClientDialogue (StatusOr (List Event)) := do
  let result ← toManagedEventsResult codec.resultDecoders response
  onValue result fun fields => pure (.ok (reconstructEvents fields))

variable {codec base64}

/-! ## Round trips of requests -/

theorem not_raw_processed (processed : WireReadProcessedDetails) :
    codec.readRawModifiedDetails.fromAnyExtensionObject
      (codec.readProcessedDetails.toExtensionObject processed) = none :=
  WireType.fromAnyExtensionObject_other (by decide : (652 : UInt32) ≠ 649) processed

theorem not_raw_events (events : WireReadEventDetails) :
    codec.readRawModifiedDetails.fromAnyExtensionObject
      (codec.readEventDetails.toExtensionObject events) = none :=
  WireType.fromAnyExtensionObject_other (by decide : (646 : UInt32) ≠ 649) events

theorem not_processed_events (events : WireReadEventDetails) :
    codec.readProcessedDetails.fromAnyExtensionObject
      (codec.readEventDetails.toExtensionObject events) = none :=
  WireType.fromAnyExtensionObject_other (by decide : (646 : UInt32) ≠ 652) events

end HistoryReadCodec

/-- What the details of a raw read become on their way: the count is one of 32 bits, a
processed read has no count, and its intervals start where it does. -/
def HistoryReadRawDetails.sent (details : HistoryReadRawDetails) : HistoryReadRawDetails :=
  if details.aggregation.isNull then
    { details with
      maxCount := details.maxCount.toUInt32.toUInt64
      aggregation := {} }
  else
    { details with
      maxCount := 0
      aggregation := { details.aggregation with startTime := details.fromTime } }

namespace HistoryReadCodec

variable {codec : HistoryReadCodec} {base64 : Base64}

/-- The body that a raw read is sent in comes back. -/
def RawReturns (codec : HistoryReadCodec) (details : HistoryReadRawDetails) : Prop :=
  if details.aggregation.isNull then
    codec.readRawModifiedDetails.RoundTrips (wireRaw details)
  else codec.readProcessedDetails.RoundTrips (wireProcessed details)

theorem toManaged_toWireRawRequest {details : HistoryReadRawDetails}
    (h : codec.RawReturns details) :
    codec.toManaged (codec.toWireRawRequest details) =
      .ok (some { details := .raw details.sent }) := by
  rw [RawReturns] at h
  rw [toManaged, toWireRawRequest, HistoryReadRawDetails.sent]
  have hsupported : ∀ object, isUnsupported
      { historyReadDetails := object, timestampsToReturn := timestampsBoth,
        releaseContinuationPoints := details.releaseContinuationPoint,
        nodesToRead := [{ nodeId := details.nodeId,
                          continuationPoint := details.continuationPoint }] }
      { nodeId := details.nodeId, continuationPoint := details.continuationPoint } = false :=
    fun _ => rfl
  cases hnull : details.aggregation.isNull with
  | true =>
      rw [hnull, if_pos rfl] at h
      simp only [hsupported, Bool.false_eq_true, if_true, if_false, h.fromAnyExtensionObject]
      rfl
  | false =>
      rw [hnull, if_neg (by decide)] at h
      simp only [hsupported, Bool.false_eq_true, if_false, not_raw_processed,
        h.fromAnyExtensionObject]
      rfl

theorem toManaged_toWireEventsRequest {details : HistoryReadEventsDetails}
    (h : codec.readEventDetails.RoundTrips (codec.wireEvents details))
    (hfilter : codec.operands.ReadsBack details.filter) :
    codec.toManaged (codec.toWireEventsRequest details) =
      .ok (some {
        details := .events { details with filter := details.filter.sent }
        eventFieldPaths := defaultEventFieldPaths }) := by
  have hread : codec.operands.toManagedEventFilter (codec.wireEvents details).filter =
      .ok (defaultEventFieldPaths, details.filter.sent) :=
    OperandCodec.toManagedEventFilter_toUaEventFilter hfilter defaultEventFieldPaths
  have hevents : codec.managedEvents (codec.toWireEventsRequest details)
      { nodeId := details.nodeId } (codec.wireEvents details) =
      .ok (some {
        details := .events { details with filter := details.filter.sent }
        eventFieldPaths := defaultEventFieldPaths }) := by
    rw [managedEvents, hread]
    rfl
  have hobject : (codec.toWireEventsRequest details).historyReadDetails =
      codec.readEventDetails.toExtensionObject (codec.wireEvents details) := rfl
  rw [toManaged]
  simp only [hobject, not_raw_events, not_processed_events, h.fromAnyExtensionObject]
  exact hevents

/-! ## Round trips of responses -/

open ClientDialogue ClientProtocolSession

theorem toManagedRawResult_toWireRawResponse {result : StatusOr HistoryReadRawResult}
    (h : ∀ value, result = .ok value → codec.historyData.RoundTrips value.values) :
    toManagedRawResult codec.resultDecoders (codec.toWireRawResponse result) =
      pure result := by
  rw [toManagedRawResult, toWireRawResponse, firstResult]
  cases result with
  | error status hbad => simp only [wireRawResult, hbad, if_true, fromStatus_of_bad]
  | ok value =>
      have hgood : Status.good.isBad = false := rfl
      simp only [wireRawResult, hgood, Bool.false_eq_true, if_false, resultDecoders,
        (h value rfl).fromAnyExtensionObject, Option.getD_some]

theorem toManagedEventsResult_error (status : Status) (hbad : status.isBad = true)
    (fieldPaths : List (List ByteText)) :
    toManagedEventsResult codec.resultDecoders
        (codec.toWireEventsResponse base64 (.error status hbad) fieldPaths) =
      pure (.error status hbad) := by
  rw [toManagedEventsResult, toWireEventsResponse, firstResult]
  simp only [wireEventsResult, hbad, if_true, fromStatus_of_bad]

theorem toManagedEventsResult_ok {events : List Event} {fieldPaths : List (List ByteText)}
    (h : codec.historyEvent.RoundTrips
      (events.map (projectEventFields base64 (normalizeEventFieldPaths fieldPaths)))) :
    toManagedEventsResult codec.resultDecoders
        (codec.toWireEventsResponse base64 (.ok events) fieldPaths) =
      pure (.ok { events :=
        events.map (projectEventFields base64 (normalizeEventFieldPaths fieldPaths)) }) := by
  have hgood : Status.good.isBad = false := rfl
  rw [toManagedEventsResult, toWireEventsResponse, firstResult]
  simp only [wireEventsResult, hgood, Bool.false_eq_true, if_false, resultDecoders,
    h.fromAnyExtensionObject, Option.getD_some]

theorem reconstructEvents_project {events : List Event}
    (h : ∀ event ∈ events, event.Carried) :
    reconstructEvents
        { events := events.map (projectEventFields base64 defaultEventFieldPaths) } =
      events := by
  have hsame : ∀ event ∈ events,
      (reconstructEventFromFields defaultEventFieldPaths ∘
        projectEventFields base64 defaultEventFieldPaths) event = id event := by
    intro event hmem
    rw [Function.comp_apply, reconstruct_project_default (h event hmem), id]
  rw [reconstructEvents, List.map_map, List.map_congr_left hsame, List.map_id]

theorem toManagedEvents_toWireEventsResponse {result : StatusOr (List Event)}
    (h : ∀ events, result = .ok events →
      codec.historyEvent.RoundTrips
          (events.map (projectEventFields base64 defaultEventFieldPaths)) ∧
        ∀ event ∈ events, event.Carried) :
    codec.toManagedEvents
        (codec.toWireEventsResponse base64 result defaultEventFieldPaths) =
      pure result := by
  cases result with
  | error status hbad =>
      rw [toManagedEvents, toManagedEventsResult_error]
      exact fromStatus_of_bad hbad
  | ok events =>
      have hpaths : normalizeEventFieldPaths defaultEventFieldPaths =
          defaultEventFieldPaths := rfl
      have hbody := (h events rfl).1
      rw [← hpaths] at hbody
      rw [toManagedEvents, toManagedEventsResult_ok hbody, hpaths]
      have hsame : reconstructEvents
          { events := events.map (projectEventFields base64 defaultEventFieldPaths) } =
            events := reconstructEvents_project (h events rfl).2
      exact congrArg (fun found : List Event =>
        (pure (.ok found) : ClientDialogue (StatusOr (List Event)))) hsame

end HistoryReadCodec

end OpcuaStack
