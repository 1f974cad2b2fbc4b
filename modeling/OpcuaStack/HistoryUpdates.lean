import OpcuaStack.EventFields
import OpcuaStack.IdentifierRoundTrip
import OpcuaStack.WireTypes

/-!
# Updates of history

The conversions of HistoryUpdate in `services/history_conversion.cpp`.  Events cross the
wire as the values of the default fields.
-/

namespace OpcuaStack

/-- `PerformUpdateType` is one number in both enumerations. -/
structure UpdateDataDetails where
  nodeId : NodeId := {}
  performInsertReplace : Int32 := 3
  values : List DataValue := []

structure UpdateEventDetails where
  nodeId : NodeId := {}
  performInsertReplace : Int32 := 1
  events : List Event := []

inductive HistoryUpdateDetails where
  | data (details : UpdateDataDetails)
  | events (details : UpdateEventDetails)

/-- What is read of the generated `UpdateDataDetails`. -/
structure WireUpdateDataDetails where
  nodeId : NodeId
  performInsertReplace : Int32
  updateValues : List DataValue

/-- What is read of the generated `UpdateEventDetails`. -/
structure WireUpdateEventDetails where
  nodeId : NodeId
  performInsertReplace : Int32
  eventData : List (List Variant)

structure HistoryUpdateRequest where
  historyUpdateDetails : List ExtensionObject := []

structure HistoryUpdateCodec where
  data : BodyCodec WireUpdateDataDetails
  events : BodyCodec WireUpdateEventDetails

namespace HistoryUpdateCodec

variable (codec : HistoryUpdateCodec) (base64 : Base64)

def updateDataDetails : WireType WireUpdateDataDetails :=
  { codec.data with binaryEncodingId := 682, jsonEncodingId := 15280 }

def updateEventDetails : WireType WireUpdateEventDetails :=
  { codec.events with binaryEncodingId := 685, jsonEncodingId := 15282 }

def wireDataDetails (details : UpdateDataDetails) : WireUpdateDataDetails where
  nodeId := details.nodeId
  performInsertReplace := details.performInsertReplace
  updateValues := details.values

def wireEventDetails (details : UpdateEventDetails) : WireUpdateEventDetails where
  nodeId := details.nodeId
  performInsertReplace := details.performInsertReplace
  eventData := details.events.map (projectEventFields base64 defaultEventFieldPaths)

/-- `ToWire`. -/
def toWire : HistoryUpdateDetails → HistoryUpdateRequest
  | .data details =>
      { historyUpdateDetails :=
          [codec.updateDataDetails.toExtensionObject (wireDataDetails details)] }
  | .events details =>
      { historyUpdateDetails :=
          [codec.updateEventDetails.toExtensionObject (wireEventDetails base64 details)] }

def managedDataDetails (details : WireUpdateDataDetails) : UpdateDataDetails where
  nodeId := details.nodeId
  performInsertReplace := details.performInsertReplace
  values := details.updateValues

def managedEventDetails (details : WireUpdateEventDetails) : UpdateEventDetails where
  nodeId := details.nodeId
  performInsertReplace := details.performInsertReplace
  events := details.eventData.map (reconstructEventFromFields defaultEventFieldPaths)

def toManagedDetail (detail : ExtensionObject) : Option HistoryUpdateDetails :=
  ((codec.updateDataDetails.fromAnyExtensionObject detail).map fun details =>
      .data (managedDataDetails details)).or
    ((codec.updateEventDetails.fromAnyExtensionObject detail).map fun details =>
      .events (managedEventDetails details))

/-- `ToManaged`: a request updates one element. -/
def toManaged (request : HistoryUpdateRequest) : Option HistoryUpdateDetails :=
  match request.historyUpdateDetails with
  | [detail] => codec.toManagedDetail detail
  | _ => none

variable {codec base64}

theorem managedEventDetails_wireEventDetails {details : UpdateEventDetails}
    (h : ∀ event ∈ details.events, event.Carried) :
    managedEventDetails (wireEventDetails base64 details) = details := by
  have hsame : ∀ event ∈ details.events,
      (reconstructEventFromFields defaultEventFieldPaths ∘
        projectEventFields base64 defaultEventFieldPaths) event = id event := by
    intro event hmem
    rw [Function.comp_apply, reconstruct_project_default (h event hmem), id]
  have hevents : (details.events.map (projectEventFields base64 defaultEventFieldPaths)).map
      (reconstructEventFromFields defaultEventFieldPaths) = details.events := by
    rw [List.map_map, List.map_congr_left hsame, List.map_id]
  rw [managedEventDetails, wireEventDetails, hevents]

theorem toManaged_events {details : UpdateEventDetails}
    (h : ∀ event ∈ details.events, event.Carried)
    (hcodec : codec.updateEventDetails.RoundTrips (wireEventDetails base64 details)) :
    codec.toManaged (codec.toWire base64 (.events details)) = some (.events details) := by
  have hids : codec.updateEventDetails.binaryEncodingId ≠
      codec.updateDataDetails.binaryEncodingId := (by decide : (685 : UInt32) ≠ 682)
  change codec.toManagedDetail
    (codec.updateEventDetails.toExtensionObject (wireEventDetails base64 details)) = _
  rw [toManagedDetail, WireType.fromAnyExtensionObject_other hids,
    hcodec.fromAnyExtensionObject, Option.map_none, Option.none_or, Option.map_some,
    managedEventDetails_wireEventDetails h]

end HistoryUpdateCodec

/-! ## The binary bodies -/

open Binary Binary.Bounded in
/-- The binary codec of `UpdateEventDetails`, which starts with an empty filter. -/
def binaryEventDetails (forms : Representations) : BodyCodec WireUpdateEventDetails where
  encode details :=
    encodeNodeId details.nodeId ++
      (encodeInt32 details.performInsertReplace ++
        (encodeInt32 0 ++
          (encodeInt32 0 ++
            WireType.encodeArray
              (WireType.encodeArray fun value => (encodeVariant forms value).getD [])
              details.eventData)))
  decode := WireType.decodeBody do
    let nodeId ← decodeNodeId
    let performInsertReplace ← decodeInt32
    let _ ← decodeInt32
    let _ ← decodeInt32
    let eventData ← WireType.decodeArray (WireType.decodeArray (decodeVariant forms))
    return { nodeId, performInsertReplace, eventData }
  decodeJson _ := none

open Binary Binary.Bounded in
theorem binaryEventDetails_decodes {forms : Representations}
    {details : WireUpdateEventDetails}
    (hnodeId : NodeIdentifier.Encodable details.nodeId.identifier)
    (hcount : details.eventData.length < 2 ^ 31)
    (hfits : ((binaryEventDetails forms).encode details).length < 2 ^ 63)
    (h : ∀ fields ∈ details.eventData, fields.length < 2 ^ 31 ∧ ∀ value ∈ fields,
      (decodeVariant forms).Returns (encodeVariant forms value) value) :
    (binaryEventDetails forms).decode ((binaryEventDetails forms).encode details) =
      some details := by
  refine WireType.decodeBody_of_yields hfits ?_
  have hfields : ∀ fields ∈ details.eventData,
      (WireType.decodeArray (decodeVariant forms)).Yields
        (WireType.encodeArray (fun value => (encodeVariant forms value).getD []) fields)
        fields := by
    intro fields hmem
    refine WireType.yields_array (h fields hmem).1 (fun value hvalue => ?_)
      fun value hvalue => ?_
    · obtain ⟨written, hwritten, -⟩ := (h fields hmem).2 value hvalue
      rw [hwritten, Option.getD_some]
      exact encodeVariant_ne_nil forms hwritten
    · obtain ⟨written, hwritten, hyields⟩ := (h fields hmem).2 value hvalue
      rwa [hwritten, Option.getD_some]
  refine (yields_nodeId hnodeId).bind ((yields_int32 _).bind ((yields_int32 0).bind
    ((yields_int32 0).bind ((WireType.yields_array hcount (fun fields _ => ?_)
      hfields).bind_pure fun eventData =>
        ({ nodeId := details.nodeId, performInsertReplace := details.performInsertReplace,
           eventData } : WireUpdateEventDetails)))))
  simp [WireType.encodeArray, encodeInt32, encodeUInt32, littleEndian]

/-- An event keeps the fields that are selected, and the whole of it comes back from an
update of history. -/
theorem events_come_back (base64 : Base64) :
    (∀ event : Event, event.Carried → ∀ fieldPaths,
        reconstructEventFromFields fieldPaths
            (projectEventFields base64 fieldPaths event) =
          Event.merge (selects fieldPaths) {} event) ∧
      (∀ event : Event, event.Carried →
        reconstructEventFromFields defaultEventFieldPaths
          (projectEventFields base64 defaultEventFieldPaths event) = event) ∧
      ∀ (codec : HistoryUpdateCodec) (details : UpdateEventDetails),
        (∀ event ∈ details.events, event.Carried) →
          codec.updateEventDetails.RoundTrips
              (HistoryUpdateCodec.wireEventDetails base64 details) →
            codec.toManaged (codec.toWire base64 (.events details)) =
              some (.events details) :=
  ⟨fun _ h fieldPaths => reconstruct_project h fieldPaths,
    fun _ h => reconstruct_project_default h,
    fun _ _ h hcodec => HistoryUpdateCodec.toManaged_events h hcodec⟩

/-! ## An acknowledged event -/

def sampleEvent : Event :=
  { eventId := 0x0102, severity := 700, value := .scalar .int32 (3 : Int32), acked := true,
    acknowledgedTime := { ticks := 8 } }

theorem sampleEvent_carried : sampleEvent.Carried := ⟨by decide, .inr rfl⟩

open Binary Binary.Bounded in
theorem sampleEvent_returns (field : EventField) :
    (decodeVariant sampleForms).Returns
      (encodeVariant sampleForms (projectField Base64.standard sampleEvent field))
      (projectField Base64.standard sampleEvent field) := by
  have hnodeId : ∀ nodeId : NodeId, NodeIdentifier.Encodable nodeId.identifier →
      Sendable sampleForms (.scalar .nodeId nodeId) :=
    fun nodeId h _ => .of_yields (yields_nodeId h)
  have htime : ∀ time : DateTime, int64Min ≤ time.ticks ∧ time.ticks ≤ int64Max →
      Sendable sampleForms (.scalar .dateTime time) :=
    fun time h _ => .of_yields (yields_dateTime h.1 h.2)
  have hsendable : Sendable sampleForms
        (projectField Base64.standard sampleEvent field) ∧
      asSent (projectField Base64.standard sampleEvent field) =
        projectField Base64.standard sampleEvent field := by
    cases field with
    | eventId =>
        exact ⟨fun _ => .of_yields
          (follows_byteString.yields (reads_byteString (by decide))), rfl⟩
    | eventType | sourceNode | userId | ackedUserId => exact ⟨hnodeId _ trivial, rfl⟩
    | sourceName =>
        exact ⟨fun _ => .of_yields
          (follows_byteString.yields (reads_byteString (by decide))), rfl⟩
    | time | receiveTime | ackedTime => exact ⟨htime _ (by decide), rfl⟩
    | message =>
        exact ⟨fun _ => .of_yields ((yields_uInt8 0).bind_nil (.pure _)), rfl⟩
    | severity => exact ⟨fun _ => .of_yields (follows_uInt16.yields (reads_uInt16 _)), rfl⟩
    | value => exact ⟨fun _ => .of_yields (yields_int32 3), rfl⟩
    | quality | changeMask =>
        exact ⟨fun _ => .of_yields (follows_uInt32.yields (reads_uInt32 _)), rfl⟩
    | ackedState =>
        exact ⟨fun _ => .of_yields
          ((yields_uInt8 1).bind_pure fun raw => decide (raw ≠ 0)), rfl⟩
  have hreturns := returns_variant sampleForms _ hsendable.1
  rwa [hsendable.2] at hreturns

def sampleUpdateCodec : HistoryUpdateCodec where
  data := { encode := fun _ => [], decode := fun _ => none, decodeJson := fun _ => none }
  events := binaryEventDetails Binary.Bounded.sampleForms

def sampleEventUpdate : UpdateEventDetails := { events := [sampleEvent] }

open HistoryUpdateCodec in
theorem sampleEventUpdate_roundTrips :
    sampleUpdateCodec.updateEventDetails.RoundTrips
      (wireEventDetails Base64.standard sampleEventUpdate) := by
  have hdata : (wireEventDetails Base64.standard sampleEventUpdate).eventData =
      [projectEventFields Base64.standard defaultEventFieldPaths sampleEvent] := rfl
  refine binaryEventDetails_decodes trivial (by decide) (by decide +kernel) ?_
  rw [hdata, List.forall_mem_singleton]
  refine ⟨by decide, fun value hmem => ?_⟩
  obtain ⟨path, hpath, rfl⟩ := List.mem_map.mp hmem
  obtain ⟨field, -, rfl⟩ := List.mem_map.mp hpath
  have hselected : selectField Base64.standard sampleEvent [field.name] =
      projectField Base64.standard sampleEvent field := by
    rw [selectField, EventField.ofPath, List.getLast?_singleton, Option.bind_some,
      EventField.ofName_name, Option.elim_some]
  rw [hselected]
  exact sampleEvent_returns field

theorem sampleEvent_comes_back :
    (reconstructEventFromFields [[asciiText "Severity"], [], [asciiText "None"]]
        (projectEventFields Base64.standard
          [[asciiText "Severity"], [], [asciiText "None"]] sampleEvent)).severity = 700 ∧
      sampleUpdateCodec.toManaged
          (sampleUpdateCodec.toWire Base64.standard (.events sampleEventUpdate)) =
        some (.events sampleEventUpdate) := by
  obtain ⟨hfields, -, hupdate⟩ := events_come_back Base64.standard
  refine ⟨?_, hupdate sampleUpdateCodec sampleEventUpdate
    (List.forall_mem_singleton.mpr sampleEvent_carried) sampleEventUpdate_roundTrips⟩
  rw [hfields sampleEvent sampleEvent_carried]
  decide

end OpcuaStack
