import OpcuaStack.EventFields
import OpcuaStack.VariantConversions

/-!
# Events as lists of fields

`events/event_util.cpp`.  An event of three kinds is taken apart into fields by position
and put together again.  Which kind it was is read from the first field.  Both changes
put their type there, and a system event its id.
-/

namespace OpcuaStack

structure ModelChangeEvent where
  nodeId : NodeId := {}
  typeDefinitionId : NodeId := {}
  verb : UInt8 := 0
deriving DecidableEq

structure SemanticChangeEvent where
  nodeId : NodeId := {}
deriving DecidableEq

/-- What the `std::any` of an event holds. -/
inductive AnyEvent where
  | system (event : Event)
  | modelChange (event : ModelChangeEvent)
  | semanticChange (event : SemanticChangeEvent)

def systemEventType : NodeId := { identifier := .numeric 2130 }

def generalModelChangeEventType : NodeId := { identifier := .numeric 2133 }

def semanticChangeEventType : NodeId := { identifier := .numeric 2738 }

/-! ## Taking apart -/

def disassembleSystemEvent (event : Event) : List Variant :=
  [.scalar .uint64 event.eventId,
   .scalar .nodeId event.eventTypeId,
   .scalar .dateTime event.time,
   .scalar .uint32 event.changeMask,
   .scalar .uint32 event.severity,
   .scalar .nodeId event.sourceNodeId,
   .scalar .nodeId event.userId,
   event.value,
   .scalar .uint32 event.qualifier,
   .scalar .localizedText event.message,
   .scalar .bool event.acked,
   .scalar .dateTime event.acknowledgedTime,
   .scalar .nodeId event.acknowledgedUserId]

def disassembleModelChangeEvent (event : ModelChangeEvent) : List Variant :=
  [.scalar .nodeId generalModelChangeEventType,
   .scalar .nodeId event.nodeId,
   .scalar .nodeId event.typeDefinitionId,
   .scalar .uint8 event.verb]

def disassembleSemanticChangeEvent (event : SemanticChangeEvent) : List Variant :=
  [.scalar .nodeId semanticChangeEventType,
   .scalar .nodeId event.nodeId]

def disassembleEvent : AnyEvent → List Variant
  | .system event => disassembleSystemEvent event
  | .modelChange event => disassembleModelChangeEvent event
  | .semanticChange event => disassembleSemanticChangeEvent event

/-! ## Putting together -/

/-- A read behind the last field is no value. -/
def readField (fields : List Variant) (position : ℕ) : Option Variant := fields[position]?

section Assemble

variable (formatted : Variant → Option LocalizedText)

def assembleSystemEvent (fields : List Variant) : Option Event := do
  let eventId ← readField fields 0
  let eventTypeId ← readField fields 1
  let time ← readField fields 2
  let changeMask ← readField fields 3
  let severity ← readField fields 4
  let sourceNodeId ← readField fields 5
  let userId ← readField fields 6
  let value ← readField fields 7
  let qualifier ← readField fields 8
  let message ← readField fields 9
  let acked ← readField fields 10
  let acknowledgedTime ← readField fields 11
  let acknowledgedUserId ← readField fields 12
  let event : Event := {}
  return { event with
    eventId := eventId.getInt .ofInt event.eventId
    eventTypeId := (eventTypeId.getIf .nodeId).getD event.eventTypeId
    time := (time.getIf .dateTime).getD event.time
    changeMask := changeMask.getInt .ofInt event.changeMask
    severity := severity.getInt .ofInt event.severity
    sourceNodeId := (sourceNodeId.getIf .nodeId).getD event.sourceNodeId
    userId := (userId.getIf .nodeId).getD event.userId
    value
    qualifier := qualifier.getInt .ofInt 0
    message := (message.getLocalizedText formatted).getD event.message
    acked := acked.getBool.getD event.acked
    acknowledgedTime := (acknowledgedTime.getIf .dateTime).getD event.acknowledgedTime
    acknowledgedUserId := (acknowledgedUserId.getIf .nodeId).getD event.acknowledgedUserId }

def assembleModelChangeEvent (fields : List Variant) : Option ModelChangeEvent := do
  let nodeId ← readField fields 1
  let typeDefinitionId ← readField fields 2
  let verb ← readField fields 3
  let event : ModelChangeEvent := {}
  return {
    nodeId := (nodeId.getIf .nodeId).getD event.nodeId
    typeDefinitionId := (typeDefinitionId.getIf .nodeId).getD event.typeDefinitionId
    verb := verb.getInt .ofInt event.verb }

def assembleSemanticChangeEvent (fields : List Variant) : Option SemanticChangeEvent := do
  let nodeId ← readField fields 1
  let event : SemanticChangeEvent := {}
  return { nodeId := (nodeId.getIf .nodeId).getD event.nodeId }

/-- The type in the first field. -/
def assembledEventTypeId (first : Variant) : NodeId := (first.getIf .nodeId).getD {}

/-- `AssembleEvent`.  The inner `none` is the empty `std::any`, where the assertions do
not stop the program. -/
def assembleEvent (fields : List Variant) : Option (Option AnyEvent) :=
  match fields with
  | [] => some none
  | first :: _ =>
      let eventTypeId := assembledEventTypeId first
      if eventTypeId = systemEventType then
        (assembleSystemEvent formatted fields).map fun event => some (.system event)
      else if eventTypeId = generalModelChangeEventType then
        (assembleModelChangeEvent fields).map fun event => some (.modelChange event)
      else if eventTypeId = semanticChangeEventType then
        (assembleSemanticChangeEvent fields).map fun event => some (.semanticChange event)
      else some none

/-! ## Each layout -/

theorem uInt8_getInt (value old : UInt8) :
    (Variant.scalar .uint8 value).getInt .ofInt old = value :=
  IntegerType.uint8.cast_toInt value

theorem assembleModelChangeEvent_disassembled (event : ModelChangeEvent) :
    assembleModelChangeEvent (disassembleModelChangeEvent event) = some event := by
  have hread : assembleModelChangeEvent (disassembleModelChangeEvent event) =
      some { event with verb := (Variant.scalar .uint8 event.verb).getInt .ofInt 0 } := rfl
  rw [hread, uInt8_getInt]

/-! ## The kind -/

def AnyEvent.IsChange : AnyEvent → Prop
  | .system _ => False
  | .modelChange _ => True
  | .semanticChange _ => True

theorem assembleEvent_system (event : Event) :
    assembleEvent formatted (disassembleEvent (.system event)) = some none := rfl

theorem assembleEvent_disassembled_iff (event : AnyEvent) :
    assembleEvent formatted (disassembleEvent event) = some (some event) ↔ event.IsChange := by
  cases event with
  | system event =>
      rw [assembleEvent_system]
      exact iff_of_false (fun h => by cases Option.some.inj h) id
  | modelChange event =>
      refine iff_of_true ?_ trivial
      exact congrArg (Option.map fun event => some (AnyEvent.modelChange event))
        (assembleModelChangeEvent_disassembled event)
  | semanticChange event => exact iff_of_true rfl trivial

/-! ## Short lists -/

variable {fields : List Variant} {α : Type}

theorem isSome_read_last {position : ℕ} {make : Variant → α} :
    (readField fields position >>= fun field => pure (make field)).isSome ↔
      position + 1 ≤ fields.length := by
  cases hfield : readField fields position with
  | none =>
      have hshort := List.getElem?_eq_none_iff.mp hfield
      exact iff_of_false (by simp) (by omega)
  | some field => exact iff_of_true rfl (List.getElem?_eq_some_iff.mp hfield).1

theorem isSome_read_iff {position count : ℕ} {next : Variant → Option α}
    (hnext : ∀ field, (next field).isSome ↔ count ≤ fields.length)
    (hposition : position < count) :
    (readField fields position >>= next).isSome ↔ count ≤ fields.length := by
  cases hfield : readField fields position with
  | none =>
      have hshort := List.getElem?_eq_none_iff.mp hfield
      exact iff_of_false (by simp) (by omega)
  | some field => exact hnext field

theorem assembleSystemEvent_isSome_iff :
    (assembleSystemEvent formatted fields).isSome ↔ 13 ≤ fields.length := by
  unfold assembleSystemEvent
  dsimp only
  iterate 12 refine isSome_read_iff (fun _ => ?_) (by decide)
  exact isSome_read_last

theorem assembleModelChangeEvent_isSome_iff :
    (assembleModelChangeEvent fields).isSome ↔ 4 ≤ fields.length := by
  unfold assembleModelChangeEvent
  dsimp only
  iterate 2 refine isSome_read_iff (fun _ => ?_) (by decide)
  exact isSome_read_last

theorem assembleSemanticChangeEvent_isSome_iff :
    (assembleSemanticChangeEvent fields).isSome ↔ 2 ≤ fields.length :=
  isSome_read_last

/-- How many fields the layout of a type has. -/
def layoutLength (eventTypeId : NodeId) : ℕ :=
  if eventTypeId = systemEventType then 13
  else if eventTypeId = generalModelChangeEventType then 4
  else if eventTypeId = semanticChangeEventType then 2
  else 0

def fieldsRead (fields : List Variant) : ℕ :=
  fields.head?.elim 0 fun first => layoutLength (assembledEventTypeId first)

theorem assembleEvent_isSome_iff (fields : List Variant) :
    (assembleEvent formatted fields).isSome ↔ fieldsRead fields ≤ fields.length := by
  cases fields with
  | nil => exact iff_of_true rfl le_rfl
  | cons first rest =>
      simp only [assembleEvent, fieldsRead, List.head?_cons, Option.elim_some, layoutLength]
      split
      next => rw [Option.isSome_map, assembleSystemEvent_isSome_iff]
      next =>
        split
        next => rw [Option.isSome_map, assembleModelChangeEvent_isSome_iff]
        next =>
          split
          next => rw [Option.isSome_map, assembleSemanticChangeEvent_isSome_iff]
          next => exact iff_of_true rfl (Nat.zero_le _)

/-- The changes come back and the system events do not, and a list is read to its end at
most if and only if it is as long as the layout of the type in its first field. -/
theorem events_assembled_iff :
    (∀ event : AnyEvent,
      assembleEvent formatted (disassembleEvent event) = some (some event) ↔
        event.IsChange) ∧
    ∀ fields : List Variant,
      (assembleEvent formatted fields).isSome ↔ fieldsRead fields ≤ fields.length :=
  ⟨assembleEvent_disassembled_iff formatted, assembleEvent_isSome_iff formatted⟩

end Assemble

/-- A system event is not put together again, and the type of a model change alone is
read behind its end. -/
theorem system_event_lost_and_short_list_read :
    assembleEvent (fun _ => none) (disassembleEvent (.system { eventId := 7 })) ≠
        some (some (.system { eventId := 7 })) ∧
      assembleEvent (fun _ => none) [.scalar .nodeId generalModelChangeEventType] = none := by
  refine ⟨?_, by rfl⟩
  rw [assembleEvent_system]
  intro h
  cases Option.some.inj h

end OpcuaStack
