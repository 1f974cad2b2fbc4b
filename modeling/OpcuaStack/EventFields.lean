import OpcuaStack.NodeIdText

/-!
# Events and their fields

`events/event.h` and the projections of `events/event_filter.cpp`.  A client selects
fields of an event by browse paths, of which the last name counts.  An event is
projected onto the values of the fields in the order they were selected, and rebuilt
from them.
-/

namespace OpcuaStack

structure Event where
  eventTypeId : NodeId := { identifier := .numeric 2130 }
  eventId : UInt64 := 0
  time : DateTime := {}
  receiveTime : DateTime := {}
  changeMask : UInt32 := 0
  severity : UInt32 := 500
  sourceNodeId : NodeId := {}
  sourceName : ByteText := []
  userId : NodeId := {}
  value : Variant := .null
  qualifier : UInt32 := 0
  message : LocalizedText := {}
  acked : Bool := false
  acknowledgedTime : DateTime := {}
  acknowledgedUserId : NodeId := {}

/-! ## Ids of events -/

/-- The bytes of an event id, the highest first. -/
def encodeEventIdByteString (eventId : UInt64) : ByteString :=
  (List.range 8).reverse.map fun place => (eventId >>> .ofNat (8 * place)).toUInt8

/-- A byte is read behind the ones before it. -/
def pushByte (eventId : UInt64) (byte : UInt8) : UInt64 := eventId <<< 8 ||| byte.toUInt64

def decodeEventIdByteString (bytes : ByteString) : Option UInt64 :=
  if bytes.length = 8 then some (bytes.foldl pushByte 0) else none

theorem shifted_byte (eventId : UInt64) {place : ℕ} (hplace : place < 8) :
    (eventId >>> .ofNat (8 * place)).toUInt8 =
      .ofNat (eventId.toNat / 256 ^ place % 256) := by
  have hshift : (UInt64.ofNat (8 * place)).toNat % 64 = 8 * place := by
    rw [UInt64.toNat_ofNat_of_lt' (by norm_num; omega), Nat.mod_eq_of_lt (by omega)]
  have hpower : 2 ^ (8 * place) = 256 ^ place := pow_mul 2 8 place
  rw [← UInt8.toNat_inj, UInt64.toNat_toUInt8, UInt64.toNat_shiftRight, hshift,
    Nat.shiftRight_eq_div_pow, hpower, UInt8.toNat_ofNat']
  omega

theorem littleEndian_eq_map (width value : ℕ) :
    littleEndian width value =
      (List.range width).map fun place => .ofNat (value / 256 ^ place % 256) := by
  induction width generalizing value with
  | zero => rfl
  | succ width ih =>
      rw [littleEndian, ih, List.range_succ_eq_map, List.map_cons, List.map_map, pow_zero,
        Nat.div_one]
      simp only [Function.comp_def, Nat.div_div_eq_div_mul, pow_succ']

theorem encodeEventIdByteString_eq (eventId : UInt64) :
    encodeEventIdByteString eventId = (littleEndian 8 eventId.toNat).reverse := by
  rw [encodeEventIdByteString, littleEndian_eq_map, List.map_reverse]
  refine congrArg List.reverse (List.map_congr_left fun place hplace => ?_)
  exact shifted_byte eventId (List.mem_range.mp hplace)

theorem pushByte_ofNat (value : ℕ) (byte : UInt8) :
    pushByte (.ofNat value) byte = .ofNat (256 * value + byte.toNat) := by
  have hbyte : byte.toNat < 2 ^ 8 := byte.toNat_lt
  have hshifted : (UInt64.ofNat value <<< 8).toNat = (value % 2 ^ 56) <<< 8 := by
    have hnumber : (8 : UInt64).toNat % 64 = 8 := by decide
    rw [UInt64.toNat_shiftLeft, UInt64.toNat_ofNat', hnumber, Nat.shiftLeft_eq,
      Nat.shiftLeft_eq]
    omega
  rw [pushByte, ← UInt64.toNat_inj, UInt64.toNat_or, hshifted, UInt8.toNat_toUInt64,
    ← Nat.shiftLeft_add_eq_or_of_lt hbyte, Nat.shiftLeft_eq, UInt64.toNat_ofNat']
  omega

theorem foldl_littleEndian (width value : ℕ) (h : value < 256 ^ width) :
    (littleEndian width value).reverse.foldl pushByte 0 = .ofNat value := by
  induction width generalizing value with
  | zero =>
      obtain rfl : value = 0 := by simpa using h
      rfl
  | succ width ih =>
      have hrest : value / 256 < 256 ^ width := by
        rw [pow_succ] at h
        omega
      have hbyte : (UInt8.ofNat (value % 256)).toNat = value % 256 :=
        UInt8.toNat_ofNat_of_lt' (Nat.mod_lt _ (by norm_num))
      rw [littleEndian, List.reverse_cons, List.foldl_append, ih _ hrest, List.foldl_cons,
        List.foldl_nil, pushByte_ofNat, hbyte, Nat.div_add_mod]

theorem decodeEventIdByteString_encode (eventId : UInt64) :
    decodeEventIdByteString (encodeEventIdByteString eventId) = some eventId := by
  have hwidth : eventId.toNat < 256 ^ 8 := eventId.toNat_lt.trans_eq (by norm_num)
  rw [encodeEventIdByteString_eq, decodeEventIdByteString, List.length_reverse,
    length_littleEndian, if_pos rfl, foldl_littleEndian 8 _ hwidth, UInt64.ofNat_toNat]

/-! ## The fields -/

/-- The fields that can be selected. -/
inductive EventField where
  | eventId
  | eventType
  | sourceNode
  | sourceName
  | time
  | receiveTime
  | message
  | severity
  | value
  | quality
  | changeMask
  | userId
  | ackedState
  | ackedTime
  | ackedUserId
deriving DecidableEq, Repr

namespace EventField

def name : EventField → ByteText
  | .eventId => asciiText "EventId"
  | .eventType => asciiText "EventType"
  | .sourceNode => asciiText "SourceNode"
  | .sourceName => asciiText "SourceName"
  | .time => asciiText "Time"
  | .receiveTime => asciiText "ReceiveTime"
  | .message => asciiText "Message"
  | .severity => asciiText "Severity"
  | .value => asciiText "Value"
  | .quality => asciiText "Quality"
  | .changeMask => asciiText "ChangeMask"
  | .userId => asciiText "UserId"
  | .ackedState => asciiText "AckedState"
  | .ackedTime => asciiText "AckedTime"
  | .ackedUserId => asciiText "AckedUserId"

/-- The fields in the order of `DefaultEventFieldPaths`. -/
def all : List EventField :=
  [.eventId, .eventType, .sourceNode, .sourceName, .time, .receiveTime, .message,
    .severity, .value, .quality, .changeMask, .userId, .ackedState, .ackedTime,
    .ackedUserId]

def ofName (text : ByteText) : Option EventField :=
  all.find? fun field => field.name == text

/-- The field that a browse path selects. -/
def ofPath (path : List ByteText) : Option EventField := path.getLast?.bind ofName

theorem mem_all (field : EventField) : field ∈ all := by
  cases field <;> decide

theorem ofName_name (field : EventField) : ofName field.name = some field := by
  cases field <;> decide

theorem ofName_eq_some {text : ByteText} {field : EventField} :
    ofName text = some field ↔ text = field.name := by
  constructor
  · intro h
    have hname := List.find?_some h
    exact (beq_iff_eq.mp hname).symm
  · rintro rfl
    exact ofName_name field

end EventField

def defaultEventFieldPaths : List (List ByteText) :=
  EventField.all.map fun field => [field.name]

def normalizeEventFieldPaths (fieldPaths : List (List ByteText)) : List (List ByteText) :=
  if fieldPaths.isEmpty then defaultEventFieldPaths else fieldPaths

theorem normalizeEventFieldPaths_of_ne_nil {fieldPaths : List (List ByteText)}
    (h : fieldPaths ≠ []) : normalizeEventFieldPaths fieldPaths = fieldPaths := by
  rw [normalizeEventFieldPaths, List.isEmpty_eq_false_iff.mpr h, if_neg Bool.false_ne_true]

theorem normalizeEventFieldPaths_ne_nil (fieldPaths : List (List ByteText)) :
    normalizeEventFieldPaths fieldPaths ≠ [] := by
  unfold normalizeEventFieldPaths
  split
  next => exact List.cons_ne_nil _ _
  next h => exact fun hnil => h (by rw [hnil]; rfl)

/-! ## Projecting -/

section Project

variable (base64 : Base64)

/-- The source of an event is named by its id where its name is not known. -/
def sourceNameField (event : Event) : ByteText :=
  if event.sourceName ≠ [] then event.sourceName
  else if event.sourceNodeId = {} then []
  else event.sourceNodeId.toText base64

def projectField (event : Event) : EventField → Variant
  | .eventId => .scalar .byteString (encodeEventIdByteString event.eventId)
  | .eventType => .scalar .nodeId event.eventTypeId
  | .sourceNode => .scalar .nodeId event.sourceNodeId
  | .sourceName => .scalar .string (sourceNameField base64 event)
  | .time => .scalar .dateTime event.time
  | .receiveTime => .scalar .dateTime event.receiveTime
  | .message => .scalar .localizedText event.message
  | .severity => .scalar .uint16 event.severity.toUInt16
  | .value => event.value
  | .quality => .scalar .uint32 event.qualifier
  | .changeMask => .scalar .uint32 event.changeMask
  | .userId => .scalar .nodeId event.userId
  | .ackedState => .scalar .bool event.acked
  | .ackedTime => .scalar .dateTime event.acknowledgedTime
  | .ackedUserId => .scalar .nodeId event.acknowledgedUserId

/-- The value of the field that a path selects, or null. -/
def selectField (event : Event) (path : List ByteText) : Variant :=
  (EventField.ofPath path).elim .null (projectField base64 event)

def projectEventFields (fieldPaths : List (List ByteText)) (event : Event) :
    List Variant :=
  fieldPaths.map (selectField base64 event)

end Project

/-! ## Rebuilding -/

/-- A field is written into an event; a value of another type leaves it as it is.
Older peers send the id and the severity as plain numbers. -/
def reconstructField (event : Event) (value : Variant) : EventField → Event
  | .eventId =>
      match value.getIf .byteString with
      | some (bytes : ByteString) =>
          (decodeEventIdByteString bytes).elim event fun eventId => { event with eventId }
      | none =>
          (value.getIf .uint64).elim event fun (eventId : UInt64) =>
            { event with eventId }
  | .eventType =>
      (value.getIf .nodeId).elim event fun (eventTypeId : NodeId) =>
        { event with eventTypeId }
  | .sourceNode =>
      (value.getIf .nodeId).elim event fun (sourceNodeId : NodeId) =>
        { event with sourceNodeId }
  | .sourceName =>
      (value.getIf .string).elim event fun (sourceName : ByteText) =>
        { event with sourceName }
  | .time =>
      (value.getIf .dateTime).elim event fun (time : DateTime) => { event with time }
  | .receiveTime =>
      (value.getIf .dateTime).elim event fun (receiveTime : DateTime) =>
        { event with receiveTime }
  | .message =>
      (value.getIf .localizedText).elim event fun (message : LocalizedText) =>
        { event with message }
  | .severity =>
      match value.getIf .uint16 with
      | some (severity : UInt16) => { event with severity := severity.toUInt32 }
      | none =>
          (value.getIf .uint32).elim event fun (severity : UInt32) =>
            { event with severity }
  | .value => { event with value }
  | .quality =>
      (value.getIf .uint32).elim event fun (qualifier : UInt32) =>
        { event with qualifier }
  | .changeMask =>
      (value.getIf .uint32).elim event fun (changeMask : UInt32) =>
        { event with changeMask }
  | .userId =>
      (value.getIf .nodeId).elim event fun (userId : NodeId) => { event with userId }
  | .ackedState => value.getBool.elim event fun acked => { event with acked }
  | .ackedTime =>
      (value.getIf .dateTime).elim event fun (acknowledgedTime : DateTime) =>
        { event with acknowledgedTime }
  | .ackedUserId =>
      (value.getIf .nodeId).elim event fun (acknowledgedUserId : NodeId) =>
        { event with acknowledgedUserId }

/-- One round of the loop of `ReconstructEventFromFields`. -/
def reconstructStep (event : Event) (entry : List ByteText × Variant) : Event :=
  (EventField.ofPath entry.1).elim event (reconstructField event entry.2)

def reconstructEventFromFields (fieldPaths : List (List ByteText))
    (fields : List Variant) : Event :=
  (fieldPaths.zip fields).foldl reconstructStep {}

/-! ## Projecting and rebuilding -/

/-- An event with chosen fields of another one. -/
def Event.merge (chosen : EventField → Bool) (event other : Event) : Event where
  eventTypeId := if chosen .eventType then other.eventTypeId else event.eventTypeId
  eventId := if chosen .eventId then other.eventId else event.eventId
  time := if chosen .time then other.time else event.time
  receiveTime := if chosen .receiveTime then other.receiveTime else event.receiveTime
  changeMask := if chosen .changeMask then other.changeMask else event.changeMask
  severity := if chosen .severity then other.severity else event.severity
  sourceNodeId := if chosen .sourceNode then other.sourceNodeId else event.sourceNodeId
  sourceName := if chosen .sourceName then other.sourceName else event.sourceName
  userId := if chosen .userId then other.userId else event.userId
  value := if chosen .value then other.value else event.value
  qualifier := if chosen .quality then other.qualifier else event.qualifier
  message := if chosen .message then other.message else event.message
  acked := if chosen .ackedState then other.acked else event.acked
  acknowledgedTime :=
    if chosen .ackedTime then other.acknowledgedTime else event.acknowledgedTime
  acknowledgedUserId :=
    if chosen .ackedUserId then other.acknowledgedUserId else event.acknowledgedUserId

/-- The last name of some path is the name of the field. -/
def selects (fieldPaths : List (List ByteText)) (field : EventField) : Bool :=
  fieldPaths.any fun path => path.getLast? == some field.name

/-- An event whose severity fits on the wire, and whose source has a name or is no
node. -/
structure Event.Carried (event : Event) : Prop where
  severity : event.severity ≤ 65535
  sourceName : event.sourceName ≠ [] ∨ event.sourceNodeId = {}

variable {base64 : Base64} {event other : Event}

theorem merge_all : event.merge (fun _ => true) other = other := rfl

theorem merge_merge (chosen chosen' : EventField → Bool) :
    (event.merge chosen other).merge chosen' other =
      event.merge (fun field => chosen field || chosen' field) other := by
  have hfield : ∀ {α : Type} (first second : Bool) (new old : α),
      (if second then new else if first then new else old) =
        if first || second then new else old := by
    intro α first second new old
    cases first <;> cases second <;> rfl
  simp only [Event.merge, hfield]

theorem sourceNameField_carried (h : event.Carried) :
    sourceNameField base64 event = event.sourceName := by
  unfold sourceNameField
  split
  next => rfl
  next hempty =>
    rw [if_pos (h.sourceName.resolve_left hempty)]
    exact (not_not.mp hempty).symm

theorem severity_carried (h : event.Carried) :
    event.severity.toUInt16.toUInt32 = event.severity := by
  have hle := UInt32.le_iff_toNat_le.mp h.severity
  have hbound : (65535 : UInt32).toNat = 65535 := by decide
  rw [← UInt32.toNat_inj, UInt16.toNat_toUInt32, UInt32.toNat_toUInt16]
  omega

theorem reconstructField_projectField (h : event.Carried) (start : Event)
    (field : EventField) :
    reconstructField start (projectField base64 event field) field =
      start.merge (· == field) event := by
  cases field with
  | eventId =>
      change (decodeEventIdByteString (encodeEventIdByteString event.eventId)).elim start
        (fun eventId => { start with eventId }) = _
      rw [decodeEventIdByteString_encode]
      rfl
  | sourceName =>
      simp only [projectField, sourceNameField_carried h]
      rfl
  | severity =>
      change { start with severity := event.severity.toUInt16.toUInt32 } = _
      rw [severity_carried h]
      rfl
  | _ => rfl

theorem reconstructStep_selectField (h : event.Carried) (start : Event)
    (path : List ByteText) :
    reconstructStep start (path, selectField base64 event path) =
      start.merge (fun field => path.getLast? == some field.name) event := by
  unfold reconstructStep selectField
  dsimp only
  cases hpath : EventField.ofPath path with
  | none =>
      have hnone : (fun field : EventField => path.getLast? == some field.name) =
          fun _ => false := by
        funext field
        rw [beq_eq_false_iff_ne]
        intro hlast
        rw [EventField.ofPath, hlast, Option.bind_some, EventField.ofName_name] at hpath
        cases hpath
      rw [hnone]
      rfl
  | some selected =>
      have hselected : (fun field : EventField => path.getLast? == some field.name) =
          (· == selected) := by
        obtain ⟨text, hlast, htext⟩ := Option.bind_eq_some_iff.mp hpath
        obtain rfl := EventField.ofName_eq_some.mp htext
        funext field
        rw [hlast, Bool.eq_iff_iff, beq_iff_eq, beq_iff_eq]
        constructor
        · intro hname
          have hfield := EventField.ofName_name field
          rw [← Option.some.inj hname, EventField.ofName_name] at hfield
          exact (Option.some.inj hfield).symm
        · rintro rfl
          rfl
      rw [hselected]
      exact reconstructField_projectField h start selected

/-- By induction on the paths, each field is overwritten with the same value. -/
theorem foldl_reconstructStep (h : event.Carried) (fieldPaths : List (List ByteText))
    (start : Event) :
    (fieldPaths.zip (projectEventFields base64 fieldPaths event)).foldl reconstructStep
        start =
      start.merge (selects fieldPaths) event := by
  induction fieldPaths generalizing start with
  | nil => rfl
  | cons path rest ih =>
      rw [projectEventFields, List.map_cons, List.zip_cons_cons, List.foldl_cons,
        reconstructStep_selectField h]
      refine (ih _).trans ?_
      rw [merge_merge]
      rfl

theorem reconstruct_project (h : event.Carried) (fieldPaths : List (List ByteText)) :
    reconstructEventFromFields fieldPaths (projectEventFields base64 fieldPaths event) =
      Event.merge (selects fieldPaths) {} event :=
  foldl_reconstructStep h fieldPaths {}

theorem selects_default : selects defaultEventFieldPaths = fun _ => true := by
  funext field
  rw [selects, defaultEventFieldPaths, List.any_map, List.any_eq_true]
  exact ⟨field, EventField.mem_all field, beq_self_eq_true _⟩

theorem reconstruct_project_default (h : event.Carried) :
    reconstructEventFromFields defaultEventFieldPaths
      (projectEventFields base64 defaultEventFieldPaths event) = event := by
  rw [reconstruct_project h, selects_default, merge_all]

end OpcuaStack
