import OpcuaStack.EventFilters

/-!
# The fields which are selected

The server projects events over the paths that it reads out of the JSON form of a
filter.  A clause without a path is lost on the way, and a name ends at a null
character; the projection follows the clauses where neither matters.
-/

namespace OpcuaStack

/-- The fields selected by the clauses, in their order. -/
def clauseFields (base64 : Base64) (filter : WireEventFilter) (event : Event) :
    List Variant :=
  filter.fieldPaths.map (selectField base64 event)

/-- The fields which the server reports. -/
def reportedFields (codec : OperandCodec) (base64 : Base64) (filter : WireEventFilter)
    (event : Event) : List Variant :=
  projectEventFields base64
    (parseEventFilterFieldPaths (toJsonEventFilter codec base64 filter)) event

/-- A path whose last name selects the same when it is cut at a null character. -/
def PathKept (event : Event) (path : List ByteText) : Prop :=
  ∃ name, path.getLast? = some name ∧
    (cString name = name ∨ EventField.ofName (cString name) = none ∨
      cString name = EventField.value.name ∧ event.value = .null)

variable {base64 : Base64} {event : Event}

theorem cString_fieldName (field : EventField) : cString field.name = field.name := by
  cases field <;> decide

/-- No field is null but the value of an event. -/
theorem projectField_eq_null_iff (field : EventField) :
    projectField base64 event field = .null ↔ field = .value ∧ event.value = .null := by
  cases field with
  | value => exact ⟨fun h => ⟨rfl, h⟩, fun h => h.2⟩
  | _ =>
      refine ⟨fun h => ?_, fun h => ?_⟩
      · cases h
      · cases h.1

theorem selectField_of_getLast? {path : List ByteText} {name : ByteText}
    (hlast : path.getLast? = some name) :
    selectField base64 event path =
      (EventField.ofName name).elim .null (projectField base64 event) := by
  rw [selectField, EventField.ofPath, hlast, Option.bind_some]

theorem selectField_cString_iff {path : List ByteText} {name : ByteText}
    (hlast : path.getLast? = some name) :
    selectField base64 event (path.map cString) = selectField base64 event path ↔
      PathKept event path := by
  have hcut : (path.map cString).getLast? = some (cString name) := by
    rw [List.getLast?_map, hlast, Option.map_some]
  rw [selectField_of_getLast? hcut, selectField_of_getLast? hlast]
  have hkept : PathKept event path ↔
      cString name = name ∨ EventField.ofName (cString name) = none ∨
        cString name = EventField.value.name ∧ event.value = .null := by
    refine ⟨?_, fun h => ⟨name, hlast, h⟩⟩
    rintro ⟨other, hother, h⟩
    rwa [Option.some.inj (hlast.symm.trans hother)]
  rw [hkept]
  by_cases hsame : cString name = name
  · rw [hsame]
    exact iff_of_true rfl (.inl rfl)
  · -- A name with a null character in it names no field.
    have hnone : EventField.ofName name = none := by
      cases hname : EventField.ofName name with
      | none => rfl
      | some field =>
          obtain rfl := EventField.ofName_eq_some.mp hname
          exact absurd (cString_fieldName field) hsame
    rw [hnone, Option.elim_none, or_iff_right hsame]
    cases hfield : EventField.ofName (cString name) with
    | none => exact iff_of_true rfl (.inl rfl)
    | some field =>
        have hname := EventField.ofName_eq_some.mp hfield
        rw [Option.elim_some, projectField_eq_null_iff, hname,
          or_iff_right (Option.some_ne_none field)]
        refine and_congr_left fun _ => ⟨fun h => by rw [h], fun h => ?_⟩
        have hvalue := EventField.ofName_name field
        rw [h, EventField.ofName_name] at hvalue
        exact (Option.some.inj hvalue).symm

variable {codec : OperandCodec} {filter : WireEventFilter}

theorem fieldPaths_ne_nil (hclauses : filter.selectClauses ≠ []) : filter.fieldPaths ≠ [] :=
  fun h => hclauses (List.map_eq_nil_iff.mp h)

theorem reportedFields_eq (hclauses : filter.selectClauses ≠ []) :
    reportedFields codec base64 filter event =
      projectEventFields base64
        (normalizeEventFieldPaths
          ((filter.fieldPaths.filter (!·.isEmpty)).map (List.map cString))) event := by
  rw [reportedFields, toJsonEventFilter, parseEventFilterFieldPaths_jsonFilter,
    normalizeEventFieldPaths_of_ne_nil (fieldPaths_ne_nil hclauses)]

theorem reportedFields_of_paths (hclauses : filter.selectClauses ≠ [])
    (hpaths : ∀ path ∈ filter.fieldPaths, path ≠ []) :
    reportedFields codec base64 filter event =
      filter.fieldPaths.map fun path => selectField base64 event (path.map cString) := by
  have hkept : filter.fieldPaths.filter (!·.isEmpty) = filter.fieldPaths := by
    rw [List.filter_eq_self]
    intro path hmem
    rw [List.isEmpty_eq_false_iff.mpr (hpaths path hmem), Bool.not_false]
  have hne : filter.fieldPaths.map (List.map cString) ≠ [] := fun h =>
    fieldPaths_ne_nil hclauses (List.map_eq_nil_iff.mp h)
  rw [reportedFields_eq hclauses, hkept, normalizeEventFieldPaths_of_ne_nil hne,
    projectEventFields, List.map_map]
  rfl

theorem paths_of_reportedFields (hclauses : filter.selectClauses ≠ [])
    (h : reportedFields codec base64 filter event = clauseFields base64 filter event) :
    ∀ path ∈ filter.fieldPaths, path ≠ [] := by
  intro path hmem hempty
  rw [reportedFields_eq hclauses, clauseFields] at h
  by_cases hkept : filter.fieldPaths.filter (!·.isEmpty) = []
  · have hnull : ∀ value ∈ filter.fieldPaths.map (selectField base64 event),
        value = .null := by
      intro value hvalue
      obtain ⟨other, hother, rfl⟩ := List.mem_map.mp hvalue
      have hdropped := List.filter_eq_nil_iff.mp hkept other hother
      obtain rfl : other = [] := by simpa using hdropped
      rfl
    rw [hkept] at h
    have hid : Variant.scalar .byteString (encodeEventIdByteString event.eventId) = .null := by
      refine hnull _ (h ▸ ?_)
      exact List.mem_cons_self
    cases hid
  · have hne : (filter.fieldPaths.filter (!·.isEmpty)).map (List.map cString) ≠ [] :=
      fun hnil => hkept (List.map_eq_nil_iff.mp hnil)
    have hlength := congrArg List.length h
    rw [normalizeEventFieldPaths_of_ne_nil hne, projectEventFields, List.length_map,
      List.length_map, List.length_map] at hlength
    have hshorter : (filter.fieldPaths.filter (!·.isEmpty)).length <
        filter.fieldPaths.length :=
      List.length_filter_lt_length_iff_exists.mpr ⟨path, hmem, by simp [hempty]⟩
    exact absurd hlength hshorter.ne

/-- The fields follow the clauses exactly if every clause has a path, and no name is cut
to one of a field that it does not name. -/
theorem reportedFields_follow_iff (hclauses : filter.selectClauses ≠ []) :
    reportedFields codec base64 filter event = clauseFields base64 filter event ↔
      ∀ path ∈ filter.fieldPaths, PathKept event path := by
  constructor
  · intro h path hmem
    have hpaths := paths_of_reportedFields hclauses h
    rw [reportedFields_of_paths hclauses hpaths, clauseFields, List.map_inj_left] at h
    obtain ⟨name, hlast⟩ := Option.ne_none_iff_exists'.mp
      fun hnone => hpaths path hmem (List.getLast?_eq_none_iff.mp hnone)
    exact (selectField_cString_iff hlast).mp (h path hmem)
  · intro h
    have hpaths : ∀ path ∈ filter.fieldPaths, path ≠ [] := by
      rintro path hmem rfl
      obtain ⟨name, hlast, -⟩ := h [] hmem
      cases hlast
    rw [reportedFields_of_paths hclauses hpaths, clauseFields, List.map_inj_left]
    intro path hmem
    obtain ⟨name, hlast, -⟩ := h path hmem
    exact (selectField_cString_iff hlast).mpr (h path hmem)

/-- No where clause is read with these codecs. -/
def noOperandCodec : OperandCodec where
  literal := { encode := fun _ => [], decode := fun _ => none, decodeJson := fun _ => none }
  simpleAttribute :=
    { encode := fun _ => [], decode := fun _ => none, decodeJson := fun _ => none }

def clauseOf (names : List ByteText) : SimpleAttributeOperand :=
  { browsePath := names.map fun name => { name } }

/-- A known field, a name of no field, one below an object, and one which is cut to no
field. -/
def severityFilter : WireEventFilter :=
  { selectClauses :=
      [clauseOf [asciiText "Severity"], clauseOf [asciiText "Color"],
        clauseOf [asciiText "Alarm", asciiText "Message"],
        clauseOf [asciiText "Col" ++ [0]]] }

def alarmEvent : Event :=
  { eventId := 7, severity := 900, message := { text := [0x48, 0x6f, 0x74] } }

theorem severityFilter_follows :
    reportedFields noOperandCodec Base64.standard severityFilter alarmEvent =
      clauseFields Base64.standard severityFilter alarmEvent := by
  refine (reportedFields_follow_iff (List.cons_ne_nil _ _)).mpr ?_
  have hpaths : severityFilter.fieldPaths =
      [[asciiText "Severity"], [asciiText "Color"], [asciiText "Alarm", asciiText "Message"],
        [asciiText "Col" ++ [0]]] := rfl
  rw [hpaths]
  simp only [List.forall_mem_cons]
  exact ⟨⟨_, rfl, .inl (by decide)⟩, ⟨_, rfl, .inl (by decide)⟩,
    ⟨_, rfl, .inl (by decide)⟩, ⟨_, rfl, .inr (.inl (by decide))⟩,
    List.forall_mem_nil _⟩

/-- A clause without a path, in front of one for the type of the event. -/
def emptyPathFilter : WireEventFilter :=
  { selectClauses := [clauseOf [], clauseOf [asciiText "EventType"]] }

/-- The name of no field, which is one up to its null character. -/
def nullCharacterFilter : WireEventFilter :=
  { selectClauses := [clauseOf [asciiText "Severity" ++ [0]]] }

theorem fields_shifted :
    emptyPathFilter.selectClauses ≠ [] ∧
      reportedFields noOperandCodec Base64.standard emptyPathFilter {} ≠
        clauseFields Base64.standard emptyPathFilter {} ∧
      nullCharacterFilter.selectClauses ≠ [] ∧
      reportedFields noOperandCodec Base64.standard nullCharacterFilter {} ≠
        clauseFields Base64.standard nullCharacterFilter {} := by
  refine ⟨List.cons_ne_nil _ _, fun h => ?_, List.cons_ne_nil _ _, fun h => ?_⟩
  · have hlength := congrArg List.length h
    revert hlength
    decide
  · have hnumbers := congrArg (List.map fun value => (value.getIf .uint16).isSome) h
    revert hnumbers
    decide

end OpcuaStack
