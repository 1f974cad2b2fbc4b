import OpcuaStack.EventFilters

/-!
# Two decoders of event filters

`ToManagedEventFilter` of `services/history_conversion.cpp` reads the same where clause
as the subscriptions do.  It asks for the built-in type of a literal and then takes the
value for a scalar, so an array of that type throws.
-/

namespace OpcuaStack

open Json (Thrown)

namespace OperandCodec

variable (codec : OperandCodec)

/-- `as_node_id` and `as_bool`, for a literal which has been asked for its type. -/
def literalAs (type : PlainType) (operand : ExtensionObject) :
    Except Thrown (Option type.Carrier) :=
  match codec.literalOperand.fromAnyExtensionObject operand with
  | some literal =>
      if Binary.variantType literal.value = .plain type then
        (literal.value.getIf type).elim (.error .badVariantAccess) fun value =>
          .ok (some value)
      else .ok none
  | none => .ok none

def managedNodeId (operand : ExtensionObject) : Except Thrown (Option NodeId) :=
  codec.literalAs .nodeId operand

def managedBool (operand : ExtensionObject) : Except Thrown (Option Bool) :=
  codec.literalAs .bool operand

def managedLeaf (operand : ExtensionObject) : Option ByteText :=
  (codec.simpleAttributeOperand.fromAnyExtensionObject operand).bind fun decoded =>
    decoded.browsePath.getLast?.map QualifiedName.name

/-- One round of the loop over the places of the attribute. -/
def managedRound (leaf literal : ExtensionObject) : Except Thrown (Option Bool) :=
  if codec.managedLeaf leaf = some ackedStateName then codec.managedBool literal
  else .ok none

def managedSelection (first second : ExtensionObject) : Except Thrown (Option Bool) := do
  let selected ← codec.managedRound first second
  if selected.isSome then
    return selected
  else
    codec.managedRound second first

def addManagedElement (filter : EventFilter) (element : ContentFilterElement) :
    Except Thrown EventFilter :=
  match element.filterOperands with
  | [operand] =>
      if element.filterOperator = FilterOperator.ofType then
        (codec.managedNodeId operand).map filter.addOfType
      else if element.filterOperator = FilterOperator.relatedTo then
        (codec.managedNodeId operand).map filter.addChildOf
      else .ok filter
  | [first, second] =>
      if element.filterOperator = FilterOperator.equals then
        (codec.managedSelection first second).map filter.addAcked
      else .ok filter
  | _ => .ok filter

def toManagedEventFilter (filter : WireEventFilter) :
    Except Thrown (List (List ByteText) × EventFilter) := do
  let found ← filter.elements.foldlM codec.addManagedElement {}
  return (filter.fieldPaths, found)

/-! ## Operands which throw -/

/-- A literal operand with an array of the type. -/
def HoldsArray (type : PlainType) (operand : ExtensionObject) : Prop :=
  ∃ literal elements, codec.literalOperand.fromExtensionObject operand = some literal ∧
    literal.value = .array type elements

/-- An element whose literal is taken for a scalar, and is an array. -/
def Trips (element : ContentFilterElement) : Prop :=
  match element.filterOperands with
  | [operand] =>
      (element.filterOperator = FilterOperator.ofType ∨
          element.filterOperator = FilterOperator.relatedTo) ∧
        codec.HoldsArray .nodeId operand
  | [first, second] =>
      element.filterOperator = FilterOperator.equals ∧
        (codec.operandLeaf first = some ackedStateName ∧ codec.HoldsArray .bool second ∨
          codec.operandLeaf second = some ackedStateName ∧ codec.HoldsArray .bool first)
  | _ => False

end OperandCodec

/-- The operands of a client on the binary transport. -/
def WireEventFilter.HasBinaryOperands (filter : WireEventFilter) : Prop :=
  ∀ element ∈ filter.elements, ∀ operand ∈ element.filterOperands,
    ∃ body, operand.value = .binary body

namespace OperandCodec

variable {codec : OperandCodec} {operand : ExtensionObject}

theorem fromAnyExtensionObject_binary {T : Type} {type : WireType T}
    (hbinary : ∃ body, operand.value = .binary body) :
    type.fromAnyExtensionObject operand = type.fromExtensionObject operand := by
  obtain ⟨body, hbody⟩ := hbinary
  rw [WireType.fromAnyExtensionObject, WireType.fromJsonExtensionObject_binary hbody,
    Option.or_none]

theorem managedLeaf_binary (hbinary : ∃ body, operand.value = .binary body) :
    codec.managedLeaf operand = codec.operandLeaf operand := by
  rw [managedLeaf, operandLeaf, fromAnyExtensionObject_binary hbinary]

theorem literalAs_of_array (hbinary : ∃ body, operand.value = .binary body)
    {type : PlainType} (h : codec.HoldsArray type operand) :
    codec.literalAs type operand = .error .badVariantAccess := by
  obtain ⟨literal, elements, hliteral, hvalue⟩ := h
  rw [literalAs, fromAnyExtensionObject_binary hbinary, hliteral]
  dsimp only
  rw [hvalue]
  exact if_pos rfl

theorem literalAs_eq (hbinary : ∃ body, operand.value = .binary body)
    {type : PlainType} (h : ¬codec.HoldsArray type operand) :
    codec.literalAs type operand =
      .ok ((codec.literalOperand.fromExtensionObject operand).bind fun decoded =>
        decoded.value.getIf type) := by
  rw [literalAs, fromAnyExtensionObject_binary hbinary]
  cases hliteral : codec.literalOperand.fromExtensionObject operand with
  | none => rfl
  | some literal =>
      dsimp only
      rw [Option.bind_some]
      split
      next htype =>
        cases hvalue : literal.value with
        | scalar held value =>
            rw [hvalue] at htype
            obtain rfl : held = type := by
              injection htype
            rw [Variant.getIf_scalar, Option.elim_some]
        | array held elements =>
            rw [hvalue] at htype
            obtain rfl : held = type := by
              injection htype
            exact absurd ⟨literal, elements, hliteral, hvalue⟩ h
        | _ =>
            rw [hvalue] at htype
            cases htype
      next htype =>
        have hnone : literal.value.getIf type = none := by
          cases hvalue : literal.value with
          | scalar held value =>
              rw [hvalue] at htype
              exact Variant.getIf_scalar_of_ne (fun heq => htype (congrArg _ heq)) value
          | _ => rfl
        rw [hnone]

theorem not_holdsArray_of_leaf {name : ByteText} (h : codec.operandLeaf operand = some name)
    (type : PlainType) : ¬codec.HoldsArray type operand := by
  rintro ⟨literal, elements, hliteral, -⟩
  have hids : operand.standardId? = some codec.simpleAttributeOperand.binaryEncodingId ∧
      operand.standardId? = some codec.literalOperand.binaryEncodingId := by
    constructor
    · by_contra hid
      rw [operandLeaf, WireType.fromExtensionObject, if_neg hid] at h
      cases h
    · by_contra hid
      rw [WireType.fromExtensionObject, if_neg hid] at hliteral
      cases hliteral
  have hsame := Option.some.inj (hids.1.symm.trans hids.2)
  exact absurd hsame (by decide : (603 : UInt32) ≠ 597)

variable {first second : ExtensionObject}

theorem managedRound_eq (hfirst : ∃ body, first.value = .binary body)
    (hsecond : ∃ body, second.value = .binary body)
    (h : ¬(codec.operandLeaf first = some ackedStateName ∧
      codec.HoldsArray .bool second)) :
    codec.managedRound first second =
      .ok (if codec.operandLeaf first = some ackedStateName then codec.operandBool second
        else none) := by
  rw [managedRound, managedLeaf_binary hfirst]
  split
  next hleaf => exact literalAs_eq hsecond fun harray => h ⟨hleaf, harray⟩
  next => rfl

theorem managedRound_of_array (hfirst : ∃ body, first.value = .binary body)
    (hsecond : ∃ body, second.value = .binary body)
    (h : codec.operandLeaf first = some ackedStateName ∧ codec.HoldsArray .bool second) :
    codec.managedRound first second = .error .badVariantAccess := by
  rw [managedRound, managedLeaf_binary hfirst, if_pos h.1]
  exact literalAs_of_array hsecond h.2

theorem managedSelection_eq (hfirst : ∃ body, first.value = .binary body)
    (hsecond : ∃ body, second.value = .binary body)
    (h : ¬(codec.operandLeaf first = some ackedStateName ∧
      codec.HoldsArray .bool second))
    (h' : ¬(codec.operandLeaf second = some ackedStateName ∧
      codec.HoldsArray .bool first)) :
    codec.managedSelection first second = .ok (codec.ackedSelection first second) := by
  rw [managedSelection, managedRound_eq hfirst hsecond h, managedRound_eq hsecond hfirst h',
    ackedSelection]
  generalize (if codec.operandLeaf first = some ackedStateName then
    codec.operandBool second else none) = selected
  cases selected <;> rfl

/-- Where the second operand is the attribute, the first round finds nothing. -/
theorem managedSelection_of_array (hfirst : ∃ body, first.value = .binary body)
    (hsecond : ∃ body, second.value = .binary body)
    (h : codec.operandLeaf first = some ackedStateName ∧ codec.HoldsArray .bool second ∨
      codec.operandLeaf second = some ackedStateName ∧ codec.HoldsArray .bool first) :
    codec.managedSelection first second = .error .badVariantAccess := by
  obtain hleft | hright := h
  · rw [managedSelection, managedRound_of_array hfirst hsecond hleft]
    rfl
  · have hleaf : codec.operandLeaf first ≠ some ackedStateName := fun hleaf =>
      not_holdsArray_of_leaf hleaf .bool hright.2
    rw [managedSelection,
      managedRound_eq hfirst hsecond (fun hleft => hleaf hleft.1), if_neg hleaf]
    exact managedRound_of_array hsecond hfirst hright

/-! ## One element, and all of them -/

theorem managedNodeId_eq (hbinary : ∃ body, operand.value = .binary body)
    (h : ¬codec.HoldsArray .nodeId operand) :
    codec.managedNodeId operand = .ok (codec.operandNodeId operand) :=
  literalAs_eq hbinary h

theorem addManagedElement_eq {element : ContentFilterElement}
    (hbinary : ∀ operand ∈ element.filterOperands, ∃ body, operand.value = .binary body)
    (h : ¬codec.Trips element) (filter : EventFilter) :
    codec.addManagedElement filter element = .ok (codec.addElement filter element) := by
  obtain ⟨operator, _ | ⟨first, _ | ⟨second, _ | ⟨third, rest⟩⟩⟩⟩ := element
  · rfl
  · have hfirst := hbinary first List.mem_cons_self
    have harray : operator = FilterOperator.ofType ∨ operator = FilterOperator.relatedTo →
        ¬codec.HoldsArray .nodeId first := fun hkind harray => h ⟨hkind, harray⟩
    unfold addManagedElement addElement
    dsimp only
    split
    next hkind =>
      rw [managedNodeId_eq hfirst (harray (.inl hkind))]
      rfl
    next =>
      split
      next hkind =>
        rw [managedNodeId_eq hfirst (harray (.inr hkind))]
        rfl
      next => rfl
  · have hfirst := hbinary first List.mem_cons_self
    have hsecond := hbinary second (List.mem_cons_of_mem _ List.mem_cons_self)
    unfold addManagedElement addElement
    dsimp only
    split
    next hkind =>
      rw [managedSelection_eq hfirst hsecond (fun hleft => h ⟨hkind, .inl hleft⟩)
        (fun hright => h ⟨hkind, .inr hright⟩)]
      rfl
    next => rfl
  · rfl

theorem addManagedElement_of_trips {element : ContentFilterElement}
    (hbinary : ∀ operand ∈ element.filterOperands, ∃ body, operand.value = .binary body)
    (h : codec.Trips element) (filter : EventFilter) :
    codec.addManagedElement filter element = .error .badVariantAccess := by
  obtain ⟨operator, _ | ⟨first, _ | ⟨second, _ | ⟨third, rest⟩⟩⟩⟩ := element
  · exact h.elim
  · obtain ⟨hkind, harray⟩ := h
    have hthrows : codec.managedNodeId first = .error .badVariantAccess :=
      literalAs_of_array (hbinary first List.mem_cons_self) harray
    unfold addManagedElement
    dsimp only
    rw [hthrows]
    split
    next => rfl
    next hne =>
      rw [if_pos (hkind.resolve_left hne)]
      rfl
  · obtain ⟨hkind, harray⟩ := h
    have hthrows := managedSelection_of_array (hbinary first List.mem_cons_self)
      (hbinary second (List.mem_cons_of_mem _ List.mem_cons_self)) harray
    unfold addManagedElement
    dsimp only
    rw [hthrows]
    exact if_pos hkind
  · exact h.elim

theorem foldlM_addManagedElement {elements : List ContentFilterElement}
    (hbinary : ∀ element ∈ elements, ∀ operand ∈ element.filterOperands,
      ∃ body, operand.value = .binary body)
    (h : ∀ element ∈ elements, ¬codec.Trips element) (filter : EventFilter) :
    elements.foldlM codec.addManagedElement filter =
      .ok (elements.foldl codec.addElement filter) := by
  induction elements generalizing filter with
  | nil => rfl
  | cons element rest ih =>
      rw [List.foldlM_cons, addManagedElement_eq (hbinary element List.mem_cons_self)
        (h element List.mem_cons_self)]
      exact ih (fun other hmem => hbinary other (List.mem_cons_of_mem _ hmem))
        (fun other hmem => h other (List.mem_cons_of_mem _ hmem)) _

theorem not_trips_of_foldlM {elements : List ContentFilterElement}
    (hbinary : ∀ element ∈ elements, ∀ operand ∈ element.filterOperands,
      ∃ body, operand.value = .binary body) {filter found : EventFilter}
    (h : elements.foldlM codec.addManagedElement filter = .ok found) :
    ∀ element ∈ elements, ¬codec.Trips element := by
  induction elements generalizing filter with
  | nil => exact fun element hmem => absurd hmem List.not_mem_nil
  | cons element rest ih =>
      have hfirst := hbinary element List.mem_cons_self
      rw [List.foldlM_cons] at h
      by_cases htrips : codec.Trips element
      · rw [addManagedElement_of_trips hfirst htrips] at h
        cases h
      · rw [addManagedElement_eq hfirst htrips] at h
        have hrest := ih (fun other hmem => hbinary other (List.mem_cons_of_mem _ hmem)) h
        exact List.forall_mem_cons.mpr ⟨htrips, hrest⟩

variable {base64 : Base64}

theorem map_selectClause_of_jsonFilter {fieldPaths other : List (List ByteText)}
    {filter found : EventFilter}
    (h : jsonFilter base64 fieldPaths filter = jsonFilter base64 other found) :
    fieldPaths.map selectClause = other.map selectClause := by
  injection h with h
  injection h with _ h
  injection h with h
  injection h with _ h
  injection h with h
  injection h with h
  injection h with _ h
  injection h with h

/-- The decoders agree exactly if there are select clauses, and no array stands where a
scalar is taken. -/
theorem decoders_agree_iff {filter : WireEventFilter} (hbinary : filter.HasBinaryOperands) :
    (∃ fieldPaths found, codec.toManagedEventFilter filter = .ok (fieldPaths, found) ∧
        toJsonEventFilter codec base64 filter = jsonFilter base64 fieldPaths found) ↔
      filter.selectClauses ≠ [] ∧
        ∀ element ∈ filter.elements, ¬codec.Trips element := by
  constructor
  · rintro ⟨fieldPaths, found, hmanaged, hjson⟩
    rw [toManagedEventFilter] at hmanaged
    cases hfound : filter.elements.foldlM codec.addManagedElement {} with
    | error thrown =>
        rw [hfound] at hmanaged
        cases hmanaged
    | ok selected =>
        rw [hfound] at hmanaged
        obtain ⟨rfl, rfl⟩ := Prod.mk.inj (Except.ok.inj hmanaged)
        refine ⟨fun hnone => ?_, not_trips_of_foldlM hbinary hfound⟩
        have hpaths : filter.fieldPaths = [] := List.map_eq_nil_iff.mpr hnone
        have hclauses := map_selectClause_of_jsonFilter hjson
        rw [hpaths, List.map_nil, List.map_eq_nil_iff] at hclauses
        exact normalizeEventFieldPaths_ne_nil _ hclauses
  · rintro ⟨hclauses, hplain⟩
    refine ⟨filter.fieldPaths, codec.whereClause filter, ?_, ?_⟩
    · rw [toManagedEventFilter, foldlM_addManagedElement hbinary hplain]
      rfl
    · have hpaths : filter.fieldPaths ≠ [] := fun hnil =>
        hclauses (List.map_eq_nil_iff.mp hnil)
      rw [toJsonEventFilter, normalizeEventFieldPaths_of_ne_nil hpaths]

/-! ## Filters of a client -/

open Binary Binary.Bounded

def sampleOperandCodec : OperandCodec := binaryOperandCodec sampleForms

def literalOf (value : Variant) : ExtensionObject :=
  sampleOperandCodec.literalOperand.toExtensionObject { value }

def attributeOf (name : ByteText) : ExtensionObject :=
  sampleOperandCodec.simpleAttributeOperand.toExtensionObject
    { typeDefinitionId := { identifier := .numeric 2041 }, browsePath := [{ name }],
      attributeId := 13 }

theorem literalOf_decodes {value : Variant}
    (hfits : ((encodeVariant sampleForms value).getD []).length < 2 ^ 63)
    (h : (decodeVariant sampleForms).Returns (encodeVariant sampleForms value) value) :
    sampleOperandCodec.literalOperand.fromExtensionObject (literalOf value) =
      some { value } :=
  (literalOperand_roundTrips hfits h).fromExtensionObject

def eventTypeClause : SimpleAttributeOperand :=
  { browsePath := [{ name := asciiText "EventType" }] }

def alarmType : NodeId := { identifier := .numeric 2915 }

/-- A filter for a type, and for acknowledged events with the literal first. -/
def alarmFilter : WireEventFilter where
  selectClauses := [eventTypeClause]
  elements :=
    [{ filterOperator := FilterOperator.ofType,
       filterOperands := [literalOf (.scalar .nodeId alarmType)] },
      { filterOperands := [literalOf (.scalar .bool true), attributeOf ackedStateName] }]

theorem literalOf_nodeId : ¬sampleOperandCodec.HoldsArray .nodeId
    (literalOf (.scalar .nodeId alarmType)) := by
  have hdecodes := literalOf_decodes (by decide)
    (returns_variant sampleForms (.scalar .nodeId alarmType) fun _ =>
      .of_yields (yields_nodeId trivial))
  rintro ⟨literal, elements, hliteral, hvalue⟩
  obtain rfl := Option.some.inj (hdecodes.symm.trans hliteral)
  cases hvalue

theorem literalOf_bool : ¬sampleOperandCodec.HoldsArray .bool
    (literalOf (.scalar .bool true)) := by
  have hdecodes := literalOf_decodes (by decide)
    (returns_variant sampleForms (.scalar .bool true) fun _ =>
      .of_yields ((yields_uInt8 1).bind_pure fun raw => decide (raw ≠ 0)))
  rintro ⟨literal, elements, hliteral, hvalue⟩
  obtain rfl := Option.some.inj (hdecodes.symm.trans hliteral)
  cases hvalue

theorem alarmFilter_agrees :
    ∃ fieldPaths found,
      sampleOperandCodec.toManagedEventFilter alarmFilter = .ok (fieldPaths, found) ∧
        toJsonEventFilter sampleOperandCodec Base64.standard alarmFilter =
          jsonFilter Base64.standard fieldPaths found := by
  refine (decoders_agree_iff ?_).mpr ⟨List.cons_ne_nil _ _, ?_⟩
  · intro element helement operand hoperand
    simp only [alarmFilter, List.mem_cons, List.not_mem_nil, or_false] at helement
    obtain rfl | rfl := helement
    · obtain rfl := List.mem_singleton.mp hoperand
      exact ⟨_, rfl⟩
    · simp only [List.mem_cons, List.not_mem_nil, or_false] at hoperand
      obtain rfl | rfl := hoperand <;> exact ⟨_, rfl⟩
  · refine List.forall_mem_cons.mpr ⟨?_, List.forall_mem_singleton.mpr ?_⟩
    · rintro ⟨-, harray⟩
      exact literalOf_nodeId harray
    · rintro ⟨-, ⟨-, harray⟩ | ⟨-, harray⟩⟩
      · obtain ⟨literal, elements, hliteral, -⟩ := harray
        have hother : sampleOperandCodec.literalOperand.fromExtensionObject
            (attributeOf ackedStateName) = none :=
          WireType.fromExtensionObject_other (by decide) _
        rw [hother] at hliteral
        cases hliteral
      · exact literalOf_bool harray

/-- A filter for any of a list of types, sent in one literal. -/
def arrayFilter : WireEventFilter where
  selectClauses := [eventTypeClause]
  elements :=
    [{ filterOperator := FilterOperator.ofType,
       filterOperands := [literalOf (.array .nodeId [alarmType])] }]

theorem arrayFilter_throws :
    arrayFilter.HasBinaryOperands ∧
      sampleOperandCodec.toManagedEventFilter arrayFilter = .error .badVariantAccess := by
  have hbinary : ∀ element ∈ arrayFilter.elements, ∀ operand ∈ element.filterOperands,
      ∃ body, operand.value = .binary body := by
    intro element helement operand hoperand
    obtain rfl := List.mem_singleton.mp helement
    obtain rfl := List.mem_singleton.mp hoperand
    exact ⟨_, rfl⟩
  have hsendable : Sendable sampleForms (.array .nodeId [alarmType]) :=
    ⟨⟨by decide, by decide⟩, List.forall_mem_singleton.mpr fun _ =>
      .of_yields (yields_nodeId trivial)⟩
  have hdecodes := literalOf_decodes (by decide)
    (returns_variant sampleForms _ hsendable)
  refine ⟨hbinary, ?_⟩
  have hthrows := addManagedElement_of_trips (hbinary _ List.mem_cons_self)
    ⟨.inl rfl, _, _, hdecodes, rfl⟩ {}
  rw [toManagedEventFilter, arrayFilter, List.foldlM_cons, hthrows]
  rfl

end OperandCodec

end OpcuaStack
