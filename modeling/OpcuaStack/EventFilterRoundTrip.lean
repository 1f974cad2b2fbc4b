import Mathlib.Data.Nat.Bitwise
import OpcuaStack.EventFilterDecoders

/-!
# Event filters there and back

`ToUaEventFilter` of `services/history_conversion.cpp` and of
`session/subscription_conversion.cpp`.  The types, the parents and the two
acknowledgement bits of a filter become one list of elements, and are sorted out of it
again.
-/

namespace OpcuaStack

/-- `ToSelectClause` and `MakeSelectClause`. -/
def toSelectClause (browsePath : List ByteText) : SimpleAttributeOperand where
  typeDefinitionId := { identifier := .numeric 2041 }
  browsePath := browsePath.map fun segment => { name := segment }
  attributeId := 13

namespace OperandCodec

variable (codec : OperandCodec)

def makeLiteralOperand (value : Variant) : ExtensionObject :=
  codec.literalOperand.toExtensionObject { value }

def toWhereClauseElement (operator : UInt32) (nodeId : NodeId) : ContentFilterElement where
  filterOperator := operator
  filterOperands := [codec.makeLiteralOperand (.scalar .nodeId nodeId)]

def toAckedClause (acked : Bool) : ContentFilterElement where
  filterOperator := FilterOperator.equals
  filterOperands :=
    [codec.simpleAttributeOperand.toExtensionObject (toSelectClause [ackedStateName]),
      codec.makeLiteralOperand (.scalar .bool acked)]

def ackedClauses (types : UInt32) : List ContentFilterElement :=
  (if types &&& EventFilter.acked ≠ 0 then [codec.toAckedClause true] else []) ++
    if types &&& EventFilter.unacked ≠ 0 then [codec.toAckedClause false] else []

/-- `ToUaEventFilter`. -/
def toUaEventFilter (fieldPaths : List (List ByteText)) (filter : EventFilter) :
    WireEventFilter where
  selectClauses := fieldPaths.map toSelectClause
  elements :=
    filter.ofType.map (codec.toWhereClauseElement FilterOperator.ofType) ++
      (filter.childOf.map (codec.toWhereClauseElement FilterOperator.relatedTo) ++
        codec.ackedClauses filter.types)

/-- The operands of a filter come back from the wire. -/
structure ReadsBack (filter : EventFilter) : Prop where
  nodeIds : ∀ nodeId ∈ filter.ofType ++ filter.childOf,
    codec.literalOperand.RoundTrips { value := .scalar .nodeId nodeId }
  bools : ∀ acked : Bool, codec.literalOperand.RoundTrips { value := .scalar .bool acked }
  leaf : codec.simpleAttributeOperand.RoundTrips (toSelectClause [ackedStateName])

end OperandCodec

/-- The two bits which are sent. -/
def EventFilter.sent (filter : EventFilter) : EventFilter :=
  { filter with types := filter.types &&& (EventFilter.acked ||| EventFilter.unacked) }

namespace OperandCodec

variable {codec : OperandCodec}

theorem fieldPaths_toUaEventFilter (fieldPaths : List (List ByteText))
    (filter : EventFilter) :
    (codec.toUaEventFilter fieldPaths filter).fieldPaths = fieldPaths := by
  have hclause : ∀ browsePath : List ByteText,
      (toSelectClause browsePath).path = browsePath := by
    intro browsePath
    rw [SimpleAttributeOperand.path, toSelectClause, List.map_map]
    exact List.map_id _
  rw [WireEventFilter.fieldPaths, toUaEventFilter, List.map_map]
  exact (List.map_congr_left fun browsePath _ => hclause browsePath).trans (List.map_id _)

theorem operandNodeId_literal {nodeId : NodeId}
    (h : codec.literalOperand.RoundTrips { value := .scalar .nodeId nodeId }) :
    codec.operandNodeId (codec.makeLiteralOperand (.scalar .nodeId nodeId)) = some nodeId := by
  rw [operandNodeId, makeLiteralOperand, h.fromExtensionObject]
  rfl

theorem operandBool_literal {acked : Bool}
    (h : codec.literalOperand.RoundTrips { value := .scalar .bool acked }) :
    codec.operandBool (codec.makeLiteralOperand (.scalar .bool acked)) = some acked := by
  rw [operandBool, makeLiteralOperand, h.fromExtensionObject]
  rfl

theorem foldl_whereClauseElements {operator : UInt32}
    (add : EventFilter → List NodeId → EventFilter) (hnil : ∀ filter, add filter [] = filter)
    (happend : ∀ filter nodeIds more,
      add (add filter nodeIds) more = add filter (nodeIds ++ more))
    {nodeIds : List NodeId}
    (hadd : ∀ nodeId ∈ nodeIds, ∀ filter,
      codec.addElement filter (codec.toWhereClauseElement operator nodeId) =
        add filter [nodeId]) (filter : EventFilter) :
    (nodeIds.map (codec.toWhereClauseElement operator)).foldl codec.addElement filter =
      add filter nodeIds := by
  induction nodeIds generalizing filter with
  | nil => exact (hnil filter).symm
  | cons nodeId rest ih =>
      rw [List.map_cons, List.foldl_cons, hadd nodeId List.mem_cons_self,
        ih fun other hmem => hadd other (List.mem_cons_of_mem _ hmem), happend,
        List.singleton_append]

theorem foldl_ofType {nodeIds : List NodeId}
    (h : ∀ nodeId ∈ nodeIds,
      codec.literalOperand.RoundTrips { value := .scalar .nodeId nodeId })
    (filter : EventFilter) :
    (nodeIds.map (codec.toWhereClauseElement FilterOperator.ofType)).foldl
        codec.addElement filter =
      { filter with ofType := filter.ofType ++ nodeIds } := by
  refine foldl_whereClauseElements
    (fun filter more => { filter with ofType := filter.ofType ++ more })
    (fun filter => ?_) (fun filter more later => ?_) (fun nodeId hmem filter => ?_) filter
  · rw [List.append_nil]
  · rw [List.append_assoc]
  · change filter.addOfType (codec.operandNodeId (codec.makeLiteralOperand _)) = _
    rw [operandNodeId_literal (h nodeId hmem)]
    rfl

theorem foldl_childOf {nodeIds : List NodeId}
    (h : ∀ nodeId ∈ nodeIds,
      codec.literalOperand.RoundTrips { value := .scalar .nodeId nodeId })
    (filter : EventFilter) :
    (nodeIds.map (codec.toWhereClauseElement FilterOperator.relatedTo)).foldl
        codec.addElement filter =
      { filter with childOf := filter.childOf ++ nodeIds } := by
  refine foldl_whereClauseElements
    (fun filter more => { filter with childOf := filter.childOf ++ more })
    (fun filter => ?_) (fun filter more later => ?_) (fun nodeId hmem filter => ?_) filter
  · rw [List.append_nil]
  · rw [List.append_assoc]
  · change filter.addChildOf (codec.operandNodeId (codec.makeLiteralOperand _)) = _
    rw [operandNodeId_literal (h nodeId hmem)]
    rfl

theorem addElement_ackedClause {filter : EventFilter} (h : codec.ReadsBack filter)
    (start : EventFilter) (acked : Bool) :
    codec.addElement start (codec.toAckedClause acked) = start.addAcked (some acked) := by
  have hleaf : codec.operandLeaf
      (codec.simpleAttributeOperand.toExtensionObject (toSelectClause [ackedStateName])) =
        some ackedStateName := by
    rw [operandLeaf, h.leaf.fromExtensionObject]
    rfl
  change start.addAcked (codec.ackedSelection _ _) = _
  rw [ackedSelection, if_pos hleaf, operandBool_literal (h.bools acked), Option.some_or]

theorem and_bit (types : UInt32) :
    types &&& EventFilter.acked =
        (if types &&& EventFilter.acked ≠ 0 then EventFilter.acked else 0) ∧
      types &&& EventFilter.unacked =
        if types &&& EventFilter.unacked ≠ 0 then EventFilter.unacked else 0 := by
  have hbit : ∀ place, types.toNat &&& 2 ^ place = 0 ∨
      types.toNat &&& 2 ^ place = 2 ^ place := by
    intro place
    rw [Nat.and_two_pow]
    cases types.toNat.testBit place <;> simp
  have hmask : ∀ mask : UInt32, ∀ place, mask.toNat = 2 ^ place →
      types &&& mask = if types &&& mask ≠ 0 then mask else 0 := by
    intro mask place hplace
    split
    next hset =>
      rw [← UInt32.toNat_inj, UInt32.toNat_and, hplace]
      refine (hbit place).resolve_left fun hclear => hset ?_
      rw [← UInt32.toNat_inj, UInt32.toNat_and, hplace, hclear]
      rfl
    next hclear => exact not_not.mp hclear
  exact ⟨hmask _ 0 rfl, hmask _ 1 rfl⟩

theorem foldl_ackedClauses {filter : EventFilter} (h : codec.ReadsBack filter)
    (start : EventFilter) (hstart : start.types = 0) (types : UInt32) :
    (codec.ackedClauses types).foldl codec.addElement start =
      { start with types := types &&& (EventFilter.acked ||| EventFilter.unacked) } := by
  obtain ⟨hacked, hunacked⟩ := and_bit types
  have hbits : types &&& (EventFilter.acked ||| EventFilter.unacked) =
      (types &&& EventFilter.acked) ||| (types &&& EventFilter.unacked) := by
    rw [← UInt32.toNat_inj]
    simp only [UInt32.toNat_and, UInt32.toNat_or, Nat.and_or_distrib_left]
  rw [hbits, hacked, hunacked, ackedClauses]
  obtain ⟨types', ofType, childOf⟩ := start
  obtain rfl : types' = 0 := hstart
  split <;> split <;>
    simp [addElement_ackedClause h, EventFilter.addAcked]

theorem whereClause_toUaEventFilter {filter : EventFilter} (h : codec.ReadsBack filter)
    (fieldPaths : List (List ByteText)) :
    codec.whereClause (codec.toUaEventFilter fieldPaths filter) = filter.sent := by
  rw [whereClause, toUaEventFilter, List.foldl_append, List.foldl_append,
    foldl_ofType fun nodeId hmem => h.nodeIds nodeId (List.mem_append_left _ hmem),
    foldl_childOf fun nodeId hmem => h.nodeIds nodeId (List.mem_append_right _ hmem),
    foldl_ackedClauses h _ rfl]
  rfl

/-! ## The decoder of the history services -/

theorem not_holdsArray_scalar {type held : PlainType} {value : type.Carrier}
    (h : codec.literalOperand.RoundTrips { value := .scalar type value }) :
    ¬codec.HoldsArray held (codec.makeLiteralOperand (.scalar type value)) := by
  rintro ⟨literal, elements, hliteral, hvalue⟩
  rw [makeLiteralOperand, h.fromExtensionObject] at hliteral
  obtain rfl := Option.some.inj hliteral
  cases hvalue

theorem not_holdsArray_attribute (type : PlainType) (operand : SimpleAttributeOperand) :
    ¬codec.HoldsArray type (codec.simpleAttributeOperand.toExtensionObject operand) := by
  rintro ⟨literal, elements, hliteral, -⟩
  have hother : codec.literalOperand.fromExtensionObject
      (codec.simpleAttributeOperand.toExtensionObject operand) = none :=
    WireType.fromExtensionObject_other (by decide : (603 : UInt32) ≠ 597) operand
  rw [hother] at hliteral
  cases hliteral

theorem plain_toUaEventFilter {filter : EventFilter} (h : codec.ReadsBack filter)
    (fieldPaths : List (List ByteText)) :
    ∀ element ∈ (codec.toUaEventFilter fieldPaths filter).elements,
      (∀ operand ∈ element.filterOperands, ∃ body, operand.value = .binary body) ∧
        ¬codec.Trips element := by
  have hid : ∀ operator, ∀ nodeId ∈ filter.ofType ++ filter.childOf,
      (∀ operand ∈ (codec.toWhereClauseElement operator nodeId).filterOperands,
        ∃ body, operand.value = .binary body) ∧
          ¬codec.Trips (codec.toWhereClauseElement operator nodeId) := by
    intro operator nodeId hmem
    refine ⟨List.forall_mem_singleton.mpr ⟨_, rfl⟩, ?_⟩
    rintro ⟨-, harray⟩
    exact not_holdsArray_scalar (h.nodeIds nodeId hmem) harray
  have hacked : ∀ acked, (∀ operand ∈ (codec.toAckedClause acked).filterOperands,
      ∃ body, operand.value = .binary body) ∧ ¬codec.Trips (codec.toAckedClause acked) := by
    intro acked
    refine ⟨List.forall_mem_cons.mpr ⟨⟨_, rfl⟩, List.forall_mem_singleton.mpr ⟨_, rfl⟩⟩, ?_⟩
    rintro ⟨-, ⟨-, harray⟩ | ⟨-, harray⟩⟩
    · exact not_holdsArray_scalar (h.bools acked) harray
    · exact not_holdsArray_attribute .bool _ harray
  intro element helement
  rw [toUaEventFilter, List.mem_append, List.mem_append, List.mem_map, List.mem_map,
    ackedClauses, List.mem_append] at helement
  obtain ⟨nodeId, hmem, rfl⟩ | ⟨nodeId, hmem, rfl⟩ | hbit | hbit := helement
  · exact hid _ nodeId (List.mem_append_left _ hmem)
  · exact hid _ nodeId (List.mem_append_right _ hmem)
  · split at hbit
    · obtain rfl := List.mem_singleton.mp hbit
      exact hacked true
    · cases hbit
  · split at hbit
    · obtain rfl := List.mem_singleton.mp hbit
      exact hacked false
    · cases hbit

theorem toManagedEventFilter_toUaEventFilter {filter : EventFilter}
    (h : codec.ReadsBack filter) (fieldPaths : List (List ByteText)) :
    codec.toManagedEventFilter (codec.toUaEventFilter fieldPaths filter) =
      .ok (fieldPaths, filter.sent) := by
  have hplain := plain_toUaEventFilter h fieldPaths
  have hfound : (codec.toUaEventFilter fieldPaths filter).elements.foldlM
      codec.addManagedElement {} = .ok filter.sent :=
    (foldlM_addManagedElement (fun element hmem => (hplain element hmem).1)
      (fun element hmem => (hplain element hmem).2) {}).trans
        (congrArg Except.ok (whereClause_toUaEventFilter h fieldPaths))
  rw [toManagedEventFilter, hfound, fieldPaths_toUaEventFilter]
  rfl

end OperandCodec

end OpcuaStack
