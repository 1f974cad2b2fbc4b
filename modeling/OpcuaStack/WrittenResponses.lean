import OpcuaStack.JsonMessages

/-!
# Which responses are written as JSON

`EncodeVariantPayload` takes one shared pointer from a Variant which holds an array of
DataValues or of Variants, and throws.  Nothing else in a message throws once its
bodies are written as JSON.
-/

namespace OpcuaStack

open Binary Json StandardTypes

section Exceptions

variable {ε α β γ : Type}

theorem exists_ok_iff (x : Except ε α) : (∃ value, x = .ok value) ↔ x.toBool := by
  cases x <;> simp [Except.toBool]

theorem toBool_map (x : Except ε α) (f : α → β) : (f <$> x).toBool = x.toBool := by
  cases x <;> rfl

theorem toBool_both (x : Except ε α) (y : Except ε β) (f : α → β → γ) :
    (x >>= fun a => y >>= fun b => pure (f a b)).toBool = (x.toBool && y.toBool) := by
  cases x <;> cases y <;> rfl

theorem toBool_mapM (step : α → Except ε β) (values : List α) :
    (values.mapM step).toBool = values.all fun value => (step value).toBool := by
  induction values with
  | nil => rfl
  | cons value rest ih =>
      rw [List.mapM_cons, toBool_both, ih, List.all_cons]

end Exceptions

/-! ## Variants -/

namespace Json

variable (texts : Texts)

/-- An array of DataValues or of Variants, at any depth. -/
def holdsPointerArray : Variant → Bool
  | .scalar _ _ | .array _ _ | .dataValue none | .variant none => false
  | .dataValue (some ⟨value, _, _, _, _⟩) => holdsPointerArray value
  | .variant (some value) => holdsPointerArray value
  | .dataValueArray _ | .variantArray _ => true

theorem holdsPointerArray_of_null {value : Variant} (hnull : variantIsNull value) :
    holdsPointerArray value = false := by
  obtain rfl | ⟨elements, rfl⟩ := eq_of_variantIsNull hnull <;> rfl

theorem toBool_variantObject {value : Variant} {payload : Except Thrown JsonValue}
    (h : payload.toBool = !holdsPointerArray value) :
    (variantObject value payload).toBool = !holdsPointerArray value := by
  cases hscalar : isNullScalar value with
  | true =>
      rw [eq_null_of_isNullScalar hscalar]
      rfl
  | false =>
      cases payload with
      | error thrown =>
          rw [variantObject_error hscalar]
          exact h
      | ok payload =>
          rw [variantObject_eq hscalar]
          exact h

theorem toBool_dataValueObject {value : DataValue} {payload : Except Thrown JsonValue}
    (h : payload.toBool = !holdsPointerArray value.value) :
    (dataValueObject texts value payload).toBool = !holdsPointerArray value.value := by
  cases hnull : variantIsNull value.value with
  | true =>
      rw [dataValueObject_of_null texts hnull, holdsPointerArray_of_null hnull]
      rfl
  | false =>
      cases payload with
      | error thrown =>
          rw [dataValueObject_error texts hnull]
          exact h
      | ok payload =>
          rw [dataValueObject_of_payload texts hnull]
          exact h

theorem toBool_encodeVariantPayload : (value : Variant) →
    (encodeVariantPayload texts value).toBool = !holdsPointerArray value
  | .scalar _ _ => rfl
  | .array type _ => by cases type <;> rfl
  | .dataValue none => rfl
  | .dataValue (some ⟨value, _, _, _, _⟩) =>
      toBool_dataValueObject texts (toBool_encodeVariantPayload value)
  | .variant none => rfl
  | .variant (some value) => toBool_variantObject (toBool_encodeVariantPayload value)
  | .dataValueArray _ => rfl
  | .variantArray _ => rfl

end Json

/-! ## Generated types -/

section Layouts

variable (texts : Texts)

mutual

/-- No Variant of the value holds an array of DataValues or of Variants. -/
def TypeLayout.writable : (type : TypeLayout) → type.Carrier → Bool
  | .builtIn .dataValue, (value : DataValue) => !holdsPointerArray value.value
  | .builtIn .variant, (value : Variant) => !holdsPointerArray value
  | .builtIn (.plain _), _ => true
  | .enumeration _, _ => true
  | .structure fields, value => fields.writable value

def FieldLayouts.writable : (fields : FieldLayouts) → fields.Carrier → Bool
  | .nil, _ => true
  | .single _ type rest, value => type.writable value.1 && rest.writable value.2
  | .array _ type rest, value => value.1.all type.writable && rest.writable value.2

end

theorem writable_of_omits {type : TypeLayout} {value : type.Carrier}
    (h : type.omits value) : type.writable value := by
  match type, value with
  | .builtIn (.plain _), _ => rfl
  | .builtIn .dataValue, (value : DataValue) =>
      have hnull : variantIsNull value.value := by
        simp only [TypeLayout.omits, isDefaultBuiltIn, dataValueIsDefault,
          Bool.and_eq_true] at h
        exact h.1.1.1.1
      rw [TypeLayout.writable, holdsPointerArray_of_null hnull]
      rfl
  | .builtIn .variant, (value : Variant) =>
      rw [eq_null_of_isNullScalar h]
      rfl

theorem toBool_encodeJsonMember (name : String) (omitted : Bool)
    (json : Except Thrown JsonValue) :
    (encodeJsonMember name omitted json).toBool = (omitted || json.toBool) := by
  cases omitted <;> cases json <;> rfl

mutual

theorem TypeLayout.toBool_encodeJson : (type : TypeLayout) → (value : type.Carrier) →
    (type.encodeJson texts value).toBool = type.writable value
  | .builtIn (.plain _), _ => rfl
  | .builtIn .dataValue, (value : DataValue) =>
      toBool_dataValueObject texts (toBool_encodeVariantPayload texts value.value)
  | .builtIn .variant, (value : Variant) =>
      toBool_variantObject (toBool_encodeVariantPayload texts value)
  | .enumeration _, _ => rfl
  | .structure fields, value => by
      rw [TypeLayout.encodeJson, toBool_map, fields.toBool_encodeJson value]
      rfl

theorem FieldLayouts.toBool_encodeJson : (fields : FieldLayouts) →
    (value : fields.Carrier) → (fields.encodeJson texts value).toBool = fields.writable value
  | .nil, _ => rfl
  | .single _ type rest, value => by
      rw [FieldLayouts.encodeJson, toBool_both, toBool_encodeJsonMember,
        type.toBool_encodeJson value.1, rest.toBool_encodeJson value.2,
        Bool.or_eq_right_iff_imp.mpr fun homits => writable_of_omits homits]
      rfl
  | .array _ type rest, value => by
      have hempty : value.1.isEmpty → value.1.all type.writable := by
        intro h
        rw [List.isEmpty_iff.mp h]
        rfl
      rw [FieldLayouts.encodeJson, toBool_both, toBool_encodeJsonMember, encodeJsonArray,
        toBool_map, toBool_mapM, funext (type.toBool_encodeJson), rest.toBool_encodeJson value.2,
        Bool.or_eq_right_iff_imp.mpr hempty]
      rfl

end

end Layouts

/-! ## Messages -/

namespace JsonMessages

variable {forms : Binary.Representations} {texts : Texts} {service : GeneratedService}

theorem holdsPointerArray_withJsonBodies {types : List GeneratedType} {value other : Variant}
    (h : withJsonBodies forms texts types value = .ok other) :
    holdsPointerArray other = holdsPointerArray value := by
  unfold withJsonBodies at h
  split at h
  · next object =>
    cases htranscoded : transcodeAnyToJson forms texts types object with
    | error thrown =>
        rw [htranscoded] at h
        cases h
    | ok transcoded =>
        rw [htranscoded] at h
        cases transcoded <;> cases h <;> rfl
  · next objects =>
    cases htranscoded : objects.mapM (transcodeAnyToJson forms texts types) with
    | error thrown =>
        rw [htranscoded] at h
        cases h
    | ok transcoded =>
        rw [htranscoded] at h
        change (if _ then pure _ else pure _) = _ at h
        split at h <;> cases h <;> rfl
  · rw [Except.ok.inj h]

theorem writable_readResults {results sent : List DataValue}
    (h : readResultsWithJsonBodies forms texts results = .ok sent) :
    (sent.all fun result => !holdsPointerArray result.value) =
      results.all fun result => !holdsPointerArray result.value := by
  have hsame : List.Forall₂ (fun (result other : DataValue) =>
      holdsPointerArray other.value = holdsPointerArray result.value) results sent := by
    refine forall₂_of_mapM h fun result _ other hother => ?_
    cases hvalue : withJsonBodies forms texts knownTypes result.value with
    | error thrown =>
        rw [hvalue] at hother
        cases hother
    | ok value =>
        rw [hvalue] at hother
        cases hother
        exact holdsPointerArray_withJsonBodies hvalue
  clear h
  induction hsame with
  | nil => rfl
  | cons hfirst _ ih => rw [List.all_cons, List.all_cons, hfirst, ih]

theorem writable_responseHeader (header : responseHeader.Carrier) :
    responseHeader.writable header := by
  simp [responseHeader, dateTimeField, uint32Field, stringsField, extensionObjectField,
    TypeLayout.writable, FieldLayouts.writable]

theorem writable_historyRead (fields : GeneratedService.historyRead.responseFields.Carrier) :
    GeneratedService.historyRead.responseFields.writable fields := by
  refine (Bool.and_eq_true _ _).mpr ⟨List.all_eq_true.mpr fun _ _ => rfl, ?_⟩
  exact (Bool.and_eq_true _ _).mpr ⟨List.all_eq_true.mpr fun _ _ => rfl, rfl⟩

theorem writable_readResponse {fields sent : GeneratedService.read.responseFields.Carrier}
    (h : responseWithJsonBodies forms texts .read fields = .ok sent) :
    GeneratedService.read.responseFields.writable sent =
      GeneratedService.read.responseFields.writable fields := by
  change (fun results => (results, fields.2)) <$>
    readResultsWithJsonBodies forms texts fields.1 = Except.ok sent at h
  cases hresults : readResultsWithJsonBodies forms texts fields.1 with
  | error thrown =>
      rw [hresults] at h
      cases h
  | ok results =>
      rw [hresults] at h
      obtain rfl := Except.ok.inj h
      exact congrArg (· && _) (writable_readResults hresults)

theorem writable_responseWithJsonBodies {fields sent : service.responseFields.Carrier}
    (h : responseWithJsonBodies forms texts service fields = .ok sent) :
    service.responseFields.writable sent = service.responseFields.writable fields := by
  cases service with
  | read => exact writable_readResponse h
  | historyRead => rw [writable_historyRead, writable_historyRead]
  | _ => rw [Except.ok.inj h]

/-- A response is not written exactly if its service is exposed, and one of its bodies
cannot be written as JSON or one of its Variants holds an array of pointers. -/
theorem response_written_iff (requestHandle : UInt32) (header : responseHeader.Carrier)
    (fields : service.responseFields.Carrier) :
    (∃ json, encodeResponseMessage forms texts requestHandle service header fields = .ok json) ↔
      (service.exposed → (∃ sent, responseWithJsonBodies forms texts service fields = .ok sent) ∧
        service.responseFields.writable fields) := by
  unfold encodeResponseMessage encodeEnvelope
  cases hexposed : service.exposed with
  | false => simp
  | true =>
      rw [if_pos rfl, exists_ok_iff, toBool_map]
      cases hsent : responseWithJsonBodies forms texts service fields with
      | error thrown => simp [bind, Except.bind, Except.toBool]
      | ok sent =>
          have hjson : (service.response.encodeJson texts (header, sent)).toBool =
              (responseHeader.writable header && service.responseFields.writable sent) :=
            service.response.toBool_encodeJson texts (header, sent)
          rw [writable_responseHeader, writable_responseWithJsonBodies hsent] at hjson
          refine (iff_of_eq (congrArg (· = true) hjson)).trans ?_
          simp

def nestedOutput : GeneratedService.call.responseFields.Carrier :=
  ([(.good, [], [], [.variantArray [.null]], ())], [], ())

theorem nestedOutput_not_written :
    ¬∃ json, encodeResponseMessage Bounded.sampleForms standardTexts 7 .call
      (makeResponseHeader 7 .good) nestedOutput = .ok json := by
  intro hwritten
  have hwritable := ((response_written_iff 7 _ nestedOutput).mp hwritten rfl).2
  exact absurd hwritable (by decide)

end JsonMessages
end OpcuaStack
