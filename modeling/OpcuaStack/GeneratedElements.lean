import OpcuaStack.DecodedElements
import OpcuaStack.GeneratedCodec

/-!
# How much a generated type decodes to

`DecodeArray` rejects a count which exceeds the bytes left, since "every element occupies
at least one byte".  Where that is true of the elements of each array, the guards add up,
whatever the types are made of: a value has no more elements than it took bytes.
-/

namespace OpcuaStack

open Binary Binary.Bounded

def builtInElements : (type : BuiltInType) → type.Carrier → ℕ
  | .plain _, _ => 0
  | .dataValue, value => (dataValueElements value).written
  | .variant, value => (variantElements value).written

mutual

/-- The elements of all arrays, with those inside Variants which take bytes. -/
def TypeLayout.elements : (type : TypeLayout) → type.Carrier → ℕ
  | .builtIn type, value => builtInElements type value
  | .enumeration _, _ => 0
  | .structure fields, value => fields.elements value

def FieldLayouts.elements : (fields : FieldLayouts) → fields.Carrier → ℕ
  | .nil, _ => 0
  | .single _ type rest, value => type.elements value.1 + rest.elements value.2
  | .array _ type rest, value =>
      value.1.length + (value.1.map type.elements).sum + rest.elements value.2

end

mutual

/-- Every element of an array inside the type takes a byte. -/
def TypeLayout.guarded : TypeLayout → Bool
  | .builtIn _ => true
  | .enumeration _ => true
  | .structure fields => fields.guarded

def FieldLayouts.guarded : FieldLayouts → Bool
  | .nil => true
  | .single _ type rest => type.guarded && rest.guarded
  | .array _ type rest => type.tangible && type.guarded && rest.guarded

end

variable {forms : Representations}

/-! ## Built-in types -/

theorem spends_of_watches {α β : Type} {view : α → β} {cost : β → ℕ} {s : Bounded.Decoder α}
    {watcher : Bounded.Decoder β} (h : Scanner.Watches view s watcher)
    (hcost : Scanner.Spends cost watcher) :
    Scanner.Spends (fun value => cost (view value)) s :=
  fun w value next hvalue => hcost w (view value) next (h w value next hvalue)

theorem spends_nesting (nesting : Nesting) :
    Scanner.Spends (fun value => cost nesting (elementsSeen nesting value))
      (Scanners.nested (body forms) nesting) :=
  spends_of_watches
    (Scanners.watches_nested (fun _ _ h => watches_body forms h) nesting)
    (Scanners.spends_nested (fun _ h => spends_body forms h) nesting)

theorem spends_plain {type : PlainType} (htype : type ≠ .empty) :
    Scanner.Spends (fun _ => 1)
      (decodeElement forms (Scanners.nested (body forms)) type) := by
  have hwatches := watches_element forms
    (fun nesting => Scanners.watches_nested (fun _ _ h => watches_body forms h) nesting) type
  have hspends := spends_element forms
    (fun nesting => Scanners.spends_nested (fun _ h => spends_body forms h) nesting) htype
  exact (spends_of_watches hwatches hspends).mono fun _ => le_rfl

def byteOf (tangible : Bool) : ℕ := if tangible then 1 else 0

theorem spends_builtIn (type : BuiltInType) :
    Scanner.Spends (fun value => builtInElements type value +
      byteOf (type != .plain .empty)) (decodeBuiltIn forms type) := by
  cases type with
  | plain type =>
      by_cases hempty : type = .empty
      · subst hempty
        exact Scanner.Spends.pure rfl
      · apply (spends_plain hempty).mono
        simp [builtInElements, byteOf, hempty]
  | dataValue => exact spends_nesting .dataValue
  | variant => exact spends_nesting .variant

/-! ## All types -/

theorem spends_arrayWith {α : Type} {element : Bounded.Decoder α} {inner : α → ℕ}
    (h : Scanner.Spends (fun value => inner value + 1) element) :
    Scanner.Spends (fun values => values.length + (values.map inner).sum + 1)
      (WireType.decodeArray element) := by
  have hcount : Scanner.Spends (fun _ => 1) decodeInt32 :=
    spends_first (spends_number (by norm_num) (by norm_num) _) fun _ =>
      Scanner.orderly_pure _
  apply hcount.bind
  intro count
  by_cases hnull : count ≤ 0
  · rw [if_pos hnull]
    exact Scanner.Spends.pure rfl
  rw [if_neg hnull]
  apply Scanner.Spends.bind_free Scanner.orderly_size
  intro left
  apply (Scanner.Spends.refuse _).ite
  apply (h.repeated count.toNatClampNeg).mono
  intro values
  rw [List.sum_map_add]
  simp [Nat.add_comm]

theorem byteOf_or (first second : Bool) :
    byteOf (first || second) ≤ byteOf first + byteOf second := by
  cases first <;> cases second <;> simp [byteOf]

mutual

theorem TypeLayout.spends : (type : TypeLayout) → type.guarded →
    Scanner.Spends (fun value => type.elements value + byteOf type.tangible)
      (type.decode forms)
  | .builtIn type, _ => spends_builtIn type
  | .enumeration underlying, _ => by
      have htype : underlying.plain ≠ .empty := by
        cases underlying <;> simp [TypeGenerator.Underlying.plain]
      apply (spends_plain htype).mono
      simp [TypeLayout.elements, TypeLayout.tangible, byteOf]
  | .structure fields, hguarded => fields.spends hguarded

theorem FieldLayouts.spends : (fields : FieldLayouts) → fields.guarded →
    Scanner.Spends (fun value => fields.elements value + byteOf fields.tangible)
      (fields.decode forms)
  | .nil, _ => Scanner.Spends.pure rfl
  | .single name type rest, hguarded => by
      obtain ⟨htype, hrest⟩ := (Bool.and_eq_true _ _).mp hguarded
      apply (type.spends htype).bind
      intro value
      apply (rest.spends hrest).bind
      intro others
      apply Scanner.Spends.pure
      have hbyte := byteOf_or type.tangible rest.tangible
      simp only [FieldLayouts.elements, FieldLayouts.tangible]
      omega
  | .array name type rest, hguarded => by
      simp only [FieldLayouts.guarded, Bool.and_eq_true] at hguarded
      obtain ⟨⟨htangible, htype⟩, hrest⟩ := hguarded
      have helement := type.spends htype
      rw [htangible, byteOf, if_pos rfl] at helement
      apply (spends_arrayWith helement).bind
      intro values
      apply (rest.spends hrest).bind
      intro others
      apply Scanner.Spends.pure
      simp only [FieldLayouts.elements, FieldLayouts.tangible, byteOf, if_true]
      omega

end

/-- Whatever bytes arrive, a decoded value has no more elements than they are. -/
theorem TypeLayout.elements_le {type : TypeLayout} (hguarded : type.guarded)
    {body : ByteString} {value : type.Carrier}
    (h : WireType.decodeBody (type.decode forms) body = some value) :
    type.elements value ≤ body.length := by
  by_cases hfits : body.length < 2 ^ 63
  · rw [WireType.decodeBody, dif_pos hfits] at h
    cases hdecode : type.decode forms (.opening body hfits) with
    | value decoded next =>
        rw [hdecode] at h
        have hspent := type.spends hguarded _ decoded next hdecode
        rw [Option.ite_none_right_eq_some] at h
        obtain rfl : decoded = value := by simpa using h.2
        have hopen : (Window.opening body hfits).left = body.length := rfl
        dsimp only at hspent
        omega
    | _ => simp [hdecode] at h
  · rw [WireType.decodeBody, dif_neg hfits] at h
    cases h

/-- An array of two enumeration values in twelve bytes. -/
def filterOperators : TypeLayout :=
  .structure (.array "FilterOperators" (.enumeration .int32) .nil)

theorem filterOperators_elements :
    filterOperators.elements ([(0 : Int32), (1 : Int32)], ()) ≤
      ([2, 0, 0, 0, 0, 0, 0, 0, 1, 0, 0, 0] : ByteString).length :=
  @TypeLayout.elements_le sampleForms filterOperators rfl _ _ (by rfl)

end OpcuaStack
