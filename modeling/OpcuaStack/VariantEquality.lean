import OpcuaStack.VariantCodec

/-!
# Equality of variants

`operator==` of `types/variant.h` and of the values which a variant holds.  What a
variant shares is compared by its address, whatever is there.  As soon as one side holds
doubles, both are read as numbers, which a tolerance tells apart.
-/

namespace OpcuaStack

/-! ## What is compared -/

/-- A variant in memory.  A shared value is the address of an object, or null. -/
inductive HeldVariant where
  | scalar (type : PlainType) (value : type.Carrier)
  | dataValue (pointer : Option ℕ)
  | variant (pointer : Option ℕ)
  | array (type : PlainType) (elements : List type.Carrier)
  | dataValueArray (pointers : List (Option ℕ))
  | variantArray (elements : List HeldVariant)

/-- Bodies which are not bytes are not compared, and are never equal. -/
def ExtensionObject.equal (object other : ExtensionObject) : Bool :=
  object.dataTypeId == other.dataTypeId &&
    match object.value, other.value with
    | .empty, .empty => true
    | .binary body, .binary otherBody => body == otherBody
    | _, _ => false

/-- The inner one is followed; one which both share equals itself that way too. -/
def DiagnosticInfo.equal : DiagnosticInfo → DiagnosticInfo → Bool
  | .mk symbolicId namespaceUri locale localizedText additionalInfo innerStatusCode inner,
    .mk otherId otherUri otherLocale otherText otherInfo otherStatus otherInner =>
      symbolicId == otherId && namespaceUri == otherUri && locale == otherLocale &&
        localizedText == otherText && additionalInfo == otherInfo &&
        innerStatusCode == otherStatus &&
        match inner, otherInner with
        | none, none => true
        | some value, some otherValue => value.equal otherValue
        | _, _ => false

/-- `operator==` of the held types. -/
def PlainType.equal : (type : PlainType) → type.Carrier → type.Carrier → Bool
  | .empty, _, _ => true
  | .bool, (value : Bool), (other : Bool) => value == other
  | .int8, (value : Int8), (other : Int8) => value == other
  | .uint8, (value : UInt8), (other : UInt8) => value == other
  | .int16, (value : Int16), (other : Int16) => value == other
  | .uint16, (value : UInt16), (other : UInt16) => value == other
  | .int32, (value : Int32), (other : Int32) => value == other
  | .uint32, (value : UInt32), (other : UInt32) => value == other
  | .int64, (value : Int64), (other : Int64) => value == other
  | .uint64, (value : UInt64), (other : UInt64) => value == other
  | .float, (value : Double), (other : Double) => value == other
  | .double, (value : Double), (other : Double) => value == other
  | .string, (value : ByteText), (other : ByteText) => value == other
  | .dateTime, (value : DateTime), (other : DateTime) => value == other
  | .guid, (value : Guid), (other : Guid) => value == other
  | .byteString, (value : ByteString), (other : ByteString) => value == other
  | .xmlElement, (value : ByteText), (other : ByteText) => value == other
  | .nodeId, (value : NodeId), (other : NodeId) => value == other
  | .expandedNodeId, (value : ExpandedNodeId), (other : ExpandedNodeId) => value == other
  | .statusCode, (value : Status), (other : Status) => value == other
  | .qualifiedName, (value : QualifiedName), (other : QualifiedName) => value == other
  | .localizedText, (value : LocalizedText), (other : LocalizedText) => value == other
  | .extensionObject, (value : ExtensionObject), (other : ExtensionObject) =>
      value.equal other
  | .diagnosticInfo, (value : DiagnosticInfo), (other : DiagnosticInfo) =>
      value.equal other

/-- `std::numeric_limits<double>::epsilon()`. -/
def doubleEpsilon : Double := 1 / 2 ^ 52

namespace HeldVariant

/-- `type()`; an array has the type of its elements. -/
def type : HeldVariant → Binary.BuiltInType
  | .scalar type _ | .array type _ => .plain type
  | .dataValue _ | .dataValueArray _ => .dataValue
  | .variant _ | .variantArray _ => .variant

/-- `get` of a double. -/
def getDouble : HeldVariant → Option Double
  | .scalar type value => (Variant.scalar type value).getDouble
  | _ => none

def near : Option Double → Option Double → Bool
  | some number, some other => decide (|number - other| < doubleEpsilon)
  | _, _ => false

mutual

/-- `operator==`. -/
def equal (value other : HeldVariant) : Bool :=
  if value.type = .plain .double ∨ other.type = .plain .double then
    near value.getDouble other.getDouble
  else
    -- `std::variant` compares the index, and then what is held under it.
    match value, other with
    | .scalar type held, .scalar otherType otherHeld =>
        if h : otherType = type then type.equal held (h ▸ otherHeld) else false
    | .dataValue pointer, .dataValue otherPointer => pointer == otherPointer
    | .variant pointer, .variant otherPointer => pointer == otherPointer
    | .array type elements, .array otherType others =>
        if h : otherType = type then elements.isEqv (h ▸ others) type.equal else false
    | .dataValueArray pointers, .dataValueArray otherPointers => pointers == otherPointers
    | .variantArray elements, .variantArray others => equalElements elements others
    | _, _ => false

def equalElements : List HeldVariant → List HeldVariant → Bool
  | [], [] => true
  | value :: values, other :: others => value.equal other && equalElements values others
  | _, _ => false

end

end HeldVariant

/-! ## The held types -/

/-- A body which is neither absent nor bytes. -/
def ExtensionObject.hasForeignBody (object : ExtensionObject) : Bool :=
  match object.value with
  | .json _ => true
  | .empty | .binary _ => false

theorem ExtensionObject.equal_iff {object : ExtensionObject} (h : object.hasForeignBody = false)
    (other : ExtensionObject) : object.equal other = true ↔ object = other := by
  obtain ⟨dataTypeId, value⟩ := object
  obtain ⟨otherId, otherValue⟩ := other
  unfold equal
  rw [Bool.and_eq_true, beq_iff_eq, mk.injEq]
  refine and_congr_right fun _ => ?_
  cases value with
  | empty => cases otherValue <;> simp
  | binary body => cases otherValue <;> simp
  | json value => cases h

theorem ExtensionObject.equal_comm (object other : ExtensionObject) :
    object.equal other = other.equal object := by
  unfold equal
  rw [BEq.comm]
  cases object.value <;> cases other.value <;> simp [BEq.comm]

theorem DiagnosticInfo.equal_iff (info other : DiagnosticInfo) :
    info.equal other = true ↔ info = other := by
  match info, other with
  | .mk _ _ _ _ _ _ inner, .mk _ _ _ _ _ _ otherInner =>
      unfold equal
      rw [mk.injEq]
      simp only [Bool.and_eq_true, beq_iff_eq, and_assoc]
      refine and_congr_right fun _ => and_congr_right fun _ => and_congr_right fun _ =>
        and_congr_right fun _ => and_congr_right fun _ => and_congr_right fun _ => ?_
      match inner, otherInner with
      | none, none => simp
      | none, some _ => simp
      | some _, none => simp
      | some value, some otherValue =>
          rw [Option.some.injEq]
          exact equal_iff value otherValue

theorem DiagnosticInfo.equal_comm (info other : DiagnosticInfo) :
    info.equal other = other.equal info :=
  Bool.eq_iff_iff.mpr (by rw [equal_iff, equal_iff, eq_comm])

/-- Of an integer, a Boolean or a double, as which it is compared with doubles. -/
def PlainType.readsAsDouble : PlainType → Bool
  | .bool | .int8 | .uint8 | .int16 | .uint16 | .int32 | .uint32 | .int64 | .uint64
  | .double => true
  | _ => false

def PlainType.hasForeignBody : (type : PlainType) → type.Carrier → Bool
  | .extensionObject, (value : ExtensionObject) => value.hasForeignBody
  | _, _ => false

theorem PlainType.equal_iff {type : PlainType} {value : type.Carrier}
    (h : type.hasForeignBody value = false) (other : type.Carrier) :
    type.equal value other = true ↔ value = other := by
  cases type with
  | empty => exact iff_of_true rfl rfl
  | extensionObject => exact ExtensionObject.equal_iff h other
  | diagnosticInfo => exact DiagnosticInfo.equal_iff value other
  | _ => exact beq_iff_eq

theorem PlainType.equal_comm (type : PlainType) (value other : type.Carrier) :
    type.equal value other = type.equal other value := by
  cases type with
  | empty => rfl
  | extensionObject => exact ExtensionObject.equal_comm value other
  | diagnosticInfo => exact DiagnosticInfo.equal_comm value other
  | _ => exact BEq.comm

theorem isEqv_iff {α : Type} {test : α → α → Bool} {elements : List α}
    (h : ∀ element ∈ elements, ∀ other, test element other = true ↔ element = other)
    (others : List α) : elements.isEqv others test = true ↔ elements = others := by
  induction elements generalizing others with
  | nil => cases others <;> simp
  | cons element elements ih =>
      cases others with
      | nil => simp
      | cons other others =>
          rw [List.isEqv, Bool.and_eq_true, List.cons.injEq,
            h element List.mem_cons_self other,
            ih (fun element hmem => h element (List.mem_cons_of_mem _ hmem)) others]

theorem isEqv_comm {α : Type} {test : α → α → Bool}
    (h : ∀ element other, test element other = test other element) (elements others : List α) :
    elements.isEqv others test = others.isEqv elements test := by
  induction elements generalizing others with
  | nil => cases others <;> rfl
  | cons element elements ih =>
      cases others with
      | nil => rfl
      | cons other others => rw [List.isEqv, List.isEqv, h, ih]

namespace HeldVariant

/-! ## The parts of a variant -/

mutual

/-- A part is the variant itself, or within the elements of an array of variants.  What is
behind a pointer is no part. -/
def anyPart (part : HeldVariant → Bool) : HeldVariant → Bool
  | .variantArray elements => anyPartOf part elements
  | value => part value

def anyPartOf (part : HeldVariant → Bool) : List HeldVariant → Bool
  | [] => false
  | value :: values => anyPart part value || anyPartOf part values

end

/-- A number which is compared with doubles. -/
def isNumber : HeldVariant → Bool
  | .scalar type _ => type.readsAsDouble
  | _ => false

def isDouble : HeldVariant → Bool
  | .scalar type _ => type == .double
  | _ => false

def isDoubleArray : HeldVariant → Bool
  | .array type _ => type == .double
  | _ => false

def isForeignBody : HeldVariant → Bool
  | .scalar type value => type.hasForeignBody value
  | .array type elements => elements.any type.hasForeignBody
  | _ => false

/-- Of the variants which are asked about: bodies of extension objects, if any, are
bytes. -/
def IsComparable (value : HeldVariant) : Prop := value.anyPart isForeignBody = false

theorem getDouble_isSome (type : PlainType) (value : type.Carrier) :
    (HeldVariant.scalar type value).getDouble.isSome = type.readsAsDouble := by
  cases type <;> rfl

theorem near_comm (number other : Option Double) : near number other = near other number := by
  cases number with
  | none => cases other <;> rfl
  | some number =>
      cases other with
      | none => rfl
      | some other =>
          have hdistance : |number - other| = |other - number| := abs_sub_comm number other
          exact congrArg (fun distance : Double => decide (distance < doubleEpsilon)) hdistance

mutual

theorem equal_comm (value other : HeldVariant) : value.equal other = other.equal value := by
  unfold equal
  refine if_congr or_comm (near_comm _ _) ?_
  cases value with
  | scalar type held =>
      cases other with
      | scalar otherType otherHeld =>
          dsimp only
          by_cases h : otherType = type
          · subst h
            rw [dif_pos rfl, dif_pos rfl]
            exact PlainType.equal_comm _ held otherHeld
          · rw [dif_neg h, dif_neg (Ne.symm h)]
      | _ => rfl
  | dataValue pointer =>
      cases other with
      | dataValue otherPointer => exact BEq.comm
      | _ => rfl
  | variant pointer =>
      cases other with
      | variant otherPointer => exact BEq.comm
      | _ => rfl
  | array type elements =>
      cases other with
      | array otherType others =>
          dsimp only
          by_cases h : otherType = type
          · subst h
            rw [dif_pos rfl, dif_pos rfl]
            exact isEqv_comm (PlainType.equal_comm _) elements others
          · rw [dif_neg h, dif_neg (Ne.symm h)]
      | _ => rfl
  | dataValueArray pointers =>
      cases other with
      | dataValueArray otherPointers => exact BEq.comm
      | _ => rfl
  | variantArray elements =>
      cases other with
      | variantArray others => exact equalElements_comm elements others
      | _ => rfl

theorem equalElements_comm (values others : List HeldVariant) :
    equalElements values others = equalElements others values := by
  match values, others with
  | [], [] => rfl
  | [], _ :: _ => rfl
  | _ :: _, [] => rfl
  | value :: values, other :: others =>
      unfold equalElements
      rw [equal_comm value other, equalElements_comm values others]

end

theorem anyPartOf_eq_false {part : HeldVariant → Bool} {values : List HeldVariant} :
    anyPartOf part values = false ↔ ∀ value ∈ values, anyPart part value = false := by
  induction values with
  | nil => exact iff_of_true rfl fun _ hmem => absurd hmem List.not_mem_nil
  | cons value values ih => rw [anyPartOf, Bool.or_eq_false_iff, ih, List.forall_mem_cons]

/-! ## Where equality is identity -/

/-- One side holds no number, or neither holds a double. -/
def ComparesExactly (value other : HeldVariant) : Prop :=
  value.anyPart isNumber = false ∨ other.anyPart isNumber = false ∨
    value.anyPart isDouble = false ∧ other.anyPart isDouble = false

theorem isNumber_of_getDouble {value : HeldVariant} (h : value.getDouble.isSome) :
    value.anyPart isNumber = true ∧
      (value.type = .plain .double → value.anyPart isDouble = true) := by
  cases value with
  | scalar type held =>
      refine ⟨(getDouble_isSome type held).symm.trans h, ?_⟩
      rintro ⟨⟩
      rfl
  | _ => cases h

theorem near_eq_true {number other : Option Double} (h : near number other = true) :
    number.isSome ∧ other.isSome := by
  cases number with
  | none => cases h
  | some number =>
      cases other with
      | none => cases h
      | some other => exact ⟨rfl, rfl⟩

theorem not_near_of_comparesExactly {value other : HeldVariant}
    (hexact : value.ComparesExactly other)
    (hdouble : value.type = .plain .double ∨ other.type = .plain .double) :
    near value.getDouble other.getDouble ≠ true := by
  intro hnear
  obtain ⟨hread, hotherRead⟩ := near_eq_true hnear
  obtain ⟨hnumber, hvalue⟩ := isNumber_of_getDouble hread
  obtain ⟨hotherNumber, hother⟩ := isNumber_of_getDouble hotherRead
  rcases hexact with hnone | hnone | ⟨hfirst, hsecond⟩
  · exact Bool.false_ne_true (hnone.symm.trans hnumber)
  · exact Bool.false_ne_true (hnone.symm.trans hotherNumber)
  rcases hdouble with htype | htype
  · exact Bool.false_ne_true (hfirst.symm.trans (hvalue htype))
  · exact Bool.false_ne_true (hsecond.symm.trans (hother htype))

mutual

theorem eq_of_equal {value other : HeldVariant} (hcomparable : value.IsComparable)
    (hexact : value.ComparesExactly other) (h : value.equal other = true) : value = other := by
  unfold equal at h
  by_cases hdouble : value.type = .plain .double ∨ other.type = .plain .double
  · rw [if_pos hdouble] at h
    exact absurd h (not_near_of_comparesExactly hexact hdouble)
  rw [if_neg hdouble] at h
  cases value with
  | scalar type held =>
      cases other with
      | scalar otherType otherHeld =>
          dsimp only at h
          by_cases htype : otherType = type
          · subst htype
            rw [dif_pos rfl, PlainType.equal_iff hcomparable] at h
            rw [h]
          · rw [dif_neg htype] at h
            cases h
      | _ => cases h
  | dataValue pointer =>
      cases other with
      | dataValue otherPointer => rw [eq_of_beq h]
      | _ => cases h
  | variant pointer =>
      cases other with
      | variant otherPointer => rw [eq_of_beq h]
      | _ => cases h
  | array type elements =>
      cases other with
      | array otherType others =>
          dsimp only at h
          by_cases htype : otherType = type
          · subst htype
            have helements := List.any_eq_false.mp hcomparable
            rw [dif_pos rfl, isEqv_iff fun element hmem =>
              PlainType.equal_iff (Bool.eq_false_iff.mpr (helements element hmem))] at h
            rw [h]
          · rw [dif_neg htype] at h
            cases h
      | _ => cases h
  | dataValueArray pointers =>
      cases other with
      | dataValueArray otherPointers => rw [eq_of_beq h]
      | _ => cases h
  | variantArray elements =>
      cases other with
      | variantArray others =>
          rw [eq_of_equalElements (anyPartOf_eq_false.mp hcomparable) hexact h]
      | _ => cases h

theorem eq_of_equalElements {values others : List HeldVariant}
    (hcomparable : ∀ value ∈ values, value.IsComparable)
    (hexact : anyPartOf isNumber values = false ∨ anyPartOf isNumber others = false ∨
      anyPartOf isDouble values = false ∧ anyPartOf isDouble others = false)
    (h : equalElements values others = true) : values = others := by
  match values, others with
  | [], [] => rfl
  | [], _ :: _ => cases h
  | _ :: _, [] => cases h
  | value :: values, other :: others =>
      rw [List.forall_mem_cons] at hcomparable
      rw [equalElements, Bool.and_eq_true] at h
      simp only [anyPartOf, Bool.or_eq_false_iff] at hexact
      have hhead : value.ComparesExactly other :=
        hexact.imp And.left (Or.imp And.left fun hboth => ⟨hboth.1.1, hboth.2.1⟩)
      have htail := hexact.imp And.right (Or.imp And.right fun hboth =>
        And.intro hboth.1.2 hboth.2.2)
      rw [eq_of_equal hcomparable.1 hhead h.1, eq_of_equalElements hcomparable.2 htail h.2]

end

theorem near_self (number : Double) : near (some number) (some number) = true := by
  refine decide_eq_true ?_
  norm_num [doubleEpsilon]

mutual

theorem equal_self {value : HeldVariant} (hcomparable : value.IsComparable)
    (hdoubles : value.anyPart isDoubleArray = false) : value.equal value = true := by
  unfold equal
  cases value with
  | scalar type held =>
      by_cases htype : type = .double
      · subst htype
        exact (if_pos (Or.inl rfl)).trans (near_self held)
      · have hheld := (PlainType.equal_iff hcomparable held).mpr rfl
        refine (if_neg ?_).trans ((dif_pos rfl).trans hheld)
        exact mt or_self_iff.mp fun h => htype (Binary.BuiltInType.plain.inj h)
  | dataValue pointer => exact beq_self_eq_true pointer
  | variant pointer => exact beq_self_eq_true pointer
  | array type elements =>
      have htype : type ≠ .double := beq_eq_false_iff_ne.mp hdoubles
      have helements := List.any_eq_false.mp hcomparable
      have hheld := (isEqv_iff (fun element hmem =>
        PlainType.equal_iff (Bool.eq_false_iff.mpr (helements element hmem))) elements).mpr rfl
      refine (if_neg ?_).trans ((dif_pos rfl).trans hheld)
      exact mt or_self_iff.mp fun h => htype (Binary.BuiltInType.plain.inj h)
  | dataValueArray pointers => exact beq_self_eq_true pointers
  | variantArray elements =>
      exact equalElements_self (anyPartOf_eq_false.mp hcomparable)
        (anyPartOf_eq_false.mp hdoubles)

theorem equalElements_self {values : List HeldVariant}
    (hcomparable : ∀ value ∈ values, value.IsComparable)
    (hdoubles : ∀ value ∈ values, value.anyPart isDoubleArray = false) :
    equalElements values values = true := by
  match values with
  | [] => rfl
  | value :: values =>
      rw [List.forall_mem_cons] at hcomparable hdoubles
      rw [equalElements, Bool.and_eq_true]
      exact ⟨equal_self hcomparable.1 hdoubles.1, equalElements_self hcomparable.2 hdoubles.2⟩

end

/-! ## What is asked of it -/

/-- An equivalence as far as one variant goes, in each of its places. -/
structure IsEquated (value : HeldVariant) : Prop where
  reflexive : value.equal value = true
  symmetric : ∀ other : HeldVariant, other.IsComparable → value.equal other = other.equal value
  transitive : ∀ other third : HeldVariant, other.IsComparable → third.IsComparable →
    value.equal other = true → other.equal third = true → value.equal third = true
  through : ∀ other third : HeldVariant, other.IsComparable → third.IsComparable →
    other.equal value = true → value.equal third = true → other.equal third = true

theorem isEquated_of_no_number {value : HeldVariant} (hcomparable : value.IsComparable)
    (hnumber : value.anyPart isNumber = false)
    (hdoubles : value.anyPart isDoubleArray = false) : value.IsEquated where
  reflexive := equal_self hcomparable hdoubles
  symmetric := fun other _ => equal_comm value other
  transitive := by
    intro other third _ _ hfirst hsecond
    rw [eq_of_equal hcomparable (Or.inl hnumber) hfirst]
    exact hsecond
  through := by
    intro other third hother _ hfirst hsecond
    rw [eq_of_equal hother (Or.inr (Or.inl hnumber)) hfirst]
    exact hsecond

theorem equal_double (value : HeldVariant) (number : Double) :
    value.equal (.scalar .double number) = near value.getDouble (some number) := by
  unfold equal
  exact if_pos (Or.inr rfl)

/-- Two doubles to the sides of a number are near it, and not near each other. -/
theorem not_isEquated_number {type : PlainType} {held : type.Carrier}
    (h : type.readsAsDouble = true) : ¬(HeldVariant.scalar type held).IsEquated := by
  intro hequated
  obtain ⟨number, hread⟩ := Option.isSome_iff_exists.mp ((getDouble_isSome type held).trans h)
  have hpositive : 0 < doubleEpsilon := by norm_num [doubleEpsilon]
  obtain ⟨side, hhalf, hwhole⟩ : ∃ side, doubleEpsilon < 2 * side ∧ side < doubleEpsilon :=
    ⟨3 / 4 * doubleEpsilon, by linarith, by linarith⟩
  have hside : 0 < side := by linarith
  have hleft : (HeldVariant.scalar .double (number - side)).equal (.scalar type held) = true := by
    rw [equal_comm, equal_double, hread]
    refine decide_eq_true ?_
    rw [sub_sub_cancel, abs_of_pos hside]
    exact hwhole
  have hright : (HeldVariant.scalar type held).equal (.scalar .double (number + side)) =
      true := by
    rw [equal_double, hread]
    refine decide_eq_true ?_
    rw [sub_add_cancel_left, abs_neg, abs_of_pos hside]
    exact hwhole
  have hsides := hequated.through (.scalar .double (number - side))
    (.scalar .double (number + side)) rfl rfl hleft hright
  rw [equal_double] at hsides
  have hdistance : |number - side - (number + side)| < doubleEpsilon := of_decide_eq_true hsides
  rw [abs_lt] at hdistance
  linarith [hdistance.1]

theorem not_isEquated_doubles (elements : List PlainType.double.Carrier) :
    ¬(HeldVariant.array .double elements).IsEquated := fun hequated =>
  Bool.false_ne_true hequated.reflexive

theorem equalElements_append {values others : List HeldVariant}
    (hlength : values.length = others.length) (rest otherRest : List HeldVariant) :
    equalElements (values ++ rest) (others ++ otherRest) =
      (equalElements values others && equalElements rest otherRest) := by
  induction values generalizing others with
  | nil =>
      cases others with
      | nil => rfl
      | cons => cases hlength
  | cons value values ih =>
      cases others with
      | nil => cases hlength
      | cons other others =>
          rw [List.cons_append, List.cons_append, equalElements, equalElements,
            ih (Nat.succ.inj hlength), Bool.and_assoc]

theorem isEquated_of_mem {elements : List HeldVariant} {value : HeldVariant}
    (hcomparable : (variantArray elements).IsComparable)
    (h : (variantArray elements).IsEquated) (hmem : value ∈ elements) : value.IsEquated := by
  obtain ⟨before, after, rfl⟩ := List.append_of_mem hmem
  have hparts := anyPartOf_eq_false.mp hcomparable
  have hcompared : ∀ first second : HeldVariant,
      (variantArray (before ++ first :: after)).equal (variantArray (before ++ second :: after)) =
        (equalElements before before && (first.equal second && equalElements after after)) :=
    fun first second => equalElements_append rfl _ _
  have hreflexive := h.reflexive
  rw [hcompared, Bool.and_eq_true, Bool.and_eq_true] at hreflexive
  obtain ⟨hbefore, hvalue, hafter⟩ := hreflexive
  have hexchanged : ∀ first second : HeldVariant,
      (variantArray (before ++ first :: after)).equal (variantArray (before ++ second :: after)) =
        first.equal second := fun first second => by
    rw [hcompared, hbefore, hafter, Bool.true_and, Bool.and_true]
  have hstays : ∀ other : HeldVariant, other.IsComparable →
      (variantArray (before ++ other :: after)).IsComparable := by
    intro other hother
    refine anyPartOf_eq_false.mpr fun element helement => ?_
    rcases List.mem_append.mp helement with hin | hin
    · exact hparts element (List.mem_append_left _ hin)
    · rcases List.mem_cons.mp hin with rfl | hin
      · exact hother
      · exact hparts element (List.mem_append_right _ (List.mem_cons_of_mem _ hin))
  exact
    { reflexive := hvalue
      symmetric := fun other _ => equal_comm value other
      transitive := fun other third hother hthird hfirst hsecond => by
        rw [← hexchanged] at hfirst hsecond ⊢
        exact h.transitive _ _ (hstays other hother) (hstays third hthird) hfirst hsecond
      through := fun other third hother hthird hfirst hsecond => by
        rw [← hexchanged] at hfirst hsecond ⊢
        exact h.through _ _ (hstays other hother) (hstays third hthird) hfirst hsecond }

mutual

theorem not_isEquated_of_number (value : HeldVariant) (hcomparable : value.IsComparable)
    (h : value.anyPart isNumber = true ∨ value.anyPart isDoubleArray = true) :
    ¬value.IsEquated := by
  cases value with
  | scalar type held => exact not_isEquated_number (h.resolve_right Bool.false_ne_true)
  | array type elements =>
      obtain rfl : type = .double := beq_iff_eq.mp (h.resolve_left Bool.false_ne_true)
      exact not_isEquated_doubles elements
  | variantArray elements =>
      obtain ⟨element, hmem, helement⟩ := exists_not_isEquated elements
        (anyPartOf_eq_false.mp hcomparable) h
      exact fun hequated => helement (isEquated_of_mem hcomparable hequated hmem)
  | _ => exact absurd h (not_or.mpr ⟨Bool.false_ne_true, Bool.false_ne_true⟩)

theorem exists_not_isEquated (values : List HeldVariant)
    (hcomparable : ∀ value ∈ values, value.IsComparable)
    (h : anyPartOf isNumber values = true ∨ anyPartOf isDoubleArray values = true) :
    ∃ value ∈ values, ¬value.IsEquated := by
  match values with
  | [] => exact absurd h (not_or.mpr ⟨Bool.false_ne_true, Bool.false_ne_true⟩)
  | value :: values =>
      rw [List.forall_mem_cons] at hcomparable
      rw [anyPartOf, anyPartOf, Bool.or_eq_true, Bool.or_eq_true, or_or_or_comm] at h
      rcases h with hfirst | hlater
      · exact ⟨value, List.mem_cons_self, not_isEquated_of_number value hcomparable.1 hfirst⟩
      · obtain ⟨element, hmem, helement⟩ := exists_not_isEquated values hcomparable.2 hlater
        exact ⟨element, List.mem_cons_of_mem _ hmem, helement⟩

end

/-- Equality is symmetric.  Without an array of doubles it is reflexive, and through two
variants, one of the two comparisons exact, it is transitive. -/
theorem equality_laws (value other third : HeldVariant) (hcomparable : value.IsComparable)
    (hother : other.IsComparable) :
    value.equal other = other.equal value ∧
      (value.anyPart isDoubleArray = false → value.equal value = true) ∧
      (value.ComparesExactly other ∨ other.ComparesExactly third →
        value.equal other = true → other.equal third = true → value.equal third = true) := by
  refine ⟨equal_comm value other, equal_self hcomparable, ?_⟩
  rintro (hexact | hexact) hfirst hsecond
  · rw [eq_of_equal hcomparable hexact hfirst]
    exact hsecond
  · rw [← eq_of_equal hother hexact hsecond]
    exact hfirst

/-- A double, a text and an array of both. -/
theorem nested_equality_laws :
    (variantArray [.scalar .double (1 : ℚ), .scalar .string [0x31]]).equal
      (variantArray [.scalar .double (1 : ℚ), .scalar .string [0x31]]) = true :=
  (equality_laws (variantArray [.scalar .double (1 : ℚ), .scalar .string [0x31]])
    (.scalar .string [0x31]) (.scalar .double (1 : ℚ)) rfl rfl).2.1 rfl

/-- An array of doubles differs from its copy, and an `Int32` and a `UInt32` are both equal
to a double, but not to each other. -/
theorem copies_differ_and_numbers_meet :
    ((HeldVariant.array .double [(1 : ℚ)]).equal (.array .double [(1 : ℚ)]) = false) ∧
      ((HeldVariant.scalar .int32 (1 : Int32)).equal (.scalar .double (1 : ℚ)) = true) ∧
      ((HeldVariant.scalar .double (1 : ℚ)).equal (.scalar .uint32 (1 : UInt32)) = true) ∧
      ((HeldVariant.scalar .int32 (1 : Int32)).equal (.scalar .uint32 (1 : UInt32)) = false) ∧
      ¬(HeldVariant.array .double [(1 : ℚ)]).IsEquated ∧
      ¬(HeldVariant.scalar .int32 (1 : Int32)).IsEquated := by
  have hnear := near_self 1
  have hsigned : (HeldVariant.scalar .int32 (1 : Int32)).equal (.scalar .double (1 : ℚ)) =
      true := (equal_double _ 1).trans hnear
  have hunsigned : (HeldVariant.scalar .double (1 : ℚ)).equal (.scalar .uint32 (1 : UInt32)) =
      true := (equal_comm _ _).trans ((equal_double _ 1).trans hnear)
  refine ⟨rfl, hsigned, hunsigned, rfl, fun h => Bool.false_ne_true h.reflexive, fun h => ?_⟩
  exact Bool.false_ne_true (h.transitive (.scalar .double (1 : ℚ))
    (.scalar .uint32 (1 : UInt32)) rfl rfl hsigned hunsigned)

end HeldVariant
end OpcuaStack
