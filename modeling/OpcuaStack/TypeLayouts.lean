import OpcuaStack.TypeSchema

/-!
# Layouts of generated types

The type of a member is named in the dictionary; C++ replaces the name by the built-in
type, the enumeration or the structure it stands for.  With the structures in the order
of the generator every name stands for something that is defined already.
-/

namespace OpcuaStack

open Binary (BuiltInType)
open TypeGenerator (Underlying Enum Field Struct)

mutual

/-- A type as the generated code sees it, without the names of other types. -/
inductive TypeLayout where
  | builtIn (type : BuiltInType)
  | enumeration (underlying : Underlying)
  | structure (fields : FieldLayouts)

/-- The members of a structure: single values and vectors. -/
inductive FieldLayouts where
  | nil
  | single (name : String) (type : TypeLayout) (rest : FieldLayouts)
  | array (name : String) (type : TypeLayout) (rest : FieldLayouts)

end

namespace TypeGenerator

/-! ## The meaning of a type name -/

def builtInTypes : List (String × BuiltInType) :=
  [("Boolean", .plain .bool), ("Int8", .plain .int8), ("UInt8", .plain .uint8),
    ("Int16", .plain .int16), ("UInt16", .plain .uint16), ("Int32", .plain .int32),
    ("UInt32", .plain .uint32), ("Int64", .plain .int64), ("UInt64", .plain .uint64),
    ("Float", .plain .float), ("Double", .plain .double), ("String", .plain .string),
    ("DateTime", .plain .dateTime), ("Guid", .plain .guid),
    ("ByteString", .plain .byteString), ("XmlElement", .plain .xmlElement),
    ("NodeId", .plain .nodeId), ("ExpandedNodeId", .plain .expandedNodeId),
    ("Status", .plain .statusCode), ("QualifiedName", .plain .qualifiedName),
    ("LocalizedText", .plain .localizedText),
    ("ExtensionObject", .plain .extensionObject), ("DataValue", .dataValue),
    ("Variant", .variant), ("DiagnosticInfo", .plain .diagnosticInfo)]

/-- The structures which are defined so far, the latest one first. -/
abbrev Layouts := List (String × TypeLayout)

variable (enums : List Enum)

def enumOf (name : String) : Option Enum := enums.find? fun enum => enum.name = name

def typeOf (known : Layouts) (name : String) : Option TypeLayout :=
  ((builtInTypes.lookup name).map .builtIn).or
    (((enumOf enums name).map fun enum => .enumeration enum.underlying).or
      (known.lookup name))

def fieldLayouts (known : Layouts) : List Field → Option FieldLayouts
  | [] => some .nil
  | field :: fields => do
      let type ← typeOf enums known field.typeName
      let rest ← fieldLayouts known fields
      return if field.isArray then .array field.name type rest
        else .single field.name type rest

/-- The definitions of the header, one after the other. -/
def layoutsAfter (known : Layouts) : List Struct → Option Layouts
  | [] => some known
  | struct :: structs => do
      let fields ← fieldLayouts enums known struct.fields
      layoutsAfter ((struct.name, .structure fields) :: known) structs

/-! ## Every structure is defined -/

/-- A name which is not the one of a structure to come. -/
def Resolved (structs : List Struct) (name : String) : Prop :=
  (builtInTypes.lookup name).isSome ∨ (enumOf enums name).isSome ∨
    name ∈ structs.map (·.name)

variable {enums}

theorem typeOf_eq_of_lookup {known later : Layouts} {name : String}
    (h : known.lookup name = later.lookup name) :
    typeOf enums known name = typeOf enums later name := by
  rw [typeOf, typeOf, h]

theorem typeOf_isSome {known : Layouts} {name : String}
    (h : (builtInTypes.lookup name).isSome ∨ (enumOf enums name).isSome ∨
      (known.lookup name).isSome) : (typeOf enums known name).isSome := by
  simp only [typeOf, Option.isSome_or, Option.isSome_map, Bool.or_eq_true]
  exact h

theorem fieldLayouts_isSome {known : Layouts} {fields : List Field}
    (h : ∀ field ∈ fields, (typeOf enums known field.typeName).isSome) :
    (fieldLayouts enums known fields).isSome := by
  induction fields with
  | nil => rfl
  | cons field fields ih =>
      obtain ⟨type, htype⟩ := Option.isSome_iff_exists.mp (h field (by simp))
      obtain ⟨rest, hrest⟩ := Option.isSome_iff_exists.mp
        (ih fun other hmem => h other (by simp [hmem]))
      simp [fieldLayouts, htype, hrest]

theorem fieldLayouts_congr {known later : Layouts} {fields : List Field}
    (h : ∀ field ∈ fields,
      typeOf enums known field.typeName = typeOf enums later field.typeName) :
    fieldLayouts enums known fields = fieldLayouts enums later fields := by
  induction fields with
  | nil => rfl
  | cons field fields ih =>
      rw [fieldLayouts, fieldLayouts, h field (by simp),
        ih fun other hmem => h other (by simp [hmem])]

/-- What has been defined: the names in order, and each structure out of its members. -/
structure Definitions (enums : List Enum) (front : List Struct) (known : Layouts) : Prop where
  names : known.map Prod.fst = (front.map (·.name)).reverse
  layout : ∀ struct ∈ front, ∃ fields,
    known.lookup struct.name = some (.structure fields) ∧
      fieldLayouts enums known struct.fields = some fields

theorem lookup_isSome_of_mem {known : Layouts} {name : String}
    (h : name ∈ known.map Prod.fst) : (known.lookup name).isSome := by
  induction known with
  | nil => simp at h
  | cons entry known ih =>
      obtain ⟨other, layout⟩ := entry
      by_cases hsame : name = other
      · simp [hsame]
      · have hne : (name == other) = false := by simpa using hsame
        simp only [List.lookup_cons, hne]
        exact ih (by simpa [hsame] using h)

/-- A definition under a new name leaves the earlier ones as they are. -/
theorem Definitions.define {front : List Struct} {known : Layouts}
    (h : Definitions enums front known) {struct : Struct}
    (hnew : struct.name ∉ front.map (·.name)) (hresolved : ∀ other ∈ front, ∀ field ∈ other.fields,
      field.typeName ≠ struct.name) (hself : ∀ field ∈ struct.fields,
      field.typeName ≠ struct.name) {fields : FieldLayouts}
    (hfields : fieldLayouts enums known struct.fields = some fields) :
    Definitions enums (front ++ [struct]) ((struct.name, .structure fields) :: known) := by
  have hother : ∀ {name : String}, name ≠ struct.name →
      List.lookup name ((struct.name, TypeLayout.structure fields) :: known) =
        known.lookup name := by
    intro name hne
    have hbeq : (name == struct.name) = false := by simpa using hne
    simp [List.lookup_cons, hbeq]
  have hkept : ∀ other : Struct, (∀ field ∈ other.fields, field.typeName ≠ struct.name) →
      fieldLayouts enums ((struct.name, .structure fields) :: known) other.fields =
        fieldLayouts enums known other.fields := by
    intro other hne
    apply fieldLayouts_congr
    intro field hfield
    exact typeOf_eq_of_lookup (hother (hne field hfield))
  constructor
  · simp [h.names]
  · intro other hmem
    rcases List.mem_append.mp hmem with hmem | hmem
    · obtain ⟨layout, hlookup, hlayout⟩ := h.layout other hmem
      have hne : other.name ≠ struct.name := fun heq =>
        hnew (heq ▸ List.mem_map_of_mem hmem)
      refine ⟨layout, ?_, ?_⟩
      · rw [hother hne, hlookup]
      · rw [hkept other (hresolved other hmem), hlayout]
    · obtain rfl := List.mem_singleton.mp hmem
      refine ⟨fields, by simp, ?_⟩
      rw [hkept other hself, hfields]

theorem Definitions.empty : Definitions enums [] [] := ⟨rfl, by simp⟩

theorem Defined.notLater {ordered : List Struct} (h : Defined ordered)
    (hunique : (ordered.map (·.name)).Nodup) {front back : List Struct} {struct : Struct}
    (heq : ordered = front ++ struct :: back) :
    (∀ other ∈ front, ∀ field ∈ other.fields, field.typeName ≠ struct.name) ∧
      ∀ field ∈ struct.fields, field.typeName ≠ struct.name := by
  have hnodup := hunique
  rw [heq, List.map_append, List.map_cons, List.nodup_append] at hnodup
  have hnew : struct.name ∉ front.map (·.name) := fun hmem =>
    hnodup.2.2 _ hmem _ (by simp) rfl
  have hmem : struct.name ∈ ordered.map (·.name) := by simp [heq]
  constructor
  · intro other hother field hfield htype
    obtain ⟨before, after, rfl⟩ := List.append_of_mem hother
    have hbefore := h before other (after ++ struct :: back) (by simp [heq]) field hfield
      (htype ▸ hmem)
    rw [htype] at hbefore
    exact hnew (by simp [List.mem_map.mp hbefore])
  · intro field hfield htype
    have hfront := h front struct back heq field hfield (htype ▸ hmem)
    rw [htype] at hfront
    exact hnew hfront

theorem layoutsAfter_defined {ordered : List Struct} (hdefined : Defined ordered)
    (hunique : (ordered.map (·.name)).Nodup) (hresolved : ∀ struct ∈ ordered,
      ∀ field ∈ struct.fields, Resolved enums ordered field.typeName)
    (back : List Struct) {front : List Struct} (heq : ordered = front ++ back)
    {known : Layouts} (hknown : Definitions enums front known) :
    ∃ layouts, layoutsAfter enums known back = some layouts ∧
      Definitions enums ordered layouts := by
  induction back generalizing front known with
  | nil => exact ⟨known, rfl, by simpa [heq] using hknown⟩
  | cons struct back ih =>
      obtain ⟨hearlier, hself⟩ := hdefined.notLater hunique heq
      have htypes : ∀ field ∈ struct.fields,
          (typeOf enums known field.typeName).isSome := by
        intro field hfield
        apply typeOf_isSome
        refine (hresolved struct (by simp [heq]) field hfield).imp_right (Or.imp_right ?_)
        intro hmem
        apply lookup_isSome_of_mem
        rw [hknown.names, List.mem_reverse]
        exact hdefined front struct back heq field hfield hmem
      obtain ⟨fields, hfields⟩ := Option.isSome_iff_exists.mp (fieldLayouts_isSome htypes)
      have hnew : struct.name ∉ front.map (·.name) := by
        intro hmem
        rw [heq, List.map_append, List.map_cons, List.nodup_append] at hunique
        exact hunique.2.2 _ hmem _ (by simp) rfl
      rw [layoutsAfter, hfields]
      exact ih (by simp [heq]) (hknown.define hnew hearlier hself hfields)

/-- What the generator accepts can be defined in the order it gives: every structure has a
layout, and its members have the layouts which their types have in the end. -/
theorem layouts_of_sorted {structs ordered : List Struct}
    (hunique : (structs.map (·.name)).Nodup) (hsorted : sortStructs structs = .ok ordered)
    (hresolved : ∀ struct ∈ structs, ∀ field ∈ struct.fields,
      Resolved enums structs field.typeName) :
    ∃ layouts, layoutsAfter enums [] ordered = some layouts ∧
      ∀ struct ∈ structs, ∃ fields,
        layouts.lookup struct.name = some (.structure fields) ∧
          fieldLayouts enums layouts struct.fields = some fields := by
  have hspec := sortStructs_explained hunique
  rw [hsorted] at hspec
  obtain ⟨hperm, hdefined⟩ := hspec
  have hnames : ∀ name, name ∈ ordered.map (·.name) ↔ name ∈ structs.map (·.name) :=
    fun name => (hperm.map _).mem_iff
  obtain ⟨layouts, hlayouts, hdefinitions⟩ := layoutsAfter_defined hdefined
    ((hperm.map _).nodup_iff.mpr hunique)
    (fun struct hmem field hfield =>
      (hresolved struct (hperm.mem_iff.mp hmem) field hfield).imp_right
        (Or.imp_right (hnames _).mpr)) ordered rfl Definitions.empty
  exact ⟨layouts, hlayouts, fun struct hmem =>
    hdefinitions.layout struct (hperm.mem_iff.mpr hmem)⟩

theorem layouts_sampleStructs :
    ∃ layouts, layoutsAfter [] [] sampleStructs.reverse = some layouts ∧
      ∀ struct ∈ sampleStructs, ∃ fields,
        layouts.lookup struct.name = some (.structure fields) ∧
          fieldLayouts [] layouts struct.fields = some fields := by
  apply layouts_of_sorted
  · decide
  · exact sortStructs_sampleStructs
  · simp [sampleStructs, Resolved, builtInTypes]

end TypeGenerator
end OpcuaStack
