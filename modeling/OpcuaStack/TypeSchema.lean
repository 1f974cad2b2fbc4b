import OpcuaStack.DependencyOrder
import OpcuaStack.VariantCodec

/-!
# The structures of the schema

`sort_structs` of `tools/gen_ua_types.py`: the enumerations and structures which have been
read from the dictionary, and the order in which the structures are defined.
-/

namespace OpcuaStack
namespace TypeGenerator

/-- `SystemExit`, with what its text is made of. -/
inductive SystemExit where
  | cycle (names : List String)
  /-- The recursion of `sort_structs` is bounded here; no run gets this far. -/
  | recursionLimit
deriving DecidableEq

inductive Underlying where
  | uint8 | uint16 | int32
deriving DecidableEq

structure Enum where
  name : String
  underlying : Underlying
deriving DecidableEq

/-- The type of a field is the name it has in C++. -/
structure Field where
  name : String
  typeName : String
  isArray : Bool
deriving DecidableEq

structure Struct where
  name : String
  fields : List Field
deriving DecidableEq

/-- `sorted(struct.dependencies())`. -/
def Struct.dependencies (struct : Struct) : List String :=
  (struct.fields.map (·.typeName)).dedup.mergeSort

def structReferences (structs : List Struct) : References Struct String where
  items := structs
  key := (·.name)
  referred := Struct.dependencies

def exitOf : References.Failure String → SystemExit
  | .circle path => .cycle path
  | .exhausted => .recursionLimit

def sortStructs (structs : List Struct) : Except SystemExit (List Struct) :=
  (structReferences structs).sorted.mapError exitOf

theorem mem_dependencies {struct : Struct} {name : String} :
    name ∈ struct.dependencies ↔ ∃ field ∈ struct.fields, field.typeName = name := by
  simp [Struct.dependencies]

/-- Every structure comes behind the ones which are the types of its members. -/
def Defined (ordered : List Struct) : Prop :=
  ∀ front struct back, ordered = front ++ struct :: back →
    ∀ field ∈ struct.fields, field.typeName ∈ ordered.map (·.name) →
      field.typeName ∈ front.map (·.name)

/-- One structure has a member of the other one's type. -/
def Contains (structs : List Struct) (name other : String) : Prop :=
  ∃ struct ∈ structs, struct.name = name ∧ other ∈ structs.map (·.name) ∧
    ∃ field ∈ struct.fields, field.typeName = other

variable {structs : List Struct}

theorem refers_eq_contains : (structReferences structs).Refers = Contains structs := by
  funext name other
  simp only [References.Refers, Contains, References.lookup_isSome_iff, eq_iff_iff]
  apply exists_congr
  intro struct
  simp only [structReferences, mem_dependencies]
  tauto

theorem sortStructs_of_ordering (hunique : (structs.map (·.name)).Nodup)
    {ordered : List Struct} (h : (structReferences structs).Ordering ordered) :
    ordered.Perm structs ∧ Defined ordered := by
  have hknown : ∀ name, name ∈ structs.map (·.name) ↔ name ∈ ordered.map (·.name) := by
    intro name
    refine ⟨fun hmem => h.complete hmem, fun hmem => ?_⟩
    obtain ⟨struct, hstruct, rfl⟩ := List.mem_map.mp hmem
    exact List.mem_map_of_mem (h.known hstruct)
  have hordered : ordered.Nodup := h.nodup.of_map _
  have hstructs : structs.Nodup := hunique.of_map _
  constructor
  · rw [List.perm_ext_iff_of_nodup hordered hstructs]
    intro struct
    refine ⟨fun hmem => h.known hmem, fun hmem => ?_⟩
    obtain ⟨same, hsame, hname⟩ :=
      List.mem_map.mp ((hknown struct.name).mp (List.mem_map_of_mem hmem))
    rwa [← List.inj_on_of_nodup_map hunique (h.known hsame) hmem hname]
  · intro front struct back heq field hfield hmem
    apply h.inOrder front struct back heq
    · exact mem_dependencies.mpr ⟨field, hfield, rfl⟩
    · exact References.lookup_isSome_iff.mpr ((hknown _).mpr hmem)

/-- The order is a rearrangement in which every structure follows the ones it contains;
the generator stops only for a chain of members that leads back to a structure it has
passed. -/
def Explained (structs : List Struct) : Except SystemExit (List Struct) → Prop
  | .ok ordered => ordered.Perm structs ∧ Defined ordered
  | .error exit => ∃ front name middle,
      exit = .cycle (front ++ name :: (middle ++ [name])) ∧
        (front ++ name :: (middle ++ [name])).IsChain (Contains structs)

theorem sortStructs_explained (hunique : (structs.map (·.name)).Nodup) :
    Explained structs (sortStructs structs) := by
  have houtcome := @References.sorted_outcome _ _ _ (structReferences structs)
  rw [sortStructs]
  cases hsorted : (structReferences structs).sorted with
  | ok ordered =>
      rw [hsorted] at houtcome
      exact sortStructs_of_ordering hunique houtcome
  | error failure =>
      rw [hsorted] at houtcome
      cases failure with
      | circle path =>
          obtain ⟨hchain, front, name, middle, rfl⟩ := houtcome
          rw [refers_eq_contains] at hchain
          exact ⟨front, name, middle, rfl, hchain⟩
      | exhausted => exact houtcome.elim

theorem defined_of_inOrder {ordered : List Struct} :
    (structReferences ordered).InOrder ordered ↔ Defined ordered := by
  refine forall₄_congr fun front struct back _ => ?_
  simp only [structReferences, mem_dependencies, References.lookup_isSome_iff]
  constructor
  · intro h field hfield hmem
    exact h field.typeName ⟨field, hfield, rfl⟩ hmem
  · rintro h name ⟨field, hfield, rfl⟩ hmem
    exact h field hfield hmem

theorem sortStructs_of_defined (hunique : (structs.map (·.name)).Nodup)
    (hdefined : Defined structs) : sortStructs structs = .ok structs := by
  have hkept := @References.sorted_of_inOrder _ _ _ (structReferences structs) hunique
    (defined_of_inOrder.mpr hdefined)
  rw [sortStructs, hkept]
  rfl

/-- An order is found exactly when no structure contains itself, and structures which are
in order keep their places. -/
theorem sortStructs_correct (structs : List Struct)
    (hunique : (structs.map (·.name)).Nodup) :
    Explained structs (sortStructs structs) ∧
      ((∃ ordered, sortStructs structs = .ok ordered) ↔
        ∀ name, ¬ Relation.TransGen (Contains structs) name name) ∧
      (Defined structs → sortStructs structs = .ok structs) := by
  refine ⟨sortStructs_explained hunique, ?_, sortStructs_of_defined hunique⟩
  have hiff := @References.sorted_ok_iff _ _ _ (structReferences structs) hunique
  rw [refers_eq_contains] at hiff
  rw [← hiff]
  apply exists_congr
  intro ordered
  rw [sortStructs]
  cases (structReferences structs).sorted <;> simp [Except.mapError]

/-- A notification before the items and the values it holds. -/
def sampleStructs : List Struct :=
  [{ name := "DataChangeNotification"
     fields := [{ name := "MonitoredItems", typeName := "Item", isArray := true }] },
    { name := "Item"
      fields := [{ name := "ClientHandle", typeName := "UInt32", isArray := false }] }]

theorem sortStructs_sampleStructs :
    sortStructs sampleStructs = .ok sampleStructs.reverse := by
  simp [sortStructs, References.sorted, structReferences, sampleStructs, References.visit,
    Struct.dependencies, References.lookup, References.Progress.enter,
    References.Progress.leave, Except.mapError, bind, Except.bind]
  rfl

/-- None contains itself, and the ones put in order keep their places. -/
theorem sampleStructs_sorted :
    (∀ name, ¬ Relation.TransGen (Contains sampleStructs) name name) ∧
      sortStructs sampleStructs.reverse = .ok sampleStructs.reverse := by
  have hsorted := sortStructs_correct sampleStructs (by decide)
  have hexplained := hsorted.1
  rw [sortStructs_sampleStructs] at hexplained
  exact ⟨hsorted.2.1.mp ⟨_, sortStructs_sampleStructs⟩,
    (sortStructs_correct sampleStructs.reverse (by decide)).2.2 hexplained.2⟩

end TypeGenerator
end OpcuaStack
