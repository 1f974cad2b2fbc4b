import Mathlib.Data.List.AList
import Mathlib.Tactic

/-!
# Keyed maps

A hash map is read here through its association list: keys are unique, and the
iteration order is whatever the list order happens to be.  Mathlib's `AList`
supplies lookup, insertion and erasure; this file adds the bulk erasure which
C++ calls `std::erase_if`, and the rules by which the four operations compose
under `lookup`.
-/

namespace OpcuaStack

universe u v

variable {κ : Type u} {α : Type v} [DecidableEq κ]

/-- A map with one value for each key it holds. -/
abbrev KeyedMap (κ : Type u) (α : Type v) := AList fun _ : κ => α

namespace KeyedMap

/-- `std::erase_if`: drop every entry on which the predicate holds. -/
def eraseIf (p : κ → α → Bool) (m : KeyedMap κ α) : KeyedMap κ α where
  entries := m.entries.filter fun entry => !p entry.1 entry.2
  nodupKeys := m.nodupKeys.sublist List.filter_sublist

/-- The keys of the entries `eraseIf` drops, in iteration order. -/
def keysWhere (p : κ → α → Bool) (m : KeyedMap κ α) : List κ :=
  (m.entries.filter fun entry => p entry.1 entry.2).map Sigma.fst

/-- `std::any_of` over the mapped values. -/
def anyValue (p : α → Bool) (m : KeyedMap κ α) : Bool :=
  m.entries.any fun entry => p entry.2

/-- Update of the value under a key, if the key is present. -/
def modify (k : κ) (f : α → α) (m : KeyedMap κ α) : KeyedMap κ α :=
  match m.lookup k with
  | some value => m.insert k (f value)
  | none => m

/-- `std::unordered_map::emplace`: a value under the key stays. -/
def emplace (m : KeyedMap κ α) (k : κ) (a : α) : KeyedMap κ α :=
  match m.lookup k with
  | some _ => m
  | none => m.insert k a

theorem mem_entries_iff {m : KeyedMap κ α} {k : κ} {a : α} :
    (⟨k, a⟩ : Sigma fun _ : κ => α) ∈ m.entries ↔ m.lookup k = some a := by
  rw [← AList.mem_lookup_iff]
  exact Option.mem_def

theorem lookup_insert_eq (m : KeyedMap κ α) (k j : κ) (a : α) :
    (m.insert k a).lookup j = if j = k then some a else m.lookup j := by
  by_cases hjk : j = k
  · subst j
    simp
  · simp [hjk]

theorem lookup_erase_eq (m : KeyedMap κ α) (k j : κ) :
    (m.erase k).lookup j = if j = k then none else m.lookup j := by
  by_cases hjk : j = k
  · subst j
    simp
  · simp [hjk]

theorem lookup_eraseIf (m : KeyedMap κ α) (p : κ → α → Bool) (k : κ) :
    (m.eraseIf p).lookup k = (m.lookup k).filter fun a => !p k a := by
  apply Option.ext
  intro a
  rw [← mem_entries_iff]
  simp only [eraseIf, List.mem_filter, mem_entries_iff,
    Option.filter_eq_some_iff]

theorem mem_keysWhere {m : KeyedMap κ α} {p : κ → α → Bool} {k : κ} :
    k ∈ m.keysWhere p ↔ ∃ a, m.lookup k = some a ∧ p k a = true := by
  unfold keysWhere
  simp only [List.mem_map, List.mem_filter]
  constructor
  · rintro ⟨⟨j, a⟩, ⟨hmem, hp⟩, rfl⟩
    exact ⟨a, mem_entries_iff.mp hmem, hp⟩
  · rintro ⟨a, hlookup, hp⟩
    exact ⟨⟨k, a⟩, ⟨mem_entries_iff.mpr hlookup, hp⟩, rfl⟩

theorem lookup_modify (m : KeyedMap κ α) (k j : κ) (f : α → α) :
    (m.modify k f).lookup j =
      if j = k then (m.lookup k).map f else m.lookup j := by
  unfold modify
  cases hlookup : m.lookup k with
  | none =>
      by_cases hjk : j = k
      · subst j
        simp [hlookup]
      · simp [hjk]
  | some value =>
      simp [lookup_insert_eq]

theorem emplace_of_none {m : KeyedMap κ α} {k : κ} (h : m.lookup k = none)
    (a : α) : emplace m k a = m.insert k a := by
  rw [emplace, h]

theorem lookup_emplace (m : KeyedMap κ α) (k j : κ) (a : α) :
    (emplace m k a).lookup j =
      if j = k then some ((m.lookup k).getD a) else m.lookup j := by
  unfold emplace
  cases hlookup : m.lookup k with
  | none => exact lookup_insert_eq m k j a
  | some value =>
      by_cases hjk : j = k
      · subst j
        simp [hlookup]
      · simp [hjk]

/-! ## Entries -/

theorem entries_perm_erase {m : KeyedMap κ α} {k : κ} {a : α}
    (h : m.lookup k = some a) :
    m.entries.Perm (⟨k, a⟩ :: (m.erase k).entries) := by
  have hmem : (⟨k, a⟩ : Sigma fun _ : κ => α) ∈ m.entries := mem_entries_iff.mpr h
  obtain ⟨value, before, after, hnot, hentries, herased⟩ :=
    List.exists_of_kerase (List.mem_keys_of_mem hmem)
  have hvalue : value = a := by
    have hlookup : m.lookup k = some value := mem_entries_iff.mp
      (hentries ▸ List.mem_append_right before List.mem_cons_self)
    exact Option.some.inj (hlookup.symm.trans h)
  change m.entries.Perm (⟨k, a⟩ :: List.kerase k m.entries)
  rw [herased, hentries, hvalue]
  exact List.perm_middle

end KeyedMap

end OpcuaStack
