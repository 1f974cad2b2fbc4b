import Mathlib.Data.List.Induction
import Mathlib.Data.List.Nodup

/-!
# The first value of each key

A list built by appending a value unless one with its key is there.  It holds each key
once, and for each key the value that came first.
-/

namespace OpcuaStack

variable {α κ : Type} [BEq κ] (key : α → κ)

def appendNew (kept : List α) (value : α) : List α :=
  if kept.any fun existing => key existing == key value then kept else kept ++ [value]

def firstsBy (values : List α) : List α :=
  values.foldl (appendNew key) []

variable [LawfulBEq κ] {key}

omit [LawfulBEq κ] in
theorem firstsBy_concat (values : List α) (value : α) :
    firstsBy key (values ++ [value]) = appendNew key (firstsBy key values) value := by
  simp [firstsBy]

theorem appendNew_of_mem {kept : List α} {value : α} (h : key value ∈ kept.map key) :
    appendNew key kept value = kept := by
  rw [appendNew, if_pos]
  simpa using h

theorem appendNew_of_notMem {kept : List α} {value : α} (h : key value ∉ kept.map key) :
    appendNew key kept value = kept ++ [value] := by
  rw [appendNew, if_neg]
  simpa using h

theorem mem_keys_firstsBy {values : List α} {wanted : κ} :
    wanted ∈ (firstsBy key values).map key ↔ wanted ∈ values.map key := by
  induction values using List.reverseRecOn with
  | nil => simp [firstsBy]
  | append_singleton values value ih =>
      rw [firstsBy_concat]
      by_cases hmem : key value ∈ (firstsBy key values).map key
      · rw [appendNew_of_mem hmem, ih, List.map_append, List.mem_append]
        constructor
        · exact Or.inl
        · rintro (hold | hnew)
          · exact hold
          · have hwanted : wanted = key value := by simpa using hnew
            exact ih.mp (hwanted ▸ hmem)
      · rw [appendNew_of_notMem hmem]
        simp only [List.map_append, List.mem_append, ih]

theorem nodup_keys_firstsBy (values : List α) : ((firstsBy key values).map key).Nodup := by
  induction values using List.reverseRecOn with
  | nil => simp [firstsBy]
  | append_singleton values value ih =>
      rw [firstsBy_concat]
      by_cases hmem : key value ∈ (firstsBy key values).map key
      · rwa [appendNew_of_mem hmem]
      · rw [appendNew_of_notMem hmem, List.map_append]
        apply ih.append (by simp)
        simpa using hmem

theorem firstsBy_sublist (values : List α) : (firstsBy key values).Sublist values := by
  induction values using List.reverseRecOn with
  | nil => simp [firstsBy]
  | append_singleton values value ih =>
      rw [firstsBy_concat]
      by_cases hmem : key value ∈ (firstsBy key values).map key
      · rw [appendNew_of_mem hmem]
        exact ih.trans (List.sublist_append_left values [value])
      · rw [appendNew_of_notMem hmem]
        exact ih.append_right [value]

theorem mem_firstsBy_iff {values : List α} {value : α} :
    value ∈ firstsBy key values ↔
      values.find? (fun other => key other == key value) = some value := by
  induction values using List.reverseRecOn with
  | nil => simp [firstsBy]
  | append_singleton values last ih =>
      rw [firstsBy_concat, List.find?_append]
      by_cases hmem : key last ∈ (firstsBy key values).map key
      · rw [appendNew_of_mem hmem, ih]
        constructor
        · intro hfound
          rw [hfound, Option.some_or]
        · intro hfound
          cases hearlier : values.find? fun other => key other == key value with
          | some earlier => rwa [hearlier, Option.some_or] at hfound
          | none =>
              -- `last` alone would be found, but its key was there.
              rw [hearlier, Option.none_or] at hfound
              obtain ⟨other, hother, hkey⟩ := List.mem_map.mp (mem_keys_firstsBy.mp hmem)
              have hlast := List.mem_singleton.mp (List.mem_of_find?_eq_some hfound)
              have hnone := List.find?_eq_none.mp hearlier other hother
              simp [hkey, hlast] at hnone
      · rw [appendNew_of_notMem hmem, List.mem_append, ih]
        constructor
        · rintro (hfound | hlast)
          · rw [hfound, Option.some_or]
          · obtain rfl := List.mem_singleton.mp hlast
            have hnone : values.find? (fun other => key other == key value) = none := by
              apply List.find?_eq_none.mpr
              intro other hother hkey
              apply hmem
              apply mem_keys_firstsBy.mpr
              exact List.mem_map.mpr ⟨other, hother, by simpa using hkey⟩
            simp [hnone]
        · intro hfound
          cases hearlier : values.find? fun other => key other == key value with
          | some earlier =>
              rw [hearlier, Option.some_or] at hfound
              exact Or.inl hfound
          | none =>
              rw [hearlier, Option.none_or] at hfound
              exact Or.inr (List.mem_of_find?_eq_some hfound)

end OpcuaStack
