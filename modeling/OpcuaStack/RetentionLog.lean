import Mathlib.Data.List.Nodup
import Mathlib.Tactic

/-!
# Logs from which entries retire

A log only grows, and its entries are told apart by their keys.  An entry
retires when its key is named, and the entries which have not retired are the
live ones, in the order of the log.  The rules below say what becomes of the
live entries when the log grows and when entries retire, one by one or the
oldest ones together.
-/

namespace OpcuaStack

universe u v

variable {μ : Type u} {κ : Type v} [DecidableEq κ] (key : μ → κ)

/-- The entries of the log which have not retired. -/
def liveEntries (retired : List κ) (log : List μ) : List μ :=
  log.filter fun entry => decide (key entry ∉ retired)

theorem liveEntries_sublist (retired : List κ) (log : List μ) :
    (liveEntries key retired log).Sublist log :=
  List.filter_sublist

theorem liveEntries_congr {retired retired' : List κ} (log : List μ)
    (hmem : ∀ retiring, retiring ∈ retired ↔ retiring ∈ retired') :
    liveEntries key retired log = liveEntries key retired' log := by
  unfold liveEntries
  congr 1
  funext entry
  simp only [hmem]

theorem liveEntries_append (retired : List κ) (log : List μ) {entry : μ}
    (hfresh : key entry ∉ retired) :
    liveEntries key retired (log ++ [entry]) =
      liveEntries key retired log ++ [entry] := by
  simp [liveEntries, hfresh]

theorem liveEntries_retire (retired gone : List κ) (log : List μ) :
    liveEntries key (retired ++ gone) log =
      (liveEntries key retired log).filter fun entry =>
        decide (key entry ∉ gone) := by
  unfold liveEntries
  rw [List.filter_filter]
  congr 1
  funext entry
  simp only [List.mem_append, not_or, Bool.decide_and, Bool.and_comm]

theorem filter_notMem_take {live : List μ} (hnodup : (live.map key).Nodup)
    (count : ℕ) :
    (live.filter fun entry =>
        decide (key entry ∉ (live.take count).map key)) =
      live.drop count := by
  have hsplit : (live.take count ++ live.drop count).map key =
      live.map key := by
    rw [List.take_append_drop]
  rw [← hsplit, List.map_append] at hnodup
  have hdisjoint := (List.nodup_append'.mp hnodup).2.2
  calc
    live.filter (fun entry => decide (key entry ∉ (live.take count).map key)) =
        (live.take count ++ live.drop count).filter
          (fun entry => decide (key entry ∉ (live.take count).map key)) := by
          rw [List.take_append_drop]
    _ = live.drop count := by
      rw [List.filter_append, List.filter_eq_nil_iff.mpr,
        List.filter_eq_self.mpr, List.nil_append]
      · intro entry hentry
        simp only [decide_eq_true_eq]
        intro hmem
        exact hdisjoint hmem (List.mem_map_of_mem hentry)
      · intro entry hentry
        simp only [decide_eq_true_eq, not_not]
        exact List.mem_map_of_mem hentry

theorem filter_notMem_drop_append {keys : List κ} (hnodup : keys.Nodup)
    {new : κ} (hnew : new ∉ keys) (count : ℕ) :
    (keys.filter fun old => decide (old ∉ keys.drop count ++ [new])) =
      keys.take count := by
  have hsplit := hnodup
  rw [← List.take_append_drop count keys] at hsplit
  have hdisjoint := (List.nodup_append'.mp hsplit).2.2
  calc
    keys.filter (fun old => decide (old ∉ keys.drop count ++ [new])) =
        (keys.take count ++ keys.drop count).filter
          (fun old => decide (old ∉ keys.drop count ++ [new])) := by
          rw [List.take_append_drop]
    _ = keys.take count := by
      rw [List.filter_append, List.filter_eq_self.mpr,
        List.filter_eq_nil_iff.mpr, List.append_nil]
      · intro old hold
        simp [hold]
      · intro old hold
        have hmem := List.mem_of_mem_take hold
        simp only [List.mem_append, List.mem_singleton, not_or,
          decide_eq_true_eq]
        refine ⟨fun hdrop => hdisjoint hold hdrop, ?_⟩
        intro heq
        exact hnew (heq ▸ hmem)

theorem eraseP_key_eq_filter {live : List μ} (hnodup : (live.map key).Nodup)
    (retiring : κ) :
    live.eraseP (fun entry => key entry == retiring) =
      live.filter fun entry => decide (key entry ∉ [retiring]) := by
  induction live with
  | nil => rfl
  | cons entry rest ih =>
      obtain ⟨hentry, hrest⟩ := List.nodup_cons.mp hnodup
      by_cases heq : key entry = retiring
      · subst heq
        rw [List.eraseP_cons_of_pos (by simp), List.filter_cons_of_neg (by simp),
          List.filter_eq_self.mpr]
        intro other hother
        simp only [List.mem_singleton, decide_eq_true_eq]
        intro hkey
        exact hentry (hkey ▸ List.mem_map_of_mem hother)
      · rw [List.eraseP_cons_of_neg (by simpa using heq),
          List.filter_cons_of_pos (by simpa using heq), ih hrest]

/-- An entry is found by its key if and only if it is in the log and its key has
not retired. -/
theorem find?_liveEntries {log : List μ} (hnodup : (log.map key).Nodup)
    (retired : List κ) (wanted : κ) (entry : μ) :
    (liveEntries key retired log).find? (fun other => key other == wanted) =
        some entry ↔
      entry ∈ log ∧ key entry = wanted ∧ wanted ∉ retired := by
  constructor
  · intro hfound
    have hmem := List.mem_of_find?_eq_some hfound
    have hkey : key entry = wanted := by
      have hmatch := List.find?_some hfound
      simpa using hmatch
    obtain ⟨hlog, hlive⟩ := List.mem_filter.mp hmem
    rw [decide_eq_true_eq, hkey] at hlive
    exact ⟨hlog, hkey, hlive⟩
  · rintro ⟨hlog, rfl, hlive⟩
    have hmem : entry ∈ liveEntries key retired log :=
      List.mem_filter.mpr ⟨hlog, by simpa using hlive⟩
    cases hfound :
        (liveEntries key retired log).find?
          (fun other => key other == key entry) with
    | none =>
        have hnone := List.find?_eq_none.mp hfound entry hmem
        simp at hnone
    | some other =>
        have hother :=
          (List.mem_filter.mp (List.mem_of_find?_eq_some hfound)).1
        have hkey : key other = key entry := by
          have hmatch := List.find?_some hfound
          simpa using hmatch
        rw [List.inj_on_of_nodup_map hnodup hother hlog hkey]

end OpcuaStack
