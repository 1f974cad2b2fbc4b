import Mathlib.Data.List.Nodup
import Mathlib.Tactic

/-!
# Leases which are held or given back

A supplier grants leases, each once.  Every lease granted is held by exactly
one holder or has been given back exactly once.  Three steps keep this true: a
holder receives a new lease, a new lease is given back at once, and a holder
gives back the lease it holds.
-/

namespace OpcuaStack

universe u v

variable {κ : Type u} {γ : Type v}

/-- Every granted lease is held or was given back, never both nor twice. -/
structure Accounted (held : κ → γ → Prop) (released granted : List γ) :
    Prop where
  released_nodup : released.Nodup
  unique : ∀ k j g, held k g → held j g → k = j
  granted_of_held : ∀ k g, held k g → g ∈ granted
  granted_of_released : ∀ g ∈ released, g ∈ granted
  apart : ∀ k g, held k g → g ∉ released
  covered : ∀ g ∈ granted, (∃ k, held k g) ∨ g ∈ released

namespace Accounted

variable {held after : κ → γ → Prop} {released granted : List γ}

theorem empty (hnone : ∀ k g, ¬held k g) : Accounted held [] [] where
  released_nodup := List.nodup_nil
  unique k _ g hk _ := absurd hk (hnone k g)
  granted_of_held k g hk := absurd hk (hnone k g)
  granted_of_released := by simp
  apart k g hk := absurd hk (hnone k g)
  covered := by simp

theorem congr (h : Accounted held released granted)
    (hsame : ∀ k g, after k g ↔ held k g) :
    Accounted after released granted := by
  have heq : after = held := by
    funext k g
    exact propext (hsame k g)
  rw [heq]
  exact h

theorem grant (h : Accounted held released granted) {k : κ} {g : γ}
    (hnew : g ∉ granted)
    (hafter : ∀ j f, after j f ↔ held j f ∨ (j = k ∧ f = g)) :
    Accounted after released (granted ++ [g]) where
  released_nodup := h.released_nodup
  unique i j f hi hj := by
    rw [hafter] at hi hj
    rcases hi with hi | ⟨rfl, rfl⟩
    · rcases hj with hj | ⟨rfl, rfl⟩
      · exact h.unique i j f hi hj
      · exact absurd (h.granted_of_held i f hi) hnew
    · rcases hj with hj | ⟨rfl, _⟩
      · exact absurd (h.granted_of_held j f hj) hnew
      · rfl
  granted_of_held j f hj := by
    rcases (hafter j f).mp hj with hj | ⟨_, rfl⟩
    · exact List.mem_append_left _ (h.granted_of_held j f hj)
    · simp
  granted_of_released f hf :=
    List.mem_append_left _ (h.granted_of_released f hf)
  apart j f hj hf := by
    rcases (hafter j f).mp hj with hj | ⟨_, rfl⟩
    · exact h.apart j f hj hf
    · exact hnew (h.granted_of_released f hf)
  covered f hf := by
    rcases List.mem_append.mp hf with hf | hf
    · rcases h.covered f hf with ⟨j, hj⟩ | hreleased
      · exact .inl ⟨j, (hafter j f).mpr (.inl hj)⟩
      · exact .inr hreleased
    · exact .inl ⟨k, (hafter k f).mpr (.inr ⟨rfl, List.mem_singleton.mp hf⟩)⟩

theorem abandon (h : Accounted held released granted) {g : γ}
    (hnew : g ∉ granted) :
    Accounted held (released ++ [g]) (granted ++ [g]) where
  released_nodup := by
    refine List.nodup_append.mpr
      ⟨h.released_nodup, List.nodup_singleton g, ?_⟩
    intro f hf other hother heq
    rw [heq, List.mem_singleton.mp hother] at hf
    exact hnew (h.granted_of_released g hf)
  unique := h.unique
  granted_of_held j f hj := List.mem_append_left _ (h.granted_of_held j f hj)
  granted_of_released f hf := by
    rcases List.mem_append.mp hf with hf | hf
    · exact List.mem_append_left _ (h.granted_of_released f hf)
    · exact List.mem_append_right _ hf
  apart j f hj hf := by
    rcases List.mem_append.mp hf with hf | hf
    · exact h.apart j f hj hf
    · rw [List.mem_singleton.mp hf] at hj
      exact hnew (h.granted_of_held j g hj)
  covered f hf := by
    rcases List.mem_append.mp hf with hf | hf
    · rcases h.covered f hf with hheld | hreleased
      · exact .inl hheld
      · exact .inr (List.mem_append_left _ hreleased)
    · exact .inr (List.mem_append_right _ hf)

theorem release (h : Accounted held released granted) {k : κ} {g : γ}
    (hheld : held k g) (honly : ∀ f, held k f → f = g)
    (hafter : ∀ j f, after j f ↔ held j f ∧ j ≠ k) :
    Accounted after (released ++ [g]) granted where
  released_nodup := by
    refine List.nodup_append.mpr
      ⟨h.released_nodup, List.nodup_singleton g, ?_⟩
    intro f hf other hother heq
    rw [heq, List.mem_singleton.mp hother] at hf
    exact h.apart k g hheld hf
  unique i j f hi hj :=
    h.unique i j f ((hafter i f).mp hi).1 ((hafter j f).mp hj).1
  granted_of_held j f hj := h.granted_of_held j f ((hafter j f).mp hj).1
  granted_of_released f hf := by
    rcases List.mem_append.mp hf with hf | hf
    · exact h.granted_of_released f hf
    · rw [List.mem_singleton.mp hf]
      exact h.granted_of_held k g hheld
  apart j f hj hf := by
    obtain ⟨hj, hne⟩ := (hafter j f).mp hj
    rcases List.mem_append.mp hf with hf | hf
    · exact h.apart j f hj hf
    · rw [List.mem_singleton.mp hf] at hj
      exact hne (h.unique j k g hj hheld)
  covered f hf := by
    rcases h.covered f hf with ⟨j, hj⟩ | hreleased
    · by_cases heq : j = k
      · subst heq
        exact .inr (by simp [honly f hj])
      · exact .inl ⟨j, (hafter j f).mpr ⟨hj, heq⟩⟩
    · exact .inr (List.mem_append_left _ hreleased)

/-- A lease granted has one holder and was not given back, or it has none and
was given back once. -/
theorem exactly_once [DecidableEq γ] (h : Accounted held released granted)
    {g : γ} (hg : g ∈ granted) :
    (∃! k, held k g) ∧ released.count g = 0 ∨
      (∀ k, ¬held k g) ∧ released.count g = 1 := by
  rcases h.covered g hg with ⟨k, hk⟩ | hreleased
  · left
    refine ⟨⟨k, hk, fun j hj => h.unique j k g hj hk⟩, ?_⟩
    exact List.count_eq_zero.mpr (h.apart k g hk)
  · right
    exact ⟨fun k hk => h.apart k g hk hreleased,
      List.count_eq_one_of_mem h.released_nodup hreleased⟩

end Accounted

end OpcuaStack
