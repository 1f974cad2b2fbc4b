import Mathlib.Tactic

/-!
# Numbered logs

Entries are logged under keys, and each carries a 32-bit number which counts the
entries of its key and goes round.  Two entries of one key with one number are
the same entry, unless they are 2^32 entries apart.
-/

namespace OpcuaStack

universe u v

variable {κ : Type u} {μ : Type v} [DecidableEq κ]

/-- The number of entries of the key. -/
def countOf (key : κ) (log : List (κ × μ)) : ℕ :=
  log.countP fun entry => decide (entry.1 = key)

@[simp] theorem countOf_nil (key : κ) : countOf key ([] : List (κ × μ)) = 0 := rfl

theorem countOf_append (key : κ) (log more : List (κ × μ)) :
    countOf key (log ++ more) = countOf key log + countOf key more :=
  List.countP_append

theorem countOf_singleton (key other : κ) (entry : μ) :
    countOf key [(other, entry)] = if other = key then 1 else 0 := by
  simp [countOf, List.countP_singleton]

theorem countOf_le_length (key : κ) (log : List (κ × μ)) :
    countOf key log ≤ log.length :=
  List.countP_le_length

/-- The entries of a key are numbered from one on. -/
def Numbered (number : μ → UInt32) (log : List (κ × μ)) : Prop :=
  ∀ index key entry, log[index]? = some (key, entry) →
    number entry = UInt32.ofNat (countOf key (log.take index) + 1)

namespace Numbered

variable {number : μ → UInt32} {log : List (κ × μ)}

theorem nil : Numbered number ([] : List (κ × μ)) := by
  intro index key entry hentry
  simp at hentry

theorem append (h : Numbered number log) {key : κ} {entry : μ}
    (hnumber : number entry = UInt32.ofNat (countOf key log + 1)) :
    Numbered number (log ++ [(key, entry)]) := by
  intro index other found hfound
  rcases lt_trichotomy index log.length with hlt | heq | hgt
  · rw [List.getElem?_append_left hlt] at hfound
    rw [List.take_append_of_le_length hlt.le]
    exact h index other found hfound
  · subst heq
    simp only [List.getElem?_concat_length, Option.some.injEq,
      Prod.mk.injEq] at hfound
    obtain ⟨rfl, rfl⟩ := hfound
    rw [List.take_left]
    exact hnumber
  · rw [List.getElem?_eq_none (by simp; omega)] at hfound
    cases hfound

/-- Between an entry and a later one of the same key, the count grows, by no
more than the entries in between. -/
theorem countOf_take_lt {first second : ℕ} (hlt : first < second) {key : κ}
    {entry : μ} (hfirst : log[first]? = some (key, entry)) :
    countOf key (log.take first) < countOf key (log.take second) ∧
      countOf key (log.take second) ≤
        countOf key (log.take first) + (second - first) := by
  have hsplit : log.take second =
      log.take first ++ (log.take second).drop first := by
    conv_lhs => rw [← List.take_append_drop first (log.take second)]
    rw [List.take_take, min_eq_left hlt.le]
  have hmem : (key, entry) ∈ (log.take second).drop first := by
    refine List.mem_of_getElem? (i := 0) ?_
    rw [List.getElem?_drop, Nat.add_zero, List.getElem?_take_of_lt hlt]
    exact hfirst
  have hpos : 0 < countOf key ((log.take second).drop first) :=
    List.countP_pos_iff.mpr ⟨_, hmem, by simp⟩
  have hle : countOf key ((log.take second).drop first) ≤ second - first := by
    refine (countOf_le_length _ _).trans ?_
    rw [List.length_drop, List.length_take]
    omega
  rw [hsplit, countOf_append]
  omega

theorem not_lt_of_number_eq (h : Numbered number log) {first second : ℕ}
    {key : κ} {earlier later : μ}
    (hfirst : log[first]? = some (key, earlier))
    (hsecond : log[second]? = some (key, later))
    (hnumber : number earlier = number later)
    (hnear : second < first + 2 ^ 32) : ¬ first < second := by
  intro hlt
  obtain ⟨hgrows, hbound⟩ := countOf_take_lt hlt hfirst
  rw [h first key earlier hfirst, h second key later hsecond] at hnumber
  have htoNat := congrArg UInt32.toNat hnumber
  rw [UInt32.toNat_ofNat', UInt32.toNat_ofNat'] at htoNat
  omega

theorem index_eq (h : Numbered number log) {first second : ℕ} {key : κ}
    {one other : μ} (hfirst : log[first]? = some (key, one))
    (hsecond : log[second]? = some (key, other))
    (hnumber : number one = number other)
    (hnear : first < second + 2 ^ 32) (hnear' : second < first + 2 ^ 32) :
    first = second := by
  have hle := h.not_lt_of_number_eq hfirst hsecond hnumber hnear'
  have hge := h.not_lt_of_number_eq hsecond hfirst hnumber.symm hnear
  omega

end Numbered

end OpcuaStack
