import Mathlib.Data.List.Infix
import Mathlib.Tactic

/-!
# Scanning a text for a mark

A text is cut at the first place where a mark stands.  What is found there depends
on nothing behind the mark, so replacing what follows it leaves the cut where it
was.
-/

namespace OpcuaStack.TextScan

variable {α : Type} [DecidableEq α]

/-- The first position at which `mark` stands in the text. -/
def find (mark : List α) : List α → Option ℕ
  | [] => if mark = [] then some 0 else none
  | element :: rest =>
    if mark <+: element :: rest then some 0
    else (find mark rest).map (· + 1)

/-- The first position from `start` on. -/
def findFrom (mark : List α) (start : ℕ) (text : List α) : Option ℕ :=
  (find mark (text.drop start)).map (start + ·)

theorem find_eq_zero {mark text : List α} (hhere : mark <+: text) :
    find mark text = some 0 := by
  cases text with
  | nil => simp [find, List.prefix_nil.mp hhere]
  | cons element rest => rw [find, if_pos hhere]

theorem find_cons_of_later {mark rest : List α} {element : α}
    (hhere : ¬ mark <+: element :: rest) :
    find mark (element :: rest) = (find mark rest).map (· + 1) := by
  rw [find, if_neg hhere]

theorem eq_append_of_find {mark text : List α} {position : ℕ}
    (hfind : find mark text = some position) :
    ∃ before after,
      text = before ++ mark ++ after ∧ before.length = position := by
  induction text generalizing position with
  | nil =>
      by_cases hmark : mark = []
      · refine ⟨[], [], ?_, ?_⟩ <;> simp_all [find]
      · simp [find, hmark] at hfind
  | cons element rest ih =>
      by_cases hhere : mark <+: element :: rest
      · rw [find_eq_zero hhere] at hfind
        obtain ⟨after, hafter⟩ := hhere
        exact ⟨[], after, by simp [hafter], by simpa using hfind⟩
      · rw [find_cons_of_later hhere, Option.map_eq_some_iff] at hfind
        obtain ⟨earlier, hearlier, rfl⟩ := hfind
        obtain ⟨before, after, rfl, rfl⟩ := ih hearlier
        exact ⟨element :: before, after, rfl, rfl⟩

theorem find_isSome {mark text : List α} (hmark : mark <:+: text) :
    (find mark text).isSome := by
  induction text with
  | nil => rw [List.infix_nil.mp hmark]; rfl
  | cons element rest ih =>
      by_cases hhere : mark <+: element :: rest
      · simp [find_eq_zero hhere]
      · obtain hprefix | hrest := List.infix_cons_iff.mp hmark
        · exact absurd hprefix hhere
        · simp [find_cons_of_later hhere, ih hrest]

theorem find_settled {mark before after : List α} (other : List α)
    (hfind : find mark (before ++ mark ++ after) = some before.length) :
    find mark (before ++ mark ++ other) = some before.length := by
  induction before with
  | nil => exact find_eq_zero ⟨other, by simp⟩
  | cons element before ih =>
      simp only [List.cons_append] at hfind ⊢
      have hearlier :
          ¬ mark <+: element :: (before ++ mark ++ after) := by
        intro hhere
        rw [find_eq_zero hhere] at hfind
        simp at hfind
      have hstill : ¬ mark <+: element :: (before ++ mark ++ other) := by
        intro hhere
        apply hearlier
        have hshort : mark <+: element :: (before ++ mark) :=
          List.prefix_of_prefix_length_le hhere
            ⟨other, by simp⟩ (by simp; omega)
        exact hshort.trans ⟨after, by simp⟩
      rw [find_cons_of_later hearlier] at hfind
      have hrest : find mark (before ++ mark ++ after) = some before.length := by
        simpa using hfind
      rw [find_cons_of_later hstill, ih hrest]
      simp

/-! ## A single element -/

theorem find_singleton_eq_none {mark : α} {text : List α} :
    find [mark] text = none ↔ mark ∉ text := by
  induction text with
  | nil => simp [find]
  | cons element rest ih =>
      by_cases hhere : mark = element
      · simp [find, hhere]
      · simp [find, hhere, ih]

theorem find_singleton_append {mark : α} {before : List α} (after : List α)
    (hbefore : mark ∉ before) :
    find [mark] (before ++ mark :: after) = some before.length := by
  induction before with
  | nil => simp [find]
  | cons element before ih =>
      simp only [List.mem_cons, not_or] at hbefore
      simp [find, hbefore.1, ih hbefore.2]

theorem cut_of_find_singleton {mark : α} {text : List α} {position : ℕ}
    (hfind : find [mark] text = some position) :
    ∃ before after, text = before ++ mark :: after ∧
      mark ∉ before ∧ before.length = position := by
  obtain ⟨before, after, rfl, rfl⟩ := eq_append_of_find hfind
  refine ⟨before, after, by simp, ?_, rfl⟩
  intro hmem
  obtain ⟨first, second, rfl, hfirst⟩ := List.eq_append_cons_of_mem hmem
  have hearly := find_singleton_append (second ++ mark :: after) hfirst
  simp only [List.append_assoc, List.cons_append, List.nil_append] at hfind
  rw [hearly] at hfind
  simp at hfind

/-! ## The last element -/

/-- What stands in front of the last place of an element, and behind it. -/
def cutLast (mark : α) : List α → Option (List α × List α)
  | [] => none
  | element :: rest =>
      match cutLast mark rest with
      | some (before, after) => some (element :: before, after)
      | none => if element = mark then some ([], rest) else none

theorem cutLast_of_not_mem {mark : α} {text : List α} (h : mark ∉ text) :
    cutLast mark text = none := by
  induction text with
  | nil => rfl
  | cons element rest ih =>
      rw [List.mem_cons, not_or] at h
      rw [cutLast, ih h.2]
      exact if_neg (Ne.symm h.1)

theorem cutLast_append {mark : α} {after : List α} (before : List α) (h : mark ∉ after) :
    cutLast mark (before ++ mark :: after) = some (before, after) := by
  induction before with
  | nil =>
      rw [List.nil_append, cutLast, cutLast_of_not_mem h]
      exact if_pos rfl
  | cons element before ih => rw [List.cons_append, cutLast, ih]

theorem not_mem_of_cutLast {mark : α} {text : List α} (h : cutLast mark text = none) :
    mark ∉ text := by
  induction text with
  | nil => exact List.not_mem_nil
  | cons element rest ih =>
      rw [cutLast] at h
      split at h
      next => cases h
      next hrest =>
        split at h
        next => cases h
        next hmark =>
          rw [List.mem_cons, not_or]
          exact ⟨Ne.symm hmark, ih hrest⟩

theorem cut_of_cutLast {mark : α} {text before after : List α}
    (h : cutLast mark text = some (before, after)) :
    text = before ++ mark :: after ∧ mark ∉ after := by
  induction text generalizing before with
  | nil => cases h
  | cons element rest ih =>
      rw [cutLast] at h
      split at h
      next earlier later hrest =>
        obtain ⟨rfl, rfl⟩ := Prod.mk.inj (Option.some.inj h)
        obtain ⟨rfl, hafter⟩ := ih hrest
        exact ⟨rfl, hafter⟩
      next hrest =>
        split at h
        next hmark =>
          obtain ⟨rfl, rfl⟩ := Prod.mk.inj (Option.some.inj h)
          exact ⟨by rw [hmark, List.nil_append], not_mem_of_cutLast hrest⟩
        next => cases h

end OpcuaStack.TextScan
