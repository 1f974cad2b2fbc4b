import Mathlib.Tactic

/-!
# Updating an ordered list of entries

The first entry of a kind is replaced where it stands; a kind which the list does
not have is added behind the others.
-/

namespace OpcuaStack

section Upsert

variable {α : Type}

def upsert (p : α → Bool) (replace : α → α) (new : α) : List α → List α
  | [] => [new]
  | entry :: rest =>
      if p entry then replace entry :: rest else entry :: upsert p replace new rest

variable {p q : α → Bool} {replace : α → α} {new : α}

theorem upsert_ne_nil (entries : List α) : upsert p replace new entries ≠ [] := by
  cases entries with
  | nil => exact List.cons_ne_nil _ _
  | cons entry rest =>
      unfold upsert
      split <;> exact List.cons_ne_nil _ _

theorem find?_upsert (hnew : p new = true) (hreplace : ∀ entry, p (replace entry) = p entry)
    (entries : List α) :
    (upsert p replace new entries).find? p =
      some ((entries.find? p).elim new replace) := by
  induction entries with
  | nil => rw [upsert, List.find?_cons_of_pos hnew, List.find?_nil, Option.elim_none]
  | cons entry rest ih =>
      unfold upsert
      cases hentry : p entry with
      | true =>
          rw [if_pos rfl, List.find?_cons_of_pos ((hreplace entry).trans hentry),
            List.find?_cons_of_pos hentry, Option.elim_some]
      | false =>
          have hskip : ¬p entry = true := by rw [hentry]; exact Bool.false_ne_true
          rw [if_neg Bool.false_ne_true, List.find?_cons_of_neg hskip,
            List.find?_cons_of_neg hskip, ih]

theorem find?_upsert_of_other (hnew : q new = false)
    (hold : ∀ entry, p entry = true → q entry = false ∧ q (replace entry) = false)
    (entries : List α) : (upsert p replace new entries).find? q = entries.find? q := by
  induction entries with
  | nil => rw [upsert, List.find?_cons, hnew]
  | cons entry rest ih =>
      unfold upsert
      split
      next hentry => rw [List.find?_cons, List.find?_cons, (hold entry hentry).1,
        (hold entry hentry).2]
      next => rw [List.find?_cons, List.find?_cons, ih]

theorem findIdx?_upsert_of_other (hnew : q new = false)
    (hold : ∀ entry, p entry = true → q entry = false ∧ q (replace entry) = false)
    (entries : List α) :
    (upsert p replace new entries).findIdx? q = entries.findIdx? q := by
  induction entries with
  | nil => rw [upsert, List.findIdx?_cons, hnew, if_neg Bool.false_ne_true, List.findIdx?_nil,
      Option.map_none]
  | cons entry rest ih =>
      unfold upsert
      split
      next hentry => rw [List.findIdx?_cons, List.findIdx?_cons, (hold entry hentry).1,
        (hold entry hentry).2]
      next => rw [List.findIdx?_cons, List.findIdx?_cons, ih]

theorem any_upsert_of_other (hnew : q new = false)
    (hold : ∀ entry, p entry = true → q entry = false ∧ q (replace entry) = false)
    (entries : List α) : (upsert p replace new entries).any q = entries.any q := by
  rw [← List.findIdx?_isSome, ← List.findIdx?_isSome, findIdx?_upsert_of_other hnew hold]

theorem length_le_upsert (entries : List α) :
    entries.length ≤ (upsert p replace new entries).length := by
  induction entries with
  | nil => exact Nat.zero_le _
  | cons entry rest ih =>
      unfold upsert
      split
      · exact le_rfl
      · exact Nat.succ_le_succ ih

theorem getElem?_upsert {entries : List α} {place : ℕ} (hplace : place < entries.length)
    (hother : entries.findIdx? p ≠ some place) :
    (upsert p replace new entries)[place]? = entries[place]? := by
  induction entries generalizing place with
  | nil => exact absurd hplace (Nat.not_lt_zero _)
  | cons entry rest ih =>
      rw [List.findIdx?_cons] at hother
      unfold upsert
      cases hentry : p entry with
      | true =>
          rw [hentry, if_pos rfl] at hother
          cases place with
          | zero => exact absurd rfl hother
          | succ place => rw [if_pos rfl, List.getElem?_cons_succ, List.getElem?_cons_succ]
      | false =>
          rw [hentry, if_neg Bool.false_ne_true] at hother
          cases place with
          | zero => rw [if_neg Bool.false_ne_true, List.getElem?_cons_zero,
              List.getElem?_cons_zero]
          | succ place =>
              rw [if_neg Bool.false_ne_true, List.getElem?_cons_succ,
                List.getElem?_cons_succ]
              refine ih (Nat.lt_of_succ_lt_succ hplace) fun hfirst => hother ?_
              rw [hfirst, Option.map_some]

theorem map_upsert {β : Type} {key : α → β} (hreplace : ∀ entry, key (replace entry) = key entry)
    (entries : List α) :
    (upsert p replace new entries).map key =
      entries.map key ++ if entries.any p then [] else [key new] := by
  induction entries with
  | nil => rfl
  | cons entry rest ih =>
      unfold upsert
      cases hentry : p entry with
      | true =>
          rw [if_pos rfl, List.map_cons, List.map_cons, hreplace, List.any_cons, hentry,
            Bool.true_or, if_pos rfl, List.append_nil]
      | false =>
          rw [if_neg Bool.false_ne_true, List.map_cons, List.map_cons, ih, List.any_cons,
            hentry, Bool.false_or, List.cons_append]

end Upsert

end OpcuaStack
