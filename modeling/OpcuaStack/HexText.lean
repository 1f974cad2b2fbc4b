import Mathlib.Tactic

/-!
# Numbers in hexadecimal digits

A number is written in a fixed number of digits, the most significant one first, and
read digit by digit.  Which characters stand for the digits is a parameter: a writer
has one alphabet, a reader may know several.
-/

namespace OpcuaStack.HexText

variable {α : Type}

/-- The digits of a number which fits into the width. -/
def digits (alphabet : ℕ → α) : ℕ → ℕ → List α
  | 0, _ => []
  | width + 1, value =>
      digits alphabet width (value / 16) ++ [alphabet (value % 16)]

/-- Digits read from left to right, behind those which were read before. -/
def parseFrom (ofDigit : α → Option ℕ) : ℕ → List α → Option ℕ
  | value, [] => some value
  | value, character :: rest =>
      (ofDigit character).bind fun digit =>
        parseFrom ofDigit (16 * value + digit) rest

def parse (ofDigit : α → Option ℕ) (text : List α) : Option ℕ :=
  parseFrom ofDigit 0 text

@[simp] theorem length_digits (alphabet : ℕ → α) (width value : ℕ) :
    (digits alphabet width value).length = width := by
  induction width generalizing value with
  | zero => rfl
  | succ width ih => simp [digits, ih]

theorem exists_of_mem_digits {alphabet : ℕ → α} {width value : ℕ} {character : α}
    (h : character ∈ digits alphabet width value) :
    ∃ digit < 16, character = alphabet digit := by
  induction width generalizing value with
  | zero => exact absurd h List.not_mem_nil
  | succ width ih =>
      rw [digits, List.mem_append, List.mem_singleton] at h
      obtain h | rfl := h
      · exact ih h
      · exact ⟨value % 16, Nat.mod_lt _ (by norm_num), rfl⟩

theorem digits_eq_map (alphabet : ℕ → α) (width value : ℕ) :
    digits alphabet width value =
      (List.range width).reverse.map fun place => alphabet (value / 16 ^ place % 16) := by
  induction width generalizing value with
  | zero => rfl
  | succ width ih =>
      rw [digits, ih, List.range_succ_eq_map, List.reverse_cons, List.map_append,
        ← List.map_reverse, List.map_map]
      have hshift : ∀ place, value / 16 / 16 ^ place = value / 16 ^ (place + 1) := by
        intro place
        rw [Nat.div_div_eq_div_mul, pow_succ']
      simp [Function.comp_def, hshift]

theorem parseFrom_append (ofDigit : α → Option ℕ) (value : ℕ)
    (first second : List α) :
    parseFrom ofDigit value (first ++ second) =
      (parseFrom ofDigit value first).bind fun middle =>
        parseFrom ofDigit middle second := by
  induction first generalizing value with
  | nil => rfl
  | cons character rest ih =>
      rw [List.cons_append, parseFrom, parseFrom]
      cases ofDigit character with
      | none => rfl
      | some digit => exact ih _

/-- A reader knows the digits of a writer. -/
def Knows (ofDigit : α → Option ℕ) (alphabet : ℕ → α) : Prop :=
  ∀ digit < 16, ofDigit (alphabet digit) = some digit

section

variable {ofDigit : α → Option ℕ} {alphabet : ℕ → α}
  (h : Knows ofDigit alphabet)
include h

theorem parseFrom_digits (width : ℕ) {value : ℕ} (hvalue : value < 16 ^ width)
    (start : ℕ) :
    parseFrom ofDigit start (digits alphabet width value) =
      some (16 ^ width * start + value) := by
  induction width generalizing value start with
  | zero =>
      obtain rfl : value = 0 := by simpa using hvalue
      simp [digits, parseFrom]
  | succ width ih =>
      have hdigit : value % 16 < 16 := Nat.mod_lt _ (by norm_num)
      have hrest : value / 16 < 16 ^ width := by
        rw [pow_succ] at hvalue
        omega
      rw [digits, parseFrom_append, ih hrest start, Option.bind_some, parseFrom,
        h _ hdigit, Option.bind_some, parseFrom, pow_succ, Option.some.injEq]
      have hsplit := Nat.div_add_mod value 16
      linarith

theorem parse_digits {width value : ℕ} (hvalue : value < 16 ^ width) :
    parse ofDigit (digits alphabet width value) = some value := by
  rw [parse, parseFrom_digits h width hvalue, Nat.mul_zero, Nat.zero_add]

end

theorem exists_digits {alphabet : ℕ → α} {text : List α}
    (h : ∀ character ∈ text, ∃ digit < 16, character = alphabet digit) :
    ∃ value < 16 ^ text.length, text = digits alphabet text.length value := by
  induction text using List.reverseRecOn with
  | nil => exact ⟨0, by norm_num, rfl⟩
  | append_singleton rest character ih =>
      obtain ⟨digit, hdigit, hcharacter⟩ := h character (by simp)
      obtain ⟨value, hvalue, hrest⟩ :=
        ih fun other hother => h other (List.mem_append_left _ hother)
      have hdiv : (16 * value + digit) / 16 = value := by omega
      have hmod : (16 * value + digit) % 16 = digit := by omega
      refine ⟨16 * value + digit, ?_, ?_⟩
      · rw [List.length_append, List.length_singleton, pow_succ]
        omega
      · rw [List.length_append, List.length_singleton, digits, hdiv, hmod, ← hrest,
          hcharacter]

theorem digits_congr {alphabet other : ℕ → α}
    (h : ∀ digit < 16, alphabet digit = other digit) (width value : ℕ) :
    digits alphabet width value = digits other width value := by
  induction width generalizing value with
  | zero => rfl
  | succ width ih =>
      rw [digits, digits, ih, h _ (Nat.mod_lt _ (by norm_num))]

theorem map_digits {β : Type} (convert : α → β) (alphabet : ℕ → α) (width value : ℕ) :
    (digits alphabet width value).map convert =
      digits (fun digit => convert (alphabet digit)) width value := by
  induction width generalizing value with
  | zero => rfl
  | succ width ih => simp [digits, ih]

end OpcuaStack.HexText
