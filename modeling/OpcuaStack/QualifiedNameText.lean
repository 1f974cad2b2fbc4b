import Mathlib.Data.List.TakeWhile
import OpcuaStack.JsonVariants

/-!
# The text of a QualifiedName

A namespace index is written in decimal digits in front of a colon, and left out when
it is zero.  The reader looks at the text only: a number in front of the first colon
is an index, wherever it came from.
-/

namespace OpcuaStack
namespace Json

/-! ## Decimal numbers -/

theorem decimalText_natCast (number : ℕ) :
    decimalText number =
      (Nat.toDigits 10 number).map fun digit => digit.toNat.toUInt8 := by
  have htext : toString (number : ℤ) = Nat.repr number := rfl
  rw [decimalText, asciiText, htext, Nat.toList_repr]

theorem decimalText_ne_nil (number : ℕ) : decimalText number ≠ [] := by
  rw [decimalText_natCast]
  simp

theorem digit_toNat {digit : Char} (h : digit.isDigit) :
    48 ≤ digit.toNat ∧ digit.toNat ≤ 57 ∧
      digit.toNat.toUInt8.toNat = digit.toNat := by
  have hbounds := Char.isDigit_iff_toNat.mp h
  refine ⟨hbounds.1, hbounds.2, ?_⟩
  rw [UInt8.toNat_ofNat_of_lt']
  exact hbounds.2.trans_lt (by decide)

theorem isDigit_of_mem_decimalText {number : ℕ} {byte : UInt8}
    (h : byte ∈ decimalText number) : isDigit byte = true := by
  rw [decimalText_natCast, List.mem_map] at h
  obtain ⟨digit, hmem, rfl⟩ := h
  have hdigit := Nat.isDigit_of_mem_toDigits (by decide) (by decide) hmem
  obtain ⟨hlow, hhigh, hbyte⟩ := digit_toNat hdigit
  simp only [isDigit, Bool.and_eq_true, decide_eq_true_eq, UInt8.le_iff_toNat_le,
    hbyte]
  exact ⟨hlow, hhigh⟩

theorem foldl_digits {digits : List Char} (h : ∀ digit ∈ digits, digit.isDigit)
    (start : ℕ) :
    (digits.map fun digit => digit.toNat.toUInt8).foldl
        (fun value digit => 10 * value + (digit - 0x30).toNat) start =
      Nat.ofDigitChars 10 digits start := by
  induction digits generalizing start with
  | nil => rfl
  | cons digit digits ih =>
      obtain ⟨hlow, hhigh, hbyte⟩ := digit_toNat (h digit List.mem_cons_self)
      have hvalue : (digit.toNat.toUInt8 - 0x30).toNat = digit.toNat - 48 := by
        rw [UInt8.toNat_sub_of_le, hbyte]
        · rfl
        · rw [UInt8.le_iff_toNat_le, hbyte]
          exact hlow
      rw [List.map_cons, List.foldl_cons, hvalue, Nat.ofDigitChars_cons]
      exact ih (fun other hother => h other (List.mem_cons_of_mem _ hother)) _

theorem digitsValue_decimalText (number : ℕ) :
    digitsValue (decimalText number) = number := by
  have hdigits : ∀ digit ∈ Nat.toDigits 10 number, digit.isDigit :=
    fun digit hmem => Nat.isDigit_of_mem_toDigits (by decide) (by decide) hmem
  rw [decimalText_natCast, digitsValue, foldl_digits hdigits,
    Nat.ofDigitChars_ten_toDigits]

theorem fromChars_decimalText {number limit : ℕ} (h : number < limit) :
    fromCharsBelow limit (decimalText number) = some number := by
  have hall : (decimalText number).all isDigit = true :=
    List.all_eq_true.mpr fun _ hmem => isDigit_of_mem_decimalText hmem
  rw [fromCharsBelow, digitsValue_decimalText,
    if_pos ⟨decimalText_ne_nil number, hall, h⟩]

theorem not_mem_decimalText {number : ℕ} {mark : UInt8}
    (h : isDigit mark = false) : mark ∉ decimalText number := by
  intro hmem
  rw [isDigit_of_mem_decimalText hmem] at h
  exact absurd h.symm Bool.false_ne_true

/-! ## Names -/

theorem takeWhile_append_mark {mark : UInt8} {before : ByteText}
    (h : mark ∉ before) (after : ByteText) :
    (before ++ mark :: after).takeWhile (· ≠ mark) = before := by
  rw [List.takeWhile_append_of_pos]
  · simp
  · intro byte hbyte
    simpa using fun heq : byte = mark => h (heq ▸ hbyte)

/-- The text before its first colon is a number, as a reader of the text has it. -/
def LooksQualified (name : ByteText) : Prop :=
  ∃ digits rest index, name = digits ++ 0x3a :: rest ∧ 0x3a ∉ digits ∧
    fromCharsBelow (2 ^ 32) digits = some index

theorem decodeQualifiedName_append {digits rest : ByteText}
    (h : 0x3a ∉ digits) :
    decodeQualifiedName (.string (digits ++ 0x3a :: rest)) =
      .ok ((fromCharsBelow (2 ^ 32) digits).elim
        { name := digits ++ 0x3a :: rest }
        fun index => { name := rest, namespaceIndex := .ofNat index }) := by
  have hlength : ¬ digits.length = (digits ++ 0x3a :: rest).length := by
    rw [List.length_append, List.length_cons]
    omega
  have hdrop : (digits ++ 0x3a :: rest).drop (digits.length + 1) = rest := by
    rw [List.drop_append]
    simp
  have hdigits := takeWhile_append_mark h rest
  have hbehind : ¬ ((digits ++ 0x3a :: rest).takeWhile (· ≠ 0x3a)).length =
      (digits ++ 0x3a :: rest).length := by
    rw [hdigits]
    exact hlength
  refine (if_neg hbehind).trans ?_
  rw [hdigits, hdrop]
  cases fromCharsBelow (2 ^ 32) digits <;> rfl

theorem decodeQualifiedName_plain {text : ByteText} (h : 0x3a ∉ text) :
    decodeQualifiedName (.string text) = .ok { name := text } := by
  have hall : text.takeWhile (· ≠ 0x3a) = text := by
    rw [List.takeWhile_eq_self_iff]
    intro byte hbyte
    simpa using fun heq : byte = 0x3a => h (heq ▸ hbyte)
  have hlength : (text.takeWhile (· ≠ 0x3a)).length = text.length := by rw [hall]
  exact if_pos hlength

/-- A name in namespace zero returns unless it looks qualified. -/
theorem plainName_returns_iff (name : ByteText) :
    decodeQualifiedName (.string name) = .ok { name } ↔ ¬ LooksQualified name := by
  by_cases hcolon : 0x3a ∈ name
  · obtain ⟨digits, rest, rfl, hfirst⟩ := List.eq_append_cons_of_mem hcolon
    rw [decodeQualifiedName_append hfirst]
    cases hindex : fromCharsBelow (2 ^ 32) digits with
    | none =>
        refine iff_of_true rfl ?_
        rintro ⟨other, rest', index, heq, hother, hnumber⟩
        have hsame : digits = other := by
          have htake := congrArg (List.takeWhile (· ≠ 0x3a)) heq
          rwa [takeWhile_append_mark hfirst, takeWhile_append_mark hother] at htake
        rw [hsame, hnumber] at hindex
        cases hindex
    | some index =>
        refine iff_of_false (fun hsame => ?_) fun hplain => hplain
          ⟨digits, rest, index, rfl, hfirst, hindex⟩
        have hname := congrArg QualifiedName.name (Except.ok.inj hsame)
        have hlength := congrArg List.length hname
        simp only [Option.elim_some, List.length_append, List.length_cons] at hlength
        omega
  · rw [decodeQualifiedName_plain hcolon]
    refine iff_of_true rfl ?_
    rintro ⟨digits, rest, index, rfl, -, -⟩
    exact hcolon (List.mem_append_right _ List.mem_cons_self)

/-- A QualifiedName comes back from its text exactly if it has a namespace other than
zero, or a name which does not look qualified. -/
theorem qualifiedName_returns_iff (value : QualifiedName) :
    decodeQualifiedName (encodeQualifiedName value) = .ok value ↔
      value.namespaceIndex ≠ 0 ∨ ¬ LooksQualified value.name := by
  obtain ⟨name, ns⟩ := value
  by_cases hns : ns = 0
  · subst hns
    rw [encodeQualifiedName, if_pos rfl]
    simpa using plainName_returns_iff name
  · refine iff_of_true ?_ (.inl hns)
    have hcolon : 0x3a ∉ decimalText ns.toNat := not_mem_decimalText (by decide)
    have hlimit : ns.toNat < 2 ^ 32 := ns.toNat_lt.trans (by norm_num)
    rw [encodeQualifiedName, if_neg hns, List.append_assoc]
    refine (decodeQualifiedName_append hcolon).trans ?_
    rw [fromChars_decimalText hlimit, Option.elim_some, UInt16.ofNat_toNat]
    rfl

/-- A plain name which comes back in namespace 5. -/
theorem numberedName_not_returned :
    decodeQualifiedName (encodeQualifiedName { name := asciiText "5:x" }) =
        .ok { name := asciiText "x", namespaceIndex := 5 } ∧
      decodeQualifiedName (encodeQualifiedName { name := asciiText "5:x" }) ≠
        .ok { name := asciiText "5:x" } := by
  have hdecoded :
      decodeQualifiedName (encodeQualifiedName { name := asciiText "5:x" }) =
        .ok { name := asciiText "x", namespaceIndex := 5 } := rfl
  refine ⟨hdecoded, fun hsame => ?_⟩
  rw [hdecoded] at hsame
  exact absurd (Except.ok.inj hsame) (by decide)

end Json
end OpcuaStack
