import Mathlib.Data.List.DropRight
import Mathlib.Tactic
import OpcuaStack.BuiltInTypes

/-!
# Base64

`base/base64.h` over the codec of Beast, which is a parameter: what it writes, and
what it reads together with the number of characters it took.  The reader stops at
the first character which is outside of the alphabet, the padding included.

`standard` is the codec with the usual alphabet.  It takes three bytes for four
characters and leaves a rest of one or two bytes in two or three.
-/

namespace OpcuaStack

/-- The functions of Beast: the padded text of some bytes, and the bytes of a text
with the number of characters which were read for them. -/
structure Base64 where
  encode : ByteString → ByteText
  decode : ByteText → ByteString × ℕ

namespace Base64

def padding : UInt8 := 0x3d

/-- The text up to the last character which is no padding. -/
def unpadded (text : ByteText) : ByteText := text.rdropWhile (· == padding)

/-- `Base64Decode`. -/
def ofText (base64 : Base64) (text : ByteText) : Option ByteString :=
  if (base64.decode (unpadded text)).2 ≠ (unpadded text).length then none
  else some (base64.decode (unpadded text)).1

/-- Decoding without the padding reads all of it, and gives the bytes. -/
def Inverts (base64 : Base64) (bytes : ByteString) : Prop :=
  base64.decode (unpadded (base64.encode bytes)) =
    (bytes, (unpadded (base64.encode bytes)).length)

theorem Inverts.ofText {base64 : Base64} {bytes : ByteString}
    (h : base64.Inverts bytes) : base64.ofText (base64.encode bytes) = some bytes := by
  rw [Base64.ofText, h, if_neg (not_not.mpr rfl)]

theorem unpadded_append {text : ByteText} (h : padding ∉ text) (count : ℕ) :
    unpadded (text ++ List.replicate count padding) = text := by
  induction count with
  | zero =>
      rw [List.replicate_zero, List.append_nil, unpadded, List.rdropWhile_eq_self_iff]
      intro hne hlast
      exact h (eq_of_beq hlast ▸ List.getLast_mem hne)
  | succ count ih =>
      rw [List.replicate_succ', ← List.append_assoc, unpadded,
        List.rdropWhile_concat_pos (fun byte => byte == padding) _ _
          (beq_self_eq_true padding)]
      exact ih

/-! ## The standard codec -/

/-- The character of six bits. -/
def character (sextet : ℕ) : UInt8 :=
  if sextet < 26 then (0x41 + sextet).toUInt8
  else if sextet < 52 then (0x61 + (sextet - 26)).toUInt8
  else if sextet < 62 then (0x30 + (sextet - 52)).toUInt8
  else if sextet = 62 then 0x2b
  else 0x2f

def ofCharacter (byte : UInt8) : Option ℕ :=
  if 0x41 ≤ byte ∧ byte ≤ 0x5a then some (byte - 0x41).toNat
  else if 0x61 ≤ byte ∧ byte ≤ 0x7a then some ((byte - 0x61).toNat + 26)
  else if 0x30 ≤ byte ∧ byte ≤ 0x39 then some ((byte - 0x30).toNat + 52)
  else if byte = 0x2b then some 62
  else if byte = 0x2f then some 63
  else none

/-- Six bits at a time. -/
def sextets : ByteString → List ℕ
  | a :: b :: c :: rest =>
      a.toNat / 4 :: (a.toNat % 4 * 16 + b.toNat / 16) ::
        (b.toNat % 16 * 4 + c.toNat / 64) :: c.toNat % 64 :: sextets rest
  | [a, b] =>
      [a.toNat / 4, a.toNat % 4 * 16 + b.toNat / 16, b.toNat % 16 * 4]
  | [a] => [a.toNat / 4, a.toNat % 4 * 16]
  | [] => []

def bytesOf : List ℕ → ByteString
  | w :: x :: y :: z :: rest =>
      .ofNat (w * 4 + x / 16) :: .ofNat (x % 16 * 16 + y / 4) ::
        .ofNat (y % 4 * 64 + z) :: bytesOf rest
  | [w, x, y] => [.ofNat (w * 4 + x / 16), .ofNat (x % 16 * 16 + y / 4)]
  | [w, x] => [.ofNat (w * 4 + x / 16)]
  | _ => []

def standard : Base64 where
  encode bytes :=
    (sextets bytes).map character ++
      List.replicate ((3 - bytes.length % 3) % 3) padding
  decode text :=
    let known := text.takeWhile fun byte => (ofCharacter byte).isSome
    (bytesOf (known.filterMap ofCharacter), known.length)

theorem ofCharacter_character : ∀ sextet < 64,
    ofCharacter (character sextet) = some sextet := by
  decide

theorem ofNat_eq_of_toNat {number : ℕ} (byte : UInt8) (h : number = byte.toNat) :
    UInt8.ofNat number = byte := by
  rw [h, UInt8.ofNat_toNat]

theorem bytesOf_sextets (bytes : ByteString) : bytesOf (sextets bytes) = bytes := by
  induction bytes using sextets.induct with
  | case1 a b c rest ih =>
      rw [sextets, bytesOf, ih]
      have ha := a.toNat_lt
      have hb := b.toNat_lt
      have hc := c.toNat_lt
      rw [ofNat_eq_of_toNat a (by omega),
        ofNat_eq_of_toNat b (by omega),
        ofNat_eq_of_toNat c (by omega)]
  | case2 a b =>
      have ha := a.toNat_lt
      have hb := b.toNat_lt
      rw [sextets, bytesOf, ofNat_eq_of_toNat a (by omega),
        ofNat_eq_of_toNat b (by omega)]
  | case3 a =>
      have ha := a.toNat_lt
      rw [sextets, bytesOf, ofNat_eq_of_toNat a (by omega)]
  | case4 => rfl

theorem sextet_lt {bytes : ByteString} : ∀ sextet ∈ sextets bytes, sextet < 64 := by
  induction bytes using sextets.induct with
  | case1 a b c rest ih =>
      have ha := a.toNat_lt
      have hb := b.toNat_lt
      have hc := c.toNat_lt
      simp only [sextets, List.forall_mem_cons]
      exact ⟨by omega, by omega, by omega, by omega, ih⟩
  | case2 a b =>
      have ha := a.toNat_lt
      have hb := b.toNat_lt
      simp only [sextets, List.forall_mem_cons]
      exact ⟨by omega, by omega, by omega, List.forall_mem_nil _⟩
  | case3 a =>
      have ha := a.toNat_lt
      simp only [sextets, List.forall_mem_cons]
      exact ⟨by omega, by omega, List.forall_mem_nil _⟩
  | case4 => exact List.forall_mem_nil _

theorem padding_notMem {list : List ℕ} (h : ∀ sextet ∈ list, sextet < 64) :
    padding ∉ list.map character := by
  intro hmem
  obtain ⟨sextet, hsextet, hcharacter⟩ := List.mem_map.mp hmem
  have hknown := ofCharacter_character sextet (h sextet hsextet)
  rw [hcharacter] at hknown
  cases hknown

theorem filterMap_character {list : List ℕ} (h : ∀ sextet ∈ list, sextet < 64) :
    (list.map character).filterMap ofCharacter = list := by
  rw [List.filterMap_map]
  induction list with
  | nil => rfl
  | cons sextet rest ih =>
      have hhead := ofCharacter_character sextet (h sextet List.mem_cons_self)
      have htail := ih fun other hother => h other (List.mem_cons_of_mem _ hother)
      rw [List.filterMap_cons, Function.comp_apply, hhead, htail]

theorem takeWhile_character {list : List ℕ} (h : ∀ sextet ∈ list, sextet < 64) :
    (list.map character).takeWhile (fun byte => (ofCharacter byte).isSome) =
      list.map character := by
  rw [List.takeWhile_eq_self_iff]
  intro byte hbyte
  obtain ⟨sextet, hsextet, rfl⟩ := List.mem_map.mp hbyte
  rw [ofCharacter_character sextet (h sextet hsextet)]
  rfl

theorem standard_inverts (bytes : ByteString) : standard.Inverts bytes := by
  have hunpadded : unpadded (standard.encode bytes) = (sextets bytes).map character :=
    unpadded_append (padding_notMem sextet_lt) _
  rw [Inverts, hunpadded]
  simp only [standard, takeWhile_character sextet_lt, filterMap_character sextet_lt,
    bytesOf_sextets]

theorem not_mem_standard (bytes : ByteString) : 0 ∉ standard.encode bytes := by
  intro hmem
  obtain hmem | hmem := List.mem_append.mp hmem
  · obtain ⟨sextet, hsextet, hcharacter⟩ := List.mem_map.mp hmem
    have hknown := ofCharacter_character sextet (sextet_lt sextet hsextet)
    rw [hcharacter] at hknown
    cases hknown
  · exact absurd (List.eq_of_mem_replicate hmem) (by decide)

end Base64

end OpcuaStack
