import OpcuaStack.Base64
import OpcuaStack.BufferAccess

/-!
# The buffer of the base64 reader

`Base64Decode` of `base/base64.h` with the buffer which it decodes into.  The buffer has
room for the whole groups of four characters of the padded text, while the decoder also
writes the bytes of a group which is not whole.  What the bytes of a text are is told by
its bits.
-/

namespace OpcuaStack

/-! ## Bits -/

/-- The lowest bits of a number, the most significant first. -/
def bits : ℕ → ℕ → List Bool
  | 0, _ => []
  | width + 1, number => number.testBit width :: bits width number

theorem bits_congr {width number other : ℕ}
    (h : ∀ i < width, number.testBit i = other.testBit i) :
    bits width number = bits width other := by
  induction width with
  | zero => rfl
  | succ width ih =>
      rw [bits, bits, h width (Nat.lt_succ_self width),
        ih fun i hi => h i (Nat.lt_succ_of_lt hi)]

@[simp] theorem length_bits (width number : ℕ) : (bits width number).length = width := by
  induction width with
  | zero => rfl
  | succ width ih => rw [bits, List.length_cons, ih]

theorem bits_add (high low number : ℕ) :
    bits (high + low) number = bits high (number / 2 ^ low) ++ bits low (number % 2 ^ low) := by
  induction high with
  | zero =>
      rw [Nat.zero_add]
      refine bits_congr fun i hi => ?_
      rw [Nat.testBit_mod_two_pow, decide_eq_true hi, Bool.true_and]
  | succ high ih =>
      rw [Nat.succ_add, bits, bits, ih, Nat.testBit_div_two_pow]
      rfl

theorem bits_join {high low upper lower : ℕ} (h : lower < 2 ^ low) :
    bits (high + low) (upper * 2 ^ low + lower) = bits high upper ++ bits low lower := by
  have hdiv : (upper * 2 ^ low + lower) / 2 ^ low = upper := by
    rw [Nat.add_comm, Nat.add_mul_div_right _ _ (by positivity), Nat.div_eq_of_lt h, Nat.zero_add]
  have hmod : (upper * 2 ^ low + lower) % 2 ^ low = lower := by
    rw [Nat.add_comm, Nat.add_mul_mod_self_right, Nat.mod_eq_of_lt h]
  rw [bits_add, hdiv, hmod]

namespace Base64

/-- The bytes of some sextets: their bits in order, of which less than a sextet is left. -/
def IsDecoding (sextets : List ℕ) (bytes : ByteString) : Prop :=
  ∃ rest : List Bool, rest.length < 6 ∧
    sextets.flatMap (bits 6) = bytes.flatMap (fun byte => bits 8 byte.toNat) ++ rest

theorem bits_byte {high low upper lower : ℕ} (hwidth : high + low = 8)
    (hupper : upper < 2 ^ high) (hlower : lower < 2 ^ low) :
    bits 8 (UInt8.ofNat (upper * 2 ^ low + lower)).toNat = bits high upper ++ bits low lower := by
  have hlt : upper * 2 ^ low + lower < 2 ^ 8 := by
    calc
      upper * 2 ^ low + lower < upper * 2 ^ low + 2 ^ low := by omega
      _ = (upper + 1) * 2 ^ low := by ring
      _ ≤ 2 ^ high * 2 ^ low := Nat.mul_le_mul_right _ hupper
      _ = 2 ^ 8 := by rw [← pow_add, hwidth]
  rw [UInt8.toNat_ofNat_of_lt' hlt, ← hwidth]
  exact bits_join hlower

section Group

variable {w x y z : ℕ}

theorem bits_first (hw : w < 64) (hx : x < 64) :
    bits 8 (UInt8.ofNat (w * 4 + x / 16)).toNat = bits 6 w ++ bits 2 (x / 16) :=
  @bits_byte 6 2 w (x / 16) rfl hw (Nat.div_lt_of_lt_mul hx)

theorem bits_second (x : ℕ) (hy : y < 64) :
    bits 8 (UInt8.ofNat (x % 16 * 16 + y / 4)).toNat = bits 4 (x % 16) ++ bits 4 (y / 4) :=
  @bits_byte 4 4 (x % 16) (y / 4) rfl (Nat.mod_lt x (by norm_num)) (Nat.div_lt_of_lt_mul hy)

theorem bits_third (y : ℕ) (hz : z < 64) :
    bits 8 (UInt8.ofNat (y % 4 * 64 + z)).toNat = bits 2 (y % 4) ++ bits 6 z :=
  @bits_byte 2 6 (y % 4) z rfl (Nat.mod_lt y (by norm_num)) hz

end Group

theorem eq_nil_or_singleton {list : List ℕ}
    (hfour : ∀ w x y z rest, list = w :: x :: y :: z :: rest → False)
    (hthree : ∀ w x y, list = [w, x, y] → False) (htwo : ∀ w x, list = [w, x] → False) :
    list = [] ∨ ∃ sextet, list = [sextet] := by
  rcases list with _ | ⟨w, _ | ⟨x, _ | ⟨y, _ | ⟨z, rest⟩⟩⟩⟩
  · exact Or.inl rfl
  · exact Or.inr ⟨w, rfl⟩
  · exact (htwo w x rfl).elim
  · exact (hthree w x y rfl).elim
  · exact (hfour w x y z rest rfl).elim

/-- The bytes which are written for some sextets are theirs, unless one sextet is over. -/
theorem bytesOf_isDecoding {list : List ℕ} (h : ∀ sextet ∈ list, sextet < 64)
    (hlength : list.length % 4 ≠ 1) : IsDecoding list (bytesOf list) := by
  induction list using bytesOf.induct with
  | case1 w x y z tail ih =>
      simp only [List.forall_mem_cons] at h
      obtain ⟨hw, hx, hy, hz, htail⟩ := h
      have hsame : (w :: x :: y :: z :: tail).length % 4 = tail.length % 4 :=
        Nat.add_mod_right tail.length 4
      obtain ⟨rest, hrest, hbits⟩ := ih htail (hsame ▸ hlength)
      refine ⟨rest, hrest, ?_⟩
      rw [bytesOf]
      simp only [List.flatMap_cons, hbits]
      rw [bits_first hw hx, bits_second x hy, bits_third y hz, bits_add 2 4 x, bits_add 4 2 y]
      simp only [List.append_assoc]
      rfl
  | case2 w x y =>
      simp only [List.forall_mem_cons] at h
      obtain ⟨hw, hx, hy, -⟩ := h
      refine ⟨bits 2 (y % 4), by rw [length_bits]; norm_num, ?_⟩
      rw [bytesOf]
      simp only [List.flatMap_cons, List.flatMap_nil]
      rw [bits_first hw hx, bits_second x hy, bits_add 2 4 x, bits_add 4 2 y]
      simp only [List.append_assoc, List.append_nil]
      rfl
  | case3 w x =>
      simp only [List.forall_mem_cons] at h
      obtain ⟨hw, hx, -⟩ := h
      refine ⟨bits 4 (x % 16), by rw [length_bits]; norm_num, ?_⟩
      rw [bytesOf]
      simp only [List.flatMap_cons, List.flatMap_nil]
      rw [bits_first hw hx, bits_add 2 4 x]
      simp only [List.append_assoc, List.append_nil]
      rfl
  | case4 list hfour hthree htwo =>
      obtain rfl | ⟨sextet, rfl⟩ := eq_nil_or_singleton hfour hthree htwo
      · exact ⟨[], by norm_num, rfl⟩
      · exact absurd rfl hlength

theorem length_of_isDecoding {list : List ℕ} {bytes : ByteString}
    (h : IsDecoding list bytes) : list.length % 4 ≠ 1 := by
  obtain ⟨rest, hrest, hbits⟩ := h
  have hlengths := congrArg List.length hbits
  rw [List.length_append, List.length_flatMap, List.length_flatMap] at hlengths
  simp only [length_bits, List.map_const', List.sum_replicate, smul_eq_mul] at hlengths
  omega

theorem length_bytesOf (list : List ℕ) :
    (bytesOf list).length = list.length / 4 * 3 + (list.length % 4 - 1) := by
  induction list using bytesOf.induct with
  | case1 w x y z rest ih =>
      rw [bytesOf]
      simp only [List.length_cons, ih]
      omega
  | case2 w x y => simp [bytesOf]
  | case3 w x => simp [bytesOf]
  | case4 list hfour hthree htwo =>
      obtain rfl | ⟨sextet, rfl⟩ := eq_nil_or_singleton hfour hthree htwo
      · rfl
      · simp [bytesOf]

/-! ## The buffer -/

/-- `b64::decoded_size`. -/
def decodedSize (length : ℕ) : ℕ := length / 4 * 3

/-- `Base64Decode` with the buffer it decodes into.  A byte behind the end is a fault. -/
def ofTextInto (base64 : Base64) (text : ByteText) : Access ByteString :=
  let size := decodedSize text.length
  let (bytes, read) := base64.decode (unpadded text)
  if size < bytes.length then .fault
  else if read ≠ (unpadded text).length then .refused
  else .value bytes

/-- The characters of the alphabet in front. -/
def known (text : ByteText) : ByteText :=
  text.takeWhile fun byte => (ofCharacter byte).isSome

/-- What is relied on of the decoder of Beast: it reads the characters in front which are
of the alphabet, says how many these are, and writes their bytes. -/
structure DecodesKnown (base64 : Base64) : Prop where
  read : ∀ text, (base64.decode text).2 = (known text).length
  written : ∀ text, (base64.decode text).1 = bytesOf ((known text).filterMap ofCharacter)

theorem standard_decodesKnown : standard.DecodesKnown :=
  ⟨fun _ => rfl, fun _ => rfl⟩

/-- What is asked of it: nothing is written behind the end, and what is returned is what
the text without its padding stands for. -/
structure DecodesSafely (base64 : Base64) (text : ByteText) : Prop where
  within : base64.ofTextInto text ≠ .fault
  exact : ∀ bytes, base64.ofTextInto text = .value bytes →
    ∃ sextets, (unpadded text).map ofCharacter = sextets.map some ∧ IsDecoding sextets bytes

theorem ofCharacter_lt {byte : UInt8} {sextet : ℕ} (h : ofCharacter byte = some sextet) :
    sextet < 64 := by
  have hbelow : ∀ {low high : UInt8}, low ≤ byte ∧ byte ≤ high →
      (byte - low).toNat ≤ (high - low).toNat := by
    rintro low high ⟨hlow, hhigh⟩
    rw [UInt8.toNat_sub_of_le _ _ hlow, UInt8.toNat_sub_of_le _ _ (UInt8.le_trans hlow hhigh)]
    exact Nat.sub_le_sub_right hhigh _
  unfold ofCharacter at h
  split at h
  next hupper =>
    cases h
    exact (hbelow hupper).trans_lt (by decide)
  next =>
    split at h
    next hlower =>
      cases h
      exact (Nat.add_le_add_right (hbelow hlower) 26).trans_lt (by decide)
    next =>
      split at h
      next hdigit =>
        cases h
        exact (Nat.add_le_add_right (hbelow hdigit) 52).trans_lt (by decide)
      next =>
        split at h
        next =>
          cases h
          norm_num
        next =>
          split at h
          next =>
            cases h
            norm_num
          next => cases h

theorem map_known (text : ByteText) :
    (known text).map ofCharacter = ((known text).filterMap ofCharacter).map some := by
  have hall : ∀ byte ∈ known text, (ofCharacter byte).isSome = true := fun byte hbyte =>
    List.mem_takeWhile_imp (p := fun byte => (ofCharacter byte).isSome) hbyte
  generalize known text = list at hall ⊢
  induction list with
  | nil => rfl
  | cons byte rest ih =>
      obtain ⟨sextet, hsextet⟩ := Option.isSome_iff_exists.mp (hall byte List.mem_cons_self)
      rw [List.map_cons, List.filterMap_cons_some hsextet, List.map_cons, hsextet,
        ih fun other hother => hall other (List.mem_cons_of_mem _ hother)]

theorem length_filterMap_known (text : ByteText) :
    ((known text).filterMap ofCharacter).length = (known text).length := by
  have h := congrArg List.length (map_known text)
  rw [List.length_map, List.length_map] at h
  exact h.symm

theorem length_known_le (text : ByteText) : (known (unpadded text)).length ≤ text.length :=
  (List.takeWhile_prefix _).length_le.trans (List.rdropWhile_prefix _ _).length_le

section

variable {base64 : Base64} (hbeast : base64.DecodesKnown) (text : ByteText)

include hbeast

theorem within_iff : base64.ofTextInto text ≠ .fault ↔
    (known (unpadded text)).length % 4 ≤ 1 ∨
      (known (unpadded text)).length / 4 < text.length / 4 := by
  have hle := length_known_le text
  have hwritten : (base64.decode (unpadded text)).1.length =
      (known (unpadded text)).length / 4 * 3 + ((known (unpadded text)).length % 4 - 1) := by
    rw [hbeast.written, length_bytesOf, length_filterMap_known]
  have hfault : base64.ofTextInto text = .fault ↔
      decodedSize text.length < (base64.decode (unpadded text)).1.length := by
    unfold ofTextInto
    dsimp only
    split
    next hsize => exact iff_of_true rfl hsize
    next hsize =>
      refine iff_of_false ?_ hsize
      split <;> exact nofun
  rw [ne_eq, hfault, hwritten, decodedSize]
  omega

theorem ofTextInto_eq_value_iff (hwithin : base64.ofTextInto text ≠ .fault)
    (bytes : ByteString) : base64.ofTextInto text = .value bytes ↔
      known (unpadded text) = unpadded text ∧
        bytesOf ((known (unpadded text)).filterMap ofCharacter) = bytes := by
  have hwhole : (known (unpadded text)).length = (unpadded text).length ↔
      known (unpadded text) = unpadded text :=
    ⟨(List.takeWhile_prefix _).eq_of_length, congrArg List.length⟩
  unfold ofTextInto at hwithin ⊢
  dsimp only at hwithin ⊢
  split at hwithin
  next => exact absurd rfl hwithin
  next hsize =>
    rw [if_neg hsize, hbeast.read, hbeast.written, ← hwhole]
    split
    next hshort => exact iff_of_false nofun fun h => hshort h.1
    next hread => rw [Access.value.injEq, and_iff_right (not_not.mp hread)]

/-- The reader is safe and exact if and only if the characters in front are whole groups,
one more at most, or the padding makes room for a further group; and they are not all of
the text with one over. -/
theorem decodesSafely_iff : base64.DecodesSafely text ↔
    ((known (unpadded text)).length % 4 ≤ 1 ∨
        (known (unpadded text)).length / 4 < text.length / 4) ∧
      ¬(known (unpadded text) = unpadded text ∧ (unpadded text).length % 4 = 1) := by
  rw [← within_iff hbeast]
  constructor
  · rintro ⟨hwithin, hexact⟩
    refine ⟨hwithin, ?_⟩
    rintro ⟨hwhole, hone⟩
    obtain ⟨sextets, hmap, hdecoding⟩ := hexact _
      ((ofTextInto_eq_value_iff hbeast text hwithin _).mpr ⟨hwhole, rfl⟩)
    have hlength := congrArg List.length hmap
    rw [List.length_map, List.length_map] at hlength
    exact length_of_isDecoding hdecoding (hlength ▸ hone)
  · rintro ⟨hwithin, hover⟩
    refine ⟨hwithin, fun bytes hread => ?_⟩
    obtain ⟨hwhole, rfl⟩ := (ofTextInto_eq_value_iff hbeast text hwithin bytes).mp hread
    refine ⟨(known (unpadded text)).filterMap ofCharacter, ?_, bytesOf_isDecoding ?_ ?_⟩
    · rw [← map_known, hwhole]
    · intro sextet hsextet
      obtain ⟨byte, -, hbyte⟩ := List.mem_filterMap.mp hsextet
      exact ofCharacter_lt hbyte
    · rw [length_filterMap_known]
      exact fun hone => hover ⟨hwhole, hwhole ▸ hone⟩

end

/-- Three characters with the padding of their group. -/
theorem padded_decodesSafely : standard.DecodesSafely (asciiText "QUI=") := by
  have hknown : known (unpadded (asciiText "QUI=")) = asciiText "QUI" := by decide
  refine (decodesSafely_iff standard_decodesKnown (asciiText "QUI=")).mpr ?_
  rw [hknown]
  exact ⟨Or.inr (by decide), by decide⟩

/-- Without the padding there is no room for the two bytes; and one character is read as
no bytes. -/
theorem unpadded_overruns :
    standard.ofTextInto (asciiText "QUI") = .fault ∧
      ¬standard.DecodesSafely (asciiText "QUI") ∧
      standard.ofTextInto (asciiText "Q") = .value [] ∧
      ¬standard.DecodesSafely (asciiText "Q") := by
  have hfault : standard.ofTextInto (asciiText "QUI") = .fault := by decide
  have hread : standard.ofTextInto (asciiText "Q") = .value [] := by decide
  refine ⟨hfault, fun h => h.within hfault, hread, fun h => ?_⟩
  obtain ⟨sextets, hmap, hdecoding⟩ := h.exact [] hread
  have hlength := congrArg List.length hmap
  rw [List.length_map, List.length_map] at hlength
  exact length_of_isDecoding hdecoding (hlength ▸ (by decide))

end Base64
end OpcuaStack
