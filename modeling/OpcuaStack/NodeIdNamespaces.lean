import OpcuaStack.NodeIdText

/-!
# The namespace of a NodeId in text

What `NodeId::FromString` makes of a text with an explicit namespace.  The number in front
of the semicolon is read in 32 bits, and its low 16 bits are the index.
-/

namespace OpcuaStack

/-- The digits of a decimal number. -/
def WritesNumber (digits : ByteText) (number : ℕ) : Prop :=
  digits ≠ [] ∧ digits.all Json.isDigit = true ∧ Json.digitsValue digits = number

theorem parseUnsigned_eq_some_iff {digits : ByteText} {number : ℕ} :
    parseUnsigned digits = some number ↔ WritesNumber digits number ∧ number < 2 ^ 32 := by
  unfold parseUnsigned Json.fromCharsBelow WritesNumber
  constructor
  · intro h
    split at h
    next hread =>
      obtain rfl := Option.some.inj h
      exact ⟨⟨hread.1, hread.2.1, rfl⟩, hread.2.2⟩
    next => cases h
  · rintro ⟨⟨hne, hdigits, rfl⟩, hlt⟩
    exact if_pos ⟨hne, hdigits, hlt⟩

/-! ## The identifier -/

section Identifier

variable (base64 : Base64)

/-- An identifier which its letter announces and whose text is of no such kind. -/
def UnreadableIdentifier (text : ByteText) : Prop :=
  istartsWith text "i=" = true ∧ parseUnsigned (text.drop 2) = none ∨
    istartsWith text "g=" = true ∧ Guid.ofText (text.drop 2) = none ∨
    istartsWith text "b=" = true ∧ base64.ofText (text.drop 2) = none

variable {base64}

theorem istartsWith_unique {text : ByteText} {mark other : String}
    (h : istartsWith text mark = true) (hother : istartsWith text other = true)
    (hlength : mark.length = other.length) : asciiText mark = asciiText other := by
  unfold istartsWith at h hother
  rw [← beq_iff_eq.mp h, ← beq_iff_eq.mp hother, hlength]

theorem exists_identifier {text : ByteText} (h : ¬UnreadableIdentifier base64 text) :
    ∃ identifier, (∀ ns, NodeId.ofIdentifierText base64 ns text = ⟨identifier, ns⟩) ∧
      ∀ id : UInt32, identifier = .numeric id ↔
        istartsWith text "i=" = true ∧ parseUnsigned (text.drop 2) = some id.toNat := by
  unfold UnreadableIdentifier at h
  rw [not_or, not_or] at h
  obtain ⟨hnumeric, hguid, hbytes⟩ := h
  unfold NodeId.ofIdentifierText
  by_cases hi : istartsWith text "i=" = true
  · obtain ⟨id, hid⟩ := Option.ne_none_iff_exists'.mp fun hnone => hnumeric ⟨hi, hnone⟩
    have hheld : (UInt32.ofNat id).toNat = id :=
      UInt32.toNat_ofNat_of_lt (parseUnsigned_eq_some_iff.mp hid).2
    refine ⟨.numeric (.ofNat id), fun ns => by rw [if_pos hi, hid]; rfl, fun other => ?_⟩
    rw [hid, and_iff_right hi, NodeIdentifier.numeric.injEq, Option.some.injEq,
      ← UInt32.toNat_inj, hheld]
  have hother : ∀ {identifier : NodeIdentifier}, (∀ id, identifier ≠ .numeric id) →
      ∀ id : UInt32, identifier = .numeric id ↔
        istartsWith text "i=" = true ∧ parseUnsigned (text.drop 2) = some id.toNat :=
    fun hne id => iff_of_false (hne id) fun hboth => hi hboth.1
  by_cases hs : istartsWith text "s=" = true
  · exact ⟨.string (text.drop 2), fun ns => by rw [if_neg hi, if_pos hs], hother nofun⟩
  by_cases hg : istartsWith text "g=" = true
  · obtain ⟨id, hid⟩ := Option.ne_none_iff_exists'.mp fun hnone => hguid ⟨hg, hnone⟩
    exact ⟨.guid id, fun ns => by rw [if_neg hi, if_neg hs, if_pos hg, hid]; rfl, hother nofun⟩
  by_cases hb : istartsWith text "b=" = true
  · obtain ⟨id, hid⟩ := Option.ne_none_iff_exists'.mp fun hnone => hbytes ⟨hb, hnone⟩
    exact ⟨.byteString id,
      fun ns => by rw [if_neg hi, if_neg hs, if_neg hg, if_pos hb, hid]; rfl, hother nofun⟩
  · exact ⟨.string text,
      fun ns => by rw [if_neg hi, if_neg hs, if_neg hg, if_neg hb], hother nofun⟩

theorem ofIdentifierText_unreadable {text : ByteText} (h : UnreadableIdentifier base64 text)
    (ns : UInt16) : NodeId.ofIdentifierText base64 ns text = {} := by
  have hdiffer : ∀ {mark : String} (other : String), istartsWith text mark = true →
      mark.length = 2 → other.length = 2 → asciiText mark ≠ asciiText other →
      ¬istartsWith text other = true := fun other hmark hlength hlength' hne hother =>
    hne (istartsWith_unique hmark hother (hlength.trans hlength'.symm))
  unfold NodeId.ofIdentifierText
  rcases h with ⟨hi, hnone⟩ | ⟨hg, hnone⟩ | ⟨hb, hnone⟩
  · rw [if_pos hi, hnone]
    rfl
  · rw [if_neg (hdiffer "i=" hg rfl rfl (by decide)), if_neg (hdiffer "s=" hg rfl rfl (by decide)),
      if_pos hg, hnone]
    rfl
  · rw [if_neg (hdiffer "i=" hb rfl rfl (by decide)), if_neg (hdiffer "s=" hb rfl rfl (by decide)),
      if_neg (hdiffer "g=" hb rfl rfl (by decide)), if_pos hb, hnone]
    rfl

end Identifier

/-! ## The parts of a text -/

/-- A text with an explicit namespace. -/
structure NamespacedText where
  mark : ByteText
  digits : ByteText
  rest : ByteText
  number : ℕ
  isMark : mark.map toLower = asciiText "ns="
  isNumber : WritesNumber digits number

namespace NamespacedText

variable (parts : NamespacedText) {base64 : Base64}

def text : ByteText := (parts.mark ++ parts.digits) ++ 0x3b :: parts.rest

theorem length_mark : parts.mark.length = 3 := by
  rw [← List.length_map (f := toLower), parts.isMark]
  rfl

theorem not_mem_before : 0x3b ∉ parts.mark ++ parts.digits := by
  rw [List.mem_append, not_or]
  constructor
  · intro hmem
    have hlower : toLower 0x3b ∈ parts.mark.map toLower := List.mem_map_of_mem hmem
    rw [parts.isMark] at hlower
    exact absurd hlower (by decide)
  · intro hmem
    exact absurd (List.all_eq_true.mp parts.isNumber.2.1 _ hmem) (by decide)

theorem startsWith_text : istartsWith parts.text "ns=" = true := by
  have htake : parts.text.take 3 = parts.mark := by
    rw [text, List.append_assoc, ← parts.length_mark]
    exact List.take_left
  exact beq_iff_eq.mpr ((congrArg (List.map toLower) htake).trans parts.isMark)

theorem number_unique {other : NamespacedText} (h : parts.text = other.text) :
    parts.number = other.number := by
  have hbefore : parts.mark ++ parts.digits = other.mark ++ other.digits := by
    rw [← Json.takeWhile_append_mark parts.not_mem_before parts.rest,
      ← Json.takeWhile_append_mark other.not_mem_before other.rest]
    exact congrArg _ h
  have hdigits : parts.digits = other.digits :=
    (List.append_inj hbefore (parts.length_mark.trans other.length_mark.symm)).2
  rw [← parts.isNumber.2.2, ← other.isNumber.2.2, hdigits]

theorem ofText_text :
    NodeId.ofText base64 parts.text = (parseUnsigned parts.digits).elim {} fun id =>
      NodeId.ofIdentifierText base64 (.ofNat id) parts.rest := by
  have hempty : ¬parts.text.isEmpty = true := by
    rw [text, List.isEmpty_iff]
    exact List.append_ne_nil_of_right_ne_nil _ (List.cons_ne_nil _ _)
  have hlength : (parts.mark ++ parts.digits).length = parts.digits.length + 3 := by
    rw [List.length_append, parts.length_mark, Nat.add_comm]
  have hdigits : (parts.text.drop 3).take ((parts.mark ++ parts.digits).length - 3) =
      parts.digits := by
    rw [hlength, Nat.add_sub_cancel, text, List.append_assoc, ← parts.length_mark,
      List.drop_left]
    exact List.take_left
  have hrest : parts.text.drop ((parts.mark ++ parts.digits).length + 1) = parts.rest := by
    rw [text, List.drop_append]
    simp
  have hfind : TextScan.find [0x3b] parts.text = some (parts.mark ++ parts.digits).length :=
    TextScan.find_singleton_append parts.rest parts.not_mem_before
  rw [NodeId.ofText, if_neg hempty, if_pos parts.startsWith_text, hfind, Option.elim_some,
    hdigits, hrest]

theorem exists_of_ofText {text : ByteText} (hmark : istartsWith text "ns=" = true)
    (hread : NodeId.ofText base64 text ≠ {}) : ∃ parts : NamespacedText, parts.text = text := by
  have hlower : (text.take 3).map toLower = asciiText "ns=" := beq_iff_eq.mp hmark
  unfold NodeId.ofText at hread
  by_cases hempty : text.isEmpty = true
  · rw [if_pos hempty] at hread
    exact absurd rfl hread
  rw [if_neg hempty, if_pos hmark] at hread
  cases hfind : TextScan.find [0x3b] text with
  | none =>
      rw [hfind] at hread
      exact absurd rfl hread
  | some index =>
      rw [hfind, Option.elim_some] at hread
      obtain ⟨before, after, rfl, hnotin, rfl⟩ := TextScan.cut_of_find_singleton hfind
      -- A semicolon within the mark would still be one in lower case.
      have hlong : 3 ≤ before.length := by
        by_contra hshort
        have hmem : (0x3b : UInt8) ∈ (before ++ 0x3b :: after).take 3 := by
          obtain ⟨room, hroom⟩ := Nat.exists_eq_add_of_lt (not_le.mp hshort)
          rw [hroom, Nat.add_assoc, List.take_length_add_append]
          exact List.mem_append_right _ List.mem_cons_self
        have hin : toLower 0x3b ∈ asciiText "ns=" := hlower ▸ List.mem_map_of_mem hmem
        exact absurd hin (by decide)
      have hnumber : ((before ++ 0x3b :: after).drop 3).take (before.length - 3) =
          before.drop 3 := by
        rw [List.drop_append_of_le_length hlong, ← List.length_drop]
        exact List.take_left
      cases hparsed : parseUnsigned (before.drop 3) with
      | none =>
          rw [hnumber, hparsed] at hread
          exact absurd rfl hread
      | some number =>
          refine ⟨{ mark := before.take 3
                    digits := before.drop 3
                    rest := after
                    number
                    isMark := ?_
                    isNumber := (parseUnsigned_eq_some_iff.mp hparsed).1 }, ?_⟩
          · rw [← hlower, List.take_append_of_le_length hlong]
          · rw [text, List.take_append_drop]

/-! ## What is asked of it -/

/-- The number fits into the index, or nothing is read behind it: the number itself or the
identifier is unreadable, or both halves of the null NodeId are written. -/
def FitsOrUnread (base64 : Base64) : Prop :=
  parts.number < 2 ^ 16 ∨ 2 ^ 32 ≤ parts.number ∨ UnreadableIdentifier base64 parts.rest ∨
    2 ^ 16 ∣ parts.number ∧ istartsWith parts.rest "i=" = true ∧
      WritesNumber (parts.rest.drop 2) 0

end NamespacedText

/-- The numbers of a NodeId are those which are written. -/
def ReadsAsWritten (base64 : Base64) (text : ByteText) : Prop :=
  istartsWith text "ns=" = true → NodeId.ofText base64 text ≠ {} →
    ∃ parts : NamespacedText, parts.text = text ∧
      (NodeId.ofText base64 text).namespaceIndex.toNat = parts.number ∧
      ∀ id : UInt32, (NodeId.ofText base64 text).identifier = .numeric id →
        istartsWith parts.rest "i=" = true ∧ WritesNumber (parts.rest.drop 2) id.toNat

namespace NamespacedText

variable (parts : NamespacedText) {base64 : Base64}

theorem ofText_eq_null (h : 2 ^ 32 ≤ parts.number ∨ UnreadableIdentifier base64 parts.rest) :
    NodeId.ofText base64 parts.text = {} := by
  rw [ofText_text]
  cases hparsed : parseUnsigned parts.digits with
  | none => rfl
  | some number =>
      obtain ⟨hnumber, hlt⟩ := parseUnsigned_eq_some_iff.mp hparsed
      have hsame : parts.number = number := parts.isNumber.2.2.symm.trans hnumber.2.2
      exact ofIdentifierText_unreadable (h.resolve_left (by omega)) _

theorem exists_ofText_eq (hlt : parts.number < 2 ^ 32)
    (hread : ¬UnreadableIdentifier base64 parts.rest) :
    ∃ identifier, NodeId.ofText base64 parts.text = ⟨identifier, .ofNat parts.number⟩ ∧
      ∀ id : UInt32, identifier = .numeric id ↔
        istartsWith parts.rest "i=" = true ∧ WritesNumber (parts.rest.drop 2) id.toNat := by
  obtain ⟨identifier, hidentifier, hnumeric⟩ := exists_identifier hread
  refine ⟨identifier, ?_, fun id => ?_⟩
  · rw [ofText_text, parseUnsigned_eq_some_iff.mpr ⟨parts.isNumber, hlt⟩, Option.elim_some]
    exact hidentifier _
  · rw [hnumeric, parseUnsigned_eq_some_iff, and_iff_left id.toNat_lt]

theorem toNat_ofNat_eq_iff : (UInt16.ofNat parts.number).toNat = parts.number ↔
    parts.number < 2 ^ 16 := by
  rw [UInt16.toNat_ofNat']
  exact Nat.mod_eq_iff_lt (by norm_num)

theorem readsAsWritten_iff : ReadsAsWritten base64 parts.text ↔ parts.FitsOrUnread base64 := by
  unfold FitsOrUnread
  by_cases hnull : 2 ^ 32 ≤ parts.number ∨ UnreadableIdentifier base64 parts.rest
  · refine iff_of_true (fun _ hread => absurd (parts.ofText_eq_null hnull) hread) ?_
    exact Or.inr (or_assoc.mp (Or.inl hnull))
  obtain ⟨hlt, hreadable⟩ := not_or.mp hnull
  obtain ⟨identifier, hid, hnumeric⟩ := parts.exists_ofText_eq (not_le.mp hlt) hreadable
  have hwritten : identifier = .numeric 0 ↔
      istartsWith parts.rest "i=" = true ∧ WritesNumber (parts.rest.drop 2) 0 := hnumeric 0
  have hzero : UInt16.ofNat parts.number = 0 ↔ 2 ^ 16 ∣ parts.number := by
    rw [← UInt16.toNat_inj, UInt16.toNat_ofNat']
    exact (Nat.dvd_iff_mod_eq_zero ..).symm
  rw [or_iff_right hlt, or_iff_right hreadable, ← hwritten, ← hzero]
  constructor
  · intro hsafe
    by_cases hnone : UInt16.ofNat parts.number = 0 ∧ identifier = .numeric 0
    · exact Or.inr hnone
    have hread : NodeId.ofText base64 parts.text ≠ {} := by
      intro hempty
      obtain ⟨hsecond, hfirst⟩ := NodeId.mk.inj (hid.symm.trans hempty)
      exact hnone ⟨hfirst, hsecond⟩
    obtain ⟨other, htext, hnumber, -⟩ := hsafe parts.startsWith_text hread
    rw [hid, other.number_unique htext, toNat_ofNat_eq_iff] at hnumber
    exact Or.inl hnumber
  · rintro (hfits | ⟨hfirst, hsecond⟩) - hread
    · refine ⟨parts, rfl, ?_, fun id hheld => ?_⟩
      · rw [hid]
        exact parts.toNat_ofNat_eq_iff.mpr hfits
      · rw [hid] at hheld
        exact (hnumeric id).mp hheld
    · rw [hid, hfirst, hsecond] at hread
      exact absurd rfl hread

end NamespacedText

/-- A text is read as written if and only if its namespace fits or nothing is read; and two
texts whose namespaces differ and fit are not read as one NodeId. -/
theorem namespace_read_as_written_iff (base64 : Base64) :
    (∀ text, ReadsAsWritten base64 text ↔
      ∀ parts : NamespacedText, parts.text = text → parts.FitsOrUnread base64) ∧
      ∀ parts other : NamespacedText, parts.FitsOrUnread base64 → other.FitsOrUnread base64 →
        parts.number ≠ other.number → NodeId.ofText base64 parts.text ≠ {} →
        NodeId.ofText base64 parts.text ≠ NodeId.ofText base64 other.text := by
  constructor
  · intro text
    constructor
    · rintro hsafe parts rfl
      exact parts.readsAsWritten_iff.mp hsafe
    · intro hfits hmark hread
      obtain ⟨parts, rfl⟩ := NamespacedText.exists_of_ofText hmark hread
      exact parts.readsAsWritten_iff.mpr (hfits parts rfl) hmark hread
  · intro parts other hparts hother hdiffer hread hsame
    obtain ⟨first, hfirst, hnumber, -⟩ :=
      parts.readsAsWritten_iff.mpr hparts parts.startsWith_text hread
    obtain ⟨second, hsecond, hotherNumber, -⟩ :=
      other.readsAsWritten_iff.mpr hother other.startsWith_text (hsame ▸ hread)
    apply hdiffer
    calc
      parts.number = first.number := parts.number_unique hfirst.symm
      _ = (NodeId.ofText base64 parts.text).namespaceIndex.toNat := hnumber.symm
      _ = (NodeId.ofText base64 other.text).namespaceIndex.toNat := by rw [hsame]
      _ = second.number := hotherNumber
      _ = other.number := second.number_unique hsecond

/-- Namespace 65538 is read as namespace 2. -/
theorem namespaces_collide :
    NodeId.ofText Base64.standard (asciiText "ns=65538;i=5") = ⟨.numeric 5, 2⟩ ∧
      NodeId.ofText Base64.standard (asciiText "ns=65538;i=5") =
        NodeId.ofText Base64.standard (asciiText "ns=2;i=5") ∧
      ¬ReadsAsWritten Base64.standard (asciiText "ns=65538;i=5") := by
  have hread : NodeId.ofText Base64.standard (asciiText "ns=65538;i=5") = ⟨.numeric 5, 2⟩ := rfl
  have hother : NodeId.ofText Base64.standard (asciiText "ns=2;i=5") = ⟨.numeric 5, 2⟩ := rfl
  refine ⟨hread, hread.trans hother.symm, fun hsafe => ?_⟩
  let parts : NamespacedText :=
    { mark := asciiText "ns="
      digits := asciiText "65538"
      rest := asciiText "i=5"
      number := 65538
      isMark := rfl
      isNumber := ⟨List.cons_ne_nil _ _, rfl, rfl⟩ }
  obtain ⟨other, htext, hnumber, -⟩ := hsafe rfl (by rw [hread]; exact nofun)
  have hwritten : other.number = parts.number := other.number_unique htext
  rw [hread, hwritten] at hnumber
  exact absurd hnumber (by decide : (2 : ℕ) ≠ 65538)

end OpcuaStack
