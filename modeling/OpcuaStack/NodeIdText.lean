import OpcuaStack.Base64
import OpcuaStack.GuidText
import OpcuaStack.QualifiedNameText
import OpcuaStack.TextScan

/-!
# The text of a NodeId

`types/node_id.cpp`.  Every identifier is
written behind a letter and an equals sign, and one outside namespace zero behind the
index of its namespace.  The reader tries the letters in turn and takes a text without
any of them for a string identifier.
-/

namespace OpcuaStack

variable (base64 : Base64)

def identifierText : NodeIdentifier → ByteText
  | .numeric id => asciiText "i=" ++ Json.decimalText id.toNat
  | .string id => asciiText "s=" ++ id
  | .guid id => asciiText "g=" ++ id.toText
  | .byteString id => asciiText "b=" ++ base64.encode id

/-- `NodeId::ToString`. -/
def NodeId.toText (nodeId : NodeId) : ByteText :=
  (if nodeId.namespaceIndex ≠ 0 then
      asciiText "ns=" ++
        (Json.decimalText nodeId.namespaceIndex.toNat ++ asciiText ";")
    else []) ++ identifierText base64 nodeId.identifier

def toLower (character : UInt8) : UInt8 :=
  if 0x41 ≤ character ∧ character ≤ 0x5a then character + 0x20 else character

/-- `boost::istarts_with` for a mark in lower case. -/
def istartsWith (text : ByteText) (mark : String) : Bool :=
  (text.take mark.length).map toLower == asciiText mark

/-- `Parse` of an `unsigned`. -/
def parseUnsigned (text : ByteText) : Option ℕ := Json.fromCharsBelow (2 ^ 32) text

/-- The identifier of a text without a namespace. -/
def NodeId.ofIdentifierText (ns : UInt16) (text : ByteText) : NodeId :=
  if istartsWith text "i=" then
    (parseUnsigned (text.drop 2)).elim {} fun id =>
      { identifier := .numeric (.ofNat id), namespaceIndex := ns }
  else if istartsWith text "s=" then
    { identifier := .string (text.drop 2), namespaceIndex := ns }
  else if istartsWith text "g=" then
    (Guid.ofText (text.drop 2)).elim {} fun id =>
      { identifier := .guid id, namespaceIndex := ns }
  else if istartsWith text "b=" then
    (base64.ofText (text.drop 2)).elim {} fun id =>
      { identifier := .byteString id, namespaceIndex := ns }
  else
    { identifier := .string text, namespaceIndex := ns }

/-- `NodeId::FromString`: the null NodeId for what it cannot read. -/
def NodeId.ofText (text : ByteText) : NodeId :=
  if text.isEmpty then {}
  else if istartsWith text "ns=" then
    (TextScan.find [0x3b] text).elim {} fun index =>
      (parseUnsigned ((text.drop 3).take (index - 3))).elim {} fun id =>
        NodeId.ofIdentifierText base64 (.ofNat id) (text.drop (index + 1))
  else
    NodeId.ofIdentifierText base64 0 text

theorem parseUnsigned_decimalText {number : ℕ} (h : number < 2 ^ 32) :
    parseUnsigned (Json.decimalText number) = some number :=
  Json.fromChars_decimalText h

variable {base64}

theorem ofIdentifierText_identifierText
    (h : ∀ bytes, base64.Inverts bytes) (ns : UInt16) (identifier : NodeIdentifier) :
    NodeId.ofIdentifierText base64 ns (identifierText base64 identifier) =
      { identifier, namespaceIndex := ns } := by
  cases identifier with
  | numeric id =>
      have hstarts : istartsWith (identifierText base64 (.numeric id)) "i=" := rfl
      have hrest : (identifierText base64 (.numeric id)).drop 2 =
          Json.decimalText id.toNat := rfl
      rw [NodeId.ofIdentifierText, if_pos hstarts, hrest,
        parseUnsigned_decimalText id.toNat_lt, Option.elim_some, UInt32.ofNat_toNat]
  | string id =>
      have hstarts : istartsWith (identifierText base64 (.string id)) "s=" := rfl
      have hother : ¬ istartsWith (identifierText base64 (.string id)) "i=" :=
        Bool.false_ne_true
      rw [NodeId.ofIdentifierText, if_neg hother, if_pos hstarts]
      rfl
  | guid id =>
      have hstarts : istartsWith (identifierText base64 (.guid id)) "g=" := rfl
      have hother : ¬ istartsWith (identifierText base64 (.guid id)) "i=" :=
        Bool.false_ne_true
      have hother' : ¬ istartsWith (identifierText base64 (.guid id)) "s=" :=
        Bool.false_ne_true
      have hrest : (identifierText base64 (.guid id)).drop 2 = id.toText := rfl
      rw [NodeId.ofIdentifierText, if_neg hother, if_neg hother', if_pos hstarts,
        hrest, Guid.ofText_toText, Option.elim_some]
  | byteString id =>
      have hstarts : istartsWith (identifierText base64 (.byteString id)) "b=" := rfl
      have hother : ¬ istartsWith (identifierText base64 (.byteString id)) "i=" :=
        Bool.false_ne_true
      have hother' : ¬ istartsWith (identifierText base64 (.byteString id)) "s=" :=
        Bool.false_ne_true
      have hother'' : ¬ istartsWith (identifierText base64 (.byteString id)) "g=" :=
        Bool.false_ne_true
      have hrest : (identifierText base64 (.byteString id)).drop 2 =
          base64.encode id := rfl
      rw [NodeId.ofIdentifierText, if_neg hother, if_neg hother', if_neg hother'',
        if_pos hstarts, hrest, (h id).ofText, Option.elim_some]

theorem identifierText_notQualified (identifier : NodeIdentifier) :
    (identifierText base64 identifier).isEmpty = false ∧
      istartsWith (identifierText base64 identifier) "ns=" = false := by
  cases identifier <;> exact ⟨rfl, rfl⟩

/-- The namespace is read up to the first semicolon, and none is before its own. -/
theorem ofText_qualified {ns : UInt16} (rest : ByteText) :
    NodeId.ofText base64
        (asciiText "ns=" ++ (Json.decimalText ns.toNat ++ asciiText ";") ++ rest) =
      NodeId.ofIdentifierText base64 ns rest := by
  have hsplit : asciiText "ns=" ++ (Json.decimalText ns.toNat ++ asciiText ";") ++ rest =
      (asciiText "ns=" ++ Json.decimalText ns.toNat) ++ 0x3b :: rest := by
    rw [List.append_assoc, List.append_assoc, List.append_assoc]
    rfl
  have hnotin : (0x3b : UInt8) ∉ asciiText "ns=" ++ Json.decimalText ns.toNat := by
    rw [List.mem_append, not_or]
    exact ⟨by decide, Json.not_mem_decimalText (by decide)⟩
  have hfind := TextScan.find_singleton_append rest hnotin
  have hnumber : (((asciiText "ns=" ++ Json.decimalText ns.toNat) ++ 0x3b :: rest).drop
      3).take ((asciiText "ns=" ++ Json.decimalText ns.toNat).length - 3) =
        Json.decimalText ns.toNat := by
    have hlength : (asciiText "ns=" ++ Json.decimalText ns.toNat).length - 3 =
        (Json.decimalText ns.toNat).length := by
      rw [List.length_append]
      exact Nat.add_sub_cancel_left ..
    rw [hlength]
    exact List.take_left
  have hrest : ((asciiText "ns=" ++ Json.decimalText ns.toNat) ++ 0x3b :: rest).drop
      ((asciiText "ns=" ++ Json.decimalText ns.toNat).length + 1) = rest := by
    rw [List.drop_append]
    simp
  have hstarts : istartsWith
      ((asciiText "ns=" ++ Json.decimalText ns.toNat) ++ 0x3b :: rest) "ns=" := rfl
  have hempty : ¬ ((asciiText "ns=" ++ Json.decimalText ns.toNat) ++
      0x3b :: rest).isEmpty := Bool.false_ne_true
  rw [hsplit, NodeId.ofText, if_neg hempty, if_pos hstarts, hfind, Option.elim_some,
    hnumber, parseUnsigned_decimalText (ns.toNat_lt.trans (by norm_num)),
    Option.elim_some, hrest, UInt16.ofNat_toNat]

theorem NodeId.ofText_toText (h : ∀ bytes, base64.Inverts bytes) (nodeId : NodeId) :
    NodeId.ofText base64 (nodeId.toText base64) = nodeId := by
  obtain ⟨identifier, ns⟩ := nodeId
  by_cases hns : ns = 0
  · subst hns
    obtain ⟨hempty, hqualified⟩ := identifierText_notQualified identifier
    have htext : NodeId.toText base64 ⟨identifier, 0⟩ =
        identifierText base64 identifier := rfl
    rw [htext, NodeId.ofText, hempty, hqualified, if_neg Bool.false_ne_true,
      if_neg Bool.false_ne_true]
    exact ofIdentifierText_identifierText h 0 identifier
  · rw [NodeId.toText, if_pos hns, ofText_qualified]
    exact ofIdentifierText_identifierText h ns identifier

/-- Every NodeId comes back from its text, so no two have the same text. -/
theorem nodeId_text_returns (h : ∀ bytes, base64.Inverts bytes) :
    (∀ nodeId, NodeId.ofText base64 (nodeId.toText base64) = nodeId) ∧
      Function.Injective (NodeId.toText base64) :=
  ⟨NodeId.ofText_toText h, Function.LeftInverse.injective (NodeId.ofText_toText h)⟩

/-- With the standard codec, a string which looks like a numeric identifier. -/
theorem nodeId_text_returns_standard :
    NodeId.ofText Base64.standard
        (NodeId.toText Base64.standard ⟨.string (asciiText "i=5"), 7⟩) =
      ⟨.string (asciiText "i=5"), 7⟩ :=
  (nodeId_text_returns Base64.standard_inverts).1 _

end OpcuaStack
