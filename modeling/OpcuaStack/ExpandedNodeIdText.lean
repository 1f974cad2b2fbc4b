import OpcuaStack.JsonRoundTrip
import OpcuaStack.NodeIdText

/-!
# The JSON text of an ExpandedNodeId

The server index and the namespace URI stand in front of the text of the NodeId, each
behind its mark and before a semicolon.  The URI is written as it is, and the number
of a server index is read by a function which throws.
-/

namespace OpcuaStack
namespace Json

/-- The texts of NodeIds are those of `types/node_id.cpp`. -/
def Texts.withNodeIds (texts : Texts) (base64 : Base64) : Texts :=
  { texts with
    nodeId := NodeId.toText base64
    ofNodeId := NodeId.ofText base64 }

/-! ## Server indexes -/

/-- A number below `2 ^ 64` behind blanks and a sign; anything may follow it. -/
def StartsWithNumber (field : ByteText) : Prop :=
  ∃ sign digits rest, field.dropWhile isSpace = sign ++ (digits ++ rest) ∧
    sign ∈ [[], [(0x2b : UInt8)], [0x2d]] ∧ digits ≠ [] ∧
      (∀ byte ∈ digits, isDigit byte) ∧ (∀ byte ∈ rest.head?, isDigit byte = false) ∧
        digitsValue digits < 2 ^ 64

theorem takeWhile_digits {digits rest : ByteText} (hdigits : ∀ byte ∈ digits, isDigit byte)
    (hrest : ∀ byte ∈ rest.head?, isDigit byte = false) :
    (digits ++ rest).takeWhile isDigit = digits := by
  rw [List.takeWhile_append_of_pos hdigits]
  cases rest with
  | nil => simp
  | cons byte rest =>
      have hbyte := hrest byte rfl
      simp [hbyte]

theorem head_digits_ne {digits rest : ByteText} (hne : digits ≠ [])
    (hdigits : ∀ byte ∈ digits, isDigit byte) {mark : UInt8} (hmark : isDigit mark = false) :
    (digits ++ rest).head? ≠ some mark := by
  cases digits with
  | nil => exact absurd rfl hne
  | cons byte digits =>
      intro heq
      rw [List.cons_append, List.head?_cons, Option.some.injEq] at heq
      have hbyte := hdigits byte List.mem_cons_self
      rw [heq, hmark] at hbyte
      cases hbyte

/-- What is left of a field behind its blanks and its sign. -/
def unsignedField (field : ByteText) : ByteText :=
  let signed := field.dropWhile isSpace
  if signed.head? == some 0x2d || signed.head? == some 0x2b then signed.tail else signed

theorem startsWithNumber_iff (field : ByteText) :
    StartsWithNumber field ↔
      (unsignedField field).takeWhile isDigit ≠ [] ∧
        digitsValue ((unsignedField field).takeWhile isDigit) < 2 ^ 64 := by
  constructor
  · rintro ⟨sign, digits, rest, hfield, hsign, hne, hdigits, hrest, hvalue⟩
    have hunsigned : unsignedField field = digits ++ rest := by
      have hminus : isDigit 0x2d = false := by decide
      have hplus : isDigit 0x2b = false := by decide
      rw [unsignedField, hfield]
      simp only [List.mem_cons, List.not_mem_nil, or_false] at hsign
      obtain rfl | rfl | rfl := hsign
      · rw [List.nil_append, if_neg]
        rw [Bool.or_eq_true, not_or, beq_iff_eq, beq_iff_eq]
        exact ⟨head_digits_ne hne hdigits hminus, head_digits_ne hne hdigits hplus⟩
      · rfl
      · rfl
    rw [hunsigned, takeWhile_digits hdigits hrest]
    exact ⟨hne, hvalue⟩
  · rintro ⟨hne, hvalue⟩
    obtain ⟨sign, hsign, hfield⟩ : ∃ sign ∈ [[], [(0x2b : UInt8)], [0x2d]],
        field.dropWhile isSpace = sign ++ unsignedField field := by
      rw [unsignedField]
      cases field.dropWhile isSpace with
      | nil => exact ⟨[], by simp, rfl⟩
      | cons byte rest =>
          by_cases hminus : byte = 0x2d
          · exact ⟨[0x2d], by simp, by simp [hminus]⟩
          · by_cases hplus : byte = 0x2b
            · exact ⟨[0x2b], by simp, by simp [hplus]⟩
            · exact ⟨[], by simp, by simp [hminus, hplus]⟩
    refine ⟨sign, (unsignedField field).takeWhile isDigit,
      (unsignedField field).dropWhile isDigit, ?_, hsign, hne, ?_, ?_, hvalue⟩
    · rw [hfield, List.takeWhile_append_dropWhile]
    · exact fun byte hbyte => List.mem_takeWhile_imp hbyte
    · intro byte hbyte
      have hhead := List.head?_dropWhile_not isDigit (unsignedField field)
      rw [Option.mem_def.mp hbyte] at hhead
      exact hhead

theorem stoul_cases (field : ByteText) :
    StartsWithNumber field ∧ (∃ number, stoul field = .ok number) ∨
      ¬ StartsWithNumber field ∧ stoul field = .error .invalidNumber := by
  have hrun : stoul field =
      if (unsignedField field).takeWhile isDigit = [] ∨
          2 ^ 64 ≤ digitsValue ((unsignedField field).takeWhile isDigit) then
        .error .invalidNumber
      else if (field.dropWhile isSpace).head? == some 0x2d then
        .ok ((2 ^ 64 - digitsValue ((unsignedField field).takeWhile isDigit)) % 2 ^ 64)
      else .ok (digitsValue ((unsignedField field).takeWhile isDigit)) := rfl
  rw [hrun, startsWithNumber_iff]
  split
  next h => exact .inr ⟨fun ⟨hne, hlt⟩ => h.elim hne (not_le.mpr hlt), rfl⟩
  next h =>
    rw [not_or, not_le] at h
    refine .inl ⟨h, ?_⟩
    split
    · exact ⟨_, rfl⟩
    · exact ⟨_, rfl⟩

theorem isSpace_of_isDigit {byte : UInt8} (h : isDigit byte = true) :
    isSpace byte = false := by
  simp only [isDigit, isSpace, Bool.and_eq_true, decide_eq_true_eq, Bool.or_eq_false_iff,
    Bool.and_eq_false_iff, decide_eq_false_iff_not, beq_eq_false_iff_ne, ne_eq,
    UInt8.le_iff_toNat_le, ← UInt8.toNat_inj] at h ⊢
  have hnumbers : (0x30 : UInt8).toNat = 48 ∧ (0x39 : UInt8).toNat = 57 ∧
      (0x20 : UInt8).toNat = 32 ∧ (0x0d : UInt8).toNat = 13 := by decide
  omega

theorem stoul_decimalText {number : ℕ} (h : number < 2 ^ 64) :
    stoul (decimalText number) = .ok number := by
  have hdigits : ∀ byte ∈ decimalText number, isDigit byte :=
    fun _ hmem => isDigit_of_mem_decimalText hmem
  have hne := decimalText_ne_nil number
  have hspace : (decimalText number).dropWhile isSpace = decimalText number := by
    rw [List.dropWhile_eq_self_iff]
    intro hpos hblank
    rw [isSpace_of_isDigit (hdigits _ (List.getElem_mem hpos))] at hblank
    cases hblank
  have hplain : (decimalText number).head? ≠ some 0x2d ∧
      (decimalText number).head? ≠ some 0x2b := by
    rw [← List.append_nil (decimalText number)]
    exact ⟨head_digits_ne hne hdigits (by decide), head_digits_ne hne hdigits (by decide)⟩
  have hall : (decimalText number).takeWhile isDigit = decimalText number :=
    List.takeWhile_eq_self_iff.mpr hdigits
  have hvalue : ¬ (decimalText number = [] ∨ 2 ^ 64 ≤ number) :=
    not_or.mpr ⟨hne, not_le.mpr h⟩
  simp only [stoul, hspace, beq_eq_false_iff_ne.mpr hplain.1,
    beq_eq_false_iff_ne.mpr hplain.2, Bool.or_self, Bool.false_eq_true, if_false, hall,
    digitsValue_decimalText, if_neg hvalue]

/-! ## Marks -/

/-- A mark with its field, before the rest. -/
def marked (mark : String) (field rest : ByteText) : ByteText :=
  asciiText mark ++ field ++ 0x3b :: rest

/-- A text which is not cut by a mark: the loop is over. -/
def Unmarked (text : ByteText) : Prop :=
  ∀ field rest, 0x3b ∉ field → text ≠ marked "svr=" field rest ∧
    text ≠ marked "nsu=" field rest

variable (texts : Texts) (serverIndex : UInt32) (namespaceUri : ByteText)

theorem eq_append_mark {mark : UInt8} {text : ByteText}
    (h : (text.takeWhile (· ≠ mark)).length < text.length) :
    text = text.takeWhile (· ≠ mark) ++
      mark :: text.drop ((text.takeWhile (· ≠ mark)).length + 1) := by
  induction text with
  | nil => exact absurd h (lt_irrefl _)
  | cons byte rest ih =>
      by_cases hmark : byte = mark
      · simp [hmark]
      · have hlength : (rest.takeWhile (· ≠ mark)).length < rest.length := by
          simpa [List.takeWhile_cons, hmark] using h
        have hrest := ih hlength
        simpa [List.takeWhile_cons, hmark] using hrest

theorem marked_of_separated {mark : String} {text : ByteText}
    (hmark : text.take 4 = asciiText mark)
    (hseparated : ((text.drop 4).takeWhile (· ≠ 0x3b)).length < (text.drop 4).length) :
    text = marked mark ((text.drop 4).takeWhile (· ≠ 0x3b))
      ((text.drop 4).drop (((text.drop 4).takeWhile (· ≠ 0x3b)).length + 1)) := by
  rw [marked, ← hmark, List.append_assoc, ← eq_append_mark hseparated,
    List.take_append_drop]

theorem semicolon_notMem_takeWhile (text : ByteText) :
    (0x3b : UInt8) ∉ text.takeWhile (· ≠ 0x3b) := by
  intro hmem
  simpa using List.mem_takeWhile_imp hmem

theorem cut_marked (mark : String) {field : ByteText}
    (hmark : (asciiText mark).length = 4) (hfield : 0x3b ∉ field) (rest : ByteText) :
    (marked mark field rest).take 4 = asciiText mark ∧
      ((marked mark field rest).drop 4).takeWhile (· ≠ 0x3b) = field ∧
        ((marked mark field rest).drop 4).drop (field.length + 1) = rest ∧
          field.length < ((marked mark field rest).drop 4).length := by
  have htake : (marked mark field rest).take 4 = asciiText mark := by
    rw [← hmark, marked, List.append_assoc, List.take_left]
  have hdrop : (marked mark field rest).drop 4 = field ++ 0x3b :: rest := by
    rw [← hmark, marked, List.append_assoc, List.drop_left]
  rw [hdrop]
  refine ⟨htake, takeWhile_append_mark hfield rest, ?_, ?_⟩
  · rw [List.drop_append]
    simp
  · simp

/-! ## The loop -/

section

variable {texts serverIndex namespaceUri}

theorem run_server {field : ByteText} (hfield : 0x3b ∉ field) (rest : ByteText)
    (rounds : ℕ) :
    expandedNodeIdOfText texts serverIndex namespaceUri (rounds + 1)
        (marked "svr=" field rest) =
      (stoul field).bind fun index =>
        expandedNodeIdOfText texts (.ofNat index) namespaceUri rounds rest := by
  obtain ⟨htake, hcut, hrest, hlength⟩ := cut_marked "svr=" rfl hfield rest
  rw [expandedNodeIdOfText]
  simp only [hcut, hrest, if_pos htake, if_pos hlength]
  rfl

theorem run_uri {field : ByteText} (hfield : 0x3b ∉ field) (rest : ByteText)
    (rounds : ℕ) :
    expandedNodeIdOfText texts serverIndex namespaceUri (rounds + 1)
        (marked "nsu=" field rest) =
      expandedNodeIdOfText texts serverIndex field rounds rest := by
  obtain ⟨htake, hcut, hrest, hlength⟩ := cut_marked "nsu=" rfl hfield rest
  have hother : ¬ (marked "nsu=" field rest).take 4 = asciiText "svr=" := by
    rw [htake]
    decide
  rw [expandedNodeIdOfText]
  simp only [hcut, hrest, if_neg hother, if_pos htake, if_pos hlength]

variable (texts serverIndex namespaceUri) in
theorem run_unmarked {text : ByteText} (h : Unmarked text) (rounds : ℕ) :
    (∃ message, expandedNodeIdOfText texts serverIndex namespaceUri (rounds + 1) text =
        .error (.error message)) ∨
      expandedNodeIdOfText texts serverIndex namespaceUri (rounds + 1) text =
        (nodeIdOfText texts "malformed ExpandedNodeId" text).bind fun nodeId =>
          .ok { nodeId, namespaceUri, serverIndex } := by
  have hnot := h _ ((text.drop 4).drop
    (((text.drop 4).takeWhile (· ≠ 0x3b)).length + 1))
      (semicolon_notMem_takeWhile (text.drop 4))
  rw [expandedNodeIdOfText]
  split
  next hserver =>
    split
    next hlength => exact absurd (marked_of_separated hserver hlength) hnot.1
    next => exact .inl ⟨_, rfl⟩
  next =>
    split
    next huri =>
      split
      next hlength => exact absurd (marked_of_separated huri hlength) hnot.2
      next => exact .inl ⟨_, rfl⟩
    next => exact .inr rfl

theorem marks_cases (text : ByteText) :
    (∃ field rest, 0x3b ∉ field ∧ text = marked "svr=" field rest) ∨
      (∃ field rest, 0x3b ∉ field ∧ text = marked "nsu=" field rest) ∨
        Unmarked text := by
  by_cases hserver : ∃ field rest, 0x3b ∉ field ∧ text = marked "svr=" field rest
  · exact .inl hserver
  · by_cases huri : ∃ field rest, 0x3b ∉ field ∧ text = marked "nsu=" field rest
    · exact .inr (.inl huri)
    · exact .inr (.inr fun field rest hfield =>
        ⟨fun htext => hserver ⟨field, rest, hfield, htext⟩,
          fun htext => huri ⟨field, rest, hfield, htext⟩⟩)

theorem uri_of_run {rounds : ℕ} {text : ByteText} {value : ExpandedNodeId}
    (huri : 0x3b ∉ namespaceUri)
    (hrun : expandedNodeIdOfText texts serverIndex namespaceUri rounds text = .ok value) :
    0x3b ∉ value.namespaceUri := by
  induction rounds generalizing serverIndex namespaceUri text with
  | zero => cases hrun
  | succ rounds ih =>
      obtain ⟨field, rest, hfield, rfl⟩ | ⟨field, rest, hfield, rfl⟩ | hplain :=
        marks_cases text
      · rw [run_server hfield] at hrun
        obtain ⟨-, number, hnumber⟩ | ⟨-, hnumber⟩ := stoul_cases field
        · rw [hnumber] at hrun
          exact ih huri hrun
        · rw [hnumber] at hrun
          cases hrun
      · rw [run_uri hfield] at hrun
        exact ih hfield hrun
      · obtain ⟨message, herror⟩ | hread :=
          run_unmarked texts serverIndex namespaceUri hplain rounds
        · rw [herror] at hrun
          cases hrun
        · rw [hread] at hrun
          cases hnode : nodeIdOfText texts "malformed ExpandedNodeId" text with
          | error thrown =>
              rw [hnode] at hrun
              cases hrun
          | ok nodeId =>
              rw [hnode] at hrun
              cases hrun
              exact huri

end

/-! ## Exceptions -/

/-- Behind some marks comes a server index which does not start with a number. -/
inductive UnreadIndex : ByteText → Prop
  | here {field : ByteText} (rest : ByteText) (hfield : 0x3b ∉ field)
      (hnumber : ¬ StartsWithNumber field) : UnreadIndex (marked "svr=" field rest)
  | afterServer {field rest : ByteText} (hfield : 0x3b ∉ field)
      (hrest : UnreadIndex rest) : UnreadIndex (marked "svr=" field rest)
  | afterUri {field rest : ByteText} (hfield : 0x3b ∉ field)
      (hrest : UnreadIndex rest) : UnreadIndex (marked "nsu=" field rest)

theorem marked_inj {mark : String} (hmark : (asciiText mark).length = 4)
    {field other : ByteText} (hfield : 0x3b ∉ field) (hother : 0x3b ∉ other)
    {rest later : ByteText} (h : marked mark field rest = marked mark other later) :
    field = other ∧ rest = later := by
  obtain ⟨-, hcut, hrest, -⟩ := cut_marked mark hmark hfield rest
  obtain ⟨-, hcut', hrest', -⟩ := cut_marked mark hmark hother later
  have hsame : field = other := by rw [← hcut, h, hcut']
  refine ⟨hsame, ?_⟩
  rw [← hrest, ← hrest', h, hsame]

theorem server_ne_uri (field other rest later : ByteText) :
    marked "svr=" field rest ≠ marked "nsu=" other later := by
  intro h
  have hfirst : some (0x73 : UInt8) = some 0x6e := congrArg List.head? h
  exact absurd hfirst (by decide)

theorem unreadIndex_server {field : ByteText} (hfield : 0x3b ∉ field) (rest : ByteText) :
    UnreadIndex (marked "svr=" field rest) ↔
      ¬ StartsWithNumber field ∨ UnreadIndex rest := by
  constructor
  · intro h
    generalize htext : marked "svr=" field rest = text at h
    cases h with
    | here later hother hnumber =>
        obtain ⟨rfl, -⟩ := marked_inj rfl hfield hother htext
        exact .inl hnumber
    | afterServer hother hrest =>
        obtain ⟨-, rfl⟩ := marked_inj rfl hfield hother htext
        exact .inr hrest
    | afterUri => exact absurd htext (server_ne_uri _ _ _ _)
  · rintro (hnumber | hrest)
    · exact .here rest hfield hnumber
    · exact .afterServer hfield hrest

theorem unreadIndex_uri {field : ByteText} (hfield : 0x3b ∉ field) (rest : ByteText) :
    UnreadIndex (marked "nsu=" field rest) ↔ UnreadIndex rest := by
  refine ⟨fun h => ?_, .afterUri hfield⟩
  generalize htext : marked "nsu=" field rest = text at h
  cases h with
  | here => exact absurd htext.symm (server_ne_uri _ _ _ _)
  | afterServer => exact absurd htext.symm (server_ne_uri _ _ _ _)
  | afterUri hother hrest =>
      obtain ⟨-, rfl⟩ := marked_inj rfl hfield hother htext
      exact hrest

theorem not_unreadIndex {text : ByteText} (h : Unmarked text) : ¬ UnreadIndex text := by
  intro hunread
  cases hunread with
  | here rest hfield => exact (h _ rest hfield).1 rfl
  | @afterServer field rest hfield => exact (h field rest hfield).1 rfl
  | @afterUri field rest hfield => exact (h field rest hfield).2 rfl

/-- Nothing but an error of the codec is thrown. -/
def ThrowsErrors {α : Type} (result : Except Thrown α) : Prop :=
  ∀ thrown, result = .error thrown → ∃ message, thrown = .error message

theorem throwsErrors_nodeId (message : String) (text : ByteText) (uri : ByteText)
    (index : UInt32) :
    ThrowsErrors ((nodeIdOfText texts message text).bind fun nodeId =>
      .ok { nodeId, namespaceUri := uri, serverIndex := index : ExpandedNodeId }) := by
  intro thrown hthrown
  rw [nodeIdOfText] at hthrown
  split at hthrown
  next =>
    cases hthrown
    exact ⟨message, rfl⟩
  next => cases hthrown

theorem length_marked (mark : String) (field rest : ByteText) :
    rest.length < (marked mark field rest).length := by
  rw [marked, List.length_append, List.length_cons]
  omega

/-- The loop throws something else exactly for an unread server index. -/
theorem throwsErrors_iff {rounds : ℕ} {text : ByteText} (hrounds : text.length < rounds) :
    ThrowsErrors (expandedNodeIdOfText texts serverIndex namespaceUri rounds text) ↔
      ¬ UnreadIndex text := by
  induction rounds generalizing serverIndex namespaceUri text with
  | zero => exact absurd hrounds (Nat.not_lt_zero _)
  | succ rounds ih =>
      obtain ⟨field, rest, hfield, rfl⟩ | ⟨field, rest, hfield, rfl⟩ | hplain :=
        marks_cases text
      · have hrest : rest.length < rounds :=
          (length_marked "svr=" field rest).trans_le (Nat.le_of_lt_succ hrounds)
        rw [run_server hfield, unreadIndex_server hfield]
        obtain ⟨hstarts, number, hnumber⟩ | ⟨hstarts, hnumber⟩ := stoul_cases field
        · rw [hnumber, not_or, not_not, and_iff_right hstarts]
          exact ih _ _ hrest
        · refine iff_of_false ?_ fun hnot => hnot (.inl hstarts)
          rw [hnumber]
          intro hthrows
          obtain ⟨message, hmessage⟩ := hthrows _ rfl
          cases hmessage
      · have hrest : rest.length < rounds :=
          (length_marked "nsu=" field rest).trans_le (Nat.le_of_lt_succ hrounds)
        rw [run_uri hfield, unreadIndex_uri hfield]
        exact ih _ _ hrest
      · refine iff_of_true ?_ (not_unreadIndex hplain)
        obtain ⟨message, herror⟩ | hread :=
          run_unmarked texts serverIndex namespaceUri hplain rounds
        · rw [herror]
          intro thrown hthrown
          cases hthrown
          exact ⟨message, rfl⟩
        · rw [hread]
          exact throwsErrors_nodeId texts _ text namespaceUri serverIndex

/-! ## The round trip -/

section

variable {texts} {base64 : Base64}

theorem place_of_take {mark : String} {text : ByteText}
    (h : text.take 4 = asciiText mark) {place : ℕ} (hplace : place < 4) :
    text[place]? = (asciiText mark)[place]? := by
  rw [← h, List.getElem?_take_of_lt hplace]

theorem take_nodeId_ne (nodeId : NodeId) :
    (nodeId.toText base64).take 4 ≠ asciiText "svr=" ∧
      (nodeId.toText base64).take 4 ≠ asciiText "nsu=" := by
  rw [NodeId.toText]
  split
  next =>
    refine ⟨fun h => ?_, fun h => ?_⟩
    · have hthird : some (0x3d : UInt8) = some 0x72 := place_of_take h (by norm_num : 2 < 4)
      exact absurd hthird (by decide)
    · have hthird : some (0x3d : UInt8) = some 0x75 := place_of_take h (by norm_num : 2 < 4)
      exact absurd hthird (by decide)
  next =>
    have hsecond : ([] ++ identifierText base64 nodeId.identifier)[1]? = some 0x3d := by
      cases nodeId.identifier <;> rfl
    refine ⟨fun h => ?_, fun h => ?_⟩
    · rw [place_of_take h (by norm_num : 1 < 4)] at hsecond
      exact absurd hsecond (by decide)
    · rw [place_of_take h (by norm_num : 1 < 4)] at hsecond
      exact absurd hsecond (by decide)

/-- A NodeId is read back, the null one too since its text is the canonical one. -/
theorem nodeIdOfText_toText (h : ∀ bytes, base64.Inverts bytes) (message : String)
    (nodeId : NodeId) :
    nodeIdOfText (texts.withNodeIds base64) message (nodeId.toText base64) =
      .ok nodeId := by
  have hread : (texts.withNodeIds base64).ofNodeId (nodeId.toText base64) = nodeId :=
    NodeId.ofText_toText h nodeId
  rw [nodeIdOfText, hread, if_neg]
  rintro ⟨rfl, hcanonical⟩
  exact hcanonical rfl

/-- The text behind the server index. -/
def uriText (base64 : Base64) (value : ExpandedNodeId) : ByteText :=
  if value.namespaceUri.isEmpty then value.nodeId.toText base64
  else marked "nsu=" value.namespaceUri (value.nodeId.toText base64)

theorem encodeExpandedNodeId_eq (value : ExpandedNodeId) :
    encodeExpandedNodeId (texts.withNodeIds base64) value =
      .string (if value.serverIndex = 0 then uriText base64 value
        else marked "svr=" (decimalText value.serverIndex.toNat)
          (uriText base64 value)) := by
  have hnode : (texts.withNodeIds base64).nodeId = NodeId.toText base64 := rfl
  rw [encodeExpandedNodeId, hnode, uriText]
  have hsemicolon : asciiText ";" = [0x3b] := rfl
  split <;> split <;> simp [marked, hsemicolon]

theorem run_nodeId (h : ∀ bytes, base64.Inverts bytes) (nodeId : NodeId) {rounds : ℕ}
    (hrounds : 0 < rounds) :
    expandedNodeIdOfText (texts.withNodeIds base64) serverIndex namespaceUri rounds
        (nodeId.toText base64) =
      .ok { nodeId, namespaceUri, serverIndex } := by
  obtain ⟨hserver, huri⟩ : (nodeId.toText base64).take 4 ≠ asciiText "svr=" ∧
      (nodeId.toText base64).take 4 ≠ asciiText "nsu=" := take_nodeId_ne nodeId
  obtain ⟨rounds, rfl⟩ := Nat.exists_eq_succ_of_ne_zero hrounds.ne'
  rw [expandedNodeIdOfText]
  simp only [if_neg hserver, if_neg huri, nodeIdOfText_toText h]
  rfl

theorem run_uriText (h : ∀ bytes, base64.Inverts bytes) {value : ExpandedNodeId}
    (huri : 0x3b ∉ value.namespaceUri) {rounds : ℕ}
    (hrounds : (uriText base64 value).length < rounds) :
    expandedNodeIdOfText (texts.withNodeIds base64) serverIndex [] rounds
        (uriText base64 value) =
      .ok { value with serverIndex } := by
  rw [uriText] at hrounds ⊢
  split at hrounds
  next hempty =>
    rw [if_pos hempty, run_nodeId serverIndex [] h value.nodeId (Nat.zero_lt_of_lt hrounds),
      List.isEmpty_iff.mp hempty]
  next hempty =>
    obtain ⟨rounds, rfl⟩ :=
      Nat.exists_eq_succ_of_ne_zero (Nat.zero_lt_of_lt hrounds).ne'
    have hrest := (length_marked "nsu=" value.namespaceUri
      (value.nodeId.toText base64)).trans_le (Nat.le_of_lt_succ hrounds)
    rw [if_neg hempty, run_uri huri,
      run_nodeId serverIndex value.namespaceUri h value.nodeId (Nat.zero_lt_of_lt hrest)]

theorem decodeExpandedNodeId_string (text : ByteText) :
    decodeExpandedNodeId texts (.string text) =
      expandedNodeIdOfText texts 0 [] (text.length + 1) text := rfl

theorem expandedNodeId_returns (h : ∀ bytes, base64.Inverts bytes)
    {value : ExpandedNodeId} (huri : 0x3b ∉ value.namespaceUri) :
    decodeExpandedNodeId (texts.withNodeIds base64)
        (encodeExpandedNodeId (texts.withNodeIds base64) value) = .ok value := by
  rw [encodeExpandedNodeId_eq, decodeExpandedNodeId_string]
  split
  next hserver =>
    rw [run_uriText 0 h huri (Nat.lt_succ_self _), ← hserver]
  next =>
    have hsemicolon : 0x3b ∉ decimalText value.serverIndex.toNat :=
      not_mem_decimalText (by decide)
    have hindex : value.serverIndex.toNat < 2 ^ 64 :=
      value.serverIndex.toNat_lt.trans (by norm_num)
    have hread : stoul (decimalText value.serverIndex.toNat) =
        .ok value.serverIndex.toNat := stoul_decimalText hindex
    rw [run_server hsemicolon, hread]
    have hrest := length_marked "svr=" (decimalText value.serverIndex.toNat)
      (uriText base64 value)
    refine (run_uriText (.ofNat value.serverIndex.toNat) h huri hrest).trans ?_
    rw [UInt32.ofNat_toNat]

/-- An ExpandedNodeId returns exactly when its URI has no semicolon, and the reader
throws an error of the codec unless it comes to a server index without a number. -/
theorem expandedNodeId_text_iff (texts : Texts)
    (h : ∀ bytes, base64.Inverts bytes) :
    (∀ value, decodeExpandedNodeId (texts.withNodeIds base64)
        (encodeExpandedNodeId (texts.withNodeIds base64) value) = .ok value ↔
          0x3b ∉ value.namespaceUri) ∧
      ∀ text, ThrowsErrors
          (decodeExpandedNodeId (texts.withNodeIds base64) (.string text)) ↔
        ¬ UnreadIndex text := by
  refine ⟨fun value => ⟨fun hreturns => ?_, expandedNodeId_returns h⟩, fun text => ?_⟩
  · rw [encodeExpandedNodeId_eq, decodeExpandedNodeId_string] at hreturns
    exact uri_of_run List.not_mem_nil hreturns
  · rw [decodeExpandedNodeId_string]
    exact throwsErrors_iff _ 0 [] (Nat.lt_succ_self _)

def standardTexts : Texts := sampleTexts.withNodeIds Base64.standard

def separatedUri : ExpandedNodeId :=
  { nodeId := ⟨.string (asciiText "x"), 0⟩, namespaceUri := asciiText "a;b" }

/-- A URI which is cut at its semicolon, and an index which is no number. -/
theorem expandedNodeId_text_misread :
    decodeExpandedNodeId standardTexts (encodeExpandedNodeId standardTexts separatedUri) =
        .ok {
          nodeId := ⟨.string (asciiText "b;s=x"), 0⟩
          namespaceUri := asciiText "a" } ∧
      decodeExpandedNodeId standardTexts
          (encodeExpandedNodeId standardTexts separatedUri) ≠ .ok separatedUri ∧
      decodeExpandedNodeId standardTexts (.string (asciiText "svr=x;i=1")) =
        .error .invalidNumber ∧
      ¬ ThrowsErrors
        (decodeExpandedNodeId standardTexts (.string (asciiText "svr=x;i=1"))) := by
  have hthrown : decodeExpandedNodeId standardTexts (.string (asciiText "svr=x;i=1")) =
      .error .invalidNumber := rfl
  refine ⟨rfl, by decide, hthrown, fun hthrows => ?_⟩
  obtain ⟨message, hmessage⟩ := hthrows _ hthrown
  cases hmessage

theorem expandedNodeId_text_standard :
    decodeExpandedNodeId standardTexts
        (encodeExpandedNodeId standardTexts
          { nodeId := ⟨.numeric 5, 2⟩, namespaceUri := asciiText "urn:a", serverIndex := 3 }) =
      .ok { nodeId := ⟨.numeric 5, 2⟩, namespaceUri := asciiText "urn:a", serverIndex := 3 } :=
  ((expandedNodeId_text_iff sampleTexts Base64.standard_inverts).1 _).mpr (by decide)

end

end Json
end OpcuaStack
