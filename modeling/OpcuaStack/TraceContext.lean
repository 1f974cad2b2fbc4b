import OpcuaStack.GuidText

/-!
# Trace contexts

`ua/ua_service_header.cpp` and `metrics/trace_id.h`.  A W3C traceparent is
`00-<trace id>-<span id>-<flags>` in hexadecimal digits of lower case.  The trace id
goes through the text of a Guid, the span id is a number of 64 bits, and the flags
are not kept.
-/

namespace OpcuaStack

structure SpanContextDataType where
  traceId : Guid := {}
  spanId : UInt64 := 0
deriving DecidableEq

namespace TraceContext

/-! ## The texts -/

/-- `kHexDigits`. -/
def hexDigit (digit : ℕ) : UInt8 :=
  if digit < 10 then (0x30 + digit).toUInt8 else (0x61 + (digit - 10)).toUInt8

def isHex (character : UInt8) : Bool :=
  (0x30 ≤ character && character ≤ 0x39) || (0x61 ≤ character && character ≤ 0x66)

/-- `IsW3CTraceParent`. -/
def isW3CTraceParent (value : ByteText) : Bool :=
  value.length == 55 && value[0]? == some 0x30 && value[1]? == some 0x30 &&
    value[2]? == some hyphen && value[35]? == some hyphen &&
      value[52]? == some hyphen && ((value.drop 3).take 32).all isHex &&
        ((value.drop 36).take 16).all isHex && ((value.drop 53).take 2).all isHex

/-- `ToGuidText`: a hyphen in front of four of the digits. -/
def toGuidText (traceIdHex : ByteText) : ByteText :=
  traceIdHex.zipIdx.flatMap fun (character, place) =>
    if place = 8 ∨ place = 12 ∨ place = 16 ∨ place = 20 then [hyphen, character]
    else [character]

def lowerHex (character : UInt8) : UInt8 :=
  if 0x41 ≤ character ∧ character ≤ 0x46 then character - 0x41 + 0x61 else character

/-- `ToTraceIdHex`. -/
def toTraceIdHex (traceId : Guid) : ByteText :=
  (traceId.toText.filter (· != hyphen)).map lowerHex

def spanIdDigit (character : UInt8) : UInt64 :=
  if 0x30 ≤ character ∧ character ≤ 0x39 then character.toUInt64 - 0x30
  else character.toUInt64 - 0x61 + 10

def pushDigit (value : UInt64) (character : UInt8) : UInt64 :=
  value <<< 4 ||| spanIdDigit character

/-- `ParseSpanId`. -/
def parseSpanId (spanIdHex : ByteText) : UInt64 := spanIdHex.foldl pushDigit 0

/-- `FormatSpanId`: the last digit belongs to the lowest bits. -/
def formatSpanId (spanId : UInt64) : ByteText :=
  (List.range 16).reverse.map fun place =>
    hexDigit ((spanId.toNat >>> (4 * place)) &&& 0x0f)

def traceParentToSpanContext (traceParent : ByteText) : Option SpanContextDataType :=
  if !isW3CTraceParent traceParent then none
  else
    (Guid.ofText (toGuidText ((traceParent.drop 3).take 32))).bind fun traceId =>
      if traceId = {} then none
      else
        let spanId := parseSpanId ((traceParent.drop 36).take 16)
        if spanId = 0 then none else some { traceId, spanId }

def spanContextToTraceParent (spanContext : SpanContextDataType) : ByteText :=
  if spanContext.traceId = {} ∨ spanContext.spanId = 0 then []
  else
    asciiText "00-" ++ toTraceIdHex spanContext.traceId ++ asciiText "-" ++
      formatSpanId spanContext.spanId ++ asciiText "-01"

/-! ## Hexadecimal digits -/

theorem isHex_iff (character : UInt8) :
    isHex character = true ↔ ∃ digit < 16, character = hexDigit digit := by
  constructor
  · intro h
    simp only [isHex, Bool.or_eq_true, Bool.and_eq_true, decide_eq_true_eq,
      UInt8.le_iff_toNat_le] at h
    have hnumbers : (0x30 : UInt8).toNat = 48 ∧ (0x39 : UInt8).toNat = 57 ∧
        (0x61 : UInt8).toNat = 97 ∧ (0x66 : UInt8).toNat = 102 := by decide
    obtain ⟨hlow, hhigh⟩ | ⟨hlow, hhigh⟩ := h
    · refine ⟨character.toNat - 48, by omega, ?_⟩
      rw [hexDigit, if_pos (by omega), ← UInt8.toNat_inj, UInt8.toNat_ofNat']
      omega
    · refine ⟨character.toNat - 97 + 10, by omega, ?_⟩
      rw [hexDigit, if_neg (by omega), ← UInt8.toNat_inj, UInt8.toNat_ofNat']
      omega
  · rintro ⟨digit, hdigit, rfl⟩
    interval_cases digit <;> rfl

theorem all_isHex_digits (width value : ℕ) :
    (HexText.digits hexDigit width value).all isHex = true := by
  rw [List.all_eq_true]
  intro character hmem
  exact (isHex_iff character).mpr (HexText.exists_of_mem_digits hmem)

theorem formatSpanId_eq (spanId : UInt64) :
    formatSpanId spanId = HexText.digits hexDigit 16 spanId.toNat := by
  rw [HexText.digits_eq_map, formatSpanId]
  apply List.map_congr_left
  intro place _
  have hmask : ∀ number, number &&& 0x0f = number % 16 :=
    fun number => Nat.and_two_pow_sub_one_eq_mod number 4
  have hpower : 2 ^ (4 * place) = 16 ^ place := pow_mul 2 4 place
  rw [hmask, Nat.shiftRight_eq_div_pow, hpower]

theorem spanIdDigit_hexDigit {digit : ℕ} (h : digit < 16) :
    spanIdDigit (hexDigit digit) = .ofNat digit := by
  interval_cases digit <;> rfl

theorem pushDigit_ofNat (value : ℕ) {digit : ℕ} (h : digit < 16) :
    pushDigit (.ofNat value) (hexDigit digit) = .ofNat (16 * value + digit) := by
  have hshifted : (UInt64.ofNat value <<< 4).toNat = (value % 2 ^ 60) <<< 4 := by
    have hnumber : (4 : UInt64).toNat % 64 = 4 := by decide
    rw [UInt64.toNat_shiftLeft, UInt64.toNat_ofNat', hnumber, Nat.shiftLeft_eq,
      Nat.shiftLeft_eq]
    omega
  have hdigit : (UInt64.ofNat digit).toNat = digit := by
    rw [UInt64.toNat_ofNat', Nat.mod_eq_of_lt (h.trans (by norm_num))]
  rw [pushDigit, spanIdDigit_hexDigit h, ← UInt64.toNat_inj, UInt64.toNat_or, hshifted,
    hdigit, ← Nat.shiftLeft_add_eq_or_of_lt h, Nat.shiftLeft_eq, UInt64.toNat_ofNat']
  omega

theorem foldl_digits (width : ℕ) {value : ℕ} (h : value < 16 ^ width) (start : ℕ) :
    (HexText.digits hexDigit width value).foldl pushDigit (.ofNat start) =
      .ofNat (16 ^ width * start + value) := by
  induction width generalizing value with
  | zero =>
      obtain rfl : value = 0 := by simpa using h
      simp [HexText.digits]
  | succ width ih =>
      have hdigit : value % 16 < 16 := Nat.mod_lt _ (by norm_num)
      have hrest : value / 16 < 16 ^ width := by
        rw [pow_succ] at h
        omega
      have hsplit : 16 * (16 ^ width * start + value / 16) + value % 16 =
          16 ^ (width + 1) * start + value := by
        have hvalue := Nat.div_add_mod value 16
        rw [pow_succ]
        linarith
      rw [HexText.digits, List.foldl_append, ih hrest, List.foldl_cons, List.foldl_nil,
        pushDigit_ofNat _ hdigit, hsplit]

theorem parseSpanId_formatSpanId (spanId : UInt64) :
    parseSpanId (formatSpanId spanId) = spanId := by
  have hvalue : spanId.toNat < 16 ^ 16 := spanId.toNat_lt
  have hread := foldl_digits 16 hvalue 0
  rw [Nat.mul_zero, Nat.zero_add, UInt64.ofNat_toNat] at hread
  rw [formatSpanId_eq]
  exact hread

/-! ## Trace ids -/

/-- The digits of a Guid without the hyphens. -/
def guidDigits (alphabet : ℕ → UInt8) (guid : Guid) : ByteText :=
  HexText.digits alphabet 8 guid.data1.toNat ++
    (HexText.digits alphabet 4 guid.data2.toNat ++
      (HexText.digits alphabet 4 guid.data3.toNat ++
        guid.data4.toList.flatMap fun byte => HexText.digits alphabet 2 byte.toNat))

def lowerHexDigit (digit : ℕ) : UInt8 := lowerHex (upperHexDigit digit)

theorem lowerHexDigit_eq : ∀ digit < 16, lowerHexDigit digit = hexDigit digit := by
  decide

theorem guidDigits_lower (guid : Guid) :
    guidDigits lowerHexDigit guid = guidDigits hexDigit guid := by
  simp only [guidDigits, HexText.digits_congr lowerHexDigit_eq]

theorem toList_data4 (guid : Guid) :
    guid.data4.toList =
      [guid.data4.get 0, guid.data4.get 1, guid.data4.get 2, guid.data4.get 3,
        guid.data4.get 4, guid.data4.get 5, guid.data4.get 6, guid.data4.get 7] := by
  apply List.ext_getElem
  · exact guid.data4.length_toList
  · intro place hplace _
    rw [Vector.length_toList] at hplace
    interval_cases place <;> rfl

theorem filter_hexUpper (width value : ℕ) :
    (hexUpper width value).filter (· != hyphen) = hexUpper width value := by
  have hdigit : ∀ digit < 16, (upperHexDigit digit != hyphen) = true := by decide
  rw [List.filter_eq_self]
  intro character hmem
  obtain ⟨digit, hlt, rfl⟩ := HexText.exists_of_mem_digits hmem
  exact hdigit digit hlt

theorem toTraceIdHex_eq (guid : Guid) :
    toTraceIdHex guid = guidDigits hexDigit guid := by
  have hlower : ∀ width value, (hexUpper width value).map lowerHex =
      HexText.digits lowerHexDigit width value :=
    fun width value => HexText.map_digits lowerHex upperHexDigit width value
  rw [← guidDigits_lower, toTraceIdHex, guidDigits, toList_data4]
  simp [Guid.toText, List.filter_append, filter_hexUpper, hlower]
  rfl

theorem toGuidText_toTraceIdHex (guid : Guid) :
    toGuidText (toTraceIdHex guid) = guid.toText.map lowerHex := by
  rw [toTraceIdHex_eq, ← guidDigits_lower, guidDigits, toList_data4]
  rfl

theorem ofText_toGuidText (guid : Guid) :
    Guid.ofText (toGuidText (toTraceIdHex guid)) = some guid := by
  have hknows : HexText.Knows parseHexDigit fun digit =>
      lowerHex (upperHexDigit digit) := by
    unfold HexText.Knows
    decide
  rw [toGuidText_toTraceIdHex]
  exact Guid.ofText_map rfl hknows guid

theorem exists_number (width : ℕ) {text : ByteText} (hlength : width ≤ text.length)
    (hhex : text.all isHex = true) :
    ∃ value < 16 ^ width, text = HexText.digits hexDigit width value ++ text.drop width ∧
      (text.drop width).all isHex = true := by
  have hsplit := List.take_append_drop width text
  rw [← hsplit, List.all_append, Bool.and_eq_true] at hhex
  have htake : (text.take width).length = width := List.length_take_of_le hlength
  obtain ⟨value, hvalue, htext⟩ := HexText.exists_digits
    fun character hmem => (isHex_iff character).mp (List.all_eq_true.mp hhex.1 _ hmem)
  rw [htake] at hvalue htext
  exact ⟨value, hvalue, by rw [← htext, hsplit], hhex.2⟩

theorem exists_bytes (count : ℕ) {text : ByteText} (hlength : text.length = 2 * count)
    (hhex : text.all isHex = true) :
    ∃ bytes : List UInt8, bytes.length = count ∧
      text = bytes.flatMap fun byte => HexText.digits hexDigit 2 byte.toNat := by
  induction count generalizing text with
  | zero => exact ⟨[], rfl, List.eq_nil_of_length_eq_zero hlength⟩
  | succ count ih =>
      obtain ⟨value, hvalue, htext, hrest⟩ := exists_number 2 (by omega) hhex
      obtain ⟨bytes, hbytes, hlater⟩ := ih (by rw [List.length_drop]; omega) hrest
      refine ⟨.ofNat value :: bytes, by rw [List.length_cons, hbytes], ?_⟩
      rw [List.flatMap_cons, UInt8.toNat_ofNat_of_lt' hvalue, ← hlater]
      exact htext

theorem exists_guid {text : ByteText} (hlength : text.length = 32)
    (hhex : text.all isHex = true) : ∃ guid, text = toTraceIdHex guid := by
  obtain ⟨data1, hdata1, h1, hrest1⟩ := exists_number 8 (by omega) hhex
  obtain ⟨data2, hdata2, h2, hrest2⟩ :=
    exists_number 4 (by rw [List.length_drop]; omega) hrest1
  obtain ⟨data3, hdata3, h3, hrest3⟩ :=
    exists_number 4 (by simp only [List.length_drop]; omega) hrest2
  obtain ⟨bytes, hbytes, h4⟩ :=
    exists_bytes 8 (by simp only [List.length_drop]; omega) hrest3
  refine ⟨{
    data1 := .ofNat data1
    data2 := .ofNat data2
    data3 := .ofNat data3
    data4 := ⟨bytes.toArray, hbytes⟩ }, ?_⟩
  rw [toTraceIdHex_eq, guidDigits, UInt32.toNat_ofNat_of_lt' hdata1,
    UInt16.toNat_ofNat_of_lt' hdata2, UInt16.toNat_ofNat_of_lt' hdata3]
  exact h1.trans (congrArg _ (h2.trans (congrArg _ (h3.trans (congrArg _ h4)))))

/-! ## The parts of a traceparent -/

def compose (traceId spanId flags : ByteText) : ByteText :=
  asciiText "00-" ++ (traceId ++ hyphen :: (spanId ++ hyphen :: flags))

theorem drop_compose {traceId spanId : ByteText} (htrace : traceId.length = 32)
    (hspan : spanId.length = 16) (flags : ByteText) :
    (compose traceId spanId flags).drop 3 = traceId ++ hyphen :: (spanId ++ hyphen :: flags) ∧
    (compose traceId spanId flags).drop 35 = hyphen :: (spanId ++ hyphen :: flags) ∧
      (compose traceId spanId flags).drop 36 = spanId ++ hyphen :: flags ∧
        (compose traceId spanId flags).drop 52 = hyphen :: flags ∧
          (compose traceId spanId flags).drop 53 = flags := by
  have h3 : (compose traceId spanId flags).drop 3 =
      traceId ++ hyphen :: (spanId ++ hyphen :: flags) := rfl
  have h35 : (compose traceId spanId flags).drop (3 + 32) =
      hyphen :: (spanId ++ hyphen :: flags) := by
    rw [← List.drop_drop, h3, ← htrace, List.drop_left]
  have h36 : (compose traceId spanId flags).drop (35 + 1) = spanId ++ hyphen :: flags := by
    rw [← List.drop_drop, h35]
    rfl
  have h52 : (compose traceId spanId flags).drop (36 + 16) = hyphen :: flags := by
    rw [← List.drop_drop, h36, ← hspan, List.drop_left]
  have h53 : (compose traceId spanId flags).drop (52 + 1) = flags := by
    rw [← List.drop_drop, h52]
    rfl
  exact ⟨h3, h35, h36, h52, h53⟩

theorem isW3CTraceParent_compose {traceId spanId flags : ByteText}
    (htrace : traceId.length = 32) (hspan : spanId.length = 16) (hflags : flags.length = 2)
    (hhex : traceId.all isHex = true ∧ spanId.all isHex = true ∧ flags.all isHex = true) :
    isW3CTraceParent (compose traceId spanId flags) = true := by
  obtain ⟨h3, h35, h36, h52, h53⟩ := drop_compose htrace hspan flags
  have hlength : (compose traceId spanId flags).length = 55 := by
    simp [compose, htrace, hspan, hflags, asciiText]
  have hplace35 : (compose traceId spanId flags)[35]? = some hyphen := by
    rw [← Nat.add_zero 35, ← List.getElem?_drop, h35]
    rfl
  have hplace52 : (compose traceId spanId flags)[52]? = some hyphen := by
    rw [← Nat.add_zero 52, ← List.getElem?_drop, h52]
    rfl
  have htraceId : ((compose traceId spanId flags).drop 3).take 32 = traceId := by
    rw [h3, ← htrace, List.take_left]
  have hspanId : ((compose traceId spanId flags).drop 36).take 16 = spanId := by
    rw [h36, ← hspan, List.take_left]
  have hflagged : ((compose traceId spanId flags).drop 53).take 2 = flags := by
    rw [h53, ← hflags, List.take_length]
  have hstart : (compose traceId spanId flags)[0]? = some 0x30 ∧
      (compose traceId spanId flags)[1]? = some 0x30 ∧
        (compose traceId spanId flags)[2]? = some hyphen := ⟨rfl, rfl, rfl⟩
  simp only [isW3CTraceParent, hlength, hplace35, hplace52, htraceId, hspanId, hflagged,
    hstart, hhex, beq_self_eq_true, Bool.and_self]

theorem drop_of_getElem? {text : ByteText} {place : ℕ} {character : UInt8}
    (h : text[place]? = some character) :
    text.drop place = character :: text.drop (place + 1) := by
  obtain ⟨hplace, rfl⟩ := List.getElem?_eq_some_iff.mp h
  exact List.drop_eq_getElem_cons hplace

theorem drop_eq_append (text : ByteText) (place count : ℕ) :
    text.drop place = (text.drop place).take count ++ text.drop (place + count) := by
  rw [← List.drop_drop, List.take_append_drop]

structure Parts (traceParent traceId spanId flags : ByteText) : Prop where
  whole : traceParent = compose traceId spanId flags
  traceId_length : traceId.length = 32
  spanId_length : spanId.length = 16
  flags_length : flags.length = 2
  isHex : traceId.all isHex = true ∧ spanId.all isHex = true ∧ flags.all isHex = true

theorem parts_of_isW3CTraceParent {traceParent : ByteText}
    (h : isW3CTraceParent traceParent = true) :
    Parts traceParent ((traceParent.drop 3).take 32) ((traceParent.drop 36).take 16)
      ((traceParent.drop 53).take 2) := by
  simp only [isW3CTraceParent, Bool.and_eq_true, beq_iff_eq] at h
  obtain ⟨⟨⟨⟨⟨⟨⟨⟨hlength, h0⟩, h1⟩, h2⟩, h35⟩, h52⟩, htrace⟩, hspan⟩, hflags⟩ := h
  refine ⟨?_, by simp [hlength], by simp [hlength], by simp [hlength],
    htrace, hspan, hflags⟩
  have hlast : (traceParent.drop 53).take 2 = traceParent.drop 53 :=
    List.take_of_length_le (by simp [hlength])
  calc
    traceParent = traceParent.drop 0 := rfl
    _ = 0x30 :: 0x30 :: hyphen :: traceParent.drop 3 := by
      rw [drop_of_getElem? h0, drop_of_getElem? h1, drop_of_getElem? h2]
    _ = 0x30 :: 0x30 :: hyphen :: ((traceParent.drop 3).take 32 ++ hyphen ::
          ((traceParent.drop 36).take 16 ++ hyphen :: (traceParent.drop 53).take 2)) := by
      rw [hlast, ← drop_of_getElem? h52, ← drop_eq_append traceParent 36 16,
        ← drop_of_getElem? h35, ← drop_eq_append traceParent 3 32]

/-! ## Round trips -/

theorem length_toTraceIdHex (guid : Guid) : (toTraceIdHex guid).length = 32 := by
  rw [toTraceIdHex_eq, guidDigits, toList_data4]
  simp

theorem isHex_toTraceIdHex (guid : Guid) : (toTraceIdHex guid).all isHex = true := by
  rw [toTraceIdHex_eq, guidDigits, toList_data4]
  simp [all_isHex_digits]

theorem length_formatSpanId (spanId : UInt64) : (formatSpanId spanId).length = 16 := by
  rw [formatSpanId_eq, HexText.length_digits]

theorem parts_compose (guid : Guid) (spanId : UInt64) {flags : ByteText}
    (hlength : flags.length = 2) (hhex : flags.all isHex = true) :
    isW3CTraceParent (compose (toTraceIdHex guid) (formatSpanId spanId) flags) = true ∧
      traceParentToSpanContext
          (compose (toTraceIdHex guid) (formatSpanId spanId) flags) =
        if guid = {} ∨ spanId = 0 then none else some { traceId := guid, spanId } := by
  have htrace := length_toTraceIdHex guid
  have hspan := length_formatSpanId spanId
  have haccepted := isW3CTraceParent_compose htrace hspan hlength
    ⟨isHex_toTraceIdHex guid, by rw [formatSpanId_eq]; exact all_isHex_digits _ _, hhex⟩
  obtain ⟨h3, -, h36, -, -⟩ := drop_compose htrace hspan flags
  refine ⟨haccepted, ?_⟩
  have htraceId : ((compose (toTraceIdHex guid) (formatSpanId spanId) flags).drop 3).take 32 =
      toTraceIdHex guid := by
    rw [h3, ← htrace, List.take_left]
  have hspanId : ((compose (toTraceIdHex guid) (formatSpanId spanId) flags).drop 36).take 16 =
      formatSpanId spanId := by
    rw [h36, ← hspan, List.take_left]
  rw [traceParentToSpanContext, haccepted, Bool.not_true, if_neg Bool.false_ne_true,
    htraceId, hspanId, ofText_toGuidText, Option.bind_some]
  dsimp only
  rw [parseSpanId_formatSpanId]
  by_cases hguid : guid = {}
  · rw [if_pos hguid, if_pos (.inl hguid)]
  · by_cases hzero : spanId = 0
    · rw [if_neg hguid, if_pos hzero, if_pos (.inr hzero)]
    · rw [if_neg hguid, if_neg hzero, if_neg (not_or.mpr ⟨hguid, hzero⟩)]

theorem spanContextToTraceParent_eq {context : SpanContextDataType}
    (htrace : context.traceId ≠ {}) (hspan : context.spanId ≠ 0) :
    spanContextToTraceParent context =
      compose (toTraceIdHex context.traceId) (formatSpanId context.spanId)
        (asciiText "01") := by
  rw [spanContextToTraceParent, if_neg (not_or.mpr ⟨htrace, hspan⟩), compose]
  simp [asciiText, hyphen]

theorem take_compose {traceId spanId : ByteText} (htrace : traceId.length = 32)
    (hspan : spanId.length = 16) (flags other : ByteText) :
    (compose traceId spanId flags).take 53 ++ other = compose traceId spanId other := by
  have happend : ∀ flags, compose traceId spanId flags =
      compose traceId spanId [] ++ flags := by
    intro flags
    simp [compose]
  have hlength : (compose traceId spanId []).length = 53 := by
    simp [compose, htrace, hspan, asciiText]
  rw [happend flags, happend other, ← hlength, List.take_left]

theorem exists_context {traceParent : ByteText}
    (h : isW3CTraceParent traceParent = true) :
    ∃ guid spanId flags, traceParent =
        compose (toTraceIdHex guid) (formatSpanId spanId) flags ∧
      flags.length = 2 ∧ flags.all isHex = true := by
  obtain ⟨hwhole, htrace, hspan, hflags, htraceHex, hspanHex, hflagsHex⟩ :=
    parts_of_isW3CTraceParent h
  obtain ⟨guid, hguid⟩ := exists_guid htrace htraceHex
  obtain ⟨value, hvalue, hspanId⟩ := HexText.exists_digits
    fun character hmem => (isHex_iff character).mp (List.all_eq_true.mp hspanHex _ hmem)
  rw [hspan] at hvalue hspanId
  have hformat : formatSpanId (.ofNat value) = (traceParent.drop 36).take 16 := by
    rw [formatSpanId_eq, UInt64.toNat_ofNat_of_lt' hvalue, ← hspanId]
  refine ⟨guid, .ofNat value, (traceParent.drop 53).take 2, ?_, hflags, hflagsHex⟩
  rw [← hguid, hformat]
  exact hwhole

/-- A traceparent which is accepted returns with other flags, and a context of two
valid ids as it is. -/
theorem traceContext_returns :
    (∀ traceParent context, traceParentToSpanContext traceParent = some context →
      spanContextToTraceParent context = traceParent.take 53 ++ asciiText "01") ∧
    ∀ context : SpanContextDataType, context.traceId ≠ {} → context.spanId ≠ 0 →
      traceParentToSpanContext (spanContextToTraceParent context) = some context ∧
        isW3CTraceParent (spanContextToTraceParent context) = true := by
  constructor
  · intro traceParent context haccepted
    have hform : isW3CTraceParent traceParent = true := by
      by_contra hform
      rw [traceParentToSpanContext, Bool.eq_false_iff.mpr hform] at haccepted
      cases haccepted
    obtain ⟨guid, spanId, flags, rfl, hlength, hhex⟩ := exists_context hform
    rw [(parts_compose guid spanId hlength hhex).2] at haccepted
    split at haccepted
    next => cases haccepted
    next hvalid =>
      cases haccepted
      obtain ⟨hguid, hspanId⟩ := not_or.mp hvalid
      rw [spanContextToTraceParent_eq hguid hspanId,
        take_compose (length_toTraceIdHex guid) (length_formatSpanId spanId)]
  · intro context htrace hspan
    have hflags : (asciiText "01").length = 2 ∧ (asciiText "01").all isHex = true := by
      decide
    obtain ⟨haccepted, hread⟩ :=
      parts_compose context.traceId context.spanId hflags.1 hflags.2
    rw [spanContextToTraceParent_eq htrace hspan, hread,
      if_neg (not_or.mpr ⟨htrace, hspan⟩)]
    exact ⟨rfl, haccepted⟩

/-- A context with one bit in each id. -/
def sampleContext : SpanContextDataType :=
  { traceId := { data1 := 0xabcdef01 }, spanId := 0xf0 }

theorem sampleContext_returns :
    spanContextToTraceParent sampleContext =
        (asciiText "00-abcdef01000000000000000000000000-00000000000000f0-00").take 53 ++
          asciiText "01" ∧
      traceParentToSpanContext (spanContextToTraceParent sampleContext) =
        some sampleContext :=
  ⟨traceContext_returns.1 _ _ (by decide),
    (traceContext_returns.2 sampleContext (by decide) (by decide)).1⟩

end TraceContext
end OpcuaStack
