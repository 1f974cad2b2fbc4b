import OpcuaStack.BuiltInTypes
import OpcuaStack.HexText

/-!
# The text of a Guid

`types/guid.cpp`: five groups of hexadecimal digits in upper case, joined by hyphens.
The reader takes either case.
-/

namespace OpcuaStack

/-- `%X`. -/
def upperHexDigit (digit : ℕ) : UInt8 :=
  if digit < 10 then (0x30 + digit).toUInt8 else (0x41 + (digit - 10)).toUInt8

/-- `ParseHexDigit`. -/
def parseHexDigit (character : UInt8) : Option ℕ :=
  if 0x30 ≤ character ∧ character ≤ 0x39 then some (character - 0x30).toNat
  else if 0x61 ≤ character ∧ character ≤ 0x66 then
    some ((character - 0x61).toNat + 10)
  else if 0x41 ≤ character ∧ character ≤ 0x46 then
    some ((character - 0x41).toNat + 10)
  else none

def hexUpper (width value : ℕ) : ByteText :=
  HexText.digits upperHexDigit width value

/-- `ParseHex`: digits from an offset on. -/
def parseHex (text : ByteText) (offset count : ℕ) : Option ℕ :=
  HexText.parse parseHexDigit ((text.drop offset).take count)

def hyphen : UInt8 := 0x2d

/-- The format `%08X-%04X-%04X-%02X%02X-%02X%02X%02X%02X%02X%02X`. -/
def Guid.toText (guid : Guid) : ByteText :=
  hexUpper 8 guid.data1.toNat ++ hyphen ::
    (hexUpper 4 guid.data2.toNat ++ hyphen ::
      (hexUpper 4 guid.data3.toNat ++ hyphen ::
        (hexUpper 2 guid.data4[0].toNat ++ hexUpper 2 guid.data4[1].toNat ++
          hyphen ::
            (hexUpper 2 guid.data4[2].toNat ++ hexUpper 2 guid.data4[3].toNat ++
              hexUpper 2 guid.data4[4].toNat ++ hexUpper 2 guid.data4[5].toNat ++
              hexUpper 2 guid.data4[6].toNat ++
              hexUpper 2 guid.data4[7].toNat))))

/-- Where the digits of a byte of `data4` are. -/
def data4Offset (place : ℕ) : ℕ :=
  if place < 2 then 19 + place * 2 else 24 + (place - 2) * 2

def Guid.ofText (text : ByteText) : Option Guid :=
  if text.length ≠ 36 then none
  else if text[8]? ≠ some hyphen ∨ text[13]? ≠ some hyphen ∨
      text[18]? ≠ some hyphen ∨ text[23]? ≠ some hyphen then
    none
  else do
    let data1 ← parseHex text 0 8
    let data2 ← parseHex text 9 4
    let data3 ← parseHex text 14 4
    let data4 ← (List.range 8).mapM fun place => parseHex text (data4Offset place) 2
    return {
      data1 := .ofNat data1
      data2 := .ofNat data2
      data3 := .ofNat data3
      data4 := .ofFn fun place => .ofNat (data4.getD place 0) }

section

variable {convert : UInt8 → UInt8}
  (h : HexText.Knows parseHexDigit fun digit => convert (upperHexDigit digit))
include h

theorem parse_hexUpper {width value : ℕ} (hvalue : value < 16 ^ width) :
    HexText.parse parseHexDigit ((hexUpper width value).map convert) = some value := by
  rw [hexUpper, HexText.map_digits]
  exact HexText.parse_digits h hvalue

theorem parse_upper32 (value : UInt32) :
    HexText.parse parseHexDigit ((hexUpper 8 value.toNat).map convert) =
      some value.toNat :=
  parse_hexUpper h value.toNat_lt

theorem parse_upper16 (value : UInt16) :
    HexText.parse parseHexDigit ((hexUpper 4 value.toNat).map convert) =
      some value.toNat :=
  parse_hexUpper h value.toNat_lt

theorem parse_upper8 (value : UInt8) :
    HexText.parse parseHexDigit ((hexUpper 2 value.toNat).map convert) =
      some value.toNat :=
  parse_hexUpper h value.toNat_lt

theorem parse_data4 (guid : Guid) {place : ℕ} (hplace : place < 8) :
    parseHex (guid.toText.map convert) (data4Offset place) 2 =
      some guid.data4[place].toNat := by
  interval_cases place <;> exact parse_upper8 h _

end

theorem mapM_eq_some_map {α β : Type} {f : α → Option β} {g : α → β} {list : List α}
    (h : ∀ element ∈ list, f element = some (g element)) :
    list.mapM f = some (list.map g) := by
  induction list with
  | nil => rfl
  | cons element rest ih =>
      rw [List.mapM_cons, h element List.mem_cons_self,
        ih fun other hother => h other (List.mem_cons_of_mem _ hother)]
      rfl

theorem Guid.ofText_map {convert : UInt8 → UInt8} (hhyphen : convert hyphen = hyphen)
    (hdigits : HexText.Knows parseHexDigit fun digit => convert (upperHexDigit digit))
    (guid : Guid) : Guid.ofText (guid.toText.map convert) = some guid := by
  have hlength : ¬ (guid.toText.map convert).length ≠ 36 := by
    simp [Guid.toText, hexUpper]
  have hplace : ∀ {place : ℕ}, guid.toText[place]? = some hyphen →
      (guid.toText.map convert)[place]? = some hyphen := by
    intro place h
    rw [List.getElem?_map, h, Option.map_some, hhyphen]
  have hhyphens : ¬ ((guid.toText.map convert)[8]? ≠ some hyphen ∨
      (guid.toText.map convert)[13]? ≠ some hyphen ∨
        (guid.toText.map convert)[18]? ≠ some hyphen ∨
          (guid.toText.map convert)[23]? ≠ some hyphen) := by
    simp only [not_or, not_not]
    exact ⟨hplace rfl, hplace rfl, hplace rfl, hplace rfl⟩
  have h1 : parseHex (guid.toText.map convert) 0 8 = some guid.data1.toNat :=
    parse_upper32 hdigits guid.data1
  have h2 : parseHex (guid.toText.map convert) 9 4 = some guid.data2.toNat :=
    parse_upper16 hdigits guid.data2
  have h3 : parseHex (guid.toText.map convert) 14 4 = some guid.data3.toNat :=
    parse_upper16 hdigits guid.data3
  have h4 : (List.range 8).mapM (fun place =>
      parseHex (guid.toText.map convert) (data4Offset place) 2) =
        some ((List.range 8).map fun place => (guid.data4.toList.getD place 0).toNat) := by
    apply mapM_eq_some_map
    intro place hplace
    have hlt := List.mem_range.mp hplace
    rw [parse_data4 hdigits guid hlt]
    simp [List.getD_eq_getElem?_getD, hlt]
  rw [Guid.ofText, if_neg hlength, if_neg hhyphens, h1, h2, h3, h4]
  have hdata4 : (Vector.ofFn fun place : Fin 8 => UInt8.ofNat
      (((List.range 8).map fun place =>
        (guid.data4.toList.getD place 0).toNat).getD place 0)) = guid.data4 := by
    ext place hplace
    simp [List.getD_eq_getElem?_getD]
  simp only [Option.bind_eq_bind, Option.bind_some, hdata4, UInt32.ofNat_toNat,
    UInt16.ofNat_toNat]
  rfl

theorem Guid.ofText_toText (guid : Guid) : Guid.ofText guid.toText = some guid := by
  have hknows : HexText.Knows parseHexDigit fun digit => id (upperHexDigit digit) := by
    unfold HexText.Knows
    decide
  have hread := Guid.ofText_map rfl hknows guid
  rwa [List.map_id] at hread

end OpcuaStack
