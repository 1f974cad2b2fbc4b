import Mathlib.Tactic

/-!
# Reading a sequence

A cursor stands at an offset of a fixed sequence, and a reader either fails or
returns a value and a cursor further on.  A reader reads a piece if it returns
its value from every cursor where that piece comes next, whatever follows.
Readers written one after the other read the pieces one after the other.
-/

namespace OpcuaStack

/-! ## Little-endian numbers -/

/-- The low bytes of a number, least significant first. -/
def littleEndian : ℕ → ℕ → List UInt8
  | 0, _ => []
  | width + 1, value =>
      UInt8.ofNat (value % 256) :: littleEndian width (value / 256)

def ofLittleEndian : List UInt8 → ℕ
  | [] => 0
  | byte :: bytes => byte.toNat + 256 * ofLittleEndian bytes

@[simp] theorem length_littleEndian (width value : ℕ) :
    (littleEndian width value).length = width := by
  induction width generalizing value with
  | zero => rfl
  | succ width ih => simp [littleEndian, ih]

theorem ofLittleEndian_littleEndian (width value : ℕ) :
    ofLittleEndian (littleEndian width value) = value % 256 ^ width := by
  induction width generalizing value with
  | zero => simp [littleEndian, ofLittleEndian, Nat.mod_one]
  | succ width ih =>
      have hbyte : (UInt8.ofNat (value % 256)).toNat = value % 256 :=
        UInt8.toNat_ofNat_of_lt' (Nat.mod_lt _ (by norm_num))
      rw [littleEndian, ofLittleEndian, hbyte, ih, pow_succ', Nat.mod_mul]

theorem ofLittleEndian_littleEndian_of_lt {width value : ℕ}
    (h : value < 256 ^ width) :
    ofLittleEndian (littleEndian width value) = value := by
  rw [ofLittleEndian_littleEndian, Nat.mod_eq_of_lt h]

theorem ofLittleEndian_lt (bytes : List UInt8) :
    ofLittleEndian bytes < 256 ^ bytes.length := by
  induction bytes with
  | nil => exact Nat.one_pos
  | cons byte bytes ih =>
      have hbyte := byte.toNat_lt
      rw [ofLittleEndian, List.length_cons, pow_succ]
      omega

theorem littleEndian_ofLittleEndian (bytes : List UInt8) :
    littleEndian bytes.length (ofLittleEndian bytes) = bytes := by
  induction bytes with
  | nil => rfl
  | cons byte bytes ih =>
      have hbyte := byte.toNat_lt
      have hlow : (byte.toNat + 256 * ofLittleEndian bytes) % 256 =
          byte.toNat := by omega
      have hhigh : (byte.toNat + 256 * ofLittleEndian bytes) / 256 =
          ofLittleEndian bytes := by omega
      rw [ofLittleEndian, List.length_cons, littleEndian, hlow, hhigh, ih,
        UInt8.ofNat_toNat]

/-! ## Cursors -/

variable {τ α β : Type}

structure Cursor (τ : Type) where
  items : List τ
  offset : ℕ := 0

namespace Cursor

def remaining (c : Cursor τ) : List τ := c.items.drop c.offset

def advance (c : Cursor τ) (count : ℕ) : Cursor τ :=
  { c with offset := c.offset + count }

def consumed (c : Cursor τ) : Bool := c.remaining.isEmpty

@[simp] theorem advance_advance (c : Cursor τ) (first second : ℕ) :
    (c.advance first).advance second = c.advance (first + second) := by
  simp [advance, Nat.add_assoc]

@[simp] theorem advance_offset (c : Cursor τ) (count : ℕ) :
    (c.advance count).offset = c.offset + count := rfl

@[simp] theorem remaining_advance (c : Cursor τ) (count : ℕ) :
    (c.advance count).remaining = c.remaining.drop count := by
  simp [remaining, advance]

end Cursor

/-! ## Readers -/

abbrev Reader (τ : Type) := StateT (Cursor τ) Option

namespace Reader

/-- The next items, if there are that many. -/
def take (count : ℕ) : Reader τ (List τ) := fun c =>
  if count ≤ c.remaining.length then
    some (c.remaining.take count, c.advance count)
  else
    none

def takeVector (count : ℕ) : Reader τ (Vector τ count) := fun c =>
  if h : count ≤ c.remaining.length then
    some (⟨⟨c.remaining.take count⟩, by simp [h]⟩, c.advance count)
  else
    none

/-- Everything from here to the end. -/
def rest : Reader τ (List τ) := fun c =>
  some (c.remaining, c.advance c.remaining.length)

def atEnd : Reader τ Unit := fun c =>
  if c.consumed then some ((), c) else none

/-- The value read from the start of a sequence. -/
def start (reader : Reader τ α) (items : List τ) : Option α :=
  (reader { items := items }).map Prod.fst

end Reader

/-- The reader returns the value wherever the piece comes next. -/
def Reads (reader : Reader τ α) (piece : List τ) (value : α) : Prop :=
  ∀ (c : Cursor τ) (after : List τ), c.remaining = piece ++ after →
    reader c = some (value, c.advance piece.length)

namespace Reads

theorem pure (value : α) : Reads (pure value : Reader τ α) [] value :=
  fun _ _ _ => rfl

theorem bind {first : Reader τ α} {second : α → Reader τ β}
    {piece next : List τ} {a : α} {b : β}
    (hfirst : Reads first piece a) (hsecond : Reads (second a) next b) :
    Reads (first >>= second) (piece ++ next) b := by
  intro c after hnext
  rw [List.append_assoc] at hnext
  have hleft : (c.advance piece.length).remaining = next ++ after := by
    rw [Cursor.remaining_advance, hnext, List.drop_left]
  have hrun : (first >>= second) c =
      (first c).bind fun result => second result.1 result.2 := rfl
  rw [hrun, hfirst c _ hnext, Option.bind_some, hsecond _ after hleft,
    Cursor.advance_advance, List.length_append]

theorem map {reader : Reader τ α} {piece : List τ} {a : α}
    (h : Reads reader piece a) (f : α → β) :
    Reads (f <$> reader) piece (f a) := by
  intro c after hnext
  have hrun : (f <$> reader) c =
      (reader c).map fun result => (f result.1, result.2) := by
    cases hread : reader c <;>
      simp [Functor.map, StateT.map, hread]
  rw [hrun, h c after hnext, Option.map_some]

theorem bind_pure {first : Reader τ α} {second : α → Reader τ β}
    {piece : List τ} {a : α} {b : β}
    (hfirst : Reads first piece a) (hsecond : Reads (second a) [] b) :
    Reads (first >>= second) piece b := by
  have h := hfirst.bind hsecond
  rwa [List.append_nil] at h

theorem take (piece : List τ) :
    Reads (Reader.take piece.length) piece piece := by
  intro c after hnext
  have hroom : piece.length ≤ c.remaining.length := by
    rw [hnext, List.length_append]
    exact Nat.le_add_right _ _
  rw [Reader.take, if_pos hroom, hnext, List.take_left]

theorem takeVector {count : ℕ} (piece : Vector τ count) :
    Reads (Reader.takeVector count) piece.toList piece := by
  intro c after hnext
  have hlength : piece.toList.length = count := by simp
  have hroom : count ≤ c.remaining.length := by
    rw [hnext, List.length_append, hlength]
    exact Nat.le_add_right _ _
  have hpiece : c.remaining.take count = piece.toList := by
    rw [hnext]
    exact List.take_left' hlength
  rw [Reader.takeVector, dif_pos hroom, hlength]
  congr 2
  apply Vector.toList_inj.mp
  simpa using hpiece

end Reads

/-- The reader returns the value wherever the items are all which is left. -/
def ReadsAll (reader : Reader τ α) (items : List τ) (value : α) : Prop :=
  ∀ c : Cursor τ, c.remaining = items →
    reader c = some (value, c.advance items.length)

theorem Reads.all {reader : Reader τ α} {piece : List τ} {value : α}
    (h : Reads reader piece value) : ReadsAll reader piece value := by
  intro c hleft
  exact h c [] (by rw [hleft, List.append_nil])

theorem Reads.bind_all {first : Reader τ α} {second : α → Reader τ β}
    {piece next : List τ} {a : α} {b : β}
    (hfirst : Reads first piece a) (hsecond : ReadsAll (second a) next b) :
    ReadsAll (first >>= second) (piece ++ next) b := by
  intro c hleft
  have hnext : (c.advance piece.length).remaining = next := by
    rw [Cursor.remaining_advance, hleft, List.drop_left]
  have hrun : (first >>= second) c =
      (first c).bind fun result => second result.1 result.2 := rfl
  rw [hrun, hfirst c next hleft, Option.bind_some, hsecond _ hnext,
    Cursor.advance_advance, List.length_append]

namespace ReadsAll

theorem rest (items : List τ) : ReadsAll Reader.rest items items := by
  intro c hleft
  rw [Reader.rest, hleft]

theorem atEnd : ReadsAll (Reader.atEnd : Reader τ Unit) [] () := by
  intro c hleft
  rw [Reader.atEnd, if_pos (by rw [Cursor.consumed, hleft]; rfl)]
  rfl

theorem bind {first : Reader τ α} {second : α → Reader τ β}
    {items : List τ} {a : α} {b : β}
    (hfirst : ReadsAll first items a) (hsecond : ReadsAll (second a) [] b) :
    ReadsAll (first >>= second) items b := by
  intro c hleft
  have hnext : (c.advance items.length).remaining = [] := by
    rw [Cursor.remaining_advance, hleft, List.drop_length]
  have hrun : (first >>= second) c =
      (first c).bind fun result => second result.1 result.2 := rfl
  rw [hrun, hfirst c hleft, Option.bind_some, hsecond _ hnext,
    Cursor.advance_advance]
  rfl

theorem start {reader : Reader τ α} {items : List τ} {value : α}
    (h : ReadsAll reader items value) : reader.start items = some value := by
  rw [Reader.start, h { items := items } rfl, Option.map_some]

end ReadsAll

/-- The reader fails if anything follows the piece. -/
def RefusesMore (reader : Reader τ α) (piece : List τ) : Prop :=
  ∀ (c : Cursor τ) (after : List τ), after ≠ [] →
    c.remaining = piece ++ after → reader c = none

theorem Reads.bind_refusesMore {first : Reader τ α} {second : α → Reader τ β}
    {piece next : List τ} {a : α} (hfirst : Reads first piece a)
    (hsecond : RefusesMore (second a) next) :
    RefusesMore (first >>= second) (piece ++ next) := by
  intro c after hafter hleft
  rw [List.append_assoc] at hleft
  have hnext : (c.advance piece.length).remaining = next ++ after := by
    rw [Cursor.remaining_advance, hleft, List.drop_left]
  have hrun : (first >>= second) c =
      (first c).bind fun result => second result.1 result.2 := rfl
  rw [hrun, hfirst c _ hleft, Option.bind_some, hsecond _ after hafter hnext]

theorem Reads.bind_refusesMore_nil {first : Reader τ α}
    {second : α → Reader τ β} {piece : List τ} {a : α}
    (hfirst : Reads first piece a) (hsecond : RefusesMore (second a) []) :
    RefusesMore (first >>= second) piece := by
  have h := hfirst.bind_refusesMore hsecond
  rwa [List.append_nil] at h

namespace RefusesMore

theorem atEnd (second : Unit → Reader τ β) :
    RefusesMore ((Reader.atEnd : Reader τ Unit) >>= second) [] := by
  intro c after hafter hleft
  have hmore : c.consumed = false := by
    rw [Cursor.consumed, hleft, List.nil_append, List.isEmpty_eq_false_iff]
    exact hafter
  have hfails : (Reader.atEnd : Reader τ Unit) c = none :=
    if_neg (by simp [hmore])
  have hrun : ((Reader.atEnd : Reader τ Unit) >>= second) c =
      ((Reader.atEnd : Reader τ Unit) c).bind fun result =>
        second result.1 result.2 := rfl
  rw [hrun, hfails, Option.bind_none]

theorem start {reader : Reader τ α} {piece after : List τ}
    (h : RefusesMore reader piece) (hafter : after ≠ []) :
    reader.start (piece ++ after) = none := by
  rw [Reader.start, h { items := piece ++ after } after hafter rfl,
    Option.map_none]

end RefusesMore

theorem Reads.start {reader : Reader τ α} {piece : List τ} {value : α}
    (h : Reads reader piece value) (after : List τ) :
    reader.start (piece ++ after) = some value := by
  rw [Reader.start, h { items := piece ++ after } after rfl, Option.map_some]

end OpcuaStack
