import Mathlib.Data.List.Lex
import Mathlib.Data.List.Basic
import Mathlib.Data.UInt

/-!
# Byte strings

Strings and byte slices are lists of bytes, compared lexicographically. The
encoders used to build keys and signed texts are here with the facts that make
a key unambiguous: an encoder is injective, and its output avoids the separator.
-/

set_option autoImplicit false

instance linearOrderUInt8 : LinearOrder UInt8 where
  le_refl := UInt8.le_refl
  le_trans _ _ _ := UInt8.le_trans
  lt_iff_le_not_ge _ _ := by
    rw [UInt8.lt_iff_toNat_lt, UInt8.le_iff_toNat_le, UInt8.le_iff_toNat_le]
    omega
  le_antisymm _ _ := UInt8.le_antisymm
  le_total := UInt8.le_total
  toDecidableLE := inferInstance
  toDecidableEq := inferInstance
  toDecidableLT := inferInstance

abbrev Bytes := List UInt8

/-- Named, so that definitions that look a byte string up in a list share it. -/
instance lawfulBEqBytes : LawfulBEq Bytes := inferInstance

namespace Bytes

/-- The bytes of a text made of ASCII characters. -/
def ascii (s : String) : Bytes := s.toList.map fun c => UInt8.ofNat c.toNat

def slash : UInt8 := 47

def newline : UInt8 := 10

/-- Parts joined by a separator byte, as `strings.Join` does. -/
def join (sep : UInt8) : List Bytes → Bytes
  | [] => []
  | [p] => p
  | p :: q :: ps => p ++ sep :: join sep (q :: ps)

section Hex

def hexDigit (n : UInt8) : UInt8 := if n < 10 then 48 + n else 87 + n

def hexEncode (b : Bytes) : Bytes := b.flatMap fun x => [hexDigit (x / 16), hexDigit (x % 16)]

def hexValue (c : UInt8) : Option UInt8 :=
  if 48 ≤ c ∧ c ≤ 57 then some (c - 48)
  else if 97 ≤ c ∧ c ≤ 102 then some (c - 87)
  else if 65 ≤ c ∧ c ≤ 70 then some (c - 55)
  else none

def hexDecode : Bytes → Option Bytes
  | [] => some []
  | [_] => none
  | a :: b :: rest => do
    let hi ← hexValue a
    let lo ← hexValue b
    let tail ← hexDecode rest
    pure ((hi * 16 + lo) :: tail)

theorem hexDigits_of_byte (x : UInt8) :
    hexValue (hexDigit (x / 16)) = some (x / 16) ∧ hexValue (hexDigit (x % 16)) = some (x % 16) ∧
      x / 16 * 16 + x % 16 = x ∧ 48 ≤ hexDigit (x / 16) ∧ 48 ≤ hexDigit (x % 16) := by
  have key : ∀ n : Fin 256,
      hexValue (hexDigit (UInt8.ofNat n / 16)) = some (UInt8.ofNat n / 16) ∧
        hexValue (hexDigit (UInt8.ofNat n % 16)) = some (UInt8.ofNat n % 16) ∧
        UInt8.ofNat n / 16 * 16 + UInt8.ofNat n % 16 = UInt8.ofNat n ∧
        48 ≤ hexDigit (UInt8.ofNat n / 16) ∧ 48 ≤ hexDigit (UInt8.ofNat n % 16) := by
    decide +kernel
  have hx : x = UInt8.ofNat x.toNat := by simp
  rw [hx]
  exact key ⟨x.toNat, x.toNat_lt⟩

@[simp] theorem hexEncode_cons (x : UInt8) (b : Bytes) :
    hexEncode (x :: b) = hexDigit (x / 16) :: hexDigit (x % 16) :: hexEncode b := rfl

theorem hexDecode_hexEncode (b : Bytes) : hexDecode (hexEncode b) = some b := by
  induction b with
  | nil => rfl
  | cons x b ih =>
    obtain ⟨hhi, hlo, hx, _⟩ := hexDigits_of_byte x
    simp only [hexEncode_cons, hexDecode, hhi, hlo, ih, Option.bind_eq_bind, Option.bind_some, hx]
    rfl

theorem hexEncode_injective {a b : Bytes} (h : hexEncode a = hexEncode b) : a = b := by
  have hd := congrArg hexDecode h
  rw [hexDecode_hexEncode, hexDecode_hexEncode] at hd
  exact Option.some.inj hd

@[simp] theorem hexEncode_inj {a b : Bytes} : hexEncode a = hexEncode b ↔ a = b :=
  ⟨hexEncode_injective, congrArg _⟩

/-- The digits come after the separators in the alphabet. -/
theorem le_of_mem_hexEncode {b : Bytes} {c : UInt8} (h : c ∈ hexEncode b) : 48 ≤ c := by
  induction b with
  | nil => cases h
  | cons x b ih =>
    obtain ⟨_, _, _, hhi, hlo⟩ := hexDigits_of_byte x
    rw [hexEncode_cons, List.mem_cons, List.mem_cons] at h
    rcases h with rfl | rfl | h
    · exact hhi
    · exact hlo
    · exact ih h

theorem slash_notMem_hexEncode (b : Bytes) : slash ∉ hexEncode b :=
  fun h => absurd (le_of_mem_hexEncode h) (by decide)

theorem newline_notMem_hexEncode (b : Bytes) : newline ∉ hexEncode b :=
  fun h => absurd (le_of_mem_hexEncode h) (by decide)

/-- A text of hexadecimal digits, of either case. -/
def HexText (text : Bytes) : Prop := ∀ c ∈ text, (hexValue c).isSome = true

theorem HexText.newline_notMem {text : Bytes} (h : HexText text) : newline ∉ text :=
  fun hmem => absurd (h newline hmem) (by decide)

theorem hexText_of_hexDecode {text b : Bytes} (h : hexDecode text = some b) : HexText text := by
  fun_induction hexDecode text generalizing b with
  | case1 => exact nofun
  | case2 => cases h
  | case3 x y rest ih =>
    simp only [Option.bind_eq_bind, Option.bind_eq_some_iff] at h
    obtain ⟨hi, hhi, lo, hlo, tail, htail, -⟩ := h
    intro c hc
    rcases List.mem_cons.mp hc with rfl | hc
    · rw [hhi]
      rfl
    rcases List.mem_cons.mp hc with rfl | hc
    · rw [hlo]
      rfl
    · exact ih htail c hc

end Hex

section Decimal

def digitByte (c : Char) : UInt8 := UInt8.ofNat c.toNat

/-- Decimal text of an unsigned number, as `strconv.FormatUint` in base ten. -/
def formatUint (n : UInt64) : Bytes := (Nat.toDigits 10 n.toNat).map digitByte

theorem toNat_digitByte {c : Char} (h : c.isDigit) : (digitByte c).toNat = c.toNat := by
  have hc := Char.isDigit_iff_toNat.mp h
  rw [digitByte, UInt8.toNat_ofNat']
  exact Nat.mod_eq_of_lt (by simp at hc; omega)

theorem map_toChar_formatUint (n : UInt64) :
    (formatUint n).map (fun b => Char.ofNat b.toNat) = Nat.toDigits 10 n.toNat := by
  rw [formatUint, List.map_map]
  conv_rhs => rw [← List.map_id (Nat.toDigits 10 n.toNat)]
  refine List.map_congr_left fun c hc => ?_
  have hdigit := Nat.isDigit_of_mem_toDigits (by decide) (by decide) hc
  simp only [Function.comp_apply, toNat_digitByte hdigit, Char.ofNat_toNat, id_eq]

theorem formatUint_injective {a b : UInt64} (h : formatUint a = formatUint b) : a = b := by
  have hdigits : Nat.toDigits 10 a.toNat = Nat.toDigits 10 b.toNat := by
    rw [← map_toChar_formatUint, ← map_toChar_formatUint, h]
  have hnat : a.toNat = b.toNat := by
    rw [← Nat.ofDigitChars_ten_toDigits (n := a.toNat), hdigits, Nat.ofDigitChars_ten_toDigits]
  exact UInt64.toNat_inj.mp hnat

@[simp] theorem formatUint_inj {a b : UInt64} : formatUint a = formatUint b ↔ a = b :=
  ⟨formatUint_injective, congrArg _⟩

theorem le_of_mem_formatUint {n : UInt64} {b : UInt8} (h : b ∈ formatUint n) : 48 ≤ b := by
  obtain ⟨c, hc, rfl⟩ := List.mem_map.mp h
  have hdigit := Nat.isDigit_of_mem_toDigits (by decide) (by decide) hc
  rw [UInt8.le_iff_toNat_le, toNat_digitByte hdigit]
  exact (Char.isDigit_iff_toNat.mp hdigit).1

theorem slash_notMem_formatUint (n : UInt64) : slash ∉ formatUint n :=
  fun h => absurd (le_of_mem_formatUint h) (by decide)

theorem newline_notMem_formatUint (n : UInt64) : newline ∉ formatUint n :=
  fun h => absurd (le_of_mem_formatUint h) (by decide)

end Decimal

section BigEndian

/-- The eight bytes of a number, most significant first. -/
def bigEndian64 (n : UInt64) : Bytes :=
  [(n >>> 56).toUInt8, (n >>> 48).toUInt8, (n >>> 40).toUInt8, (n >>> 32).toUInt8,
    (n >>> 24).toUInt8, (n >>> 16).toUInt8, (n >>> 8).toUInt8, n.toUInt8]

end BigEndian

section Keys
variable {α : Type} {x : α} {a a' b b' : List α}

/-- A separator that occurs in neither tail splits the two lists at the same place. -/
theorem append_cons_inj_of_notMem (hb : x ∉ b) (hb' : x ∉ b') :
    a ++ x :: b = a' ++ x :: b' ↔ a = a' ∧ b = b' := by
  constructor
  · intro h
    induction a generalizing a' with
    | nil =>
      cases a' with
      | nil => simpa using h
      | cons y a' =>
        have htail : b = a' ++ x :: b' := (List.cons.inj h).2
        exact absurd (htail ▸ List.mem_append_right a' List.mem_cons_self) hb
    | cons y a ih =>
      cases a' with
      | nil =>
        have htail : a ++ x :: b = b' := (List.cons.inj h).2
        exact absurd (htail ▸ List.mem_append_right a List.mem_cons_self) hb'
      | cons z a' =>
        obtain ⟨hyz, hrest⟩ := List.cons.inj h
        obtain ⟨ha, hbb⟩ := ih hrest
        exact ⟨by rw [hyz, ha], hbb⟩
  · intro hall
    obtain ⟨rfl, rfl⟩ := hall
    rfl

/-- A separator that occurs in neither head splits the two lists at the same place. -/
theorem append_cons_inj_of_notMem_left (ha : x ∉ a) (ha' : x ∉ a') :
    a ++ x :: b = a' ++ x :: b' ↔ a = a' ∧ b = b' := by
  have hreversed : b.reverse ++ x :: a.reverse = b'.reverse ++ x :: a'.reverse ↔
      b.reverse = b'.reverse ∧ a.reverse = a'.reverse :=
    append_cons_inj_of_notMem (by simpa using ha) (by simpa using ha')
  rw [← List.reverse_inj]
  simpa [and_comm] using hreversed

end Keys

section Lines
variable {sep : UInt8} {ps qs : List Bytes}

theorem join_eq_intercalate (sep : UInt8) (ps : List Bytes) :
    join sep ps = [sep].intercalate ps := by
  induction ps with
  | nil => rfl
  | cons p ps ih =>
    cases ps with
    | nil => simp [join]
    | cons q ps => simp [join, ih]

/-- Parts without the separator can be read back from the joined text. -/
theorem join_inj (hp : ∀ p ∈ ps, sep ∉ p) (hq : ∀ q ∈ qs, sep ∉ q) (hps : ps ≠ []) (hqs : qs ≠ [])
    (h : join sep ps = join sep qs) : ps = qs := by
  rw [join_eq_intercalate, join_eq_intercalate] at h
  rw [← List.splitOn_intercalate sep hp hps, h, List.splitOn_intercalate sep hq hqs]

end Lines

/-- Parts of one positive length can be read back from their concatenation. -/
theorem eq_of_flatten_eq {n : Nat} (hn : 0 < n) {xs ys : List Bytes} (hxs : ∀ x ∈ xs, x.length = n)
    (hys : ∀ y ∈ ys, y.length = n) (h : xs.flatten = ys.flatten) : xs = ys := by
  induction xs generalizing ys with
  | nil =>
    cases ys with
    | nil => rfl
    | cons y ys =>
      obtain ⟨rfl, -⟩ := List.append_eq_nil_iff.mp h.symm
      exact absurd (hys [] List.mem_cons_self) hn.ne
  | cons x xs ih =>
    rw [List.forall_mem_cons] at hxs
    cases ys with
    | nil =>
      obtain ⟨rfl, -⟩ := List.append_eq_nil_iff.mp h
      exact absurd hxs.1 hn.ne
    | cons y ys =>
      rw [List.forall_mem_cons] at hys
      obtain ⟨rfl, hrest⟩ := List.append_inj h (hxs.1.trans hys.1.symm)
      rw [ih hxs.2 hys.2 hrest]

section Order

theorem le_append (a b : Bytes) : a ≤ a ++ b := by
  induction a with
  | nil =>
    rw [← not_lt]
    exact List.not_lt_nil b
  | cons x a ih => exact List.cons_le_cons x ih

theorem cons_lt_cons_of_lt {x y : UInt8} (h : x < y) (a b : Bytes) : x :: a < y :: b :=
  List.Lex.rel h

theorem cons_le_cons_of_lt {x y : UInt8} (h : x < y) (a b : Bytes) : x :: a ≤ y :: b :=
  le_of_lt (List.Lex.rel h)

end Order
end Bytes

/-- A hash and a signature check over byte strings. -/
structure Crypto where
  sha256 : Bytes → Bytes
  ed25519Verify : (key message signature : Bytes) → Bool
