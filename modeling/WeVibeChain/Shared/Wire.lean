import Mathlib.Algebra.Order.BigOperators.Group.List
import Mathlib.Algebra.Order.Group.Nat
import WeVibeChain.Shared.Bytes

/-!
# Records on the wire

A protobuf record is a list of fields, each a number and a value. A value that is
zero or empty is not written. The reader takes any bytes: a field begins with a
tag that holds its number and the form of its value, and what cannot be read
makes the whole record unreadable. The fields of a record are read back from the
bytes that are written of it, so a record can be kept as its fields.

A reader for one type of record accepts the bytes of another whenever the forms
of the fields they share agree, so what a scan makes of foreign records depends
on their fields alone.
-/

set_option autoImplicit false

namespace Wire

/-- The value of a field. Of the forms other than numbers and byte strings only the form is kept. -/
inductive Value where
  | varint (n : UInt64)
  | bytes (b : Bytes)
  | fixed64
  | fixed32
  | group
  deriving DecidableEq

structure Field where
  number : Nat
  value : Value
  deriving DecidableEq

/-- The length of the byte string that a value is. -/
def Value.weight : Value → Nat
  | bytes b => b.length
  | _ => 0

section Writing

def varintField (number : Nat) (n : UInt64) : List Field :=
  if n = 0 then [] else [⟨number, .varint n⟩]

def bytesField (number : Nat) (b : Bytes) : List Field :=
  if b = [] then [] else [⟨number, .bytes b⟩]

/-- Every element of a repeated field is written, the empty ones too. -/
def repeatedField (number : Nat) (bs : List Bytes) : List Field :=
  bs.map fun b => ⟨number, .bytes b⟩

/-- Seven bits a byte, least significant first. A 64-bit number takes ten bytes at most. -/
def writeVarint : Nat → Nat → Bytes
  | 0, _ => []
  | fuel + 1, n =>
    if n < 128 then [n.toUInt8] else (n % 128 + 128).toUInt8 :: writeVarint fuel (n / 128)

/-- No record is written with a value of another form. -/
def writeField (f : Field) : Bytes :=
  match f.value with
  | .varint n => writeVarint 10 (8 * f.number) ++ writeVarint 10 n.toNat
  | .bytes b => writeVarint 10 (8 * f.number + 2) ++ writeVarint 10 b.length ++ b
  | _ => []

/-- The bytes of a record, as they stand where it is a value in another record. -/
def write (fields : List Field) : Bytes := fields.flatMap writeField

theorem bytes_notMem_varintField (number number' : Nat) (n : UInt64) (b : Bytes) :
    ⟨number', .bytes b⟩ ∉ varintField number n := by
  unfold varintField
  split
  · exact List.not_mem_nil
  · simp

end Writing

section Reading

/-- Seven bits a byte, least significant first, at most `fuel` bytes. -/
def readVarint : Nat → Bytes → Option (Nat × Bytes)
  | 0, _ => none
  | _ + 1, [] => none
  | fuel + 1, b :: rest =>
    if b < 128 then some (b.toNat, rest)
    else (readVarint fuel rest).map fun r => (b.toNat - 128 + 128 * r.1, r.2)

/-- A 64-bit number takes ten bytes at most; what they hold beyond 64 bits is lost. -/
def readUint64 (bs : Bytes) : Option (UInt64 × Bytes) :=
  (readVarint 10 bs).map fun r => (UInt64.ofNat r.1, r.2)

/-- The first `n` bytes and the rest. -/
def takeBytes (n : Nat) (bs : Bytes) : Option (Bytes × Bytes) :=
  if n ≤ bs.length then some (bs.take n, bs.drop n) else none

/-- A length and that many bytes. -/
def readBytes (bs : Bytes) : Option (Bytes × Bytes) :=
  (readUint64 bs).bind fun r => takeBytes r.1.toNat r.2

/-- What follows the end of a group that is open `depth` times. -/
def skipGroup : Nat → Nat → Bytes → Option Bytes
  | 0, _, _ => none
  | fuel + 1, depth, bs =>
    match readUint64 bs with
    | none => none
    | some (tag, rest) =>
      match (tag % 8).toNat with
      | 0 => (readVarint 10 rest).bind fun r => skipGroup fuel depth r.2
      | 1 => (takeBytes 8 rest).bind fun r => skipGroup fuel depth r.2
      | 2 => (readBytes rest).bind fun r => skipGroup fuel depth r.2
      | 3 => skipGroup fuel (depth + 1) rest
      | 4 => if depth = 1 then some rest else skipGroup fuel (depth - 1) rest
      | 5 => (takeBytes 4 rest).bind fun r => skipGroup fuel depth r.2
      | _ => none

/-- The value in the form that the tag announces. -/
def readValue (form : Nat) (bs : Bytes) : Option (Value × Bytes) :=
  match form with
  | 0 => (readUint64 bs).map fun r => (.varint r.1, r.2)
  | 1 => (takeBytes 8 bs).map fun r => (.fixed64, r.2)
  | 2 => (readBytes bs).map fun r => (.bytes r.1, r.2)
  | 3 => (skipGroup bs.length 1 bs).map fun rest => (.group, rest)
  | 5 => (takeBytes 4 bs).map fun r => (.fixed32, r.2)
  | _ => none

/-- A tag is a field number, cut to 32 bits and positive, and the form of the value. -/
def readField (bs : Bytes) : Option (Field × Bytes) :=
  match readUint64 bs with
  | none => none
  | some (tag, rest) =>
    let number := (tag / 8).toNat % 2 ^ 32
    if number = 0 ∨ number ≥ 2 ^ 31 then none
    else (readValue (tag % 8).toNat rest).map fun r => (⟨number, r.1⟩, r.2)

def readFields : Nat → Bytes → Option (List Field)
  | _, [] => some []
  | 0, _ :: _ => none
  | fuel + 1, bs =>
    match readField bs with
    | none => none
    | some (field, rest) => (readFields fuel rest).map fun fields => field :: fields

/-- The fields of a record. A field takes at least one byte. -/
def parse (bs : Bytes) : Option (List Field) := readFields bs.length bs

end Reading

section Written
variable {f : Field} {fields : List Field}

/-- The forms that are written. -/
def Value.Plain : Value → Prop
  | .varint _ => True
  | .bytes _ => True
  | _ => False

structure Field.Plain (f : Field) : Prop where
  pos : 0 < f.number
  lt : f.number < 2 ^ 29
  value : f.value.Plain

/-- Of fields like these records are made. -/
def Plain (fields : List Field) : Prop := ∀ f ∈ fields, f.Plain

@[simp] theorem plain_nil : Plain [] := fun _ h => absurd h List.not_mem_nil

@[simp] theorem plain_append (fields fields' : List Field) :
    Plain (fields ++ fields') ↔ Plain fields ∧ Plain fields' := List.forall_mem_append

@[simp] theorem plain_singleton (f : Field) : Plain [f] ↔ f.Plain := List.forall_mem_singleton

section Builders
variable {number : Nat} (hpos : 0 < number) (hlt : number < 2 ^ 29)
include hpos hlt

@[simp] theorem plain_varintField (n : UInt64) : Plain (varintField number n) := by
  unfold varintField
  split
  · exact plain_nil
  · exact (plain_singleton _).mpr ⟨hpos, hlt, trivial⟩

@[simp] theorem plain_bytesField (b : Bytes) : Plain (bytesField number b) := by
  unfold bytesField
  split
  · exact plain_nil
  · exact (plain_singleton _).mpr ⟨hpos, hlt, trivial⟩

@[simp] theorem plain_repeatedField (bs : List Bytes) : Plain (repeatedField number bs) := by
  intro f hf
  obtain ⟨b, -, rfl⟩ := List.mem_map.mp hf
  exact ⟨hpos, hlt, trivial⟩

end Builders

theorem readVarint_writeVarint {fuel n : Nat} (hfuel : 0 < fuel) (h : n < 128 ^ fuel)
    (rest : Bytes) : readVarint fuel (writeVarint fuel n ++ rest) = some (n, rest) := by
  induction fuel generalizing n with
  | zero => cases hfuel
  | succ fuel ih =>
    unfold writeVarint
    by_cases hsmall : n < 128
    · have hbyte : n.toUInt8.toNat = n := Nat.mod_eq_of_lt (by omega)
      have hlast : n.toUInt8 < 128 := by
        rw [UInt8.lt_iff_toNat_lt, hbyte]
        exact hsmall
      rw [if_pos hsmall, List.singleton_append, readVarint, if_pos hlast, hbyte]
    · have hbyte : (n % 128 + 128).toUInt8.toNat = n % 128 + 128 := Nat.mod_eq_of_lt (by omega)
      have hmore : ¬ (n % 128 + 128).toUInt8 < 128 := by
        rw [UInt8.lt_iff_toNat_lt, hbyte]
        exact Nat.not_lt.mpr (Nat.le_add_left _ _)
      have hdiv : n / 128 < 128 ^ fuel := by
        rw [Nat.pow_succ] at h
        exact Nat.div_lt_of_lt_mul (Nat.mul_comm _ _ ▸ h)
      have hfuel : 0 < fuel := by
        -- without more bytes nothing above 128 is left to write
        rcases Nat.eq_zero_or_pos fuel with rfl | hpos
        · rw [Nat.pow_zero] at hdiv
          omega
        · exact hpos
      rw [if_neg hsmall, List.cons_append, readVarint, if_neg hmore, ih hfuel hdiv, hbyte]
      dsimp only [Option.map_some]
      rw [Nat.add_sub_cancel, Nat.mod_add_div]

theorem readUint64_writeVarint {n : Nat} (h : n < 2 ^ 64) (rest : Bytes) :
    readUint64 (writeVarint 10 n ++ rest) = some (UInt64.ofNat n, rest) := by
  have hten : n < 128 ^ 10 := h.trans (by decide)
  rw [readUint64, readVarint_writeVarint (by decide) hten]
  rfl

theorem readBytes_writeVarint {b : Bytes} (h : b.length < 2 ^ 64) (rest : Bytes) :
    readBytes (writeVarint 10 b.length ++ b ++ rest) = some (b, rest) := by
  have hlength : (UInt64.ofNat b.length).toNat = b.length := Nat.mod_eq_of_lt h
  have hle : b.length ≤ (b ++ rest).length := by
    rw [List.length_append]
    exact Nat.le_add_right _ _
  rw [readBytes, List.append_assoc, readUint64_writeVarint h, Option.bind_some]
  dsimp only
  rw [hlength, takeBytes, if_pos hle, List.take_left, List.drop_left]

/-- A tag gives the number and the form that it was made of. -/
theorem readField_tag {number form : Nat} (hpos : 0 < number) (hlt : number < 2 ^ 29)
    (hform : form < 8) (rest : Bytes) :
    readField (writeVarint 10 (8 * number + form) ++ rest) =
      (readValue form rest).map fun r => (⟨number, r.1⟩, r.2) := by
  have htag : (UInt64.ofNat (8 * number + form)).toNat = 8 * number + form :=
    Nat.mod_eq_of_lt (by omega)
  have hnumber : (UInt64.ofNat (8 * number + form) / 8).toNat % 2 ^ 32 = number := by
    rw [UInt64.toNat_div, htag]
    change (8 * number + form) / 8 % 2 ^ 32 = number
    omega
  have hrest : (UInt64.ofNat (8 * number + form) % 8).toNat = form := by
    rw [UInt64.toNat_mod, htag]
    change (8 * number + form) % 8 = form
    omega
  rw [readField, readUint64_writeVarint (by omega)]
  dsimp only
  rw [hnumber, hrest, if_neg (by omega)]

theorem readField_writeField (hf : f.Plain) (hlength : f.value.weight < 2 ^ 64) (rest : Bytes) :
    readField (writeField f ++ rest) = some (f, rest) := by
  obtain ⟨number, value⟩ := f
  cases value with
  | varint n =>
    have hvalue : readValue 0 (writeVarint 10 n.toNat ++ rest) = some (.varint n, rest) := by
      rw [readValue, readUint64_writeVarint n.toNat_lt, UInt64.ofNat_toNat]
      rfl
    have htag := readField_tag hf.pos hf.lt (by decide : 0 < 8) (writeVarint 10 n.toNat ++ rest)
    rw [hvalue, ← List.append_assoc] at htag
    exact htag
  | bytes b =>
    have hvalue : readValue 2 (writeVarint 10 b.length ++ b ++ rest) = some (.bytes b, rest) := by
      rw [readValue, readBytes_writeVarint hlength]
      rfl
    have htag := readField_tag hf.pos hf.lt (by decide : 2 < 8)
      (writeVarint 10 b.length ++ b ++ rest)
    rw [hvalue, ← List.append_assoc, ← List.append_assoc] at htag
    exact htag
  | fixed64 => exact absurd hf.value id
  | fixed32 => exact absurd hf.value id
  | group => exact absurd hf.value id

section Whole
variable (hplain : Plain fields) (hlength : ∀ f ∈ fields, f.value.weight < 2 ^ 64)
include hplain hlength

theorem readFields_write {fuel : Nat} (hfuel : fields.length ≤ fuel) :
    readFields fuel (write fields) = some fields := by
  induction fields generalizing fuel with
  | nil =>
    cases fuel with
    | zero => rfl
    | succ fuel => rfl
  | cons f fs ih =>
    obtain ⟨hf, hfs⟩ := List.forall_mem_cons.mp hplain
    rw [List.forall_mem_cons] at hlength
    obtain ⟨fuel, rfl⟩ : ∃ n, fuel = n + 1 := Nat.exists_eq_add_one.mpr (by
      rw [List.length_cons] at hfuel
      omega)
    have hfirst := readField_writeField hf hlength.1 (write fs)
    have hlater := ih hfs hlength.2 (Nat.le_of_succ_le_succ hfuel)
    have hwrite : write (f :: fs) = writeField f ++ write fs := List.flatMap_cons
    rw [hwrite]
    cases hbytes : writeField f ++ write fs with
    | nil =>
      rw [hbytes] at hfirst
      cases hfirst
    | cons x xs =>
      rw [hbytes] at hfirst
      rw [readFields, hfirst]
      · dsimp only
        rw [hlater]
        rfl
      · exact List.cons_ne_nil x xs

theorem length_le_length_write : fields.length ≤ (write fields).length := by
  induction fields with
  | nil => exact Nat.le_refl 0
  | cons f fs ih =>
    obtain ⟨hf, hfs⟩ := List.forall_mem_cons.mp hplain
    rw [List.forall_mem_cons] at hlength
    have hfirst : writeField f ≠ [] := by
      intro hnil
      have hread := readField_writeField hf hlength.1 []
      rw [hnil] at hread
      cases hread
    have hpos := List.length_pos_iff.mpr hfirst
    have hlater := ih hfs hlength.2
    have hwrite : write (f :: fs) = writeField f ++ write fs := List.flatMap_cons
    rw [hwrite, List.length_append, List.length_cons]
    omega

/-- The fields of a record are read back from its bytes. -/
theorem parse_write : parse (write fields) = some fields :=
  readFields_write hplain hlength (length_le_length_write hplain hlength)

end Whole

end Written

section Lengths
variable {bs rest b : Bytes}

theorem readVarint_length {fuel n : Nat} (h : readVarint fuel bs = some (n, rest)) :
    rest.length < bs.length := by
  induction fuel generalizing bs n with
  | zero => cases h
  | succ fuel ih =>
    cases bs with
    | nil => cases h
    | cons x xs =>
      unfold readVarint at h
      split at h
      · obtain ⟨-, rfl⟩ := Prod.mk.inj (Option.some.inj h)
        simp
      · obtain ⟨⟨m, r⟩, hread, heq⟩ := Option.map_eq_some_iff.mp h
        obtain ⟨-, rfl⟩ := Prod.mk.inj heq
        have hlt := ih hread
        rw [List.length_cons]
        omega

theorem readUint64_length {n : UInt64} (h : readUint64 bs = some (n, rest)) :
    rest.length < bs.length := by
  obtain ⟨⟨m, r⟩, hread, heq⟩ := Option.map_eq_some_iff.mp h
  obtain ⟨-, rfl⟩ := Prod.mk.inj heq
  exact readVarint_length hread

theorem takeBytes_length {n : Nat} (h : takeBytes n bs = some (b, rest)) :
    b.length + rest.length = bs.length := by
  unfold takeBytes at h
  split at h
  · obtain ⟨rfl, rfl⟩ := Prod.mk.inj (Option.some.inj h)
    rw [List.length_take, List.length_drop]
    omega
  · cases h

theorem readBytes_length (h : readBytes bs = some (b, rest)) :
    b.length + rest.length < bs.length := by
  obtain ⟨⟨n, tail⟩, hread, htake⟩ := Option.bind_eq_some_iff.mp h
  have hlt := readUint64_length hread
  have heq := takeBytes_length htake
  dsimp only at heq
  omega

theorem skipGroup_length {fuel depth : Nat} (h : skipGroup fuel depth bs = some rest) :
    rest.length ≤ bs.length := by
  induction fuel generalizing depth bs with
  | zero => cases h
  | succ fuel ih =>
    unfold skipGroup at h
    split at h
    · cases h
    rename_i tag tail htag
    have hlt := readUint64_length htag
    split at h
    · obtain ⟨r, hread, hskip⟩ := Option.bind_eq_some_iff.mp h
      have hread := readVarint_length hread
      have hskip := ih hskip
      omega
    · obtain ⟨r, hread, hskip⟩ := Option.bind_eq_some_iff.mp h
      have hread := takeBytes_length hread
      have hskip := ih hskip
      omega
    · obtain ⟨r, hread, hskip⟩ := Option.bind_eq_some_iff.mp h
      have hread := readBytes_length hread
      have hskip := ih hskip
      omega
    · have hskip := ih h
      omega
    · split at h
      · obtain rfl := Option.some.inj h
        omega
      · have hskip := ih h
        omega
    · obtain ⟨r, hread, hskip⟩ := Option.bind_eq_some_iff.mp h
      have hread := takeBytes_length hread
      have hskip := ih hskip
      omega
    · cases h

theorem readValue_weight {form : Nat} {value : Value} (h : readValue form bs = some (value, rest)) :
    value.weight + rest.length ≤ bs.length := by
  unfold readValue at h
  split at h
  · obtain ⟨r, hread, heq⟩ := Option.map_eq_some_iff.mp h
    obtain ⟨rfl, rfl⟩ := Prod.mk.inj heq
    have hlen := readUint64_length hread
    change 0 + _ ≤ _
    omega
  · obtain ⟨r, hread, heq⟩ := Option.map_eq_some_iff.mp h
    obtain ⟨rfl, rfl⟩ := Prod.mk.inj heq
    have hlen := takeBytes_length hread
    change 0 + _ ≤ _
    omega
  · obtain ⟨r, hread, heq⟩ := Option.map_eq_some_iff.mp h
    obtain ⟨rfl, rfl⟩ := Prod.mk.inj heq
    exact (readBytes_length hread).le
  · obtain ⟨r, hskip, heq⟩ := Option.map_eq_some_iff.mp h
    obtain ⟨rfl, rfl⟩ := Prod.mk.inj heq
    have hlen := skipGroup_length hskip
    change 0 + _ ≤ _
    omega
  · obtain ⟨r, hread, heq⟩ := Option.map_eq_some_iff.mp h
    obtain ⟨rfl, rfl⟩ := Prod.mk.inj heq
    have hlen := takeBytes_length hread
    change 0 + _ ≤ _
    omega
  · cases h

theorem readField_weight {f : Field} (h : readField bs = some (f, rest)) :
    f.value.weight + rest.length < bs.length := by
  unfold readField at h
  split at h
  · cases h
  rename_i tag tail htag
  dsimp only at h
  split at h
  · cases h
  obtain ⟨⟨value, r⟩, hvalue, heq⟩ := Option.map_eq_some_iff.mp h
  obtain ⟨rfl, rfl⟩ := Prod.mk.inj heq
  have htag := readUint64_length htag
  have hweight := readValue_weight hvalue
  dsimp only at hweight ⊢
  omega

theorem readFields_weight {fuel : Nat} {fields : List Field}
    (h : readFields fuel bs = some fields) :
    (fields.map fun f => f.value.weight).sum + fields.length ≤ bs.length := by
  induction fuel generalizing bs fields with
  | zero =>
    cases bs with
    | nil =>
      obtain rfl := Option.some.inj h
      exact Nat.le_refl 0
    | cons x xs => cases h
  | succ fuel ih =>
    cases bs with
    | nil =>
      obtain rfl := Option.some.inj h
      exact Nat.le_refl 0
    | cons x xs =>
      unfold readFields at h
      split at h
      · cases h
      rename_i field rest hfield
      obtain ⟨fields', hrest, rfl⟩ := Option.map_eq_some_iff.mp h
      have hfirst := readField_weight hfield
      have hlater := ih hrest
      rw [List.map_cons, List.sum_cons, List.length_cons]
      omega

/-- The byte strings of all the fields are shorter together than the record, unless it is empty. -/
theorem parse_weight {fields : List Field} (h : parse bs = some fields) :
    (fields.map fun f => f.value.weight).sum + fields.length ≤ bs.length :=
  readFields_weight h

theorem parse_bytes_length {fields : List Field} (h : parse bs = some fields) {number : Nat}
    (hb : ⟨number, .bytes b⟩ ∈ fields) : b.length ≤ bs.length := by
  have hle : b.length ≤ (fields.map fun f => f.value.weight).sum :=
    List.le_sum_of_mem (List.mem_map.mpr ⟨_, hb, rfl⟩)
  have hweight := parse_weight h
  omega

end Lengths

section Records
variable {ρ : Type} (read : ρ → Field → Option ρ)

/-- A record read field by field, from the record of a type's zero values on. -/
def readInto (m : ρ) (fields : List Field) : Option ρ := fields.foldlM read m

variable {read} {number : Nat} {m m' : ρ} {fields : List Field} {result : Option ρ}

@[simp] theorem readInto_nil (m : ρ) : readInto read m [] = some m := rfl

theorem readInto_cons (m : ρ) (f : Field) (fs : List Field) :
    readInto read m (f :: fs) = (read m f).bind fun m' => readInto read m' fs := by
  simp [readInto, List.foldlM_cons]

/-- A field of the form its reader expects. The zero value that is not written is there already. -/
theorem readInto_bytesField {set : Bytes → ρ} {b : Bytes}
    (hrest : readInto read (set b) fields = result)
    (hset : ∀ b, read m ⟨number, .bytes b⟩ = some (set b) := by intro _; rfl)
    (hzero : set [] = m := by rfl) :
    readInto read m (bytesField number b ++ fields) = result := by
  subst hrest
  unfold bytesField
  split
  · rename_i hb
    rw [hb, hzero]
    rfl
  · rw [List.singleton_append, readInto_cons, hset]
    rfl

/-- A field that is read as an element of a repeated one. -/
theorem readInto_bytesField_element {set : Bytes → ρ}
    (hset : ∀ b, read m ⟨number, .bytes b⟩ = some (set b)) (b : Bytes) :
    readInto read m (bytesField number b ++ fields) =
      readInto read (if b = [] then m else set b) fields := by
  unfold bytesField
  split
  · rfl
  · rw [List.singleton_append, readInto_cons, hset]
    rfl

theorem readInto_varintField {set : UInt64 → ρ} {n : UInt64}
    (hrest : readInto read (set n) fields = result)
    (hset : ∀ n, read m ⟨number, .varint n⟩ = some (set n) := by intro _; rfl)
    (hzero : set 0 = m := by rfl) :
    readInto read m (varintField number n ++ fields) = result := by
  subst hrest
  unfold varintField
  split
  · rename_i hn
    rw [hn, hzero]
    rfl
  · rw [List.singleton_append, readInto_cons, hset]
    rfl

/-- A repeated field read as a single one keeps its last element. -/
theorem readInto_repeatedField {set : Bytes → ρ} {bs : List Bytes}
    (hrest : readInto read (set (bs.getLast?.getD [])) fields = result)
    (hset : ∀ b, read m ⟨number, .bytes b⟩ = some (set b) := by intro _; rfl)
    (hzero : set [] = m := by rfl)
    (hagain : ∀ a b, read (set a) ⟨number, .bytes b⟩ = some (set b) := by intro _ _; rfl) :
    readInto read m (repeatedField number bs ++ fields) = result := by
  subst hrest
  have hlater : ∀ a, readInto read (set a) (repeatedField number bs ++ fields) =
      readInto read (set (bs.getLast?.getD a)) fields := by
    induction bs with
    | nil =>
      intro a
      rfl
    | cons b bs ih =>
      intro a
      have hlast : (b :: bs).getLast?.getD a = bs.getLast?.getD b := by
        rw [List.getLast?_cons]
        rfl
      rw [hlast, ← ih b]
      simp only [repeatedField, List.map_cons, List.cons_append, readInto_cons, hagain,
        Option.bind_some]
  cases bs with
  | nil =>
    rw [← hlater [], hzero]
  | cons b bs =>
    rw [← hlater []]
    simp only [repeatedField, List.map_cons, List.cons_append, readInto_cons, hset, hagain]

/-- A field in a form its reader refuses. -/
theorem readInto_bytesField_refused {b : Bytes} (hrest : readInto read m fields = result)
    (hread : ∀ b, read m ⟨number, .bytes b⟩ = none := by intro _; rfl) :
    readInto read m (bytesField number b ++ fields) = if b = [] then result else none := by
  subst hrest
  unfold bytesField
  split
  · rfl
  · rw [List.singleton_append, readInto_cons, hread]
    rfl

theorem readInto_repeatedField_refused {bs : List Bytes} (hrest : readInto read m fields = result)
    (hread : ∀ b, read m ⟨number, .bytes b⟩ = none := by intro _; rfl) :
    readInto read m (repeatedField number bs ++ fields) = if bs = [] then result else none := by
  subst hrest
  cases bs with
  | nil => rfl
  | cons b bs =>
    rw [if_neg (List.cons_ne_nil b bs), repeatedField, List.map_cons, List.cons_append,
      readInto_cons, hread]
    rfl

theorem readInto_varintField_refused {n : UInt64} (hrest : readInto read m fields = result)
    (hread : ∀ n, read m ⟨number, .varint n⟩ = none := by intro _; rfl) :
    readInto read m (varintField number n ++ fields) = if n = 0 then result else none := by
  subst hrest
  unfold varintField
  split
  · rfl
  · rw [List.singleton_append, readInto_cons, hread]
    rfl

/-- What every field keeps is kept by the record. -/
theorem readInto_invariant {I : ρ → Prop}
    (hfield : ∀ f ∈ fields, ∀ m m', I m → read m f = some m' → I m') (hm : I m)
    (h : readInto read m fields = some m') : I m' := by
  induction fields generalizing m with
  | nil =>
    obtain rfl := Option.some.inj h
    exact hm
  | cons f fs ih =>
    rw [readInto_cons] at h
    obtain ⟨m₁, hfirst, hrest⟩ := Option.bind_eq_some_iff.mp h
    refine ih ?_ (hfield f List.mem_cons_self m m₁ hm hfirst) hrest
    intro g hg
    exact hfield g (List.mem_cons_of_mem f hg)

/-- What every field adds to by its weight at most is at most the weight of all of them. -/
theorem readInto_weight {size : ρ → Nat}
    (hfield : ∀ m f m', read m f = some m' → size m' ≤ size m + f.value.weight)
    (h : readInto read m fields = some m') :
    size m' ≤ size m + (fields.map fun f => f.value.weight).sum := by
  induction fields generalizing m with
  | nil =>
    obtain rfl := Option.some.inj h
    exact Nat.le_refl _
  | cons f fs ih =>
    rw [readInto_cons] at h
    obtain ⟨m₁, hfirst, hrest⟩ := Option.bind_eq_some_iff.mp h
    have hstep := hfield m f m₁ hfirst
    have hlater := ih hrest
    rw [List.map_cons, List.sum_cons]
    omega

/-- A record that was read from text is smaller than the text. -/
theorem lt_of_readInto_parse (size : ρ → Nat) {bs : Bytes}
    (hfield : ∀ m f m', read m f = some m' → size m' ≤ size m + f.value.weight)
    (hzero : size m = 0) (h : (parse bs).bind (readInto read m) = some m') (hpos : 0 < size m') :
    size m' < bs.length := by
  obtain ⟨fields, hparse, hread⟩ := Option.bind_eq_some_iff.mp h
  have hsize := readInto_weight hfield hread
  have hweight := parse_weight hparse
  cases fields with
  | nil =>
    rw [List.map_nil, List.sum_nil] at hsize
    omega
  | cons f fs =>
    rw [List.length_cons] at hweight
    omega

end Records

end Wire
