import Mathlib.Tactic.Common
import Mathlib.Tactic.Ring
import Mathlib.Data.Int.Notation
import Mathlib.Data.Nat.Notation

/-!
# Packets

`Packet` is `sf::Packet` on the receiving side: the bytes not read yet, and a flag that says whether
every read so far has found enough of them.

A read does not report failure.  `Packet.extract` assigns the next `n` bytes, decoded, to a target
variable; when there are not so many, or when an earlier read has already failed, it leaves the
target as it was and clears the flag.  So the value of the target afterwards is that of the packet
or that of whatever the variable held before, and only the flag tells which:
`extract_of_length_le` and `extract_of_lt` are the two cases.

On the sending side a packet is the bytes written so far.  Numbers are written with the most
significant byte first, and strings with their length before them.  `Reads` says that a reader gets
a value back from what was written of it, whatever follows; `reads_ofInt` and `reads_ofStr` are that
for the two types, as far as they fit.
-/

set_option autoImplicit false

/-- `sf::Packet`, while it is read: the bytes that are left, and whether all reads have
succeeded. -/
structure Packet where
  rest : List UInt8
  isValid : Bool

namespace Packet

variable {α : Type} {p : Packet} {n : ℕ} {decode : List UInt8 → α} {target : α}
  {bytes : List UInt8}

/-- A packet that has just been received, of which nothing has been read. -/
def received (bytes : List UInt8) : Packet := ⟨bytes, true⟩

/-- `p >> target` for a type of `n` bytes: the value of the target afterwards, and the packet.  The
target keeps its value when the read fails, which is all that shows. -/
def extract (n : ℕ) (decode : List UInt8 → α) (target : α) (p : Packet) : α × Packet :=
  if p.isValid && decide (n ≤ p.rest.length) then (decode (p.rest.take n), ⟨p.rest.drop n, true⟩)
  else (target, ⟨p.rest, false⟩)

theorem extract_of_length_le (h : n ≤ bytes.length) :
    (received bytes).extract n decode target =
      (decode (bytes.take n), received (bytes.drop n)) := by
  simp [extract, received, h]

theorem extract_of_lt (h : p.rest.length < n) :
    p.extract n decode target = (target, ⟨p.rest, false⟩) := by
  simp [extract, h]

/-! ## The types that are read

Numbers come with the most significant byte first, whatever the machine.  A string is its length, as
a number of four bytes, and then its characters; reading it can fail at either. -/

/-- The number that some bytes stand for, the most significant of them first. -/
def number (bytes : List UInt8) : ℕ := bytes.foldl (fun k b ↦ 256 * k + b.toNat) 0

/-- A signed integer of `n` bytes, in two's complement. -/
def int (n : ℕ) (bytes : List UInt8) : ℤ := (BitVec.ofNat (8 * n) (number bytes)).toInt

/-- `p >> target` for a signed integer of `n` bytes, which the target keeps when there are fewer. -/
def extractInt (n : ℕ) (target : ℤ) (p : Packet) : ℤ × Packet := p.extract n (int n) target

/-- The text of a string: the bytes are the characters, one for each. -/
def text (bytes : List UInt8) : String := String.ofList (bytes.map fun b ↦ Char.ofNat b.toNat)

/-- `p >> target` for a string: its length in four bytes, and then the characters.  The string is
emptied first, whether or not there is anything to read. -/
def extractStr (p : Packet) : String × Packet :=
  let (length, p) := p.extract 4 number 0
  if length = 0 then ("", p) else p.extract length text ""

/-! ## The types that are written

Writing appends to the packet and cannot fail.  An integer that is too large loses its upper bytes,
so that it is read back only if it fits, and a string only if its characters are bytes. -/

/-- The `n` lowest bytes of a number, the most significant of them first. -/
def bytesOf : ℕ → ℕ → List UInt8
  | 0, _ => []
  | n + 1, k => bytesOf n (k / 256) ++ [UInt8.ofNat k]

theorem length_bytesOf (n k : ℕ) : (bytesOf n k).length = n := by
  induction n generalizing k with
  | zero => rfl
  | succ n ih => rw [bytesOf, List.length_append, ih, List.length_singleton]

theorem number_append_singleton (l : List UInt8) (b : UInt8) :
    number (l ++ [b]) = 256 * number l + b.toNat := by
  simp [number]

/-- Reading a number gives back as much of it as there were bytes for: its remainder modulo the
powers of 256. -/
theorem number_bytesOf (n k : ℕ) : number (bytesOf n k) = k % 256 ^ n := by
  induction n generalizing k with
  | zero => rw [Nat.pow_zero, Nat.mod_one]; rfl
  | succ n ih =>
    have hb : (UInt8.ofNat k).toNat = k % 256 := UInt8.toNat_ofNat'
    rw [bytesOf, number_append_singleton, ih, hb, Nat.pow_succ', Nat.mod_mul, Nat.add_comm]

/-- `p << i` for a signed integer of `n` bytes, in two's complement. -/
def ofInt (n : ℕ) (i : ℤ) : List UInt8 := bytesOf n (BitVec.ofInt (8 * n) i).toNat

/-- The integers of `n` bytes, which are those that are read back as they were written. -/
def Fits (n : ℕ) (i : ℤ) : Prop := -2 ^ (8 * n) ≤ 2 * i ∧ 2 * i < 2 ^ (8 * n)

instance (n : ℕ) (i : ℤ) : Decidable (Fits n i) := inferInstanceAs (Decidable (_ ∧ _))

theorem length_ofInt (n : ℕ) (i : ℤ) : (ofInt n i).length = n := length_bytesOf ..

theorem int_ofInt {n : ℕ} {i : ℤ} (h : Fits n i) : int n (ofInt n i) = i := by
  have hpow : 256 ^ n = 2 ^ (8 * n) := by rw [Nat.pow_mul]
  have hlt := (BitVec.ofInt (8 * n) i).isLt
  rw [int, ofInt, number_bytesOf, hpow, Nat.mod_eq_of_lt hlt, BitVec.ofNat_toNat,
    BitVec.setWidth_eq, BitVec.toInt_ofInt]
  obtain ⟨hlo, hhi⟩ := h
  exact Int.bmod_eq_of_le_mul_two (by push_cast; omega) (by push_cast; omega)

/-- `p << s`: the length of the string in four bytes, and then the characters. -/
def ofStr (s : String) : List UInt8 :=
  let length := s.length % 256 ^ 4
  bytesOf 4 length ++ (s.toList.take length).map fun c ↦ UInt8.ofNat c.toNat

/-- A string whose characters are bytes, and that is not longer than four bytes can say. -/
def IsBytes (s : String) : Prop := s.length < 256 ^ 4 ∧ ∀ c ∈ s.toList, c.toNat < 256

instance (s : String) : Decidable (IsBytes s) :=
  @instDecidableAnd _ _ (Nat.decLt _ _) (List.decidableBAll _ _)

/-! ## Reading back what was written

A value is read back if the reader gets it from the bytes it was written as, whatever the packet
goes on with.  Stated like this, the values of a packet are read back one after the other. -/

/-- The reader gets `x` from the bytes and leaves what follows them, which may be anything. -/
def Reads (reader : Packet → α × Packet) (bytes : List UInt8) (x : α) : Prop :=
  ∀ rest, reader (received (bytes ++ rest)) = (x, received rest)

theorem reads_extract (h : bytes.length = n) : Reads (extract n decode target) bytes
    (decode bytes) := by
  intro rest
  rw [extract_of_length_le (by simp [h]), List.take_left' h, List.drop_left' h]

theorem reads_ofInt {i : ℤ} (h : Fits n i) (target : ℤ) :
    Reads (extractInt n target) (ofInt n i) i := by
  intro rest
  rw [extractInt, reads_extract (length_ofInt n i), int_ofInt h]

theorem text_map {l : List Char} (h : ∀ c ∈ l, c.toNat < 256) :
    text (l.map fun c ↦ UInt8.ofNat c.toNat) = String.ofList l := by
  rw [text, List.map_map]
  congr 1
  refine (List.map_congr_left fun c hc ↦ ?_).trans (List.map_id l)
  have hb : (UInt8.ofNat c.toNat).toNat = c.toNat := by
    rw [UInt8.toNat_ofNat', Nat.mod_eq_of_lt (h c hc)]
  show Char.ofNat (UInt8.ofNat c.toNat).toNat = c
  rw [hb, Char.ofNat_toNat]

theorem reads_ofStr {s : String} (h : IsBytes s) : Reads extractStr (ofStr s) s := by
  intro rest
  have hlen : s.length % 256 ^ 4 = s.length := Nat.mod_eq_of_lt h.1
  have htake : s.toList.take s.length = s.toList := List.take_of_length_le String.length_toList.le
  rw [extractStr, ofStr, hlen, htake, List.append_assoc,
    reads_extract (length_bytesOf 4 s.length), number_bytesOf, hlen]
  by_cases h0 : s.length = 0
  · obtain rfl : s = "" := String.length_eq_zero_iff.1 h0
    rfl
  · simp only [h0, if_false]
    rw [reads_extract (by rw [List.length_map, String.length_toList]), text_map h.2,
      String.ofList_toList]

end Packet
