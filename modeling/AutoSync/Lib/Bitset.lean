import Mathlib.Tactic.Common
import Mathlib.Data.Fintype.Basic

/-!
# Fixed-size bit sets

`Bitset n` is `std::bitset<n>`: a bit for every position below `n`.  What this file adds to
functions `Fin n → Bool` is the two places where such a set meets the outside world.

* It is indexed by an integer that nothing has checked.  `Bitset.idx?` is the check, and
  `Bitset.test?`, `Bitset.assign?` are the indexing operations; they answer `none` outside the
  range, where indexing a `std::bitset` is undefined.
* It is printed and read back as a string of `0`s and `1`s.  `Bitset.toStr` lists the highest
  position first.  `Bitset.ofStr?` looks at the *first* `n` characters of a string and at no others,
  so that reading a set into one of another size may shift it: `ofStr?_toStr` says by how much, and
  `ofStr?_toStr_of_le` that a size at least as large does not.
-/

set_option autoImplicit false

/-- `std::bitset<n>`, as the function from its positions to the bits that stand there. -/
abbrev Bitset (n : ℕ) : Type := Fin n → Bool

namespace Bitset

variable {n N : ℕ}

/-! ## Indexing by an integer

The program indexes bit sets by identifiers, which are integers of any size and sign.  The lemmas
below say what an index in range does, and reduce everything else to whether there is one. -/

/-- The position an integer names, if it is in range.  Outside the range there is no bit to speak
of. -/
def idx? (n : ℕ) (i : ℤ) : Option (Fin n) :=
  if h : 0 ≤ i ∧ i < n then some ⟨i.toNat, by omega⟩ else none

theorem idx?_eq_some {i : ℤ} {j : Fin n} : idx? n i = some j ↔ i = (j : ℕ) := by
  rw [idx?]
  split
  · rename_i h
    rw [Option.some_inj, Fin.ext_iff]
    show i.toNat = (j : ℕ) ↔ i = (j : ℕ)
    omega
  · rename_i h
    have := j.isLt
    simp only [reduceCtorEq, false_iff]
    omega

@[simp] theorem idx?_natCast (j : Fin n) : idx? n ((j : ℕ) : ℤ) = some j := idx?_eq_some.2 rfl

/-- The bit an integer indexes, or nothing when the integer is out of range. -/
def test? (b : Bitset n) (i : ℤ) : Option Bool := (idx? n i).map b

/-- The set with the bit an integer indexes assigned, or nothing when the integer is out of
range. -/
def assign? (b : Bitset n) (i : ℤ) (x : Bool) : Option (Bitset n) :=
  (idx? n i).map fun j ↦ Function.update b j x

@[simp] theorem test?_natCast (b : Bitset n) (j : Fin n) : b.test? ((j : ℕ) : ℤ) = some (b j) := by
  simp [test?]

theorem test?_eq_some {b : Bitset n} {i : ℤ} {x : Bool} :
    b.test? i = some x ↔ ∃ j : Fin n, i = (j : ℕ) ∧ b j = x := by
  simp only [test?, Option.map_eq_some_iff, idx?_eq_some]

theorem test?_update (b : Bitset n) (j : Fin n) (x : Bool) (i : ℤ) :
    test? (Function.update b j x) i = if i = (j : ℕ) then some x else b.test? i := by
  cases h : idx? n i with
  | none =>
    have hi : i ≠ (j : ℕ) := fun hi ↦ by rw [hi, idx?_natCast] at h; exact absurd h (by simp)
    simp [test?, h, hi]
  | some k =>
    obtain rfl := idx?_eq_some.1 h
    by_cases hkj : k = j
    · subst hkj; simp [test?]
    · have hne : ((k : ℕ) : ℤ) ≠ (j : ℕ) := fun e ↦ hkj (Fin.ext (by omega))
      simp [test?, hne, hkj]

/-! ## Reading and printing

A set is printed with its highest position first and read from the same end.  So it is read back as
it was, and a set that is read into a larger one keeps every bit at its position, while one that is
too small loses the bits at the lower end. -/

/-- The digit of a bit, as `std::bitset` prints it when it is given no other characters. -/
def digit (b : Bool) : Char := if b then '1' else '0'

theorem digit_eq_one (b : Bool) : (digit b == '1') = b := by cases b <;> rfl

/-- `std::bitset::to_string`: one digit for every position, of which the highest comes first. -/
def toStr (b : Bitset n) : String := String.ofList ((List.ofFn b).map digit).reverse

/-- The constructor of `std::bitset<N>` from a string.  The first `N` characters are used, the last
of them for position `0`, and the rest of the string is not looked at; `none` is the exception
`invalid_argument`, which a character that is neither of the digits raises. -/
def ofStr? (N : ℕ) (s : String) : Option (Bitset N) :=
  if (s.toList.take N).all fun c ↦ c == '0' || c == '1' then
    some fun j ↦ (s.toList.take N).reverse[(j : ℕ)]? == some '1'
  else none

/-- **Reading a printed set into one of another size.**  Position `j` receives the bit `n - N`
places above it, which is bit `j` itself unless the set read is too small. -/
theorem ofStr?_toStr (b : Bitset n) :
    ofStr? N b.toStr =
      some fun j : Fin N ↦ if h : n - N + j < n then b ⟨n - N + j, h⟩ else false := by
  have hall : b.toStr.toList.all (fun c ↦ c == '0' || c == '1') = true := by
    simp only [toStr, String.toList_ofList, List.all_reverse, List.all_map, List.all_eq_true]
    intro x _
    cases x <;> rfl
  have htake : (b.toStr.toList.take N).all (fun c ↦ c == '0' || c == '1') = true :=
    List.all_eq_true.2 fun c hc ↦ List.all_eq_true.1 hall c (List.mem_of_mem_take hc)
  rw [ofStr?, if_pos htake, Option.some_inj]
  funext j
  rw [toStr, String.toList_ofList, List.take_reverse, List.reverse_reverse, List.getElem?_drop,
    List.length_map, List.length_ofFn, List.getElem?_map]
  by_cases h : n - N + j < n
  · rw [dif_pos h, List.getElem?_eq_getElem (by simpa using h), List.getElem_ofFn]
    simp [digit_eq_one]
  · rw [dif_neg h, List.getElem?_eq_none (by simpa using h)]
    rfl

/-- A size at least as large keeps every bit where it is, and fills up with zeros above. -/
theorem ofStr?_toStr_of_le (b : Bitset n) (h : n ≤ N) :
    ofStr? N b.toStr = some fun j : Fin N ↦ if h : (j : ℕ) < n then b ⟨j, h⟩ else false := by
  rw [ofStr?_toStr, Option.some_inj]
  funext j
  simp only [Nat.sub_eq_zero_of_le h, Nat.zero_add]

/-- Printing and reading back is the identity, when the size is the one that was printed. -/
@[simp] theorem ofStr?_toStr_self (b : Bitset n) : ofStr? n b.toStr = some b := by
  rw [ofStr?_toStr_of_le b le_rfl, Option.some_inj]
  funext j
  simp

end Bitset
