import AutoSync.Lib.ErrorState
import Mathlib.Data.Fintype.Basic
import Mathlib.Data.List.TakeWhile

/-!
# Names and constants shared by the whole program

The aliases and constants of `Common.hpp`, the ways in which an operation can go wrong, and the
two conversions between identifiers and the keys of a JSON object.

An operation of the program can fail in two quite different ways, and `Error` keeps them apart.
`Error.raised` is an exception: the session catches it and goes on, with whatever state the
operation had left.  Every other error is a step the program must not take at all — an assertion
that does not hold, or behaviour the language or a library leaves undefined — and nothing is said
about what happens after it.

Identifiers are `int`s in the source.  They are integers without a bound here, and the width of an
`int` is left to the places where something depends on it.  There are three.  The counter for the
identifiers of clients stops at `maxInt`, in `acceptClient`.  What is written into a packet is four
bytes, so that only a number that fits is read back.  And `std::stoi` raises `std::out_of_range` on
a number that is too large, which `sToInt` leaves out: the keys that the program writes are those of
`int`s.  (The counter for the identifiers of objects runs into the end of the alive bitset long
before it could overflow.)
-/

set_option autoImplicit false

namespace AutoSync

/-- Identifiers of objects.  They are an `int` in the source; where its width matters the model says
so. -/
abbrev ID : Type := ℤ

/-- Identifiers of clients, which the server gives out one after the other, starting with zero. -/
abbrev CID : Type := ℤ

/-- The identifier of a client that has not been accepted.  It is never given out. -/
def nullCID : CID := -1

/-- The largest `int`, from which the server cannot count on. -/
def maxInt : ℤ := 2147483647

/-- The number of positions of an alive bitset, and with it of the objects a type can have at a
time. -/
def maxObjs : ℕ := 100

def jsonCreateIdx : ℕ := 0
def jsonRemoveIdx : ℕ := 1
def jsonUpdateIdx : ℕ := 2

/-- The key that holds the dirty flags in the JSON of an object, next to the keys of its fields. -/
def jsonFieldFlagsKey : String := "ff"

/-- The exceptions the program can raise.  The session catches all of them alike; which one it is
only matters to those who are told. -/
inductive Exception
  /-- A JSON value that cannot be converted to the type that the program has asked for. -/
  | badCast
  /-- `std::invalid_argument`, from reading a number or a bitset out of a string. -/
  | invalidArgument
  /-- `std::out_of_range`, from `std::map::at` on a key that is not there. -/
  | outOfRange
  /-- `std::runtime_error`, which the server throws when a connection request reaches the wrong
  branch. -/
  | runtimeError
  deriving DecidableEq

/-- What can go wrong in an operation.  All but the last are not exceptions: an assertion that ends
the program, or behaviour that is undefined. -/
inductive Error
  /-- An `SSVU_ASSERT` does not hold, which ends the program where assertions are compiled in. -/
  | assertFailed
  /-- A bitset or an array is indexed outside its range, which is undefined. -/
  | badIndex
  /-- A handle that refers to no object is dereferenced, which is undefined. -/
  | badHandle
  /-- An operation on a JSON value of the wrong kind, or with a key that is not there.  What the
  JSON library does then is a parameter (`Json.misuse`); this is the value of the parameter for
  `JsonTree`. -/
  | badKind
  /-- An `int` overflows, which is undefined. -/
  | overflow
  /-- An exception, from which the program goes on in the state the operation has left. -/
  | raised (ex : Exception)
  deriving DecidableEq

/-- `SSVU_ASSERT`, as an operation that returns if the condition holds and fails if it does not. -/
def ssvuAssert {σ : Type} (b : Bool) : EStateM Error σ Unit :=
  if b then pure () else throw .assertFailed

@[simp] theorem run_ssvuAssert_true {σ : Type} (s : σ) : (ssvuAssert true).run s = .ok () s := rfl

/-- The operation ended in the state `s'` and the program goes on: it returned, or it raised an
exception, which the session catches. -/
inductive Survives {σ α : Type} : EStateM.Result Error σ α → σ → Prop
  | ok (a : α) (s' : σ) : Survives (.ok a s') s'
  | raised (ex : Exception) (s' : σ) : Survives (.error (.raised ex) s') s'

theorem Survives.state {σ α : Type} {r : EStateM.Result Error σ α} {s' : σ} (h : Survives r s') :
    r.state = s' := by
  cases h <;> rfl

theorem Survives.of_isOk {σ α : Type} {r : EStateM.Result Error σ α} (h : r.isOk = true) :
    Survives r r.state := by
  cases r with
  | ok a s => exact .ok a s
  | error e s => exact absurd h (by simp [EStateM.Result.isOk])

/-! ## Identifiers as strings

JSON objects have strings for keys, so that an identifier is printed on its way into an object and
read again on its way out.  What matters is that the two conversions fit together, `sToInt_toStr`,
and that the key of the dirty flags is not that of a field. -/

/-- `ssvu::toStr` on an identifier, which prints it in decimal with a sign if it is negative. -/
def toStr (i : ID) : String := Int.repr i

/-- `std::isspace`: the space, and the controls from the tabulator to the carriage return, which
`std::stoi` skips in front of a number. -/
def isSpace (c : Char) : Bool := c == ' ' || (9 ≤ c.toNat && c.toNat ≤ 13)

/-- The number a list of characters starts with, whatever comes after its digits.  Without a digit
`std::stoi` raises `std::invalid_argument`. -/
def readDigits (cs : List Char) : Except Error ℕ :=
  match cs.takeWhile Char.isDigit with
  | [] => .error (.raised .invalidArgument)
  | ds => .ok (Nat.ofDigitChars 10 ds 0)

/-- `ssvu::sToInt`, which is `std::stoi` but for the range: blanks, an optional sign, and the digits
after it.  A number too large for an `int` is read as it is, where `std::stoi` raises
`std::out_of_range`. -/
def sToInt (s : String) : Except Error ID :=
  match s.toList.dropWhile isSpace with
  | '-' :: cs => (readDigits cs).map fun n : ℕ ↦ -(n : ℤ)
  | '+' :: cs => (readDigits cs).map fun n : ℕ ↦ (n : ℤ)
  | cs => (readDigits cs).map fun n : ℕ ↦ (n : ℤ)

theorem readDigits_toDigits (n : ℕ) : readDigits (Nat.toDigits 10 n) = .ok n := by
  have hall : (Nat.toDigits 10 n).takeWhile Char.isDigit = Nat.toDigits 10 n :=
    List.takeWhile_eq_self_iff.2 fun c hc ↦
      Nat.isDigit_of_mem_toDigits (by decide) (by decide) hc
  rw [readDigits, hall]
  split
  · rename_i h; exact absurd h Nat.toDigits_ne_nil
  · rw [Nat.ofDigitChars_ten_toDigits]

/-- No blank is skipped in front of a digit or a sign, which is what printed numbers start with. -/
theorem dropWhile_isSpace_cons {c : Char} (hc : isSpace c = false) (cs : List Char) :
    (c :: cs).dropWhile isSpace = c :: cs := by
  rw [List.dropWhile_cons, hc]
  rfl

/-- A character that is a digit is neither a blank nor a sign, so that reading starts with it. -/
theorem isSpace_eq_false_of_isDigit {c : Char} (hc : c.isDigit = true) :
    isSpace c = false ∧ c ≠ '-' ∧ c ≠ '+' := by
  have hle : 48 ≤ c.toNat := (Char.isDigit_iff_toNat.1 hc).1
  refine ⟨?_, ?_, ?_⟩
  · rw [isSpace, Bool.or_eq_false_iff, Bool.and_eq_false_iff]
    refine ⟨beq_eq_false_iff_ne.2 ?_, .inr (decide_eq_false (by omega))⟩
    rintro rfl
    exact absurd hle (by decide)
  · rintro rfl
    exact absurd hle (by decide)
  · rintro rfl
    exact absurd hle (by decide)

/-- **Reading back the key of an identifier** gives the identifier, so that distinct identifiers
have distinct keys. -/
@[simp] theorem sToInt_toStr (i : ID) : sToInt (toStr i) = .ok i := by
  cases i with
  | ofNat n =>
    have hl : (toStr (Int.ofNat n)).toList = Nat.toDigits 10 n := Nat.toList_repr
    have hread := readDigits_toDigits n
    cases hd : Nat.toDigits 10 n with
    | nil => exact absurd hd Nat.toDigits_ne_nil
    | cons c cs =>
      obtain ⟨hspace, hminus, hplus⟩ := isSpace_eq_false_of_isDigit
        (Nat.isDigit_of_mem_toDigits (b := 10) (n := n) (by decide) (by decide)
          (hd ▸ List.mem_cons_self))
      rw [sToInt, hl, hd, dropWhile_isSpace_cons hspace]
      split
      · rename_i cs' h
        exact absurd (List.cons.inj h).1 hminus
      · rename_i cs' h
        exact absurd (List.cons.inj h).1 hplus
      · rw [← hd, hread]
        rfl
  | negSucc n =>
    have hl : (toStr (Int.negSucc n)).toList = '-' :: Nat.toDigits 10 (n + 1) := by
      show ("-" ++ Nat.repr (n + 1)).toList = _
      rw [String.toList_append, Nat.toList_repr]
      rfl
    rw [sToInt, hl, dropWhile_isSpace_cons rfl]
    show (readDigits (Nat.toDigits 10 (n + 1))).map _ = _
    rw [readDigits_toDigits]
    rfl

theorem toStr_injective : Function.Injective toStr := by
  intro i j h
  have := congrArg sToInt h
  rwa [sToInt_toStr, sToInt_toStr, Except.ok.injEq] at this

/-- The key of the flags is not the key of a field: it does not start with a digit or a sign. -/
theorem toStr_ne_jsonFieldFlagsKey (i : ID) : toStr i ≠ jsonFieldFlagsKey := by
  intro h
  have hk : sToInt jsonFieldFlagsKey = .error (.raised .invalidArgument) := rfl
  rw [← h, sToInt_toStr] at hk
  exact absurd hk (by simp)

end AutoSync
