import AutoSync.Common
import AutoSync.Lib.Bitset
import AutoSync.Lib.OrdMap

/-!
# The JSON library

The program keeps its values in `ssvj::Val`, whose source is not part of the repository.  `Json`
is what the program relies on: a value is an integer, a string, an array or an object, each kind
can be built and looked into, and looking gives back what was built.  That an object is not an
array is part of it.  Objects are maps from keys to values, so that two objects are equal when
they hold the same entries.

The operations the program applies to values are defined over that interface.  `emplace` and
`forArrAs` are defined on arrays only, keyed access and `forObj` on objects only.  What the library
does on any other value, or with a key or a position that is not there, is its own matter: it is
`Json.misuse`, of which nothing is assumed but that it is not an exception from which the program
could go on.  A conversion that fails is an exception.

`JsonTree` is JSON itself, and shows that the interface can be met.
-/

set_option autoImplicit false

namespace AutoSync

/-- The entries of a JSON object, as a map from their keys. -/
abbrev Obj (Val : Type) : Type := OrdMap String Val

/-- What the program relies on of the JSON library: constructors for the four kinds of value it
uses, and for each of them the view that undoes it. -/
class Json (Val : Type) where
  /-- A value that has just been constructed. -/
  null : Val
  ofInt : ℤ → Val
  ofStr : String → Val
  ofArr : List Val → Val
  ofObj : Obj Val → Val
  int? : Val → Option ℤ
  str? : Val → Option String
  arr? : Val → Option (List Val)
  obj? : Val → Option (Obj Val)
  int?_ofInt : ∀ i, int? (ofInt i) = some i
  str?_ofStr : ∀ s, str? (ofStr s) = some s
  arr?_ofArr : ∀ l, arr? (ofArr l) = some l
  obj?_ofObj : ∀ m, obj? (ofObj m) = some m
  /-- An object is not an array, so that what is defined for the one is not for the other. -/
  arr?_ofObj : ∀ m, arr? (ofObj m) = none
  /-- What an operation does on a value it is not defined for, which the repository does not tell.
  It may be anything but an exception. -/
  misuse : Error
  misuse_ne_raised : ∀ ex, misuse ≠ .raised ex

attribute [simp] Json.int?_ofInt Json.str?_ofStr Json.arr?_ofArr Json.obj?_ofObj Json.arr?_ofObj

namespace Json

variable {Val : Type} [Json Val]

/-! ## Operations

The methods of `ssvj::Val` that the program uses, each in terms of the views.  Those that are
defined on one kind of value only end with `misuse` on any other, while a conversion to a number or
a string that does not go through raises an exception. -/

/-- `v.has(key)`, which is defined on objects only. -/
def has (v : Val) (key : String) : Except Error Bool :=
  match obj? v with
  | none => .error (misuse Val)
  | some m => .ok m[key]?.isSome

/-- `v[key]`, read, where nothing is under the key if it is not there. -/
def get (v : Val) (key : String) : Except Error Val :=
  match obj? v with
  | none => .error (misuse Val)
  | some m => match m[key]? with
    | none => .error (misuse Val)
    | some x => .ok x

/-- `v[i]`, read, which needs an array that is long enough. -/
def idx (v : Val) (i : ℕ) : Except Error Val :=
  match arr? v with
  | none => .error (misuse Val)
  | some l => match l[i]? with
    | none => .error (misuse Val)
    | some x => .ok x

/-- `v.emplace(x)`, which appends to an array. -/
def emplace (v x : Val) : Except Error Val :=
  match arr? v with
  | none => .error (misuse Val)
  | some l => .ok (ofArr (l ++ [x]))

/-- `v.forObj()`: the entries, in some order that is the same for equal objects. -/
def forObj (v : Val) : Except Error (List (String × Val)) :=
  match obj? v with
  | none => .error (misuse Val)
  | some m => .ok m.toList

/-- `v.as<int>()`, which raises an exception if the value is no integer. -/
def asInt (v : Val) : Except Error ℤ :=
  match int? v with
  | none => .error (.raised .badCast)
  | some i => .ok i

/-- `v.forArrAs<T>()`: the elements; each is converted when a loop comes to it. -/
def forArr (v : Val) : Except Error (List Val) :=
  match arr? v with
  | none => .error (misuse Val)
  | some l => .ok l

/-- `v.as<ssvj::Str>()`, which raises an exception if the value is no string. -/
def asStr (v : Val) : Except Error String :=
  match str? v with
  | none => .error (.raised .badCast)
  | some s => .ok s

/-- The JSON of a bitset is its string, with a digit for every position. -/
def ofBitset {n : ℕ} (b : Bitset n) : Val := ofStr b.toStr

/-- The `std::bitset<n>` of a string, which may be that of a bitset of another size, and then raises
no exception. -/
def bitsetOfStr (n : ℕ) (s : String) : Except Error (Bitset n) :=
  match Bitset.ofStr? n s with
  | none => .error (.raised .invalidArgument)
  | some b => .ok b

/-- `v.as<std::bitset<n>>()`, which reads the string that the value has to be. -/
def asBitset (n : ℕ) (v : Val) : Except Error (Bitset n) := asStr v >>= bitsetOfStr n

/-! ## The operations on the values they are meant for

On what was built as an object, an array or a string the operations do what they should.  These
lemmas are all that the proofs about writing and reading JSON use of the library. -/

theorem ofObj_injective : Function.Injective (ofObj : Obj Val → Val) := by
  intro m m' h
  have := congrArg obj? h
  rwa [obj?_ofObj, obj?_ofObj, Option.some_inj] at this

@[simp] theorem has_ofObj (m : Obj Val) (key : String) :
    has (ofObj m) key = .ok m[key]?.isSome := by
  simp [has]

theorem get_ofObj {m : Obj Val} {key : String} {x : Val} (h : m[key]? = some x) :
    get (ofObj m) key = .ok x := by
  simp [get, h]

theorem idx_ofArr {l : List Val} {i : ℕ} {x : Val} (h : l[i]? = some x) :
    idx (ofArr l) i = .ok x := by
  simp [idx, h]

@[simp] theorem emplace_ofArr (l : List Val) (x : Val) :
    emplace (ofArr l) x = .ok (ofArr (l ++ [x])) := by
  simp [emplace]

@[simp] theorem emplace_ofObj (m : Obj Val) (x : Val) :
    emplace (ofObj m) x = .error (misuse Val) := by
  simp [emplace]

@[simp] theorem forObj_ofObj (m : Obj Val) : forObj (ofObj m) = .ok m.toList := by
  simp [forObj]

@[simp] theorem forArr_ofObj (m : Obj Val) : forArr (ofObj m) = .error (misuse Val) := by
  simp [forArr]

@[simp] theorem asStr_ofStr (s : String) : asStr (ofStr s : Val) = .ok s := by
  simp [asStr]

@[simp] theorem asBitset_ofBitset {n : ℕ} (b : Bitset n) :
    asBitset n (ofBitset b : Val) = .ok b := by
  simp [asBitset, ofBitset, bitsetOfStr, bind, Except.bind]

end Json

/-! ## JSON itself

The interface can be met: `JsonTree` is JSON as a tree, with the entries of an object as a list.  It
is what the examples are computed with, and on a value of the wrong kind it ends with
`Error.badKind`. -/

/-- A JSON value, of one of the four kinds or `null`. -/
inductive JsonTree
  | null
  | int (i : ℤ)
  | str (s : String)
  | arr (l : List JsonTree)
  | obj (l : List (String × JsonTree))

namespace JsonTree

mutual

/-- Equality of values, as a function that can be computed. -/
def beq : JsonTree → JsonTree → Bool
  | null, null => true
  | int i, int j => i == j
  | str s, str t => s == t
  | arr l, arr m => beqArr l m
  | obj l, obj m => beqObj l m
  | _, _ => false

def beqArr : List JsonTree → List JsonTree → Bool
  | [], [] => true
  | x :: l, y :: m => beq x y && beqArr l m
  | _, _ => false

def beqObj : List (String × JsonTree) → List (String × JsonTree) → Bool
  | [], [] => true
  | (k, x) :: l, (k', y) :: m => k == k' && beq x y && beqObj l m
  | _, _ => false

end

mutual

theorem eq_of_beq : ∀ {x y : JsonTree}, beq x y = true → x = y
  | null, y, h => by cases y <;> simp_all [beq]
  | int i, y, h => by cases y <;> simp_all [beq]
  | str s, y, h => by cases y <;> simp_all [beq]
  | arr l, y, h => by
    cases y <;> simp only [beq, Bool.false_eq_true] at h
    rw [eq_of_beqArr h]
  | obj l, y, h => by
    cases y <;> simp only [beq, Bool.false_eq_true] at h
    rw [eq_of_beqObj h]

theorem eq_of_beqArr : ∀ {l m : List JsonTree}, beqArr l m = true → l = m
  | [], m, h => by cases m <;> simp_all [beqArr]
  | x :: l, m, h => by
    cases m with
    | nil => simp [beqArr] at h
    | cons y m =>
      rw [beqArr, Bool.and_eq_true] at h
      rw [eq_of_beq h.1, eq_of_beqArr h.2]

theorem eq_of_beqObj : ∀ {l m : List (String × JsonTree)}, beqObj l m = true → l = m
  | [], m, h => by cases m <;> simp_all [beqObj]
  | (k, x) :: l, m, h => by
    cases m with
    | nil => simp [beqObj] at h
    | cons y m =>
      rw [beqObj, Bool.and_eq_true, Bool.and_eq_true, beq_iff_eq] at h
      rw [eq_of_beqObj h.2, h.1.1, eq_of_beq h.1.2]

end

mutual

theorem beq_self : ∀ x : JsonTree, beq x x = true
  | null => rfl
  | int _ => by simp [beq]
  | str _ => by simp [beq]
  | arr l => by rw [beq, beqArr_self l]
  | obj l => by rw [beq, beqObj_self l]

theorem beqArr_self : ∀ l : List JsonTree, beqArr l l = true
  | [] => rfl
  | x :: l => by rw [beqArr, beq_self x, beqArr_self l]; rfl

theorem beqObj_self : ∀ l : List (String × JsonTree), beqObj l l = true
  | [] => rfl
  | (k, x) :: l => by rw [beqObj, beq_self x, beqObj_self l]; simp

end

instance : DecidableEq JsonTree := fun x y ↦
  if h : beq x y = true then isTrue (eq_of_beq h)
  else isFalse fun he ↦ h (he ▸ beq_self x)

theorem badKind_ne_raised (ex : Exception) : Error.badKind ≠ .raised ex := by
  rintro ⟨⟩

instance : Json JsonTree where
  null := null
  ofInt := int
  ofStr := str
  ofArr := arr
  ofObj m := obj m.toList
  int? | int i => some i | _ => none
  str? | str s => some s | _ => none
  arr? | arr l => some l | _ => none
  obj? | obj l => some (OrdMap.insertAll Prod.fst Prod.snd ∅ l) | _ => none
  int?_ofInt _ := rfl
  str?_ofStr _ := rfl
  arr?_ofArr _ := rfl
  obj?_ofObj m := congrArg some (by
    refine Std.ExtTreeMap.ext_getElem? fun k ↦ Option.ext fun v ↦ ?_
    rw [OrdMap.lookup_insertAll_empty fun p hp q hq h ↦ by rw [OrdMap.eq_of_mem_toList hp hq h]]
    constructor
    · rintro ⟨p, hp, rfl, rfl⟩
      exact (OrdMap.mem_toList m p).1 hp
    · exact fun h ↦ ⟨(k, v), (OrdMap.mem_toList m _).2 h, rfl, rfl⟩)
  arr?_ofObj _ := rfl
  misuse := .badKind
  misuse_ne_raised := badKind_ne_raised

end JsonTree

end AutoSync
