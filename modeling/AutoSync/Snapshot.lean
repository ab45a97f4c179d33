import AutoSync.SyncObj

/-!
# Snapshots and the difference between two of them

A `Snapshot` is a manager written out: for every type the bitset of the alive identifiers, and the
JSON of every object.  A `Diff` tells a manager what to create, remove and update, again for every
type.

`Snapshot.getDiffWith` computes the diff that takes a manager from the state of the argument to
that of the snapshot it is called on.  It compares the bitsets to find what to create and to
remove; for an object both sides have, `getJsonDiff` picks the fields to send.  It only looks at
fields whose dirty flag is set in the *left* object, and reads the flags back from the string they
were written as.  That string has one character for every field, but it is read into a bitset
meant for objects, of size `maxObjs`: `sentFlag` is what becomes of a flag on the way, and
`getJsonDiff_ok` what `getJsonDiff` then sends.
-/

set_option autoImplicit false

namespace AutoSync

variable {Val : Type} [DecidableEq Val] [Json Val]

/-- The alive identifiers of a type, as the bits at their positions. -/
abbrev ObjBitset : Type := Bitset maxObjs

/-- The objects of one type, written out under their identifiers. -/
@[ext] structure SnapshotTypeData (Val : Type) where
  items : OrdMap ID Val

/-- The state of a manager of `typeCount` types, written out: which identifiers are alive, and what
the objects are. -/
@[ext] structure Snapshot (typeCount : ℕ) (Val : Type) where
  bitsetIDs : Fin typeCount → ObjBitset
  typeDatas : Fin typeCount → SnapshotTypeData Val

/-- What to do to the objects of one type: which to create, which to remove, and which to update
with what. -/
@[ext] structure DiffTypeData (Val : Type) where
  toCreate : OrdMap ID Val
  toUpdate : OrdMap ID Val
  toRemove : List ID

/-- What to do to the objects of every type, type by type. -/
@[ext] structure Diff (typeCount : ℕ) (Val : Type) where
  typeDatas : Fin typeCount → DiffTypeData Val

def DiffTypeData.empty : DiffTypeData Val := ⟨∅, ∅, []⟩

def DiffTypeData.isEmpty (mX : DiffTypeData Val) : Bool :=
  mX.toCreate.isEmpty && mX.toUpdate.isEmpty && mX.toRemove.isEmpty

def Diff.isEmpty {typeCount : ℕ} (mX : Diff typeCount Val) : Bool :=
  (List.finRange typeCount).all fun t ↦ (mX.typeDatas t).isEmpty

/-- The identifier a position of an alive bitset stands for. -/
def objID (i : Fin maxObjs) : ID := ((i : ℕ) : ℤ)

theorem objID_injective : Function.Injective objID := fun _ _ h ↦ Fin.ext (Int.ofNat_inj.1 h)

namespace Snapshot

/-! ## The fields to send of an object

When both sides have an object, `getJsonDiff` decides for each of its fields whether to send it.  It
looks at the flag, which it reads out of the JSON, and at the two values; so what it sends are the
fields that are flagged and differ. -/

/-- The step of `getJsonDiff` for one position of the flags, which adds the field if it is to be
sent. -/
def jsonDiffStep (mX mY : Val) (toUp : ObjBitset) (result : Obj Val) (i : Fin maxObjs) :
    Except Error (Obj Val) :=
  if !toUp i then return result
  else do
    let iStr := fieldKey i
    let x ← Json.get mX iStr
    let y ← Json.get mY iStr
    if x = y then return result
    return result.insert iStr x

/-- The fields of `mX` to send to a side that has `mY`, as a JSON object with the entries of
`mX`. -/
def getJsonDiff (mX mY : Val) : Except Error Val := do
  let xBitsStr ← Json.get mX jsonFieldFlagsKey >>= Json.asStr
  let xFieldFlags ← Json.bitsetOfStr maxObjs xBitsStr
  let result ← (List.finRange maxObjs).foldlM (jsonDiffStep mX mY xFieldFlags) ∅
  return Json.ofObj result

variable {T : ObjType Val}

/-- The bit `getJsonDiff` looks at for field `i` of an object: the flags come in a string with the
highest field first, of which only the first `maxObjs` characters are used. -/
def sentFlag (x : SyncObj T) (i : ℕ) : Bool :=
  if h : T.fieldCount - maxObjs + i < T.fieldCount then
    x.fieldFlags ⟨T.fieldCount - maxObjs + i, h⟩
  else false

omit [DecidableEq Val] [Json Val] in
/-- With at most `maxObjs` fields it is the flag of the field, as it should be. -/
theorem sentFlag_eq (x : SyncObj T) (h : T.fieldCount ≤ maxObjs) (i : Fin T.fieldCount) :
    sentFlag x i = x.fieldFlags i := by
  have hz : T.fieldCount - maxObjs = 0 := Nat.sub_eq_zero_of_le h
  simp [sentFlag, hz]

/-- The fields `getJsonDiff` sends: those whose bit is set and whose values differ. -/
def sentFields (x y : SyncObj T) : List (Fin T.fieldCount) :=
  (List.finRange T.fieldCount).filter fun i ↦
    decide ((i : ℕ) < maxObjs) && sentFlag x i && decide ((T.TypeAt i).toVal (x.fields i) ≠
      (T.TypeAt i).toVal (y.fields i))

omit [Json Val] in
theorem mem_sentFields {x y : SyncObj T} {i : Fin T.fieldCount} :
    i ∈ sentFields x y ↔ (i : ℕ) < maxObjs ∧ sentFlag x i = true ∧ x.fields i ≠ y.fields i := by
  simp [sentFields, and_assoc, (T.TypeAt i).toVal_injective.eq_iff]

/-- The entries of the object `getJsonDiff` returns, one for every field it sends. -/
def sentEntries (x y : SyncObj T) : Obj Val :=
  OrdMap.insertAll fieldKey (fun i ↦ (T.TypeAt i).toVal (x.fields i)) ∅ (sentFields x y)

omit [Json Val] in
theorem sentEntries_eq_some {x y : SyncObj T} {key : String} {v : Val} :
    (sentEntries x y)[key]? = some v ↔
      ∃ i ∈ sentFields x y, fieldKey i = key ∧ (T.TypeAt i).toVal (x.fields i) = v :=
  OrdMap.lookup_insertAll_empty fun i _ j _ h ↦ by rw [fieldKey_injective h]

omit [Json Val] in
theorem sentEntries_fieldKey {x y : SyncObj T} (i : Fin T.fieldCount) :
    (sentEntries x y)[fieldKey i]? =
      if i ∈ sentFields x y then some ((T.TypeAt i).toVal (x.fields i)) else none := by
  refine Option.ext fun v ↦ ?_
  rw [sentEntries_eq_some]
  split
  · rename_i hi
    rw [Option.some_inj]
    constructor
    · rintro ⟨j, -, hj, rfl⟩; rw [fieldKey_injective hj]
    · exact fun h ↦ ⟨i, hi, rfl, h⟩
  · rename_i hi
    simp only [reduceCtorEq, iff_false]
    rintro ⟨j, hj, hk, -⟩
    exact hi (fieldKey_injective hk ▸ hj)

omit [DecidableEq Val] [Json Val] in
/-- A position whose bit is set is that of a field, so that the keys looked up are there. -/
theorem lt_of_sentFlag {x : SyncObj T} {i : ℕ} (h : sentFlag x i = true) : i < T.fieldCount := by
  rw [sentFlag] at h
  split at h
  · omega
  · exact absurd h (by simp)

/-- A JSON value that shows the fields of an object, each under its own key. -/
def ShowsFields (v : Val) (x : SyncObj T) : Prop :=
  ∀ i, Json.get v (fieldKey i) = .ok ((T.TypeAt i).toVal (x.fields i))

/-- A JSON value that shows the flags of an object, under the key of the flags. -/
def ShowsFlags (v : Val) (x : SyncObj T) : Prop :=
  Json.get v jsonFieldFlagsKey = .ok (Json.ofBitset x.fieldFlags)

omit [DecidableEq Val] in
theorem showsFields_getAllToJson (x : SyncObj T) :
    ShowsFields (SerializationHelper.getAllToJson x) x := fun i ↦
  Json.get_ofObj (SerializationHelper.allEntries_fieldKey x i)

omit [DecidableEq Val] in
theorem showsFlags_getAllToJson (x : SyncObj T) :
    ShowsFlags (SerializationHelper.getAllToJson x) x :=
  Json.get_ofObj (SerializationHelper.allEntries_flags x)

variable {x y : SyncObj T} {mX mY : Val}

/-- What the step for one position adds to the result: the entry of its field, if the field is to be
sent. -/
theorem jsonDiffStep_ok (hmX : ShowsFields mX x) (hmY : ShowsFields mY y) (r : Obj Val)
    (i : Fin maxObjs) :
    ∃ r', jsonDiffStep mX mY (fun j ↦ sentFlag x j) r i = .ok r' ∧
      ∀ key, r'[key]? = if ∃ j ∈ sentFields x y, (j : ℕ) = i ∧ fieldKey j = key then
        (sentEntries x y)[key]? else r[key]? := by
  by_cases hf : sentFlag x i = true
  · have hlt := lt_of_sentFlag hf
    have hx : Json.get mX (fieldKey i) = .ok ((T.TypeAt ⟨i, hlt⟩).toVal (x.fields ⟨i, hlt⟩)) :=
      hmX ⟨i, hlt⟩
    have hy : Json.get mY (fieldKey i) = .ok ((T.TypeAt ⟨i, hlt⟩).toVal (y.fields ⟨i, hlt⟩)) :=
      hmY ⟨i, hlt⟩
    by_cases hxy : x.fields ⟨i, hlt⟩ = y.fields ⟨i, hlt⟩
    · refine ⟨r, by simp [jsonDiffStep, hf, hx, hy, hxy, bind, Except.bind, pure, Except.pure],
        fun key ↦ ?_⟩
      rw [if_neg]
      rintro ⟨j, hj, hji, -⟩
      obtain rfl : j = ⟨i, hlt⟩ := Fin.ext hji
      exact (mem_sentFields.1 hj).2.2 hxy
    · have hne : (T.TypeAt ⟨i, hlt⟩).toVal (x.fields ⟨i, hlt⟩) ≠
          (T.TypeAt ⟨i, hlt⟩).toVal (y.fields ⟨i, hlt⟩) :=
        (T.TypeAt ⟨i, hlt⟩).toVal_injective.ne hxy
      have hmem : (⟨i, hlt⟩ : Fin T.fieldCount) ∈ sentFields x y :=
        mem_sentFields.2 ⟨i.isLt, hf, hxy⟩
      refine ⟨r.insert (fieldKey i) ((T.TypeAt ⟨i, hlt⟩).toVal (x.fields ⟨i, hlt⟩)),
        by simp [jsonDiffStep, hf, hx, hy, hne, bind, Except.bind, pure, Except.pure],
        fun key ↦ ?_⟩
      rw [OrdMap.lookup_insert]
      by_cases hkey : key = fieldKey i
      · have hk : fieldKey (⟨i, hlt⟩ : Fin T.fieldCount) = key := hkey.symm
        rw [if_pos hkey, if_pos ⟨_, hmem, rfl, hk⟩, ← hk, sentEntries_fieldKey, if_pos hmem]
      · rw [if_neg hkey, if_neg]
        rintro ⟨j, -, hji, hk⟩
        obtain rfl : j = ⟨i, hlt⟩ := Fin.ext hji
        exact hkey hk.symm
  · refine ⟨r, by simp [jsonDiffStep, hf, pure, Except.pure], fun key ↦ ?_⟩
    rw [if_neg]
    rintro ⟨j, hj, hji, -⟩
    exact hf (hji ▸ (mem_sentFields.1 hj).2.1)

/-- **What `getJsonDiff` sends of an object**, for any number of fields. -/
theorem getJsonDiff_ok (hmX : ShowsFields mX x) (hfX : ShowsFlags mX x) (hmY : ShowsFields mY y) :
    getJsonDiff mX mY = .ok (Json.ofObj (sentEntries x y)) := by
  have hbits : Json.bitsetOfStr maxObjs x.fieldFlags.toStr = .ok fun j ↦ sentFlag x j := by
    rw [Json.bitsetOfStr, Bitset.ofStr?_toStr]
    rfl
  -- the fields at the positions visited so far have been sent
  obtain ⟨r, hr, hI⟩ := Except.foldlM_ok (l := List.finRange maxObjs) (b := (∅ : Obj Val))
    (f := jsonDiffStep mX mY fun j ↦ sentFlag x j)
    (I := fun pre r ↦ ∀ key, r[key]? =
      if ∃ j ∈ sentFields x y, (∃ i ∈ pre, (j : ℕ) = (i : ℕ)) ∧ fieldKey j = key then
        (sentEntries x y)[key]? else none)
    (by simp) (by
      intro pre i post r _ hI
      obtain ⟨r', hr', hstep⟩ := jsonDiffStep_ok hmX hmY r i
      refine ⟨r', hr', fun key ↦ ?_⟩
      rw [hstep, hI]
      by_cases h1 : ∃ j ∈ sentFields x y, (j : ℕ) = i ∧ fieldKey j = key
      · obtain ⟨j, hj, hji, hk⟩ := h1
        rw [if_pos ⟨j, hj, hji, hk⟩, if_pos ⟨j, hj, ⟨i, by simp, hji⟩, hk⟩]
      · rw [if_neg h1]
        refine if_congr ?_ rfl rfl
        constructor
        · rintro ⟨j, hj, ⟨k, hk, hjk⟩, hkey⟩
          exact ⟨j, hj, ⟨k, by simp [hk], hjk⟩, hkey⟩
        · rintro ⟨j, hj, ⟨k, hk, hjk⟩, hkey⟩
          rcases List.mem_append.1 hk with hk | hk
          · exact ⟨j, hj, ⟨k, hk, hjk⟩, hkey⟩
          · obtain rfl := List.mem_singleton.1 hk
            exact absurd ⟨j, hj, hjk, hkey⟩ h1)
  have hres : r = sentEntries x y := by
    refine Std.ExtTreeMap.ext_getElem? fun key ↦ ?_
    rw [hI]
    split
    · rfl
    · rename_i hn
      symm
      rw [Option.eq_none_iff_forall_ne_some]
      intro v hv
      obtain ⟨j, hj, hk, -⟩ := sentEntries_eq_some.1 hv
      exact hn ⟨j, hj, ⟨⟨j, (mem_sentFields.1 hj).1⟩, List.mem_finRange _, rfl⟩, hk⟩
  rw [getJsonDiff, hfX]
  simp only [bind, Except.bind, Json.ofBitset, Json.asStr_ofStr, hbits]
  rw [hr, hres]
  rfl

/-! ## The diff of two snapshots

For one type, the positions of the bitset are gone through in order.  An object that is alive here
only is created on the other side, one that is alive there only is removed, and of one that is alive
on both sides the fields to send are computed.  `diffOn` describes what has come together after some
of the positions, which is the invariant of the loop. -/

/-- `v.isEmptyObj()`, for a value that may be anything. -/
def isEmptyObj (v : Val) : Bool :=
  match Json.obj? v with
  | none => false
  | some m => m.isEmpty

/-- `items.at(i)`, which raises an exception if there is no item. -/
def itemAt (mTD : SnapshotTypeData Val) (i : Fin maxObjs) : Except Error Val :=
  match mTD.items[objID i]? with
  | none => .error (.raised .outOfRange)
  | some v => .ok v

/-- The step of `getDiffWith` for one position of one type.  The data of the snapshot it is called
on is part of the state, because `items[i]` would insert an item that is not there. -/
def diffStep (myBitset diffBitset : ObjBitset) (mTDOther : SnapshotTypeData Val)
    (acc : SnapshotTypeData Val × DiffTypeData Val) (i : Fin maxObjs) :
    Except Error (SnapshotTypeData Val × DiffTypeData Val) := do
  let (mTDCurrent, mTDDiff) := acc
  let (mTDCurrent, mTDDiff) :=
    if !diffBitset i && myBitset i then
      let (item, items) := OrdMap.subscript Json.null mTDCurrent.items (objID i)
      (⟨items⟩, { mTDDiff with toCreate := mTDDiff.toCreate.insert (objID i) item })
    else (mTDCurrent, mTDDiff)
  let mTDDiff :=
    if !myBitset i && diffBitset i then
      { mTDDiff with toRemove := mTDDiff.toRemove ++ [objID i] }
    else mTDDiff
  if myBitset i && diffBitset i then
    let objDiff ← getJsonDiff (← itemAt mTDCurrent i) (← itemAt mTDOther i)
    if isEmptyObj objDiff then return (mTDCurrent, mTDDiff)
    return (mTDCurrent, { mTDDiff with toUpdate := mTDDiff.toUpdate.insert (objID i) objDiff })
  else return (mTDCurrent, mTDDiff)

/-- `getDiffWith` on the data of one type: a loop over all positions of the bitset. -/
def typeDiffWith (myBitset diffBitset : ObjBitset) (mTDCurrent mTDOther : SnapshotTypeData Val) :
    Except Error (SnapshotTypeData Val × DiffTypeData Val) :=
  (List.finRange maxObjs).foldlM (diffStep myBitset diffBitset mTDOther)
    (mTDCurrent, DiffTypeData.empty)

/-- The difference between a snapshot and `mX`, and the snapshot as it is left. -/
def getDiffWith {typeCount : ℕ} (this mX : Snapshot typeCount Val) :
    Except Error (Diff typeCount Val × Snapshot typeCount Val) := do
  let r ← Except.collect (fun t ↦ typeDiffWith (this.bitsetIDs t) (mX.bitsetIDs t)
    (this.typeDatas t) (mX.typeDatas t)) fun t ↦ (this.typeDatas t, DiffTypeData.empty)
  return (⟨fun t ↦ (r t).2⟩, { this with typeDatas := fun t ↦ (r t).1 })

/-- The diff of one type restricted to some positions, given the fields to send of each object. -/
def diffOn (A B : ObjBitset) (a : SnapshotTypeData Val) (sent : Fin maxObjs → Obj Val)
    (l : List (Fin maxObjs)) : DiffTypeData Val where
  toCreate := OrdMap.insertAll objID (fun i ↦ a.items[objID i]?.getD Json.null) ∅
    (l.filter fun i ↦ !B i && A i)
  toRemove := (l.filter fun i ↦ !A i && B i).map objID
  toUpdate := OrdMap.insertAll objID (fun i ↦ Json.ofObj (sent i)) ∅
    (l.filter fun i ↦ A i && B i && !(sent i).isEmpty)

section

variable {A B : ObjBitset} {a : SnapshotTypeData Val} {sent : Fin maxObjs → Obj Val} {id : ID}
  {v : Val}

omit [DecidableEq Val] [Json Val] in
/-- Writing to positions of the bitset never writes to one key twice, so that each entry is found
again. -/
theorem lookup_insertAll_objID {f : Fin maxObjs → Val} {l : List (Fin maxObjs)} :
    (OrdMap.insertAll objID f ∅ l)[id]? = some v ↔ ∃ i ∈ l, objID i = id ∧ f i = v :=
  OrdMap.lookup_insertAll_empty fun i _ j _ h ↦ by rw [objID_injective h]

omit [DecidableEq Val] in
theorem toCreate_diffOn : (diffOn A B a sent (List.finRange maxObjs)).toCreate[id]? = some v ↔
    ∃ i, (B i = false ∧ A i = true) ∧ objID i = id ∧ a.items[objID i]?.getD Json.null = v := by
  rw [diffOn, lookup_insertAll_objID]
  simp

omit [DecidableEq Val] in
theorem mem_toRemove_diffOn : id ∈ (diffOn A B a sent (List.finRange maxObjs)).toRemove ↔
    ∃ i, (A i = false ∧ B i = true) ∧ objID i = id := by
  simp [diffOn]

omit [DecidableEq Val] in
/-- The identifiers to remove come in increasing order, as the loop meets them in. -/
theorem toRemove_diffOn_lt :
    (diffOn A B a sent (List.finRange maxObjs)).toRemove.Pairwise (· < ·) := by
  refine ((List.pairwise_lt_finRange maxObjs).filter _).map _ fun i j hij ↦ ?_
  exact Int.ofNat_lt.2 hij

omit [DecidableEq Val] in
theorem toUpdate_diffOn : (diffOn A B a sent (List.finRange maxObjs)).toUpdate[id]? = some v ↔
    ∃ i, ((A i = true ∧ B i = true) ∧ sent i ≠ ∅) ∧ objID i = id ∧ Json.ofObj (sent i) = v := by
  have hempty : ∀ m : Obj Val, m.isEmpty = false ↔ m ≠ ∅ := fun m ↦ by
    rw [← Bool.not_eq_true, Std.ExtTreeMap.isEmpty_iff]
  rw [diffOn, lookup_insertAll_objID]
  simp [hempty]

end

/-- What `getDiffWith` needs of the data of one type: an object alive on this side is in the items,
and the fields `sent i` can be computed for an object alive on both. -/
structure Comparable (A B : ObjBitset) (a b : SnapshotTypeData Val)
    (sent : Fin maxObjs → Obj Val) : Prop where
  items : ∀ i, A i = true → ∃ x, a.items[objID i]? = some x
  sent : ∀ i, A i = true → B i = true → ∃ x y, a.items[objID i]? = some x ∧
    b.items[objID i]? = some y ∧ getJsonDiff x y = .ok (Json.ofObj (sent i))

variable {A B : ObjBitset} {a b : SnapshotTypeData Val} {sent : Fin maxObjs → Obj Val}

theorem diffStep_ok (h : Comparable A B a b sent) (pre : List (Fin maxObjs)) (i : Fin maxObjs) :
    diffStep A B b (a, diffOn A B a sent pre) i = .ok (a, diffOn A B a sent (pre ++ [i])) := by
  cases hA : A i <;> cases hB : B i
  · simp [diffStep, diffOn, hA, hB, pure, Except.pure]
  · simp [diffStep, diffOn, hA, hB, pure, Except.pure]
  · obtain ⟨x, hx⟩ := h.items i hA
    simp [diffStep, diffOn, hA, hB, OrdMap.subscript_of_some hx, OrdMap.insertAll_append_singleton,
      hx, pure, Except.pure]
  · obtain ⟨x, y, hx, hy, hxy⟩ := h.sent i hA hB
    by_cases he : (sent i).isEmpty = true
    · simp [diffStep, diffOn, hA, hB, itemAt, hx, hy, hxy, isEmptyObj, he, bind, Except.bind, pure,
        Except.pure]
    · simp [diffStep, diffOn, hA, hB, itemAt, hx, hy, hxy, isEmptyObj, he, bind, Except.bind, pure,
        Except.pure, OrdMap.insertAll_append_singleton]

/-- **The diff of one type**, with the data of the snapshot left as it was: nothing is inserted by
the subscripting, as all items are there. -/
theorem typeDiffWith_ok (h : Comparable A B a b sent) :
    typeDiffWith A B a b = .ok (a, diffOn A B a sent (List.finRange maxObjs)) := by
  obtain ⟨r, hr, hI⟩ := Except.foldlM_ok (l := List.finRange maxObjs)
    (b := (a, (DiffTypeData.empty : DiffTypeData Val))) (f := diffStep A B b)
    (I := fun pre acc ↦ acc = (a, diffOn A B a sent pre)) rfl (by
      rintro pre i post _ _ rfl
      exact ⟨_, diffStep_ok h pre i, rfl⟩)
  rw [typeDiffWith, hr, hI]

end Snapshot

end AutoSync
