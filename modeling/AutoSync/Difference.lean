import AutoSync.Operations

/-!
# What a difference says

`getJsonDiff` compares two objects and `getDiffWith` two snapshots.  This file takes each of them
by itself and says what it computes, for objects and snapshots of any origin.

The difference of two objects is meant to hold the dirty fields in which they differ.  `Reports` is
that, and `reportsDirty_iff` says when `getJsonDiff` achieves it: the flags are read into a bitset
of size `maxObjs`, so with more fields than that the flag looked at for a field is that of another
field.  With at most `maxObjs` fields it is the right one (`flagsInPlace_of_le`).

The snapshots of the second half need not come from a manager.  They are only asked to be
`WellFormed`, which those of managers are (`SyncManager.Describes.wellFormed`): an item is any JSON
value that has the flags and all the fields.  `getDiffWith_spec` is then the whole of
`getDiffWith`.
-/

set_option autoImplicit false

namespace AutoSync

open SerializationHelper (setFromJson getAllToJson patch)

variable {Val : Type} [DecidableEq Val] [Json Val]

namespace Snapshot

/-! ## The difference of two objects

`getJsonDiff` reads the flags of one object and compares its fields with those of another.  What it
should come to is `Reports`; whether it does is a matter of where the flags end up when they are
read, and that is `FlagsInPlace`. -/

section

variable {T : ObjType Val} {x y : SyncObj T}

omit [DecidableEq Val] [Json Val] in
/-- The entries are the dirty fields of `x` in which `y` differs, with the values of `x`, and no
others. -/
def Reports (m : Obj Val) (x y : SyncObj T) : Prop :=
  ∀ (key : String) (v : Val), m[key]? = some v ↔ ∃ i, fieldKey i = key ∧
    (x.fieldFlags i = true ∧ x.fields i ≠ y.fields i) ∧ (T.TypeAt i).toVal (x.fields i) = v

omit [DecidableEq Val] [Json Val] in
theorem Reports.unique {m m' : Obj Val} (h : Reports m x y) (h' : Reports m' x y) : m = m' :=
  Std.ExtTreeMap.ext_getElem? fun key ↦ Option.ext fun v ↦ (h key v).trans (h' key v).symm

omit [DecidableEq Val] [Json Val] in
/-- A report is empty when no dirty field differs, even if fields that are not dirty do. -/
theorem Reports.eq_empty_iff {m : Obj Val} (h : Reports m x y) :
    m = ∅ ↔ ¬∃ i, x.fieldFlags i = true ∧ x.fields i ≠ y.fields i := by
  rw [OrdMap.eq_empty_iff]
  constructor
  · rintro hnone ⟨i, hi⟩
    exact absurd ((h (fieldKey i) _).2 ⟨i, rfl, hi, rfl⟩) (by simp [hnone])
  · intro hno key
    rw [Option.eq_none_iff_forall_ne_some]
    intro v hv
    obtain ⟨i, -, hi, -⟩ := (h key v).1 hv
    exact hno ⟨i, hi⟩

/-- The difference of two objects reports the dirty fields, and reading it into the right object
copies them there. -/
def ReportsDirty (x y : SyncObj T) : Prop :=
  ∃ m, getJsonDiff (getAllToJson x) (getAllToJson y) = .ok (Json.ofObj m) ∧ Reports m x y ∧
    ∃ r, (setFromJson (Json.ofObj m)).run y = .ok () r ∧
      ∀ i, r.fields i = if x.fieldFlags i = true then x.fields i else y.fields i

omit [DecidableEq Val] [Json Val] in
/-- Where the objects differ, the flag of a field is the one `getJsonDiff` looks at, which comes
`fieldCount - maxObjs` places later — if there is one so late. -/
def FlagsInPlace (x y : SyncObj T) : Prop :=
  ∀ i, x.fields i ≠ y.fields i → (x.fieldFlags i = true ↔
    ∃ j : Fin T.fieldCount, (j : ℕ) = T.fieldCount - maxObjs + i ∧ x.fieldFlags j = true)

omit [DecidableEq Val] [Json Val] in
theorem flagsInPlace_of_le (hn : T.fieldCount ≤ maxObjs) (x y : SyncObj T) :
    FlagsInPlace x y := by
  intro i _
  rw [Nat.sub_eq_zero_of_le hn, Nat.zero_add]
  constructor
  · exact fun h ↦ ⟨i, rfl, h⟩
  · rintro ⟨j, hj, h⟩
    rwa [← Fin.ext hj]

omit [DecidableEq Val] [Json Val] in
theorem sentFlag_eq_true {i : Fin T.fieldCount} : sentFlag x i = true ↔
    ∃ j : Fin T.fieldCount, (j : ℕ) = T.fieldCount - maxObjs + i ∧ x.fieldFlags j = true := by
  rw [sentFlag]
  split
  · rename_i h
    constructor
    · exact fun hf ↦ ⟨_, rfl, hf⟩
    · rintro ⟨j, hj, hf⟩
      rwa [← show j = ⟨_, h⟩ from Fin.ext hj]
  · rename_i h
    simp only [Bool.false_eq_true, false_iff]
    rintro ⟨j, hj, -⟩
    exact h (hj ▸ j.isLt)

omit [DecidableEq Val] [Json Val] in
/-- A flag that is looked at is at one of the first `maxObjs` positions, which are all there are. -/
theorem lt_maxObjs_of_sentFlag {i : Fin T.fieldCount} (h : sentFlag x i = true) :
    (i : ℕ) < maxObjs := by
  obtain ⟨j, hj, -⟩ := sentFlag_eq_true.1 h
  have := j.isLt
  have := i.isLt
  omega

omit [Json Val] in
/-- What is sent is what is to be reported exactly when the flags are in place. -/
theorem reports_sentEntries_iff : Reports (sentEntries x y) x y ↔ FlagsInPlace x y := by
  have hmem : ∀ i, i ∈ sentFields x y ↔
      (∃ j : Fin T.fieldCount, (j : ℕ) = T.fieldCount - maxObjs + i ∧ x.fieldFlags j = true) ∧
        x.fields i ≠ y.fields i := fun i ↦ by
    rw [mem_sentFields, ← sentFlag_eq_true]
    exact ⟨fun h ↦ h.2, fun h ↦ ⟨lt_maxObjs_of_sentFlag h.1, h⟩⟩
  constructor
  · intro hm i hne
    have hkey := hm (fieldKey i) ((T.TypeAt i).toVal (x.fields i))
    rw [sentEntries_fieldKey] at hkey
    constructor
    · intro hi
      have hsome := hkey.2 ⟨i, rfl, ⟨hi, hne⟩, rfl⟩
      split at hsome
      · rename_i hi'
        exact ((hmem i).1 hi').1
      · exact absurd hsome (by simp)
    · intro hi
      rw [if_pos ((hmem i).2 ⟨hi, hne⟩)] at hkey
      obtain ⟨j, hj, ⟨hfj, -⟩, -⟩ := hkey.1 rfl
      rwa [← fieldKey_injective hj]
  · intro h key v
    rw [sentEntries_eq_some]
    refine exists_congr fun i ↦ ?_
    rw [hmem]
    constructor
    · rintro ⟨⟨hf, hne⟩, hk, hv⟩
      exact ⟨hk, ⟨(h i hne).2 hf, hne⟩, hv⟩
    · rintro ⟨hk, ⟨hf, hne⟩, hv⟩
      exact ⟨⟨(h i hne).1 hf, hne⟩, hk, hv⟩

omit [Json Val] in
theorem reports_sentEntries (hn : T.fieldCount ≤ maxObjs) (x y : SyncObj T) :
    Reports (sentEntries x y) x y :=
  reports_sentEntries_iff.2 (flagsInPlace_of_le hn x y)

omit [DecidableEq Val] in
/-- Reading a report copies the dirty fields, and leaves the others as they are. -/
theorem Reports.setFromJson {m : Obj Val} (hm : Reports m x y) :
    ∃ r, (SerializationHelper.setFromJson (Json.ofObj m)).run y = .ok () r ∧
      ∀ i, r.fields i = if x.fieldFlags i = true then x.fields i else y.fields i := by
  have hsome : ∀ {i v}, m[fieldKey i]? = some v →
      x.fieldFlags i = true ∧ (T.TypeAt i).toVal (x.fields i) = v := by
    intro i v hv
    obtain ⟨j, hj, ⟨hf, -⟩, hv'⟩ := (hm _ _).1 hv
    obtain rfl := fieldKey_injective hj
    exact ⟨hf, hv'⟩
  have hdec : SerializationHelper.Decodes T m := by
    intro i v hv
    rw [← (hsome hv).2, FieldType.as_toVal]
    rfl
  refine ⟨_, SerializationHelper.run_setFromJson hdec y, fun i ↦ ?_⟩
  cases hv : m[fieldKey i]? with
  | some v =>
    obtain ⟨hf, rfl⟩ := hsome hv
    simp [patch, hv, hf]
  | none =>
    have hkeep : (patch m y).fields i = y.fields i := by simp [patch, hv]
    rw [hkeep]
    split
    · rename_i hf
      -- a dirty field that is not reported is the same on both sides
      by_contra hne
      have := (hm (fieldKey i) _).2 ⟨i, rfl, ⟨hf, Ne.symm hne⟩, rfl⟩
      rw [hv] at this
      exact absurd this (by simp)
    · rfl

theorem getJsonDiff_getAllToJson (x y : SyncObj T) :
    getJsonDiff (getAllToJson x) (getAllToJson y) = .ok (Json.ofObj (sentEntries x y)) :=
  getJsonDiff_ok (showsFields_getAllToJson x) (showsFlags_getAllToJson x)
    (showsFields_getAllToJson y)

theorem ReportsDirty.flagsInPlace (h : ReportsDirty x y) : FlagsInPlace x y := by
  obtain ⟨m, hm, hreports, -⟩ := h
  rw [getJsonDiff_getAllToJson, Except.ok.injEq] at hm
  rw [← Json.ofObj_injective hm] at hreports
  exact reports_sentEntries_iff.1 hreports

/-- **When the difference of two objects reports the dirty fields**: exactly when the flags are in
place, as they are with at most `maxObjs` fields. -/
theorem reportsDirty_iff (x y : SyncObj T) : ReportsDirty x y ↔ FlagsInPlace x y := by
  constructor
  · exact ReportsDirty.flagsInPlace
  · intro h
    have hreports := reports_sentEntries_iff.2 h
    exact ⟨_, getJsonDiff_getAllToJson x y, hreports, hreports.setFromJson⟩

end

/-- A type of objects with one field more than there are positions in an alive bitset. -/
def manyFields : ObjType JsonTree := ⟨maxObjs + 1, fun _ ↦ FieldType.int JsonTree⟩

/-- **An edit of the first of too many fields is not reported**: its flag is cut off when the flags
are read. -/
theorem edit_not_reported :
    ¬ReportsDirty ((SyncObj.fresh manyFields).edit (0 : Fin (maxObjs + 1)) (1 : ℤ))
      (SyncObj.fresh manyFields) := by
  intro h
  have hne : (1 : ℤ) ≠ 0 := by decide
  -- the flag looked at for field `0` is that of field `1`
  obtain ⟨j, hj, hf⟩ := (h.flagsInPlace (0 : Fin (maxObjs + 1)) hne).1 rfl
  obtain rfl : j = (1 : Fin (maxObjs + 1)) := Fin.ext hj
  exact absurd hf (by decide)

/-! ## The difference of two snapshots

A snapshot may come from anywhere, and its items need not be those of any manager.  What is asked of
them is that they are well formed, which is little: the items are those of the alive identifiers,
and every item has all its fields. -/

end Snapshot

omit [DecidableEq Val] in
/-- The fields of an item, which need not be those of an object: any JSON value will do. -/
def FieldType.val (Val : Type) [Json Val] : FieldType Val where
  Carrier := Val
  default := Json.null
  toVal := id
  as? := some
  as_toVal _ := rfl

/-- An item with `n` fields, of which each may have any value. -/
def ObjType.vals (Val : Type) [Json Val] (n : ℕ) : ObjType Val := ⟨n, fun _ ↦ FieldType.val Val⟩

/-- The identifier is alive in the bitset, and so in range. -/
def AliveIn (A : ObjBitset) (id : ID) : Prop := A.test? id = some true

theorem aliveIn_iff {A : ObjBitset} {id : ID} : AliveIn A id ↔ ∃ i, A i = true ∧ objID i = id := by
  rw [AliveIn, Bitset.test?_eq_some]
  refine exists_congr fun i ↦ ?_
  rw [and_comm, @eq_comm _ id]
  rfl

theorem aliveIn_objID {A : ObjBitset} {i : Fin maxObjs} : AliveIn A (objID i) ↔ A i = true := by
  simp [AliveIn, objID]

namespace SnapshotTypeData

variable {n : ℕ} {a b : SnapshotTypeData Val} {id : ID} {x y : SyncObj (ObjType.vals Val n)}

omit [DecidableEq Val] in
/-- The item `id` carries the flags and the fields of `x`, each under its key. -/
def Shows (a : SnapshotTypeData Val) (id : ID) (x : SyncObj (ObjType.vals Val n)) : Prop :=
  ∃ v, a.items[id]? = some v ∧ Snapshot.ShowsFlags v x ∧ Snapshot.ShowsFields v x

omit [DecidableEq Val] in
theorem Shows.unique (hx : a.Shows id x) (hy : a.Shows id y) : x = y := by
  obtain ⟨v, hv, hflags, hfields⟩ := hx
  obtain ⟨w, hw, hflags', hfields'⟩ := hy
  obtain rfl := Option.some_inj.1 (hv.symm.trans hw)
  refine SyncObj.ext (funext fun i ↦ Except.ok.inj ((hfields i).symm.trans (hfields' i))) ?_
  have hjson := congrArg (Json.asBitset (ObjType.vals Val n).fieldCount)
    (Except.ok.inj (hflags.symm.trans hflags'))
  rwa [Json.asBitset_ofBitset, Json.asBitset_ofBitset, Except.ok.injEq] at hjson

omit [DecidableEq Val] in
/-- The data of one type with `n` fields: the items alive are those that are there, and every item
has its flags and all its fields. -/
structure WellFormed (n : ℕ) (A : ObjBitset) (a : SnapshotTypeData Val) : Prop where
  alive : ∀ i, A i = true ↔ objID i ∈ a.items
  shows : ∀ id, id ∈ a.items → ∃ x : SyncObj (ObjType.vals Val n), a.Shows id x

omit [DecidableEq Val] in
theorem WellFormed.exists_shows {A : ObjBitset} (h : a.WellFormed n A) (hid : AliveIn A id) :
    ∃ x : SyncObj (ObjType.vals Val n), a.Shows id x := by
  obtain ⟨i, hi, rfl⟩ := aliveIn_iff.1 hid
  exact h.shows _ ((h.alive i).1 hi)

/-- The flagged fields of an item both sides have agree, so that there is nothing to update. -/
def FlaggedAgree (n : ℕ) (A B : ObjBitset) (a b : SnapshotTypeData Val) : Prop :=
  ∀ id, AliveIn A id → AliveIn B id → ∀ x y : SyncObj (ObjType.vals Val n), a.Shows id x →
    b.Shows id y → ∀ i, x.fieldFlags i = true → x.fields i = y.fields i

end SnapshotTypeData

namespace DiffTypeData

variable {n : ℕ} {d : DiffTypeData Val} {A B : ObjBitset} {a b : SnapshotTypeData Val}

/-- **What the difference of the data of one type is to be**, given the alive bits `A` and `B` and
the items `a` and `b` of the two sides. -/
structure IsDiff (n : ℕ) (d : DiffTypeData Val) (A B : ObjBitset)
    (a b : SnapshotTypeData Val) : Prop where
  toCreate : ∀ (id : ID) (v : Val), d.toCreate[id]? = some v ↔
    (AliveIn A id ∧ ¬AliveIn B id) ∧ a.items[id]? = some v
  increasing : d.toRemove.Pairwise (· < ·)
  toRemove : ∀ id, id ∈ d.toRemove ↔ AliveIn B id ∧ ¬AliveIn A id
  toUpdate : ∀ (id : ID) (v : Val), d.toUpdate[id]? = some v ↔ (AliveIn A id ∧ AliveIn B id) ∧
    ∃ x y : SyncObj (ObjType.vals Val n), a.Shows id x ∧ b.Shows id y ∧
      (∃ i, x.fieldFlags i = true ∧ x.fields i ≠ y.fields i) ∧
      ∃ m, Snapshot.Reports m x y ∧ Json.ofObj m = v

omit [DecidableEq Val] [Json Val] in
/-- No identifier is in two of the three parts of the difference, so that an object is created,
removed or updated. -/
structure NamesOnce (d : DiffTypeData Val) : Prop where
  create_remove : ∀ id ∈ d.toCreate, id ∉ d.toRemove
  create_update : ∀ id ∈ d.toCreate, id ∉ d.toUpdate
  remove_update : ∀ id ∈ d.toRemove, id ∉ d.toUpdate

omit [DecidableEq Val] in
theorem IsDiff.namesOnce (h : d.IsDiff n A B a b) : d.NamesOnce := by
  have hcreate : ∀ id ∈ d.toCreate, ¬AliveIn B id := fun id hid ↦ by
    obtain ⟨v, hv⟩ := (OrdMap.mem_iff_lookup _ _).1 hid
    exact ((h.toCreate id v).1 hv).1.2
  have hupdate : ∀ id ∈ d.toUpdate, AliveIn A id ∧ AliveIn B id := fun id hid ↦ by
    obtain ⟨v, hv⟩ := (OrdMap.mem_iff_lookup _ _).1 hid
    exact ((h.toUpdate id v).1 hv).1
  exact ⟨fun id hc hr ↦ hcreate id hc ((h.toRemove id).1 hr).1,
    fun id hc hu ↦ hcreate id hc (hupdate id hu).2,
    fun id hr hu ↦ ((h.toRemove id).1 hr).2 (hupdate id hu).1⟩

/-- The difference of well-formed data is empty when nothing is to be done: the same identifiers are
alive, and no flagged field differs. -/
theorem IsDiff.isEmpty_iff (hn : n ≤ maxObjs) (h : d.IsDiff n A B a b) (ha : a.WellFormed n A)
    : d.isEmpty = true ↔ A = B ∧ a.FlaggedAgree n A B b := by
  have hcreate : d.toCreate = ∅ ↔ ∀ id, AliveIn A id → AliveIn B id := by
    rw [OrdMap.eq_empty_iff]
    constructor
    · intro hnone id hA
      by_contra hB
      obtain ⟨x, v, hv, -⟩ := ha.exists_shows hA
      exact absurd ((h.toCreate id v).2 ⟨⟨hA, hB⟩, hv⟩) (by simp [hnone])
    · intro himp id
      rw [Option.eq_none_iff_forall_ne_some]
      intro v hv
      obtain ⟨⟨hA, hB⟩, -⟩ := (h.toCreate id v).1 hv
      exact hB (himp id hA)
  have hremove : d.toRemove = [] ↔ ∀ id, AliveIn B id → AliveIn A id := by
    rw [List.eq_nil_iff_forall_not_mem]
    refine forall_congr' fun id ↦ ?_
    rw [h.toRemove, not_and, not_not]
  have hupdate : d.toUpdate = ∅ ↔ a.FlaggedAgree n A B b := by
    rw [OrdMap.eq_empty_iff]
    constructor
    · intro hnone id hA hB x y hx hy i hi
      by_contra hne
      have hm := (h.toUpdate id (Json.ofObj (Snapshot.sentEntries x y))).2
        ⟨⟨hA, hB⟩, x, y, hx, hy, ⟨i, hi, hne⟩, _, Snapshot.reports_sentEntries hn x y, rfl⟩
      exact absurd hm (by simp [hnone])
    · intro hagree id
      rw [Option.eq_none_iff_forall_ne_some]
      intro v hv
      obtain ⟨⟨hA, hB⟩, x, y, hx, hy, ⟨i, hi, hne⟩, -⟩ := (h.toUpdate id v).1 hv
      exact hne (hagree id hA hB x y hx hy i hi)
  have heq : A = B ↔ ∀ id, AliveIn A id ↔ AliveIn B id := by
    refine ⟨fun h id ↦ by rw [h], fun h ↦ funext fun i ↦ ?_⟩
    rw [Bool.eq_iff_iff, ← aliveIn_objID, ← aliveIn_objID, h]
  rw [isEmpty, Bool.and_eq_true, Bool.and_eq_true, Std.ExtTreeMap.isEmpty_iff,
    Std.ExtTreeMap.isEmpty_iff, List.isEmpty_iff, hcreate, hremove, hupdate, heq]
  constructor
  · exact fun h ↦ ⟨fun id ↦ ⟨h.1.1 id, h.2 id⟩, h.1.2⟩
  · exact fun h ↦ ⟨⟨fun id ↦ (h.1 id).1, h.2⟩, fun id ↦ (h.1 id).2⟩

end DiffTypeData

namespace Snapshot

variable {typeCount : ℕ} {n : Fin typeCount → ℕ} {a b : Snapshot typeCount Val}

omit [DecidableEq Val] in
/-- A snapshot of objects with `n t` fields, well formed for every type. -/
def WellFormed (n : Fin typeCount → ℕ) (a : Snapshot typeCount Val) : Prop :=
  ∀ t, (a.typeDatas t).WellFormed (n t) (a.bitsetIDs t)

/-- **`getDiffWith` on well-formed data of one type** does not fail, and is what the difference is
to be. -/
theorem typeDiffWith_spec {n : ℕ} {A B : ObjBitset} {a b : SnapshotTypeData Val} (hn : n ≤ maxObjs)
    (ha : a.WellFormed n A) (hb : b.WellFormed n B) :
    ∃ d, typeDiffWith A B a b = .ok (a, d) ∧ d.IsDiff n A B a b := by
  have hsent : ∀ i, ∃ m, A i = true → B i = true → ∃ x y : SyncObj (ObjType.vals Val n),
      a.Shows (objID i) x ∧ b.Shows (objID i) y ∧ sentEntries x y = m := fun i ↦ by
    by_cases h : A i = true ∧ B i = true
    · obtain ⟨x, hx⟩ := ha.exists_shows (aliveIn_objID.2 h.1)
      obtain ⟨y, hy⟩ := hb.exists_shows (aliveIn_objID.2 h.2)
      exact ⟨_, fun _ _ ↦ ⟨x, y, hx, hy, rfl⟩⟩
    · exact ⟨∅, fun h₁ h₂ ↦ absurd ⟨h₁, h₂⟩ h⟩
  choose sent hsent using hsent
  have hcomp : Comparable A B a b sent := by
    refine ⟨fun i hi ↦ (OrdMap.mem_iff_lookup _ _).1 ((ha.alive i).1 hi), fun i hA hB ↦ ?_⟩
    obtain ⟨x, y, ⟨v, hv, hflags, hfields⟩, ⟨w, hw, -, hfields'⟩, hm⟩ := hsent i hA hB
    exact ⟨v, w, hv, hw, hm ▸ getJsonDiff_ok hfields hflags hfields'⟩
  refine ⟨_, typeDiffWith_ok hcomp, ⟨fun id v ↦ ?_, toRemove_diffOn_lt, fun id ↦ ?_,
    fun id v ↦ ?_⟩⟩
  · rw [toCreate_diffOn]
    constructor
    · rintro ⟨i, ⟨hB, hA⟩, rfl, rfl⟩
      obtain ⟨v, hv⟩ := hcomp.items i hA
      simp [aliveIn_objID, hA, hB, hv]
    · rintro ⟨⟨hA, hB⟩, hv⟩
      obtain ⟨i, hi, rfl⟩ := aliveIn_iff.1 hA
      rw [aliveIn_objID, Bool.not_eq_true] at hB
      exact ⟨i, ⟨hB, hi⟩, rfl, by rw [hv]; rfl⟩
  · rw [mem_toRemove_diffOn]
    constructor
    · rintro ⟨i, ⟨hA, hB⟩, rfl⟩
      simp [aliveIn_objID, hA, hB]
    · rintro ⟨hB, hA⟩
      obtain ⟨i, hi, rfl⟩ := aliveIn_iff.1 hB
      rw [aliveIn_objID, Bool.not_eq_true] at hA
      exact ⟨i, ⟨hA, hi⟩, rfl⟩
  · rw [toUpdate_diffOn]
    constructor
    · rintro ⟨i, ⟨⟨hA, hB⟩, hne⟩, rfl, rfl⟩
      obtain ⟨x, y, hx, hy, hm⟩ := hsent i hA hB
      have hreports := reports_sentEntries (T := ObjType.vals Val n) hn x y
      rw [hm] at hreports
      exact ⟨⟨aliveIn_objID.2 hA, aliveIn_objID.2 hB⟩, x, y, hx, hy,
        by simpa using hreports.eq_empty_iff.not.1 hne, _, hreports, rfl⟩
    · rintro ⟨⟨hA, hB⟩, x, y, hx, hy, hdiff, m, hm, rfl⟩
      obtain ⟨i, hi, rfl⟩ := aliveIn_iff.1 hA
      obtain ⟨x', y', hx', hy', hm'⟩ := hsent i hi (aliveIn_objID.1 hB)
      obtain rfl := hx.unique hx'
      obtain rfl := hy.unique hy'
      have heq := hm.unique (reports_sentEntries (T := ObjType.vals Val n) hn x y)
      rw [hm'] at heq
      refine ⟨i, ⟨⟨hi, aliveIn_objID.1 hB⟩, ?_⟩, rfl, by rw [heq]⟩
      rw [← heq]
      exact hm.eq_empty_iff.not.2 (not_not.2 hdiff)

/-- **`getDiffWith` on any two well-formed snapshots** does not fail, leaves the snapshot it is
called on alone, and is for every type what the difference is to be. -/
theorem getDiffWith_spec (hn : ∀ t, n t ≤ maxObjs) (ha : a.WellFormed n) (hb : b.WellFormed n) :
    ∃ d, a.getDiffWith b = .ok (d, a) ∧
      (∀ t, (d.typeDatas t).IsDiff (n t) (a.bitsetIDs t) (b.bitsetIDs t) (a.typeDatas t)
        (b.typeDatas t)) ∧
      (∀ t, (d.typeDatas t).NamesOnce) ∧
      (d.isEmpty = true ↔ ∀ t, a.bitsetIDs t = b.bitsetIDs t ∧ (a.typeDatas t).FlaggedAgree (n t)
        (a.bitsetIDs t) (b.bitsetIDs t) (b.typeDatas t)) := by
  choose d hd hdiff using fun t ↦ typeDiffWith_spec (hn t) (ha t) (hb t)
  refine ⟨⟨d⟩, ?_, hdiff, fun t ↦ (hdiff t).namesOnce, ?_⟩
  · rw [getDiffWith, Except.collect_ok hd]
    rfl
  · rw [Diff.isEmpty, List.all_eq_true]
    exact ⟨fun h t ↦ ((hdiff t).isEmpty_iff (hn t) (ha t)).1 (h t (List.mem_finRange t)),
      fun h t _ ↦ ((hdiff t).isEmpty_iff (hn t) (ha t)).2 (h t)⟩

end Snapshot

/-! ## The snapshots of managers

The snapshot of a manager is well formed, so that what has been said of snapshots holds of managers.
The example is a message that has been edited since it was sent. -/

omit [DecidableEq Val] in
/-- The JSON values of the fields of an object, and its flags. -/
def SyncObj.vals {T : ObjType Val} (o : SyncObj T) : SyncObj (ObjType.vals Val T.fieldCount) where
  fields i := (T.TypeAt i).toVal (o.fields i)
  fieldFlags := o.fieldFlags

omit [DecidableEq Val] in
theorem TypeStore.Describes.wellFormed {T : ObjType Val} {s : TypeStore T}
    {a : SnapshotTypeData Val} (h : Describes a s) (hs : s.Inv) :
    a.WellFormed T.fieldCount s.bitsetIDs := by
  have hmem : ∀ id : ID, id ∈ a.items ↔ ∃ o, s.obj? id = some o := fun id ↦ by
    rw [OrdMap.mem_iff_lookup, h]
    cases s.obj? id <;> simp
  refine ⟨fun i ↦ by rw [hs.bit_iff, hmem], fun id hid ↦ ?_⟩
  obtain ⟨o, ho⟩ := (hmem id).1 hid
  exact ⟨o.vals, getAllToJson o, by rw [h, ho]; rfl, Snapshot.showsFlags_getAllToJson o,
    Snapshot.showsFields_getAllToJson o⟩

omit [DecidableEq Val] in
/-- The snapshot of a manager is well formed, whatever the manager has gone through. -/
theorem SyncManager.Describes.wellFormed {typeCount : ℕ} {TTypes : Fin typeCount → ObjType Val}
    {m : SyncManager TTypes} {a : Snapshot typeCount Val} (h : Describes a m) (hm : m.Inv) :
    a.WellFormed fun t ↦ (TTypes t).fieldCount := fun t ↦ by
  rw [h.bitsetIDs]
  exact (h.typeDatas t).wellFormed (hm t)

namespace Chat

/-- The snapshot of a chat whose only message is `o`. -/
def oneMessage (o : SyncObj (Message JsonTree)) : Snapshot 1 JsonTree where
  bitsetIDs _ i := decide (objID i = 0)
  typeDatas _ := ⟨(∅ : OrdMap ID JsonTree).insert 0 (getAllToJson o)⟩

theorem shows_oneMessage (o : SyncObj (Message JsonTree)) (t : Fin 1) :
    ((oneMessage o).typeDatas t).Shows 0 o.vals := by
  refine ⟨getAllToJson o, ?_, Snapshot.showsFlags_getAllToJson o,
    Snapshot.showsFields_getAllToJson o⟩
  simp [oneMessage]

theorem wellFormed_oneMessage (o : SyncObj (Message JsonTree)) :
    (oneMessage o).WellFormed fun _ ↦ 3 := by
  have hmem : ∀ t id, id ∈ ((oneMessage o).typeDatas t).items ↔ id = 0 := fun t id ↦ by
    simp [oneMessage, @eq_comm _ id]
  refine fun t ↦ ⟨fun i ↦ by rw [hmem]; exact decide_eq_true_iff, fun id hid ↦ ?_⟩
  obtain rfl := (hmem t id).1 hid
  exact ⟨o.vals, shows_oneMessage o t⟩

/-- A message whose contents have been edited, with the flag of that field raised. -/
def edited (contents : String) : SyncObj (Message JsonTree) :=
  (SyncObj.fresh (Message JsonTree)).edit Message.contents contents

/-- An edited message makes a difference: what is computed for it is not empty. -/
theorem getDiffWith_spec_edited : ∃ d, (oneMessage (edited "hi")).getDiffWith
    (oneMessage (edited "ho")) = .ok (d, oneMessage (edited "hi")) ∧ d.isEmpty = false := by
  obtain ⟨d, hd, -, -, hempty⟩ := Snapshot.getDiffWith_spec (n := fun _ ↦ 3) (fun _ ↦ by decide)
    (wellFormed_oneMessage (edited "hi")) (wellFormed_oneMessage (edited "ho"))
  refine ⟨d, hd, Bool.eq_false_iff.2 fun h ↦ ?_⟩
  have hcontents := (hempty.1 h messages).2 0 rfl rfl _ _ (shows_oneMessage (edited "hi") messages)
    (shows_oneMessage (edited "ho") messages) (2 : Fin 3) rfl
  have heq : "hi" = "ho" := JsonTree.str.inj hcontents
  exact absurd heq (by decide)

end Chat

end AutoSync
