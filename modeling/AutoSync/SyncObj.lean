import AutoSync.Json

/-!
# Synchronizable objects

A `SyncObj<TArgs...>` is a tuple of fields and a bitset with a *dirty* flag for every field.  The
field types differ, so a type of objects is given by an `ObjType`: how many fields there are, and
for each the type it has, the value it starts with and the two conversions of the JSON library.
`FieldType.as_toVal` is what the library promises of them.

Fields change in two ways.  `SyncObj.edit` is an assignment through a `FieldProxy` and raises the
flag of the field.  `setFromJson` assigns every field whose key is in a JSON object and lowers
its flag; it stops at the first field that cannot be converted, with the fields before it already
assigned.  `run_setFromJson` is its effect when every field present can be converted.

`getAllToJson` is the object written out: the flags under the key `"ff"`, and every field under
its index.  `getDirtyToJson` leaves out the fields whose flag is clear.  `setFromJson_laws` is what
becomes of an object that reads either.
-/

set_option autoImplicit false

namespace AutoSync

variable {Val : Type}

/-- A type of fields, as the JSON library sees it: its values, and how they are converted. -/
structure FieldType (Val : Type) where
  Carrier : Type
  /-- The value of a field that has just been constructed, before anything is read into it. -/
  default : Carrier
  /-- The JSON of a value. -/
  toVal : Carrier → Val
  /-- `as<T>`, `none` where it raises an exception because the value is not of the type. -/
  as? : Val → Option Carrier
  /-- A value converted to JSON and back is unchanged, which is what synchronizing it rests on. -/
  as_toVal : ∀ x, as? (toVal x) = some x

attribute [simp] FieldType.as_toVal

/-- `mVal.as<T>()` for a field type, with the exception that it raises for any other value. -/
def FieldType.as (F : FieldType Val) (mVal : Val) : Except Error F.Carrier :=
  match F.as? mVal with
  | none => .error (.raised .badCast)
  | some x => .ok x

theorem FieldType.toVal_injective (F : FieldType Val) : Function.Injective F.toVal := by
  intro x y h
  have := congrArg F.as? h
  rwa [F.as_toVal, F.as_toVal, Option.some_inj] at this

/-- A type of objects: the fields of a `SyncObj<TArgs...>`, each with its own type of values. -/
structure ObjType (Val : Type) where
  fieldCount : ℕ
  TypeAt : Fin fieldCount → FieldType Val

/-- `SyncObj<TArgs...>`, of which two are equal when they have the same values and the same
flags. -/
@[ext] structure SyncObj (T : ObjType Val) where
  /-- The tuple of fields, of which each has a type of its own. -/
  fields : ∀ i, (T.TypeAt i).Carrier
  /-- The dirty flags, which say what has been edited since it was last read from JSON. -/
  fieldFlags : Bitset T.fieldCount

/-- The key of a field in the JSON of an object, which is its position in decimal. -/
def fieldKey {n : ℕ} (i : Fin n) : String := toStr ((i : ℕ) : ℤ)

theorem fieldKey_injective {n : ℕ} : Function.Injective (fieldKey : Fin n → String) := by
  intro i j h
  have := toStr_injective h
  exact Fin.ext (Int.ofNat_inj.1 this)

theorem fieldKey_ne_jsonFieldFlagsKey {n : ℕ} (i : Fin n) : fieldKey i ≠ jsonFieldFlagsKey :=
  toStr_ne_jsonFieldFlagsKey _

namespace SyncObj

variable {T : ObjType Val}

/-- An object that has just been constructed: the fields have their defaults, and no flag is
raised. -/
def fresh (T : ObjType Val) : SyncObj T where
  fields i := (T.TypeAt i).default
  fieldFlags _ := false

/-- The object with one field assigned, and the flags as they were. -/
def setFieldAt (o : SyncObj T) (i : Fin T.fieldCount) (x : (T.TypeAt i).Carrier) : SyncObj T :=
  { o with fields := Function.update o.fields i x }

/-- The object with one flag raised, and the fields as they were. -/
def setBitAt (o : SyncObj T) (i : Fin T.fieldCount) : SyncObj T :=
  { o with fieldFlags := Function.update o.fieldFlags i true }

/-- The object with one flag lowered, and the fields as they were. -/
def unsetBitAt (o : SyncObj T) (i : Fin T.fieldCount) : SyncObj T :=
  { o with fieldFlags := Function.update o.fieldFlags i false }

/-- `proxy.edit() = x`: `FieldProxy::edit` raises the flag before it hands the field out. -/
def edit (o : SyncObj T) (i : Fin T.fieldCount) (x : (T.TypeAt i).Carrier) : SyncObj T :=
  (o.setBitAt i).setFieldAt i x

/-- An assignment changes one field, and raises its flag; the other fields and flags stay. -/
theorem edit_spec (o : SyncObj T) (i : Fin T.fieldCount) (x : (T.TypeAt i).Carrier) :
    (o.edit i x).fields i = x ∧ (o.edit i x).fieldFlags i = true ∧
      ∀ k, k ≠ i →
        (o.edit i x).fields k = o.fields k ∧ (o.edit i x).fieldFlags k = o.fieldFlags k := by
  simp +contextual [edit, setFieldAt, setBitAt]

end SyncObj

namespace SerializationHelper

variable [Json Val] {T : ObjType Val}

/-! ## Writing an object

There are two ways to write an object: in full, for a side that does not have it, and with the dirty
fields only, for one that does.  Both are objects with an entry for each field that is written and
one more for the flags, and both are determined by their entries. -/

/-- The entries of the JSON of an object: all its fields, and the flags. -/
def allEntries (mObj : SyncObj T) : Obj Val :=
  OrdMap.insertAll fieldKey (fun i ↦ (T.TypeAt i).toVal (mObj.fields i))
    ((∅ : Obj Val).insert jsonFieldFlagsKey (Json.ofBitset mObj.fieldFlags))
    (List.finRange T.fieldCount)

/-- The JSON of an object with all its fields, for a side that does not have the object yet. -/
def getAllToJson (mObj : SyncObj T) : Val := Json.ofObj (allEntries mObj)

@[simp] theorem allEntries_fieldKey (mObj : SyncObj T) (i : Fin T.fieldCount) :
    (allEntries mObj)[fieldKey i]? = some ((T.TypeAt i).toVal (mObj.fields i)) :=
  OrdMap.lookup_insertAll_of_mem (fun x _ y _ h ↦ by rw [fieldKey_injective h])
    (List.mem_finRange i) _

@[simp] theorem allEntries_flags (mObj : SyncObj T) :
    (allEntries mObj)[jsonFieldFlagsKey]? = some (Json.ofBitset mObj.fieldFlags) := by
  rw [allEntries, OrdMap.lookup_insertAll_of_ne fun i _ ↦ fieldKey_ne_jsonFieldFlagsKey i,
    OrdMap.lookup_insert, if_pos rfl]

/-- The entries of the JSON of the dirty fields of an object, and of its flags. -/
def dirtyEntries (mObj : SyncObj T) : Obj Val :=
  OrdMap.insertAll fieldKey (fun i ↦ (T.TypeAt i).toVal (mObj.fields i))
    ((∅ : Obj Val).insert jsonFieldFlagsKey (Json.ofBitset mObj.fieldFlags))
    ((List.finRange T.fieldCount).filter fun i ↦ mObj.fieldFlags i)

/-- The JSON of an object with its dirty fields only, for a side that has the object. -/
def getDirtyToJson (mObj : SyncObj T) : Val := Json.ofObj (dirtyEntries mObj)

@[simp] theorem dirtyEntries_fieldKey (mObj : SyncObj T) (i : Fin T.fieldCount) :
    (dirtyEntries mObj)[fieldKey i]? =
      if mObj.fieldFlags i = true then some ((T.TypeAt i).toVal (mObj.fields i)) else none := by
  split
  · rename_i hi
    exact OrdMap.lookup_insertAll_of_mem (fun x _ y _ h ↦ by rw [fieldKey_injective h])
      (by simp [hi]) _
  · rename_i hi
    have hne : ∀ j ∈ (List.finRange T.fieldCount).filter (fun i ↦ mObj.fieldFlags i),
        fieldKey j ≠ fieldKey i := by
      rintro j hj he
      rw [fieldKey_injective he] at hj
      exact hi (List.mem_filter.1 hj).2
    rw [dirtyEntries, OrdMap.lookup_insertAll_of_ne hne, OrdMap.lookup_insert,
      if_neg (fieldKey_ne_jsonFieldFlagsKey i)]
    simp

/-! ## Reading an object

`setFromJson` goes through the fields of the object it is called on, and assigns those whose keys
are there.  If a value cannot be converted it stops half way, so that what it does is described up
to the first such field: `FirstBad`. -/

/-- The step of `setFromJson` for one field: it is assigned and its flag lowered if its key is
there. -/
def setFieldFromJson (mVal : Val) (i : Fin T.fieldCount) : EStateM Error (SyncObj T) Unit := do
  let key := fieldKey i
  if ← ofExcept (Json.has mVal key) then
    let v ← ofExcept (Json.get mVal key)
    let x ← ofExcept ((T.TypeAt i).as v)
    modify fun o ↦ (o.setFieldAt i x).unsetBitAt i

/-- Assigns the fields whose keys are in `mVal` and lowers their flags, in the order of the
fields. -/
def setFromJson (mVal : Val) : EStateM Error (SyncObj T) Unit :=
  forM (List.finRange T.fieldCount) (setFieldFromJson mVal)

/-- Every field present in the object can be converted to the type it should have. -/
def Decodes (T : ObjType Val) (m : Obj Val) : Prop :=
  ∀ (i : Fin T.fieldCount) (v : Val), m[fieldKey i]? = some v → ((T.TypeAt i).as? v).isSome

/-- The object with the fields present in `m` assigned and their flags lowered. -/
def patch (m : Obj Val) (o : SyncObj T) : SyncObj T where
  fields i := (m[fieldKey i]? >>= (T.TypeAt i).as?).getD (o.fields i)
  fieldFlags i := o.fieldFlags i && m[fieldKey i]?.isNone

theorem run_setFieldFromJson_none {m : Obj Val} {i : Fin T.fieldCount} (h : m[fieldKey i]? = none)
    (o : SyncObj T) : (setFieldFromJson (Json.ofObj m) i).run o = .ok () o := by
  simp [setFieldFromJson, h]

theorem run_setFieldFromJson_some {m : Obj Val} {i : Fin T.fieldCount} {v : Val}
    (h : m[fieldKey i]? = some v) {x : (T.TypeAt i).Carrier} (hx : (T.TypeAt i).as? v = some x)
    (o : SyncObj T) :
    (setFieldFromJson (Json.ofObj m) i).run o = .ok () ((o.setFieldAt i x).unsetBitAt i) := by
  simp [setFieldFromJson, h, Json.get_ofObj h, FieldType.as, hx]

/-- The object with those of the fields in `l` that are present in `m` assigned and their flags
lowered. -/
def patchOn (l : List (Fin T.fieldCount)) (m : Obj Val) (o : SyncObj T) : SyncObj T where
  fields i := if i ∈ l then (patch m o).fields i else o.fields i
  fieldFlags i := if i ∈ l then (patch m o).fieldFlags i else o.fieldFlags i

omit [Json Val] in
theorem patchOn_nil (m : Obj Val) (o : SyncObj T) : patchOn [] m o = o := by
  ext i <;> simp [patchOn]

omit [Json Val] in
theorem patchOn_finRange (m : Obj Val) (o : SyncObj T) :
    patchOn (List.finRange T.fieldCount) m o = patch m o := by
  ext i <;> simp [patchOn]

/-- The step for a field that can be converted adds the field to those that have been read. -/
theorem run_setFieldFromJson_patchOn {m : Obj Val} {l : List (Fin T.fieldCount)}
    {x : Fin T.fieldCount} (h : ∀ v, m[fieldKey x]? = some v → ((T.TypeAt x).as? v).isSome)
    (o : SyncObj T) : (setFieldFromJson (Json.ofObj m) x).run (patchOn l m o) =
      .ok () (patchOn (l ++ [x]) m o) := by
  cases hx : m[fieldKey x]? with
  | none =>
    rw [run_setFieldFromJson_none hx]
    refine congrArg (EStateM.Result.ok ()) (SyncObj.ext (funext fun i ↦ ?_) (funext fun i ↦ ?_)) <;>
      by_cases hix : i = x <;> simp [patchOn, patch, hix, hx]
  | some v =>
    obtain ⟨y, hy⟩ := Option.isSome_iff_exists.1 (h v hx)
    rw [run_setFieldFromJson_some hx hy]
    refine congrArg (EStateM.Result.ok ()) (SyncObj.ext (funext fun i ↦ ?_) (funext fun i ↦ ?_)) <;>
    · by_cases hix : i = x
      · subst hix
        simp [SyncObj.setFieldAt, SyncObj.unsetBitAt, patchOn, patch, hx, hy]
      · simp [SyncObj.setFieldAt, SyncObj.unsetBitAt, patchOn, hix]

/-- **`setFromJson` when nothing fails**: the fields present are assigned, the others kept. -/
theorem run_setFromJson {m : Obj Val} (h : Decodes T m) (o : SyncObj T) :
    (setFromJson (Json.ofObj m)).run o = .ok () (patch m o) := by
  obtain ⟨s, hs, hI⟩ := EStateM.run_forM_ok (I := fun l s ↦ s = patchOn l m o)
    (f := setFieldFromJson (Json.ofObj m)) (l := List.finRange T.fieldCount) (s := o)
    (patchOn_nil m o).symm (by
      rintro l x post _ - rfl
      exact ⟨_, run_setFieldFromJson_patchOn (h x) o, rfl⟩)
  rw [setFromJson, hs, hI, patchOn_finRange]

/-- The first field that cannot be converted: it is present, and the fields before it are fine. -/
structure FirstBad (T : ObjType Val) (m : Obj Val) (i : Fin T.fieldCount) : Prop where
  bad : ∃ v, m[fieldKey i]? = some v ∧ (T.TypeAt i).as? v = none
  first : ∀ j < i, ∀ v, m[fieldKey j]? = some v → ((T.TypeAt j).as? v).isSome

/-- The indices a loop over all of them visits before `i` are those below it. -/
theorem mem_of_finRange_eq {n : ℕ} {pre post : List (Fin n)} {i : Fin n}
    (h : List.finRange n = pre ++ i :: post) (j : Fin n) : j ∈ pre ↔ j < i := by
  have hlt := List.pairwise_lt_finRange n
  rw [h, List.pairwise_append, List.pairwise_cons] at hlt
  constructor
  · exact fun hj ↦ hlt.2.2 j hj i List.mem_cons_self
  · intro hj
    have hmem := List.mem_finRange j
    rw [h, List.mem_append, List.mem_cons] at hmem
    rcases hmem with hmem | rfl | hmem
    · exact hmem
    · exact absurd hj (lt_irrefl _)
    · exact absurd hj (hlt.2.1.1 j hmem).asymm

omit [Json Val] in
theorem exists_firstBad {m : Obj Val} (h : ¬Decodes T m) : ∃ i, FirstBad T m i := by
  simp only [Decodes, not_forall, Option.not_isSome_iff_eq_none] at h
  obtain ⟨k, v, hv, hk⟩ := h
  obtain ⟨pre, i, post, hl, hbad, hpre⟩ := EStateM.exists_first (l := List.finRange T.fieldCount)
    (p := fun i ↦ ∃ v, m[fieldKey i]? = some v ∧ (T.TypeAt i).as? v = none)
    ⟨k, List.mem_finRange k, v, hv, hk⟩
  refine ⟨i, hbad, fun j hj v hv ↦ ?_⟩
  by_contra hnone
  exact hpre j ((mem_of_finRange_eq hl j).2 hj) ⟨v, hv, by simpa using hnone⟩

/-- The object with the fields before `i` that are present in `m` assigned, which is what is left
when the field `i` cannot be converted. -/
def patchBefore (i : Fin T.fieldCount) (m : Obj Val) (o : SyncObj T) : SyncObj T where
  fields j := if j < i then (patch m o).fields j else o.fields j
  fieldFlags j := if j < i then (patch m o).fieldFlags j else o.fieldFlags j

/-- **`setFromJson` when a field cannot be converted**: the fields before it are assigned, and the
exception leaves the rest as it was. -/
theorem run_setFromJson_error {m : Obj Val} {i : Fin T.fieldCount} (h : FirstBad T m i)
    (o : SyncObj T) :
    (setFromJson (Json.ofObj m)).run o = .error (.raised .badCast) (patchBefore i m o) := by
  obtain ⟨v, hv, hbad⟩ := h.bad
  obtain ⟨pre, post, hl⟩ := List.append_of_mem (List.mem_finRange i)
  have hmem := mem_of_finRange_eq hl
  obtain ⟨s, hs, rfl⟩ := EStateM.run_forM_error (I := fun l s ↦ s = patchOn l m o)
    (Q := fun s ↦ s = patchBefore i m o) (f := setFieldFromJson (Json.ofObj m)) (s := o)
    (e := Error.raised .badCast)
    (patchOn_nil m o).symm hl (by
      rintro l x rest _ hpre rfl
      exact ⟨_, run_setFieldFromJson_patchOn (h.first x ((hmem x).1 (by simp [hpre]))) o, rfl⟩) (by
      rintro _ rfl
      refine ⟨patchOn pre m o, ?_, ?_⟩
      · simp [setFieldFromJson, hv, Json.get_ofObj hv, FieldType.as, hbad]
      · ext j <;> simp [patchOn, patchBefore, hmem])
  rw [setFromJson, hs]

/-- What an object writes out can be read back, since every value is that of a field. -/
theorem decodes_allEntries (o : SyncObj T) : Decodes T (allEntries o) := by
  intro i v hv
  rw [allEntries_fieldKey, Option.some_inj] at hv
  rw [← hv, FieldType.as_toVal]
  rfl

/-- Reading all the fields of `o` makes every field that of `o`, and lowers every flag. -/
theorem patch_allEntries (o r : SyncObj T) :
    patch (allEntries o) r = { fields := o.fields, fieldFlags := fun _ ↦ false } := by
  ext i <;> simp [patch]

theorem decodes_dirtyEntries (o : SyncObj T) : Decodes T (dirtyEntries o) := by
  intro i v hv
  rw [dirtyEntries_fieldKey] at hv
  split at hv
  · rw [Option.some_inj] at hv
    rw [← hv, FieldType.as_toVal]
    rfl
  · exact absurd hv (by simp)

/-- Reading the dirty fields of `o` makes those fields that of `o`, and lowers their flags. -/
theorem patch_dirtyEntries (o r : SyncObj T) :
    patch (dirtyEntries o) r =
      { fields := fun i ↦ if o.fieldFlags i = true then o.fields i else r.fields i
        fieldFlags := fun i ↦ r.fieldFlags i && !o.fieldFlags i } := by
  ext i
  · by_cases hi : o.fieldFlags i = true <;> simp [patch, hi]
  · cases hi : o.fieldFlags i <;> simp [patch, hi]

/-- **Reading an object that was written out**, in full or in part: the fields that were written
become those of `o`, their flags are lowered, and nothing else changes. -/
theorem setFromJson_laws (o r : SyncObj T) :
    (∃ r', (setFromJson (getAllToJson o)).run r = .ok () r' ∧ r'.fields = o.fields ∧
      ∀ i, r'.fieldFlags i = false) ∧
    (∃ r', (setFromJson (getDirtyToJson o)).run r = .ok () r' ∧
      (∀ i, o.fieldFlags i = true → r'.fields i = o.fields i ∧ r'.fieldFlags i = false) ∧
      ∀ i, o.fieldFlags i = false →
        r'.fields i = r.fields i ∧ r'.fieldFlags i = r.fieldFlags i) ∧
    ((∀ i, o.fieldFlags i = false → r.fields i = o.fields i) →
      ∃ r₁ r₂, (setFromJson (getAllToJson o)).run r = .ok () r₁ ∧
        (setFromJson (getDirtyToJson o)).run r = .ok () r₂ ∧
        r₁.fields = o.fields ∧ r₂.fields = o.fields) := by
  have hall : (setFromJson (getAllToJson o)).run r =
      .ok () { fields := o.fields, fieldFlags := fun _ ↦ false } := by
    rw [getAllToJson, run_setFromJson (decodes_allEntries o), patch_allEntries]
  have hdirty : (setFromJson (getDirtyToJson o)).run r =
      .ok () { fields := fun i ↦ if o.fieldFlags i = true then o.fields i else r.fields i
               fieldFlags := fun i ↦ r.fieldFlags i && !o.fieldFlags i } := by
    rw [getDirtyToJson, run_setFromJson (decodes_dirtyEntries o), patch_dirtyEntries]
  refine ⟨⟨_, hall, rfl, fun _ ↦ rfl⟩, ⟨_, hdirty, fun i hi ↦ ?_, fun i hi ↦ ?_⟩, fun hagree ↦ ?_⟩
  · simp [hi]
  · simp [hi]
  · refine ⟨_, _, hall, hdirty, rfl, funext fun i ↦ ?_⟩
    cases hi : o.fieldFlags i with
    | true => simp [hi]
    | false => simp [hi, hagree i hi]

end SerializationHelper

end AutoSync
