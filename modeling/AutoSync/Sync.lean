import AutoSync.Operations
import AutoSync.Lib.PullSync

/-!
# One synchronization

A manager `s` is written out, a manager `c` is written out, the diff of the two is computed and
carried out on `c`.  This file says what `c` holds afterwards.

`DiffTypeData.Between d s c` describes the diff by the objects of the two managers, with no JSON
left in it; `getDiffWith_ok` is that `getDiffWith` produces such a diff.  A diff between `s` and `c`
is well formed, and it fits a manager exactly when that manager agrees with `c` about which of the
identifiers it names are alive (`Between.fits_iff`) — so it always fits `c` itself, and `run_sync`
is the result: every object of `c` becomes `synced` with its counterpart in `s`.

In the terms of `PullSync` the objects of `s` are records with dirty flags, those of `c` are a
client's copies, and the whole operation is a pull (`values_of_synced`).
-/

set_option autoImplicit false

namespace AutoSync

open SerializationHelper (getAllToJson patch Decodes)
open Snapshot (sentEntries)

variable {Val : Type} [DecidableEq Val] [Json Val]

section

variable {T : ObjType Val}

/-- An object as a record with dirty flags, which is what the library knows it as. -/
def SyncObj.record (o : SyncObj T) : PullSync.Flagged fun i ↦ (T.TypeAt i).Carrier :=
  ⟨o.fields, o.fieldFlags⟩

/-- What synchronizing makes of an object of the right side, given that of the left. -/
def synced : Option (SyncObj T) → Option (SyncObj T) → Option (SyncObj T)
  | none, _ => none
  | some x, none => some { fields := x.fields, fieldFlags := fun _ ↦ false }
  | some x, some y => some (patch (sentEntries x y) y)

omit [Json Val] in
/-- The fields sent can be read back, as they are fields of an object. -/
theorem decodes_sentEntries (x y : SyncObj T) : Decodes T (sentEntries x y) := by
  intro i v hv
  rw [Snapshot.sentEntries_fieldKey] at hv
  split at hv
  · rw [Option.some_inj] at hv
    rw [← hv, FieldType.as_toVal]; rfl
  · exact absurd hv (by simp)

omit [DecidableEq Val] [Json Val] in
theorem patch_empty (o : SyncObj T) : patch ∅ o = o := by
  ext i <;> simp [patch]

omit [Json Val] in
/-- With at most `maxObjs` fields, the fields flagged on the left are taken from the left. -/
theorem patch_sentEntries_fields (hn : T.fieldCount ≤ maxObjs) (x y : SyncObj T)
    (i : Fin T.fieldCount) : (patch (sentEntries x y) y).fields i =
      if x.fieldFlags i = true then x.fields i else y.fields i := by
  have hi : (i : ℕ) < maxObjs := i.isLt.trans_le hn
  by_cases hmem : i ∈ Snapshot.sentFields x y
  · have hf := (Snapshot.mem_sentFields.1 hmem).2.1
    rw [Snapshot.sentFlag_eq x hn] at hf
    simp [patch, Snapshot.sentEntries_fieldKey, hmem, hf]
  · have hkeep : (patch (sentEntries x y) y).fields i = y.fields i := by
      simp [patch, Snapshot.sentEntries_fieldKey, hmem]
    rw [hkeep]
    split
    · rename_i hf
      rw [Snapshot.mem_sentFields, Snapshot.sentFlag_eq x hn] at hmem
      by_contra hne
      exact hmem ⟨hi, hf, Ne.symm hne⟩
    · rfl

end

/-! ## The diff of two stores

`Between` says of every identifier what the diff does about it, depending on whether the left and
the right have it.  From this alone it follows that the diff makes sense, when it fits, and what it
makes of the objects. -/

namespace DiffTypeData

variable {T : ObjType Val} {d : DiffTypeData Val} {s r c : TypeStore T}

/-- The diff that takes `c` to the objects of `s`, described by the objects alone. -/
structure Between (d : DiffTypeData Val) (s c : TypeStore T) : Prop where
  toCreate : ∀ (id : ID) (v : Val), d.toCreate[id]? = some v ↔
    c.obj? id = none ∧ ∃ x, s.obj? id = some x ∧ getAllToJson x = v
  nodup : d.toRemove.Nodup
  toRemove : ∀ id, id ∈ d.toRemove ↔ s.obj? id = none ∧ ∃ y, c.obj? id = some y
  toUpdate : ∀ (id : ID) (v : Val), d.toUpdate[id]? = some v ↔
    ∃ x y, s.obj? id = some x ∧ c.obj? id = some y ∧ sentEntries x y ≠ ∅ ∧
      Json.ofObj (sentEntries x y) = v

theorem Between.mem_toCreate (h : d.Between s c) {id : ID} :
    id ∈ d.toCreate ↔ c.obj? id = none ∧ ∃ x, s.obj? id = some x := by
  simp only [OrdMap.mem_iff_lookup, h.toCreate]
  constructor
  · rintro ⟨v, hc, x, hx, -⟩; exact ⟨hc, x, hx⟩
  · rintro ⟨hc, x, hx⟩; exact ⟨_, hc, x, hx, rfl⟩

theorem Between.mem_toUpdate (h : d.Between s c) {id : ID} : id ∈ d.toUpdate ↔
    ∃ x y, s.obj? id = some x ∧ c.obj? id = some y ∧ sentEntries x y ≠ ∅ := by
  simp only [OrdMap.mem_iff_lookup, h.toUpdate]
  constructor
  · rintro ⟨v, x, y, hx, hy, hne, -⟩; exact ⟨x, y, hx, hy, hne⟩
  · rintro ⟨x, y, hx, hy, hne⟩; exact ⟨_, x, y, hx, hy, hne, rfl⟩

/-- A diff between two managers is well formed: it names no identifier twice, and what it carries
can be read. -/
theorem Between.wellFormed (h : d.Between s r) (hs : s.Inv) (hr : r.Inv) : d.WellFormed T where
  inRange id hid := by
    rcases hid with hid | hid | hid
    · obtain ⟨-, x, hx⟩ := h.mem_toCreate.1 hid
      exact hs.exists_objID hx
    · obtain ⟨-, y, hy⟩ := (h.toRemove id).1 hid
      exact hr.exists_objID hy
    · obtain ⟨x, -, hx, -⟩ := h.mem_toUpdate.1 hid
      exact hs.exists_objID hx
  create_remove id hid hr := by
    obtain ⟨-, x, hx⟩ := h.mem_toCreate.1 hid
    rw [((h.toRemove id).1 hr).1] at hx
    exact absurd hx (by simp)
  create_update id hid hu := by
    obtain ⟨x, y, -, hy, -⟩ := h.mem_toUpdate.1 hu
    rw [(h.mem_toCreate.1 hid).1] at hy
    exact absurd hy (by simp)
  remove_update id hid hu := by
    obtain ⟨x, y, hx, -, -⟩ := h.mem_toUpdate.1 hu
    rw [((h.toRemove id).1 hid).1] at hx
    exact absurd hx (by simp)
  nodup := h.nodup
  decodes id v hv := by
    rcases hv with hv | hv
    · obtain ⟨-, x, -, rfl⟩ := (h.toCreate id v).1 hv
      exact ⟨_, rfl, SerializationHelper.decodes_allEntries x⟩
    · obtain ⟨x, y, -, -, -, rfl⟩ := (h.toUpdate id v).1 hv
      exact ⟨_, rfl, decodes_sentEntries x y⟩

/-- **When a diff fits.**  The diff that takes `r` somewhere fits `c` exactly when `c` has the same
of the identifiers it names alive as `r`. -/
theorem Between.fits_iff (h : d.Between s r) (hr : r.Inv) :
    d.Fits c ↔ ∀ id, d.Names id → (c.Alive id ↔ r.Alive id) := by
  have hcreate : ∀ id ∈ d.toCreate, ¬r.Alive id := fun id hid ↦
    hr.obj?_eq_none.1 (h.mem_toCreate.1 hid).1
  have hremove : ∀ id ∈ d.toRemove, r.Alive id := fun id hid ↦
    hr.alive_iff.2 ((h.toRemove id).1 hid).2
  have hupdate : ∀ id ∈ d.toUpdate, r.Alive id := fun id hid ↦ by
    obtain ⟨x, y, -, hy, -⟩ := h.mem_toUpdate.1 hid
    exact hr.alive_iff.2 ⟨y, hy⟩
  constructor
  · rintro hfit id (hid | hid | hid)
    · exact iff_of_false (hfit.create id hid) (hcreate id hid)
    · exact iff_of_true (hfit.remove id hid) (hremove id hid)
    · exact iff_of_true (hfit.update id hid) (hupdate id hid)
  · intro hiff
    exact ⟨fun id hid ha ↦ hcreate id hid ((hiff id (.inl hid)).1 ha),
      fun id hid ↦ (hiff id (.inr (.inl hid))).2 (hremove id hid),
      fun id hid ↦ (hiff id (.inr (.inr hid))).2 (hupdate id hid)⟩

theorem Between.fits (h : d.Between s c) (hc : c.Inv) : d.Fits c :=
  (h.fits_iff hc).2 fun _ _ ↦ Iff.rfl

/-- What carrying the diff out makes of the objects it was computed for: every one becomes
`synced`. -/
theorem Between.applied_eq (h : d.Between s c) (id : ID) :
    d.applied c id = synced (s.obj? id) (c.obj? id) := by
  have hnone : ∀ {m : OrdMap ID Val}, id ∉ m → m[id]? = none := OrdMap.lookup_eq_none.2
  rw [applied]
  cases hx : s.obj? id with
  | none =>
    rw [hnone fun hm ↦ by simp [h.mem_toCreate, hx] at hm]
    cases hy : c.obj? id with
    | none =>
      rw [if_neg fun hm ↦ by simp [h.toRemove, hy] at hm,
        hnone fun hm ↦ by simp [h.mem_toUpdate, hx] at hm]
      rfl
    | some y => rw [if_pos ((h.toRemove id).2 ⟨hx, y, hy⟩)]; rfl
  | some x =>
    cases hy : c.obj? id with
    | none =>
      rw [(h.toCreate id _).2 ⟨hy, x, hx, rfl⟩]
      simp [synced, getAllToJson, SerializationHelper.patch_allEntries]
    | some y =>
      rw [hnone fun hm ↦ by simp [h.mem_toCreate, hy] at hm,
        if_neg fun hm ↦ by simp [h.toRemove, hx] at hm]
      by_cases he : sentEntries x y = ∅
      · rw [hnone fun hm ↦ by simp [h.mem_toUpdate, hx, hy, he] at hm]
        simp [synced, he, patch_empty]
      · rw [(h.toUpdate id _).2 ⟨x, y, hx, hy, he, rfl⟩]
        simp [synced]

end DiffTypeData

/-! ## The diff of two managers

`getDiffWith` works on snapshots, and what it needs of them is `Comparable`.  Two snapshots that
describe managers are comparable, so that the diff exists; and what is in it can be told by the
objects of the managers. -/

namespace TypeStore

variable {T : ObjType Val} {s c : TypeStore T} {mX mY : SnapshotTypeData Val}

/-- The fields to send of an object both sides have, and nothing for any other. -/
def sentAt (s c : TypeStore T) (i : Fin maxObjs) : Obj Val :=
  match s.obj? (objID i), c.obj? (objID i) with
  | some x, some y => sentEntries x y
  | _, _ => ∅

omit [Json Val] in
theorem sentAt_eq {i : Fin maxObjs} {x y : SyncObj T} (hx : s.obj? (objID i) = some x)
    (hy : c.obj? (objID i) = some y) : sentAt s c i = sentEntries x y := by
  rw [sentAt, hx, hy]

omit [DecidableEq Val] in
theorem Describes.items_of_some {m : SnapshotTypeData Val} (h : Describes m s) {id : ID}
    {x : SyncObj T} (hx : s.obj? id = some x) : m.items[id]? = some (getAllToJson x) := by
  rw [h, hx]; rfl

/-- `getDiffWith` finds what it looks for in the data of two stores. -/
theorem comparable_of_describes (hs : s.Inv) (hc : c.Inv) (hmX : Describes mX s)
    (hmY : Describes mY c) :
    Snapshot.Comparable s.bitsetIDs c.bitsetIDs mX mY (sentAt s c) where
  items i hi := by
    obtain ⟨x, hx⟩ := hs.bit_iff.1 hi
    exact ⟨getAllToJson x, hmX.items_of_some hx⟩
  sent i hi hi' := by
    obtain ⟨x, hx⟩ := hs.bit_iff.1 hi
    obtain ⟨y, hy⟩ := hc.bit_iff.1 hi'
    refine ⟨getAllToJson x, getAllToJson y, hmX.items_of_some hx, hmY.items_of_some hy, ?_⟩
    rw [sentAt_eq hx hy]
    exact Snapshot.getJsonDiff_ok (Snapshot.showsFields_getAllToJson x)
      (Snapshot.showsFlags_getAllToJson x) (Snapshot.showsFields_getAllToJson y)

/-- The diff `getDiffWith` builds, told by the objects of the two stores instead of their JSON. -/
theorem between_diffOn (hs : s.Inv) (hc : c.Inv) (hmX : Describes mX s) :
    (Snapshot.diffOn s.bitsetIDs c.bitsetIDs mX (sentAt s c)
      (List.finRange maxObjs)).Between s c := by
  refine ⟨fun id v ↦ ?_, Snapshot.toRemove_diffOn_lt.imp ne_of_lt, fun id ↦ ?_, fun id v ↦ ?_⟩
  · simp only [Snapshot.toCreate_diffOn, hc.bit_eq_false_iff, hs.bit_iff]
    constructor
    · rintro ⟨i, ⟨hi, x, hx⟩, rfl, rfl⟩
      exact ⟨hi, x, hx, by rw [hmX.items_of_some hx]; rfl⟩
    · rintro ⟨hi, x, hx, rfl⟩
      obtain ⟨j, rfl⟩ := hs.exists_objID hx
      exact ⟨j, ⟨hi, x, hx⟩, rfl, by rw [hmX.items_of_some hx]; rfl⟩
  · simp only [Snapshot.mem_toRemove_diffOn, hs.bit_eq_false_iff, hc.bit_iff]
    constructor
    · rintro ⟨i, hi, rfl⟩; exact hi
    · rintro ⟨hi, y, hy⟩
      obtain ⟨j, rfl⟩ := hc.exists_objID hy
      exact ⟨j, ⟨hi, y, hy⟩, rfl⟩
  · simp only [Snapshot.toUpdate_diffOn, hs.bit_iff, hc.bit_iff]
    constructor
    · rintro ⟨i, ⟨⟨⟨x, hx⟩, y, hy⟩, hne⟩, rfl, rfl⟩
      rw [sentAt_eq hx hy] at hne ⊢
      exact ⟨x, y, hx, hy, hne, rfl⟩
    · rintro ⟨x, y, hx, hy, hne, rfl⟩
      obtain ⟨j, rfl⟩ := hs.exists_objID hx
      rw [← sentAt_eq hx hy] at hne ⊢
      exact ⟨j, ⟨⟨⟨x, hx⟩, y, hy⟩, hne⟩, rfl, rfl⟩

/-- **`getDiffWith` for one type**, on the data of two stores, does not fail and is a diff between
them. -/
theorem typeDiffWith_ok (hs : s.Inv) (hc : c.Inv) (hmX : Describes mX s) (hmY : Describes mY c) :
    ∃ d, Snapshot.typeDiffWith s.bitsetIDs c.bitsetIDs mX mY = .ok (mX, d) ∧ d.Between s c :=
  ⟨_, Snapshot.typeDiffWith_ok (comparable_of_describes hs hc hmX hmY), between_diffOn hs hc hmX⟩

end TypeStore

namespace SyncManager

variable {typeCount : ℕ} {TTypes : Fin typeCount → ObjType Val} {s c c' : SyncManager TTypes}
  {mX mY : Snapshot typeCount Val} {d : Diff typeCount Val}

/-- The diff that takes `c` to the objects of `s`, for every type. -/
def Between (d : Diff typeCount Val) (s c : SyncManager TTypes) : Prop :=
  ∀ t, (d.typeDatas t).Between (s t) (c t)

/-- **`getDiffWith` on the snapshots of two managers** does not fail, and is a diff between them. -/
theorem getDiffWith_ok (hs : s.Inv) (hc : c.Inv) (hmX : Describes mX s) (hmY : Describes mY c) :
    ∃ d, mX.getDiffWith mY = .ok (d, mX) ∧ Between d s c := by
  have htypes : ∀ t, ∃ d, Snapshot.typeDiffWith (mX.bitsetIDs t) (mY.bitsetIDs t)
      (mX.typeDatas t) (mY.typeDatas t) = .ok (mX.typeDatas t, d) ∧
        DiffTypeData.Between d (s t) (c t) := fun t ↦ by
    rw [hmX.bitsetIDs, hmY.bitsetIDs]
    exact TypeStore.typeDiffWith_ok (hs t) (hc t) (hmX.typeDatas t) (hmY.typeDatas t)
  choose d hd hbetween using htypes
  refine ⟨⟨d⟩, ?_, hbetween⟩
  rw [Snapshot.getDiffWith, Except.collect_ok hd]
  rfl

theorem Describes.between {left : Snapshot typeCount Val} (hmX : Describes mX s)
    (hmY : Describes mY c) (hs : s.Inv) (hc : c.Inv) (h : mX.getDiffWith mY = .ok (d, left)) :
    Between d s c := by
  obtain ⟨d', hd', hbetween⟩ := getDiffWith_ok hs hc hmX hmY
  rw [h, Except.ok.injEq, Prod.mk.injEq] at hd'
  rw [hd'.1]
  exact hbetween

/-- **Carrying out the diff on the manager it was computed for** goes through, keeps the invariant
and makes every object `synced`. -/
theorem run_sync (hs : s.Inv) (hc : c.Inv) (hd : Between d s c) :
    ∃ c', (applyDiff d).run c = .ok () c' ∧ c'.Inv ∧
      ∀ t id, (c' t).obj? id = synced ((s t).obj? id) ((c t).obj? id) := by
  obtain ⟨c', hrun, hI, hobj⟩ := run_applyDiff hc (fun t ↦ (hd t).wellFormed (hs t) (hc t))
    fun t ↦ (hd t).fits (hc t)
  exact ⟨c', hrun, hI, fun t id ↦ (hobj t id).trans ((hd t).applied_eq id)⟩

omit [Json Val] in
/-- Synced managers have the same identifiers alive, type by type. -/
theorem bitsetIDs_of_synced (hs : s.Inv) (hc' : c'.Inv)
    (h : ∀ t id, (c' t).obj? id = synced ((s t).obj? id) ((c t).obj? id)) (t : Fin typeCount) :
    (c' t).bitsetIDs = (s t).bitsetIDs := by
  funext i
  rw [Bool.eq_iff_iff, ← TypeStore.alive_objID, ← TypeStore.alive_objID, (hc' t).alive_iff,
    (hs t).alive_iff, h]
  cases (s t).obj? (objID i) with
  | none => simp [synced]
  | some x => cases (c t).obj? (objID i) <;> simp [synced]

/-- `c.applyDiff(s.getSnapshot().getDiffWith(c.getSnapshot()))`, on the manager `c`, with nothing
between the two. -/
def syncWith (s : SyncManager TTypes) : EStateM Error (SyncManager TTypes) Unit := do
  let mX ← ofExcept s.getSnapshot
  let mY ← ofExcept (← get).getSnapshot
  let (d, _) ← ofExcept (mX.getDiffWith mY)
  applyDiff d

/-- **Any two managers can be synchronized**, and every object becomes `synced`. -/
theorem run_syncWith (hs : s.Inv) (hc : c.Inv) :
    ∃ c', (syncWith s).run c = .ok () c' ∧ c'.Inv ∧
      ∀ t id, (c' t).obj? id = synced ((s t).obj? id) ((c t).obj? id) := by
  obtain ⟨mX, hmX, hX⟩ := getSnapshot_ok hs
  obtain ⟨mY, hmY, hY⟩ := getSnapshot_ok hc
  obtain ⟨d, hd, hbetween⟩ := getDiffWith_ok hs hc hX hY
  obtain ⟨c', hrun, hI, hobj⟩ := run_sync hs hc hbetween
  refine ⟨c', ?_, hI, hobj⟩
  rw [← hrun, syncWith]
  simp only [EStateM.run_bind, EStateM.run_get, hmX, hmY, hd, EStateM.run_ofExcept_ok]

/-! ## Managers as records

The objects of all types are records under keys that are made of a type and an identifier.  In these
terms a synchronization is a pull, as it is in the library, and the flags of the objects are the
flags of the records. -/

/-- The values of the fields of the object a key stands for, each of its own type. -/
abbrev FieldValue (TTypes : Fin typeCount → ObjType Val) (k : Fin typeCount × ID)
    (i : Fin (TTypes k.1).fieldCount) : Type :=
  ((TTypes k.1).TypeAt i).Carrier

/-- The objects of a manager, as records with dirty flags, under their keys. -/
def records (m : SyncManager TTypes) : PullSync.Origin (FieldValue TTypes) := fun k ↦
  ((m k.1).obj? k.2).map SyncObj.record

/-- The objects of a manager without their flags, as a client sees them. -/
def values (m : SyncManager TTypes) : PullSync.Store (FieldValue TTypes) := m.records.values

omit [DecidableEq Val] [Json Val] in
/-- A manager with one object changed, as records: one record has changed. -/
theorem records_update {t : Fin typeCount} {id : ID} {q : TypeStore (TTypes t)}
    {o : Option (SyncObj (TTypes t))}
    (h : ∀ id', q.obj? id' = if id' = id then o else (s t).obj? id') :
    records (Function.update s t q) = Function.update s.records (t, id) (o.map SyncObj.record) := by
  funext ⟨u, id'⟩
  by_cases hu : u = t
  · subst hu
    by_cases hid : id' = id
    · subst hid
      simp [records, h]
    · rw [Function.update_of_ne (by simp [hid])]
      simp [records, h, hid]
  · rw [Function.update_of_ne (by simp [hu])]
    simp [records, Function.update_of_ne hu]

omit [DecidableEq Val] [Json Val] in
theorem values_eq {k : Fin typeCount × ID} :
    s.values k = ((s k.1).obj? k.2).map SyncObj.fields := by
  simp only [values, PullSync.Origin.values, records, Option.map_map]
  rfl

omit [DecidableEq Val] [Json Val] in
/-- Managers with the same values have objects with the same fields, whatever their flags. -/
theorem exists_obj_of_values_eq (h : c.values = s.values) {t : Fin typeCount} {id : ID}
    {x : SyncObj (TTypes t)} (hx : (s t).obj? id = some x) :
    ∃ z, (c t).obj? id = some z ∧ z.fields = x.fields := by
  have hk := congrFun h (t, id)
  rw [values_eq, values_eq, hx] at hk
  exact Option.map_eq_some_iff.1 hk

omit [Json Val] in
/-- **A synchronization is a pull**, if no type has more than `maxObjs` fields. -/
theorem values_of_synced (hn : ∀ t, (TTypes t).fieldCount ≤ maxObjs)
    (h : ∀ t id, (c' t).obj? id = synced ((s t).obj? id) ((c t).obj? id)) :
    c'.values = PullSync.pull s.records c.values := by
  funext ⟨t, id⟩
  simp only [values, PullSync.Origin.values, records, h, PullSync.pull]
  cases (s t).obj? id with
  | none => rfl
  | some x =>
    cases (c t).obj? id with
    | none => rfl
    | some y => exact congrArg some (funext fun i ↦ patch_sentEntries_fields (hn t) x y i)

/-! ## Two managers with a history each

Nothing has been said yet of how the two managers came about, and nothing needs to be: any two runs
will do.  What the flags of the left then mean is another question, and a relay shows that they may
mean nothing to the right. -/

/-- **What a synchronization of two managers achieves.**  The alive identifiers become those of the
left side.  A field takes the value it has on the left if the object is new on the right or the
field is flagged on the left; any other field keeps the value it had on the right. -/
theorem syncWith_of_reaches {ops ops' : List (Op TTypes)}
    (hn : ∀ t, (TTypes t).fieldCount ≤ maxObjs) (hs : Reaches ops s) (hops : LookupsAlive ops)
    (hc : Reaches ops' c) (hops' : LookupsAlive ops') :
    ∃ c', (syncWith s).run c = .ok () c' ∧ (∀ t, (c' t).bitsetIDs = (s t).bitsetIDs) ∧
      ∀ t id x, (s t).obj? id = some x → ∃ z, (c' t).obj? id = some z ∧
        ∀ i, z.fields i = match (c t).obj? id with
          | none => x.fields i
          | some y => if x.fieldFlags i = true then x.fields i else y.fields i := by
  have hIs := inv_of_reaches hs hops
  obtain ⟨c', hrun, hI, hobj⟩ := run_syncWith hIs (inv_of_reaches hc hops')
  refine ⟨c', hrun, bitsetIDs_of_synced hIs hI hobj, fun t id x hx ↦ ?_⟩
  rw [hobj, hx]
  cases (c t).obj? id with
  | none => exact ⟨_, rfl, fun i ↦ rfl⟩
  | some y => exact ⟨_, rfl, patch_sentEntries_fields (hn t) x y⟩

end SyncManager

namespace Chat

open SyncManager Transition

/-- A message as a relay received it, before and after a change of its text, which it received as
well. -/
def relayOps : List (Op types) :=
  [.onReceivedPacketCreate messages 0 (messageVal 0 "ann" "hello"),
    .applyDiff ⟨fun _ ↦ ⟨∅, (∅ : OrdMap ID JsonTree).insert 0
      (Json.ofObj ((∅ : Obj JsonTree).insert "2" (.str "goodbye"))), []⟩⟩]

/-- The message as another manager received it, before the change, and has not heard of since. -/
def staleOps : List (Op types) :=
  [.onReceivedPacketCreate messages 0 (messageVal 0 "ann" "hello")]

theorem reaches_relayOps : ∃ s, Reaches relayOps s ∧ ∃ x, (s messages).obj? 0 = some x ∧
    x.fields Message.contents = "goodbye" ∧ x.fieldFlags Message.contents = false := by
  have h : Reaches relayOps _ := (Run.single (.ok () _)).snoc (.of_isOk (by decide +kernel))
  exact ⟨_, h, _, rfl, rfl, rfl⟩

theorem reaches_staleOps : ∃ c, Reaches staleOps c ∧ ∃ y, (c messages).obj? 0 = some y ∧
    y.fields Message.contents = "hello" := by
  have h : Reaches staleOps _ := Run.single (.ok () _)
  exact ⟨_, h, _, rfl, rfl⟩

theorem lookupsAlive_relayOps : LookupsAlive relayOps :=
  lookupsAlive_of_isLookup (by simp [relayOps, Op.isLookup])

theorem lookupsAlive_staleOps : LookupsAlive staleOps :=
  lookupsAlive_of_isLookup (by simp [staleOps, Op.isLookup])

theorem syncWith_of_reaches_relayOps : ∃ s c c', Reaches relayOps s ∧ Reaches staleOps c ∧
    (syncWith s).run c = .ok () c' ∧ ∀ t, (c' t).bitsetIDs = (s t).bitsetIDs := by
  obtain ⟨s, hs, -⟩ := reaches_relayOps
  obtain ⟨c, hc, -⟩ := reaches_staleOps
  obtain ⟨c', hrun, hbits, -⟩ := syncWith_of_reaches fieldCount_le hs lookupsAlive_relayOps hc
    lookupsAlive_staleOps
  exact ⟨s, c, c', hs, hc, hrun, hbits⟩

/-- **A relay does not pass a change on**: reading it cleared the flag that would have sent it. -/
theorem relay_leaves_stale : ∃ s c c', Reaches relayOps s ∧ Reaches staleOps c ∧
    (syncWith s).run c = .ok () c' ∧ ∃ x z, (s messages).obj? 0 = some x ∧
      (c' messages).obj? 0 = some z ∧ x.fields Message.contents = "goodbye" ∧
      z.fields Message.contents = "hello" := by
  obtain ⟨s, hs, x, hx, hx2, hflag⟩ := reaches_relayOps
  obtain ⟨c, hc, y, hy, hy2⟩ := reaches_staleOps
  obtain ⟨c', hrun, -, hobj⟩ := run_syncWith
    (inv_of_reaches hs lookupsAlive_relayOps) (inv_of_reaches hc lookupsAlive_staleOps)
  refine ⟨s, c, c', hs, hc, hrun, x, _, hx, (hobj messages 0).trans (by rw [hx, hy]; rfl), hx2, ?_⟩
  have hkeep := patch_sentEntries_fields (fieldCount_le messages) x y Message.contents
  rw [if_neg (by rw [hflag]; exact Bool.false_ne_true)] at hkeep
  exact hkeep.trans hy2

end Chat

end AutoSync
