import AutoSync.Invariant

/-!
# Writing a manager out, and carrying out a diff

`getSnapshot` walks the map of handles and dereferences every one of them; under the invariant it
cannot fail, and the snapshot `Describes` the manager.

`applyDiff` runs three loops for every type.  Each of them has one lemma here — `run_creates`,
`run_removes`, `run_updates` — that says when the whole loop goes through and what it does to the
objects, and one (`of_run_creates` and so on) that reads off a loop that went through that every
assertion on the way did hold.
-/

set_option autoImplicit false

namespace AutoSync

open SerializationHelper (setFromJson getAllToJson Decodes patch)

variable {Val : Type} [Json Val]

namespace TypeStore

variable {T : ObjType Val} {s : TypeStore T}

/-! ## Snapshots

A snapshot is described by what it says of the objects: an identifier is alive in it if there is an
object, and the item under the identifier is the JSON of the object.  Everything that is proved
about diffs starts from that description and not from the loop. -/

/-- The written data are those of the store: the same identifiers, and for each object its JSON. -/
def Describes (mTD : SnapshotTypeData Val) (s : TypeStore T) : Prop :=
  ∀ id : ID, mTD.items[id]? = (s.obj? id).map getAllToJson

/-- Under the invariant writing a store out does not fail, since no handle is null. -/
theorem typeSnapshot_ok (hI : s.Inv) : ∃ mTD, s.typeSnapshot = .ok mTD ∧ Describes mTD s := by
  obtain ⟨items, hitems, hitem⟩ := Except.foldlM_ok (l := s.handleMap.toList)
    (b := (∅ : OrdMap ID Val))
    (f := s.snapshotStep)
    (I := fun pre items ↦ ∀ id : ID,
      items[id]? = if ∃ p ∈ pre, p.1 = id then (s.obj? id).map getAllToJson else none)
    (by simp) (by
      rintro pre ⟨id, h⟩ post items hl hitems
      have hmem : (id, h) ∈ s.handleMap.toList := by simp [hl]
      have hh : s.handleMap[id]? = some h := (OrdMap.mem_toList _ _).1 hmem
      obtain ⟨o, ho⟩ := hI.alive_iff.1 ((hI.keys id).1 (OrdMap.mem_of_lookup hh))
      have hd : s.deref h = some o := by simpa [obj?, hh] using ho
      refine ⟨items.insert id (getAllToJson o), by rw [snapshotStep, hd], fun id' ↦ ?_⟩
      rw [OrdMap.lookup_insert, hitems]
      by_cases hid : id' = id
      · subst hid; simp [ho]
      · have : (∃ p ∈ pre ++ [(id, h)], p.1 = id') ↔ ∃ p ∈ pre, p.1 = id' := by
          simp [List.mem_append, or_and_right, exists_or, Ne.symm hid]
        rw [if_neg hid, if_congr this rfl rfl])
  refine ⟨⟨items⟩, by rw [typeSnapshot, hitems]; rfl, fun id ↦ ?_⟩
  rw [hitem]
  split
  · rfl
  · rename_i hn
    have hnone : s.handleMap[id]? = none := by
      rw [Option.eq_none_iff_forall_ne_some]
      exact fun h hh ↦ hn ⟨(id, h), (OrdMap.mem_toList _ _).2 hh, rfl⟩
    rw [obj?_of_none hnone]
    rfl

/-! ## The three loops of `applyDiff`

Each of the loops goes over entries with identifiers, and does one thing to the object of each.  If
no identifier comes twice, what a step finds is what was there before the loop, so that the whole
loop can be described by what it does to each object on its own. -/

omit [Json Val] in
/-- A loop each step of which leaves the object `f p` under the key of its entry `p`. -/
theorem run_forM_assigns {l : List (ID × Val)} {act : ID × Val → EStateM Error (TypeStore T) Unit}
    {f : ID × Val → SyncObj T} (hI : s.Inv)
    (hkeys : ∀ pre p post, l = pre ++ p :: post → ∀ q ∈ pre, q.1 ≠ p.1)
    (step : ∀ p ∈ l, ∀ x : TypeStore T, x.Inv → x.obj? p.1 = s.obj? p.1 →
      ∃ x', (act p).run x = .ok () x' ∧ x'.Inv ∧
        ∀ id, x'.obj? id = if id = p.1 then some (f p) else x.obj? id) :
    ∃ s', (forM l act).run s = .ok () s' ∧ s'.Inv ∧ (∀ p ∈ l, s'.obj? p.1 = some (f p)) ∧
      ∀ id, (∀ p ∈ l, p.1 ≠ id) → s'.obj? id = s.obj? id := by
  refine EStateM.run_forM_ok (I := fun (pre : List _) (x : TypeStore T) ↦ x.Inv ∧
    (∀ p ∈ pre, x.obj? p.1 = some (f p)) ∧
    ∀ id, (∀ p ∈ pre, p.1 ≠ id) → x.obj? id = s.obj? id) ⟨hI, by simp, fun _ _ ↦ rfl⟩ ?_
  rintro pre p post x hl ⟨hIx, hdone, hrest⟩
  obtain ⟨x', hx', hIx', hobj⟩ := step p (by simp [hl]) x hIx (hrest _ (hkeys pre p post hl))
  refine ⟨x', hx', hIx', fun q hq ↦ ?_, fun id hid ↦ ?_⟩
  · rw [hobj]
    rcases List.mem_append.1 hq with hq | hq
    · rw [if_neg (hkeys pre p post hl q hq)]
      exact hdone q hq
    · obtain rfl := List.mem_singleton.1 hq
      rw [if_pos rfl]
  · rw [hobj, if_neg (hid p (by simp)).symm]
    exact hrest id fun q hq ↦ hid q (by simp [hq])

/-- Creating several objects, none of which is there.  `f p` is the object entry `p` describes. -/
theorem run_creates {l : List (ID × Val)} {f : ID × Val → SyncObj T} (hI : s.Inv)
    (hkeys : ∀ pre p post, l = pre ++ p :: post → ∀ q ∈ pre, q.1 ≠ p.1)
    (hfree : ∀ p ∈ l, ∃ j, p.1 = objID j ∧ s.obj? (objID j) = none)
    (hf : ∀ p ∈ l, (setFromJson p.2).run (SyncObj.fresh T) = .ok () (f p)) :
    ∃ s', (forM l fun p ↦ createImpl (T := T) p.1 p.2).run s = .ok () s' ∧ s'.Inv ∧
      (∀ p ∈ l, s'.obj? p.1 = some (f p)) ∧
      ∀ id, (∀ p ∈ l, p.1 ≠ id) → s'.obj? id = s.obj? id := by
  refine run_forM_assigns hI hkeys fun p hp x hIx hx ↦ ?_
  obtain ⟨j, hj, hnone⟩ := hfree p hp
  rw [hj] at hx ⊢
  have hdead : x.bitsetIDs j = false := hIx.bit_eq_false_iff.2 (hx.trans hnone)
  refine ⟨x.created j (f p), ?_, hIx.created hdead, hIx.obj?_created⟩
  rw [run_createImpl hdead, hf p hp]
  rfl

omit [Json Val] in
/-- Removing several objects, all of which are there, and none of them twice. -/
theorem run_removes {l : List ID} (hI : s.Inv) (hnodup : l.Nodup)
    (halive : ∀ id ∈ l, s.Alive id) :
    ∃ s', (forM l fun id ↦ removeImpl (T := T) id).run s = .ok () s' ∧ s'.Inv ∧
      ∀ id, s'.obj? id = if id ∈ l then none else s.obj? id := by
  refine EStateM.run_forM_ok (I := fun (pre : List _) (x : TypeStore T) ↦ x.Inv ∧
    ∀ id, x.obj? id = if id ∈ pre then none else s.obj? id) ⟨hI, by simp⟩ ?_
  rintro pre id post x hl ⟨hIx, hobj⟩
  have hnot : id ∉ pre := by
    rw [hl, List.nodup_append] at hnodup
    exact fun h ↦ hnodup.2.2 id h id (by simp) rfl
  have hx : x.Alive id := by
    rw [hIx.alive_iff, hobj, if_neg hnot]
    exact hI.alive_iff.1 (halive id (by simp [hl]))
  obtain ⟨j, rfl, hj⟩ := hx.exists_objID
  obtain ⟨a, -, ha, -⟩ := hIx.exists_obj hx
  refine ⟨x.removed j a, run_removeImpl hj ha, hIx.removed ha, fun id ↦ ?_⟩
  rw [hIx.obj?_removed ha, hobj]
  by_cases h : id = objID j
  · simp [h]
  · simp [h]

/-- Updating several objects, all of which are there.  `f p` is the object entry `p` makes of the
one that is there. -/
theorem run_updates {l : List (ID × Val)} {f : ID × Val → SyncObj T} (hI : s.Inv)
    (hkeys : ∀ pre p post, l = pre ++ p :: post → ∀ q ∈ pre, q.1 ≠ p.1)
    (hf : ∀ p ∈ l, ∃ o, s.obj? p.1 = some o ∧ (setFromJson p.2).run o = .ok () (f p)) :
    ∃ s', (forM l fun p ↦ updateImpl (T := T) p.1 p.2).run s = .ok () s' ∧ s'.Inv ∧
      (∀ p ∈ l, s'.obj? p.1 = some (f p)) ∧
      ∀ id, (∀ p ∈ l, p.1 ≠ id) → s'.obj? id = s.obj? id := by
  refine run_forM_assigns hI hkeys fun p hp x hIx hx ↦ ?_
  obtain ⟨o, ho, hfp⟩ := hf p hp
  rw [ho] at hx
  obtain ⟨a, ha, hao⟩ := hIx.lookup_of_obj? hx
  obtain ⟨j, hj, hbit⟩ := (hIx.alive_iff.2 ⟨o, hx⟩).exists_objID
  refine ⟨x.store (some a) (f p), ?_, hIx.store ha, hIx.obj?_store ha⟩
  rw [hj] at ha ⊢
  rw [run_updateImpl hbit ha hao, hfp]
  rfl

/-- Creations that went through named dead identifiers, and no one of them twice: otherwise an
assertion had failed. -/
theorem of_run_creates {l : List (ID × Val)} {s' : TypeStore T} (hI : s.Inv)
    (h : (forM l fun p ↦ createImpl (T := T) p.1 p.2).run s = .ok () s') :
    (∀ p ∈ l, ¬s.Alive p.1) ∧ s'.Inv ∧ ∀ id, s'.Alive id ↔ s.Alive id ∨ ∃ p ∈ l, p.1 = id := by
  refine EStateM.of_run_forM_ok (I := fun (pre : List (ID × Val)) (x : TypeStore T) ↦ x.Inv ∧
    ∀ id, x.Alive id ↔ s.Alive id ∨ ∃ p ∈ pre, p.1 = id) ⟨hI, by simp⟩ ?_ h
  rintro pre p post x x' - ⟨hIx, hx⟩ hp
  obtain hr | ⟨j, hj, hbit, hrun⟩ := createImpl_cases p.1 p.2 x
  · exact absurd hp hr.ne_ok
  obtain ⟨o, -, rfl⟩ := EStateM.Result.mapState_eq_ok.1 (hrun.symm.trans hp)
  have hdead : ¬x.Alive p.1 := by rw [hj, alive_objID, hbit]; simp
  refine ⟨fun ha ↦ hdead ((hx _).2 (.inl ha)), hIx.created hbit, fun id ↦ ?_⟩
  rw [alive_created, hx, ← hj, eq_comm]
  simp only [List.mem_append, List.mem_singleton, or_and_right, exists_or, exists_eq_left]
  rw [or_comm, or_assoc]

omit [Json Val] in
/-- Removals that went through named alive identifiers, or else an assertion had failed. -/
theorem of_run_removes {l : List ID} {s' : TypeStore T} (hI : s.Inv)
    (h : (forM l fun id ↦ removeImpl (T := T) id).run s = .ok () s') :
    (∀ id ∈ l, s.Alive id) ∧ s'.Inv ∧ ∀ id, s'.Alive id ↔ s.Alive id ∧ id ∉ l := by
  refine EStateM.of_run_forM_ok (I := fun (pre : List ID) (x : TypeStore T) ↦ x.Inv ∧
    ∀ id, x.Alive id ↔ s.Alive id ∧ id ∉ pre) ⟨hI, by simp⟩ ?_ h
  rintro pre id post x x' - ⟨hIx, hx⟩ hid
  obtain hr | ⟨j, a, rfl, hbit, ha, hrun⟩ := removeImpl_cases hIx.live id
  · exact absurd hid hr.ne_ok
  cases hrun.symm.trans hid
  refine ⟨((hx _).1 (alive_objID.2 hbit)).1, hIx.removed ha, fun id ↦ ?_⟩
  rw [alive_removed, hx]
  simp only [List.mem_append, List.mem_singleton, not_or]
  tauto

/-- Updates that went through named alive identifiers, or else an assertion had failed. -/
theorem of_run_updates {l : List (ID × Val)} {s' : TypeStore T} (hI : s.Inv)
    (h : (forM l fun p ↦ updateImpl (T := T) p.1 p.2).run s = .ok () s') :
    (∀ p ∈ l, s.Alive p.1) ∧ s'.Inv ∧ ∀ id, s'.Alive id ↔ s.Alive id := by
  refine EStateM.of_run_forM_ok (I := fun (_ : List (ID × Val)) (x : TypeStore T) ↦ x.Inv ∧
    ∀ id, x.Alive id ↔ s.Alive id) ⟨hI, by simp⟩ ?_ h
  rintro pre p post x x' - ⟨hIx, hx⟩ hp
  obtain hr | ⟨a, o, ha, ho, hrun⟩ := updateImpl_cases hIx.live p.1 p.2
  · exact absurd hp hr.ne_ok
  obtain ⟨o', -, rfl⟩ := EStateM.Result.mapState_eq_ok.1 (hrun.symm.trans hp)
  exact ⟨(hx _).1 (hIx.alive_iff.2 ⟨o, ho⟩), hIx.store ha, hx⟩

/-- With an identifier in range and a value that can be read, creating can only fail the
assertion. -/
theorem error_of_run_createImpl {id : ID} {v : Val} {s' : TypeStore T} {e : Error}
    (hid : ∃ j, id = objID j) (hv : ∀ o : SyncObj T, ∃ o', (setFromJson v).run o = .ok () o')
    (h : (createImpl id v).run s = .error e s') : e = .assertFailed := by
  obtain ⟨j, rfl⟩ := hid
  cases hbit : s.bitsetIDs j with
  | true => rw [run_createImpl_of_present hbit] at h; cases h; rfl
  | false =>
    obtain ⟨o', ho'⟩ := hv (SyncObj.fresh T)
    rw [run_createImpl hbit, ho'] at h
    cases h

omit [Json Val] in
theorem error_of_run_removeImpl {id : ID} {s' : TypeStore T} {e : Error} (hI : s.Inv)
    (hid : ∃ j, id = objID j) (h : (removeImpl id).run s = .error e s') : e = .assertFailed := by
  obtain ⟨j, rfl⟩ := hid
  cases hbit : s.bitsetIDs j with
  | false => rw [run_removeImpl_of_absent hbit] at h; cases h; rfl
  | true =>
    obtain ⟨a, -, ha, -⟩ := hI.exists_obj (alive_objID.2 hbit)
    rw [run_removeImpl hbit ha] at h
    cases h

theorem error_of_run_updateImpl {id : ID} {v : Val} {s' : TypeStore T} {e : Error} (hI : s.Inv)
    (hid : ∃ j, id = objID j) (hv : ∀ o : SyncObj T, ∃ o', (setFromJson v).run o = .ok () o')
    (h : (updateImpl id v).run s = .error e s') : e = .assertFailed := by
  obtain ⟨j, rfl⟩ := hid
  cases hbit : s.bitsetIDs j with
  | false => rw [run_updateImpl_of_absent hbit] at h; cases h; rfl
  | true =>
    obtain ⟨a, o, ha, ho⟩ := hI.exists_obj (alive_objID.2 hbit)
    obtain ⟨o', ho'⟩ := hv o
    rw [run_updateImpl hbit ha ho, ho'] at h
    cases h

end TypeStore

/-! ## `applyDiff` for one type

Taken together, a diff has an effect on every object it names, and it goes through exactly when the
objects it creates are not there and the others are.  That is `Fits`; that the diff itself makes
sense, whatever the manager, is `WellFormed`. -/

/-- The entries of a JSON object; any other value has none, and writing it to an object changes
nothing. -/
def entries (v : Val) : Obj Val := (Json.obj? v).getD ∅

@[simp] theorem entries_ofObj (m : Obj Val) : entries (Json.ofObj m) = m := by
  simp [entries]

namespace DiffTypeData

variable {T : ObjType Val} {d : DiffTypeData Val} {s : TypeStore T}

/-- The identifiers a diff has something to say about, in any of its three lists. -/
def Names (d : DiffTypeData Val) (id : ID) : Prop :=
  id ∈ d.toCreate ∨ id ∈ d.toRemove ∨ id ∈ d.toUpdate

/-- A diff that names only identifiers in range, none of them twice, and whose objects can be
converted to the fields of `T`. -/
structure WellFormed (T : ObjType Val) (d : DiffTypeData Val) : Prop where
  inRange : ∀ id, d.Names id → ∃ j, id = objID j
  create_remove : ∀ id ∈ d.toCreate, id ∉ d.toRemove
  create_update : ∀ id ∈ d.toCreate, id ∉ d.toUpdate
  remove_update : ∀ id ∈ d.toRemove, id ∉ d.toUpdate
  nodup : d.toRemove.Nodup
  decodes : ∀ (id : ID) (v : Val), d.toCreate[id]? = some v ∨ d.toUpdate[id]? = some v →
    ∃ m, v = Json.ofObj m ∧ Decodes T m

/-- The assertions of the manager, all at once: what the diff creates is not there, what it removes
or updates is. -/
structure Fits (d : DiffTypeData Val) (s : TypeStore T) : Prop where
  create : ∀ id ∈ d.toCreate, ¬s.Alive id
  remove : ∀ id ∈ d.toRemove, s.Alive id
  update : ∀ id ∈ d.toUpdate, s.Alive id

/-- The object that carrying out the diff leaves under `id`, given the objects before. -/
def applied (d : DiffTypeData Val) (s : TypeStore T) (id : ID) : Option (SyncObj T) :=
  match d.toCreate[id]? with
  | some v => some (patch (entries v) (SyncObj.fresh T))
  | none =>
    if id ∈ d.toRemove then none
    else match d.toUpdate[id]? with
      | some v => (s.obj? id).map (patch (entries v))
      | none => s.obj? id

theorem WellFormed.run_setFromJson (hd : d.WellFormed T) {id : ID} {v : Val}
    (h : d.toCreate[id]? = some v ∨ d.toUpdate[id]? = some v) (o : SyncObj T) :
    (setFromJson v).run o = .ok () (patch (entries v) o) := by
  obtain ⟨m, rfl, hm⟩ := hd.decodes id v h
  rw [entries_ofObj, SerializationHelper.run_setFromJson hm]

end DiffTypeData

namespace TypeStore

variable {T : ObjType Val} {d : DiffTypeData Val} {s : TypeStore T}

/-- **A diff that fits is carried out**, and every object is what the diff makes of it. -/
theorem run_applyTypeDiff (hI : s.Inv) (hd : d.WellFormed T) (hfit : d.Fits s) :
    ∃ s', (applyTypeDiff d).run s = .ok () s' ∧ s'.Inv ∧ ∀ id, s'.obj? id = d.applied s id := by
  have mem_create : ∀ {p : ID × Val}, p ∈ d.toCreate.toList ↔ d.toCreate[p.1]? = some p.2 :=
    OrdMap.mem_toList _ _
  have mem_update : ∀ {p : ID × Val}, p ∈ d.toUpdate.toList ↔ d.toUpdate[p.1]? = some p.2 :=
    OrdMap.mem_toList _ _
  obtain ⟨s₁, h₁, hI₁, hdone₁, hkeep₁⟩ := run_creates (l := d.toCreate.toList)
    (f := fun p ↦ patch (entries p.2) (SyncObj.fresh T)) hI
    (fun _ _ _ h ↦ OrdMap.fresh_of_toList_eq h)
    (fun p hp ↦ by
      have hmem : p.1 ∈ d.toCreate := OrdMap.mem_of_mem_toList hp
      obtain ⟨j, hj⟩ := hd.inRange p.1 (.inl hmem)
      exact ⟨j, hj, hI.obj?_eq_none.2 (hj ▸ hfit.create p.1 hmem)⟩)
    (fun p hp ↦ hd.run_setFromJson (.inl (mem_create.1 hp)) _)
  -- an identifier that is not created keeps its object
  replace hkeep₁ : ∀ id, id ∉ d.toCreate → s₁.obj? id = s.obj? id := fun id hid ↦
    hkeep₁ id fun p hp he ↦ hid (he ▸ OrdMap.mem_of_mem_toList hp)
  obtain ⟨s₂, h₂, hI₂, hobj₂⟩ := run_removes (l := d.toRemove) hI₁ hd.nodup fun id hid ↦ by
    rw [hI₁.alive_iff, hkeep₁ id fun h ↦ hd.create_remove id h hid]
    exact hI.alive_iff.1 (hfit.remove id hid)
  have hkeep₂ : ∀ id ∈ d.toUpdate, s₂.obj? id = s.obj? id := fun id hid ↦ by
    rw [hobj₂, if_neg fun h ↦ hd.remove_update id h hid,
      hkeep₁ id fun h ↦ hd.create_update id h hid]
  obtain ⟨s₃, h₃, hI₃, hdone₃, hkeep₃⟩ := run_updates (l := d.toUpdate.toList)
    (f := fun p ↦ patch (entries p.2) ((s.obj? p.1).getD (SyncObj.fresh T))) hI₂
    (fun _ _ _ h ↦ OrdMap.fresh_of_toList_eq h)
    (fun p hp ↦ by
      have hmem : p.1 ∈ d.toUpdate := OrdMap.mem_of_mem_toList hp
      obtain ⟨o, ho⟩ := hI.alive_iff.1 (hfit.update p.1 hmem)
      refine ⟨o, (hkeep₂ _ hmem).trans ho, ?_⟩
      rw [ho]
      exact hd.run_setFromJson (.inr (mem_update.1 hp)) o)
  refine ⟨s₃, ?_, hI₃, fun id ↦ ?_⟩
  · rw [applyTypeDiff]
    exact EStateM.run_bind_eq_ok.2 ⟨_, s₁, h₁, EStateM.run_bind_eq_ok.2 ⟨_, s₂, h₂, h₃⟩⟩
  rw [DiffTypeData.applied]
  cases hc : d.toCreate[id]? with
  | some v =>
    have hmem : id ∈ d.toCreate := OrdMap.mem_of_lookup hc
    rw [hkeep₃ id fun p hp he ↦ hd.create_update id hmem (he ▸ OrdMap.mem_of_mem_toList hp),
      hobj₂, if_neg (hd.create_remove id hmem)]
    exact hdone₁ (id, v) (mem_create.2 hc)
  | none =>
    have hnot : id ∉ d.toCreate := OrdMap.lookup_eq_none.1 hc
    cases hu : d.toUpdate[id]? with
    | some v =>
      have hmem : id ∈ d.toUpdate := OrdMap.mem_of_lookup hu
      obtain ⟨o, ho⟩ := hI.alive_iff.1 (hfit.update id hmem)
      rw [if_neg fun h ↦ hd.remove_update id h hmem, hdone₃ (id, v) (mem_update.2 hu)]
      simp [ho]
    | none =>
      rw [hkeep₃ id fun p hp he ↦ by
        rw [mem_update, he, hu] at hp; exact absurd hp (by simp), hobj₂, hkeep₁ id hnot]

/-- However far carrying out a diff gets, it does no more than creating, removing and updating
objects does. -/
theorem Stable.state_applyTypeDiff {keep : Set ID} {P : TypeStore T → Prop} (hP : Stable keep P)
    (hs : P s) (hd : ∀ id ∈ d.toRemove, id ∉ keep) : P ((applyTypeDiff d).run s).state := by
  refine EStateM.state_run_bind ?_ fun _ s₁ h₁ ↦ EStateM.state_run_bind ?_ fun _ s₂ h₂ ↦ ?_
  · exact EStateM.state_run_forM (fun p _ s h ↦ hP.state_createImpl h p.1 p.2) hs
  · exact EStateM.state_run_forM (fun id hid s h ↦ hP.state_removeImpl h (hd id hid)) h₁
  · exact EStateM.state_run_forM (fun p _ s h ↦ hP.state_updateImpl h p.1 p.2) h₂

/-- **A diff that fits or not, the only thing that can go wrong is an assertion.** -/
theorem error_of_run_applyTypeDiff {s' : TypeStore T} {e : Error} (hI : s.Inv)
    (hd : d.WellFormed T) (h : (applyTypeDiff d).run s = .error e s') : e = .assertFailed := by
  rw [applyTypeDiff] at h
  obtain h | ⟨_, s₁, h₁, h⟩ := EStateM.run_bind_eq_error.1 h
  · obtain ⟨pre, p, post, x, hl, -, hp⟩ := EStateM.of_run_forM_error
      (I := fun _ (x : TypeStore T) ↦ x.Inv) hI
      (fun _ p _ x x' _ hx hp ↦ by simpa [hp] using (inv_stable ∅).state_createImpl hx p.1 p.2) h
    have hmem : p ∈ d.toCreate.toList := by simp [hl]
    exact error_of_run_createImpl (hd.inRange p.1 (.inl (OrdMap.mem_of_mem_toList hmem)))
      (fun o ↦ ⟨_, hd.run_setFromJson (.inl ((OrdMap.mem_toList _ _).1 hmem)) o⟩) hp
  obtain ⟨-, hI₁, -⟩ := of_run_creates hI h₁
  obtain h | ⟨_, s₂, h₂, h⟩ := EStateM.run_bind_eq_error.1 h
  · obtain ⟨pre, id, post, x, hl, hIx, hid⟩ := EStateM.of_run_forM_error
      (I := fun _ (x : TypeStore T) ↦ x.Inv) hI₁
      (fun _ id _ x x' _ hx hid ↦ by
        simpa [hid] using (inv_stable ∅).state_removeImpl hx (Set.notMem_empty id)) h
    exact error_of_run_removeImpl hIx (hd.inRange id (.inr (.inl (by simp [hl])))) hid
  obtain ⟨-, hI₂, -⟩ := of_run_removes hI₁ h₂
  obtain ⟨pre, p, post, x, hl, hIx, hp⟩ := EStateM.of_run_forM_error
    (I := fun _ (x : TypeStore T) ↦ x.Inv) hI₂
    (fun _ p _ x x' _ hx hp ↦ by simpa [hp] using (inv_stable ∅).state_updateImpl hx p.1 p.2) h
  have hmem : p ∈ d.toUpdate.toList := by simp [hl]
  exact error_of_run_updateImpl hIx (hd.inRange p.1 (.inr (.inr (OrdMap.mem_of_mem_toList hmem))))
    (fun o ↦ ⟨_, hd.run_setFromJson (.inr ((OrdMap.mem_toList _ _).1 hmem)) o⟩) hp

/-- **A diff that was carried out did fit**: no assertion is met by accident. -/
theorem fits_of_run_applyTypeDiff {s' : TypeStore T} (hI : s.Inv) (hd : d.WellFormed T)
    (h : (applyTypeDiff d).run s = .ok () s') : d.Fits s := by
  rw [applyTypeDiff] at h
  obtain ⟨_, s₁, h₁, h⟩ := EStateM.run_bind_eq_ok.1 h
  obtain ⟨_, s₂, h₂, h₃⟩ := EStateM.run_bind_eq_ok.1 h
  obtain ⟨hcreate, hI₁, halive₁⟩ := of_run_creates hI h₁
  obtain ⟨hremove, hI₂, halive₂⟩ := of_run_removes hI₁ h₂
  obtain ⟨hupdate, -, -⟩ := of_run_updates hI₂ h₃
  -- an identifier that is alive after the creations, but not created, was alive before
  have hback : ∀ id, id ∉ d.toCreate → s₁.Alive id → s.Alive id := by
    intro id hid ha
    refine ((halive₁ id).1 ha).resolve_right ?_
    rintro ⟨p, hp, rfl⟩
    exact hid (OrdMap.mem_of_mem_toList hp)
  refine ⟨fun id hid ↦ ?_, fun id hid ↦ ?_, fun id hid ↦ ?_⟩
  · obtain ⟨v, hv⟩ := (OrdMap.mem_iff_lookup _ _).1 hid
    exact hcreate (id, v) ((OrdMap.mem_toList _ _).2 hv)
  · exact hback id (fun hc ↦ hd.create_remove id hc hid) (hremove id hid)
  · obtain ⟨v, hv⟩ := (OrdMap.mem_iff_lookup _ _).1 hid
    have ha := hupdate (id, v) ((OrdMap.mem_toList _ _).2 hv)
    exact hback id (fun hc ↦ hd.create_update id hc hid) ((halive₂ id).1 ha).1

end TypeStore

/-! ## The manager

A diff has a part for every type, and the parts are carried out one after the other without touching
each other's objects.  So everything said of one type holds of all of them at once. -/

namespace SyncManager

variable {typeCount : ℕ} {TTypes : Fin typeCount → ObjType Val} {m m' : SyncManager TTypes}

/-- **The representation invariant of a manager**: that of every one of its types. -/
def Inv (m : SyncManager TTypes) : Prop := ∀ t, (m t).Inv

omit [Json Val] in
theorem inv_fresh : (fresh TTypes).Inv := fun _ ↦ TypeStore.inv_fresh

omit [Json Val] in
theorem Inv.update (hI : m.Inv) {t : Fin typeCount} {s : TypeStore (TTypes t)} (hs : s.Inv) :
    Inv (Function.update m t s) := by
  intro u
  by_cases hu : u = t
  · subst hu; rwa [Function.update_self]
  · rw [Function.update_of_ne hu]; exact hI u

omit [Json Val] in
/-- A loop over the types goes through exactly when it does on every type, and the types do not
interfere. -/
theorem run_forM_onType {act : ∀ t, EStateM Error (TypeStore (TTypes t)) Unit} :
    (forM (List.finRange typeCount) fun t ↦ onType t (act t)).run m = .ok () m' ↔
      ∀ t, (act t).run (m t) = .ok () (m' t) := by
  have hfresh : ∀ {pre t post}, List.finRange typeCount = pre ++ t :: post → t ∉ pre := by
    intro pre t post hl ht
    have := List.nodup_finRange typeCount
    rw [hl, List.nodup_append] at this
    exact this.2.2 t ht t (by simp) rfl
  constructor
  · intro h
    have := EStateM.of_run_forM_ok (P := fun _ ↦ True)
      (I := fun (pre : List (Fin typeCount)) (x : SyncManager TTypes) ↦
        (∀ t ∈ pre, (act t).run (m t) = .ok () (x t)) ∧ ∀ t, t ∉ pre → x t = m t)
      ⟨by simp, fun _ _ ↦ rfl⟩ (by
        rintro pre t post x x' hl ⟨hdone, hrest⟩ ht
        rw [onType, EStateM.run_focus, EStateM.Result.mapState_eq_ok] at ht
        obtain ⟨y, hy, rfl⟩ := ht
        refine ⟨trivial, fun u hu ↦ ?_, fun u hu ↦ ?_⟩
        · by_cases hut : u = t
          · subst hut
            rw [Function.update_self, ← hrest u (hfresh hl)]
            exact hy
          · rw [Function.update_of_ne hut]
            exact hdone u (by simpa [hut] using hu)
        · have hut : u ≠ t := fun e ↦ hu (by simp [e])
          rw [Function.update_of_ne hut]
          exact hrest u fun h' ↦ hu (by simp [h'])) h
    exact fun t ↦ this.2.1 t (List.mem_finRange t)
  · intro h
    obtain ⟨x, hx, hI⟩ := EStateM.run_forM_ok (l := List.finRange typeCount) (s := m)
      (f := fun t ↦ onType t (act t))
      (I := fun (pre : List (Fin typeCount)) (x : SyncManager TTypes) ↦
        (∀ t ∈ pre, x t = m' t) ∧ ∀ t, t ∉ pre → x t = m t)
      ⟨by simp, fun _ _ ↦ rfl⟩ (by
        rintro pre t post x hl ⟨hdone, hrest⟩
        refine ⟨Function.update x t (m' t), ?_, fun u hu ↦ ?_, fun u hu ↦ ?_⟩
        · rw [onType, EStateM.run_focus]
          simp only [hrest t (hfresh hl), h t, EStateM.Result.mapState_ok]
        · by_cases hut : u = t
          · subst hut; rw [Function.update_self]
          · rw [Function.update_of_ne hut]
            exact hdone u (by simpa [hut] using hu)
        · have hut : u ≠ t := fun e ↦ hu (by simp [e])
          rw [Function.update_of_ne hut]
          exact hrest u fun h' ↦ hu (by simp [h']))
    rw [hx, funext fun t ↦ hI.1 t (List.mem_finRange t)]

/-- The snapshot is that of the manager, type by type. -/
structure Describes (snap : Snapshot typeCount Val) (m : SyncManager TTypes) : Prop where
  bitsetIDs : ∀ t, snap.bitsetIDs t = (m t).bitsetIDs
  typeDatas : ∀ t, TypeStore.Describes (snap.typeDatas t) (m t)

/-- **A manager can always be written out**, if it satisfies the invariant, and the snapshot
describes it. -/
theorem getSnapshot_ok (hI : m.Inv) : ∃ snap, m.getSnapshot = .ok snap ∧ Describes snap m := by
  choose data hdata hdesc using fun t ↦ TypeStore.typeSnapshot_ok (hI t)
  refine ⟨⟨fun t ↦ (m t).bitsetIDs, data⟩, ?_, fun _ ↦ rfl, hdesc⟩
  rw [getSnapshot, Except.collect_ok hdata]
  rfl

theorem Inv.describes (hI : m.Inv) {snap : Snapshot typeCount Val}
    (h : m.getSnapshot = .ok snap) : Describes snap m := by
  obtain ⟨snap', hsnap', hdesc⟩ := getSnapshot_ok hI
  rw [h, Except.ok.injEq] at hsnap'
  rw [hsnap']
  exact hdesc

/-- **`applyDiff` for every type at once**: if the diff fits, each object is what the diff makes of
it, and the invariant still holds. -/
theorem run_applyDiff {d : Diff typeCount Val} (hI : m.Inv)
    (hd : ∀ t, (d.typeDatas t).WellFormed (TTypes t)) (hfit : ∀ t, (d.typeDatas t).Fits (m t)) :
    ∃ m', (applyDiff d).run m = .ok () m' ∧ m'.Inv ∧
      ∀ t id, (m' t).obj? id = (d.typeDatas t).applied (m t) id := by
  choose m' hrun hI' hobj using fun t ↦ TypeStore.run_applyTypeDiff (hI t) (hd t) (hfit t)
  exact ⟨m', run_forM_onType.2 hrun, hI', hobj⟩

theorem error_of_run_applyDiff {d : Diff typeCount Val} {e : Error} (hI : m.Inv)
    (hd : ∀ t, (d.typeDatas t).WellFormed (TTypes t)) (h : (applyDiff d).run m = .error e m') :
    e = .assertFailed := by
  obtain ⟨pre, t, post, x, -, hIx, ht⟩ := EStateM.of_run_forM_error
    (I := fun _ (x : SyncManager TTypes) ↦ x.Inv) hI
    (fun _ t _ x x' _ hx ht ↦ by
      obtain ⟨s, hs, rfl⟩ := EStateM.Result.mapState_eq_ok.1 ht
      have hstate : ((TypeStore.applyTypeDiff (d.typeDatas t)).run (x t)).state.Inv :=
        (TypeStore.inv_stable ∅).state_applyTypeDiff (hx t) fun id _ ↦ Set.notMem_empty id
      rw [hs] at hstate
      exact hx.update hstate) h
  rw [onType, EStateM.run_focus] at ht
  cases hrun : (TypeStore.applyTypeDiff (d.typeDatas t)).run (x t) with
  | ok a s => rw [hrun] at ht; cases ht
  | error e' s =>
    rw [hrun] at ht
    cases ht
    exact TypeStore.error_of_run_applyTypeDiff (hIx t) (hd t) hrun

theorem fits_of_run_applyDiff {d : Diff typeCount Val} (hI : m.Inv)
    (hd : ∀ t, (d.typeDatas t).WellFormed (TTypes t)) (h : (applyDiff d).run m = .ok () m') :
    ∀ t, (d.typeDatas t).Fits (m t) := fun t ↦
  TypeStore.fits_of_run_applyTypeDiff (hI t) (hd t) (run_forM_onType.1 h t)

end SyncManager

end AutoSync
