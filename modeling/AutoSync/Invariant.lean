import AutoSync.SyncManager

/-!
# What a manager keeps true

A type store holds the same objects three times over: in the alive bitset, in the map of handles
and in the storage of the lifetime manager.  `TypeStore.Inv` is the relation between the three: the
map has exactly the alive identifiers, its handles are distinct and none of them is null, and the
storage holds exactly the objects the handles refer to.

Under the invariant a store is a partial map from identifiers to objects, `TypeStore.obj?`, and
each operation is described once, by what it does to that map: `created`, `removed` and `store`
are the states the operations leave, and `run_createImpl`, `run_removeImpl`, `run_updateImpl` say
which one, and with which result.  No later proof unfolds an operation.
-/

set_option autoImplicit false

namespace AutoSync

variable {Val : Type}

namespace TypeStore

variable {T : ObjType Val}

/-- The alive bit of the identifier is set, which entails that the identifier is in range. -/
def Alive (s : TypeStore T) (id : ID) : Prop := s.bitsetIDs.test? id = some true

instance (s : TypeStore T) (id : ID) : Decidable (s.Alive id) :=
  inferInstanceAs (Decidable (_ = _))

theorem alive_objID {s : TypeStore T} {j : Fin maxObjs} :
    s.Alive (objID j) ↔ s.bitsetIDs j = true := by
  simp [Alive, objID]

theorem Alive.exists_objID {s : TypeStore T} {id : ID} (h : s.Alive id) :
    ∃ j, id = objID j ∧ s.bitsetIDs j = true :=
  Bitset.test?_eq_some.1 h

/-- **The representation invariant**: the three places in which a store has its objects agree. -/
structure Inv (s : TypeStore T) : Prop where
  /-- The map of handles has exactly the alive identifiers. -/
  keys : ∀ id : ID, id ∈ s.handleMap ↔ s.Alive id
  /-- No handle is null, so that every handle can be dereferenced. -/
  nonNull : ∀ id : ID, s.handleMap[id]? ≠ some (none : Handle)
  /-- Distinct identifiers have distinct handles, so that changing one object changes no other. -/
  inj : ∀ (id id' : ID) (a : Addr), s.handleMap[id]? = some (some a) →
    s.handleMap[id']? = some (some a) → id = id'
  /-- The storage holds exactly the objects the handles refer to. -/
  storage : ∀ a : Addr, a ∈ s.lfManager.storage ↔ ∃ id : ID, s.handleMap[id]? = some (some a)

/-- **What no operation can break.**  It is the part of the representation invariant that survives a
lookup of an identifier that is not there: the map of handles may have null handles besides those of
the alive objects. -/
structure Live (s : TypeStore T) : Prop where
  /-- The alive identifiers are those that have a handle. -/
  alive : ∀ id : ID, s.Alive id ↔ ∃ a, s.handleMap[id]? = some (some a)
  /-- Distinct identifiers have distinct handles, of those that are not null. -/
  inj : ∀ (id id' : ID) (a : Addr), s.handleMap[id]? = some (some a) →
    s.handleMap[id']? = some (some a) → id = id'
  /-- The storage holds exactly the objects the handles refer to. -/
  storage : ∀ a : Addr, a ∈ s.lfManager.storage ↔ ∃ id : ID, s.handleMap[id]? = some (some a)

theorem Inv.live {s : TypeStore T} (hI : s.Inv) : s.Live where
  alive id := by
    rw [← hI.keys, OrdMap.mem_iff_lookup]
    constructor
    · rintro ⟨_ | a, hh⟩
      · exact absurd hh (hI.nonNull id)
      · exact ⟨a, hh⟩
    · rintro ⟨a, hh⟩
      exact ⟨some a, hh⟩
  inj := hI.inj
  storage := hI.storage

/-- Null handles are all that is between the two: without them, what no operation can break is the
invariant. -/
theorem Live.inv {s : TypeStore T} (h : s.Live)
    (hnull : ∀ id : ID, s.handleMap[id]? ≠ some (none : Handle)) : s.Inv where
  keys id := by
    rw [h.alive, OrdMap.mem_iff_lookup]
    constructor
    · rintro ⟨_ | a, hh⟩
      · exact absurd hh (hnull id)
      · exact ⟨a, hh⟩
    · rintro ⟨a, hh⟩
      exact ⟨some a, hh⟩
  nonNull := hnull
  inj := h.inj
  storage := h.storage

/-- The object with the identifier `id`, as its handle finds it in the storage. -/
def obj? (s : TypeStore T) (id : ID) : Option (SyncObj T) := s.handleMap[id]?.bind s.deref

theorem obj?_of_lookup {s : TypeStore T} {id : ID} {a : Addr}
    (h : s.handleMap[id]? = some (some a)) : s.obj? id = s.lfManager.storage[a]? := by
  rw [obj?, h]; rfl

theorem obj?_of_none {s : TypeStore T} {id : ID} (h : s.handleMap[id]? = none) :
    s.obj? id = none := by
  rw [obj?, h]; rfl

section

variable {s : TypeStore T} {id : ID}

/-- An alive identifier has a handle, and the handle refers to an object in the storage. -/
theorem Live.exists_obj (h : s.Live) (ha : s.Alive id) :
    ∃ a o, s.handleMap[id]? = some (some a) ∧ s.lfManager.storage[a]? = some o := by
  obtain ⟨a, hh⟩ := (h.alive id).1 ha
  obtain ⟨o, ho⟩ := (OrdMap.mem_iff_lookup _ _).1 ((h.storage a).2 ⟨id, hh⟩)
  exact ⟨a, o, hh, ho⟩

theorem Inv.exists_obj (hI : s.Inv) (ha : s.Alive id) :
    ∃ a o, s.handleMap[id]? = some (some a) ∧ s.lfManager.storage[a]? = some o :=
  hI.live.exists_obj ha

/-- An identifier that is not alive has no handle, or a null one. -/
theorem Live.ne_some_of_not_alive (h : s.Live) (ha : ¬s.Alive id) (a : Addr) :
    s.handleMap[id]? ≠ some (some a) := fun hh ↦ ha ((h.alive id).2 ⟨a, hh⟩)

theorem Inv.lookup_of_not_alive (hI : s.Inv) (ha : ¬s.Alive id) : s.handleMap[id]? = none := by
  rw [OrdMap.lookup_eq_none, hI.keys]
  exact ha

/-- Under the invariant the alive identifiers are those of the objects. -/
theorem Inv.alive_iff (hI : s.Inv) : s.Alive id ↔ ∃ o, s.obj? id = some o := by
  constructor
  · intro ha
    obtain ⟨a, o, hh, ho⟩ := hI.exists_obj ha
    exact ⟨o, (obj?_of_lookup hh).trans ho⟩
  · rintro ⟨o, ho⟩
    by_contra ha
    rw [obj?_of_none (hI.lookup_of_not_alive ha)] at ho
    exact absurd ho (by simp)

theorem Inv.obj?_eq_none (hI : s.Inv) : s.obj? id = none ↔ ¬s.Alive id := by
  rw [hI.alive_iff, not_exists, Option.eq_none_iff_forall_ne_some]

theorem Inv.bit_iff (hI : s.Inv) {j : Fin maxObjs} :
    s.bitsetIDs j = true ↔ ∃ o, s.obj? (objID j) = some o := by
  rw [← alive_objID, hI.alive_iff]

theorem Inv.bit_eq_false_iff (hI : s.Inv) {j : Fin maxObjs} :
    s.bitsetIDs j = false ↔ s.obj? (objID j) = none := by
  rw [hI.obj?_eq_none, alive_objID, Bool.not_eq_true]

/-- The identifier of an object is in range, being that of a position of the bitset. -/
theorem Inv.exists_objID (hI : s.Inv) {o : SyncObj T} (h : s.obj? id = some o) :
    ∃ j, id = objID j := by
  obtain ⟨j, hj, -⟩ := (hI.alive_iff.2 ⟨o, h⟩).exists_objID
  exact ⟨j, hj⟩

/-- An object is where its handle says, and the identifier is in the map. -/
theorem Inv.lookup_of_obj? (hI : s.Inv) {o : SyncObj T} (h : s.obj? id = some o) :
    ∃ a, s.handleMap[id]? = some (some a) ∧ s.lfManager.storage[a]? = some o := by
  obtain ⟨a, o', hh, ho⟩ := hI.exists_obj (hI.alive_iff.2 ⟨o, h⟩)
  rw [obj?_of_lookup hh, ho] at h
  exact ⟨a, hh, ho.trans h⟩

/-- A handle never refers to an address about to be used, so that a new object is stored over
none. -/
theorem Live.ne_newAddr (h : s.Live) {a : Addr} (hh : s.handleMap[id]? = some (some a)) :
    a ≠ s.lfManager.newAddr := by
  rintro rfl
  obtain ⟨o, ho⟩ := (OrdMap.mem_iff_lookup _ _).1 ((h.storage _).2 ⟨id, hh⟩)
  rw [s.lfManager.newAddr_not_mem] at ho
  exact absurd ho (by simp)

end

theorem inv_fresh : (fresh T).Inv where
  keys id := by
    have hm : id ∉ (∅ : OrdMap ID Handle) := by simp
    refine ⟨fun h ↦ absurd h hm, fun h ↦ ?_⟩
    obtain ⟨j, -, hj⟩ := Alive.exists_objID h
    exact absurd hj (by simp [fresh])
  nonNull id := by simp [fresh]
  inj id id' a h := by simp [fresh] at h
  storage a := by simp [fresh]

theorem obj?_fresh (id : ID) : (fresh T).obj? id = none := obj?_of_none (by simp [fresh])

/-! ## The states the operations leave

Two functions describe what operations make of a store, `created` and `removed`; a change of an
object in place is `store`, which is there already.  For each of them there is a lemma about the
invariant, one about what no operation can break, and one about the objects. -/

/-- A new object at position `j`, stored at a new address. -/
def created (s : TypeStore T) (j : Fin maxObjs) (o : SyncObj T) : TypeStore T where
  lfManager := ⟨s.lfManager.storage.insert s.lfManager.newAddr o⟩
  handleMap := s.handleMap.insert (objID j) (some s.lfManager.newAddr)
  lastID := s.lastID
  bitsetIDs := Function.update s.bitsetIDs j true

/-- The object at position `j`, stored at `a`, is gone, with its handle and its bit. -/
def removed (s : TypeStore T) (j : Fin maxObjs) (a : Addr) : TypeStore T where
  lfManager := ⟨s.lfManager.storage.erase a⟩
  handleMap := s.handleMap.erase (objID j)
  lastID := s.lastID
  bitsetIDs := Function.update s.bitsetIDs j false

variable {s : TypeStore T} {j : Fin maxObjs} {o : SyncObj T} {a : Addr} {id : ID}

/-- The handle of the new object is under its identifier, and the others are where they were. -/
theorem handleMap_created (s : TypeStore T) (j : Fin maxObjs) (o : SyncObj T) :
    (s.created j o).handleMap[objID j]? = some (some s.lfManager.newAddr) := by
  simp [created]

theorem alive_created : (s.created j o).Alive id ↔ id = objID j ∨ s.Alive id := by
  simp only [Alive, created, Bitset.test?_update, objID]
  split <;> simp_all

theorem alive_removed : (s.removed j a).Alive id ↔ id ≠ objID j ∧ s.Alive id := by
  simp only [Alive, removed, Bitset.test?_update, objID]
  split <;> simp_all

theorem Live.created (h : s.Live) (hj : s.bitsetIDs j = false) : (s.created j o).Live where
  alive id := by
    rw [alive_created, h.alive]
    simp only [TypeStore.created, OrdMap.lookup_insert]
    split <;> simp_all
  inj id id' a := by
    simp only [TypeStore.created, OrdMap.lookup_insert]
    split <;> split <;> intro hh hh'
    · simp_all
    · rw [Option.some_inj, Option.some_inj] at hh
      exact absurd hh.symm (h.ne_newAddr hh')
    · rw [Option.some_inj, Option.some_inj] at hh'
      exact absurd hh'.symm (h.ne_newAddr hh)
    · exact h.inj id id' a hh hh'
  storage a := by
    have hdead : ¬s.Alive (objID j) := by rw [alive_objID, hj]; simp
    rw [OrdMap.mem_iff_lookup]
    simp only [TypeStore.created, OrdMap.lookup_insert]
    by_cases ha : a = s.lfManager.newAddr
    · simp only [ha, if_true]
      exact ⟨fun _ ↦ ⟨objID j, by simp⟩, fun _ ↦ ⟨o, rfl⟩⟩
    · rw [if_neg ha, ← OrdMap.mem_iff_lookup, h.storage]
      constructor
      · rintro ⟨id, hid⟩
        refine ⟨id, ?_⟩
        rwa [if_neg]
        rintro rfl
        exact h.ne_some_of_not_alive hdead a hid
      · rintro ⟨id, hid⟩
        split at hid
        · rw [Option.some_inj, Option.some_inj] at hid
          exact absurd hid.symm ha
        · exact ⟨id, hid⟩

theorem Inv.created (hI : s.Inv) (hj : s.bitsetIDs j = false) : (s.created j o).Inv := by
  refine (hI.live.created hj).inv fun id ↦ ?_
  simp only [TypeStore.created, OrdMap.lookup_insert]
  split
  · simp
  · exact hI.nonNull id

theorem Inv.obj?_created (hI : s.Inv) (id : ID) :
    (s.created j o).obj? id = if id = objID j then some o else s.obj? id := by
  split
  · rename_i h
    rw [h, obj?_of_lookup (handleMap_created s j o)]
    simp [TypeStore.created]
  · rename_i h
    have hl : (s.created j o).handleMap[id]? = s.handleMap[id]? := OrdMap.lookup_insert_ne _ _ h
    cases hh : s.handleMap[id]? with
    | none => rw [obj?_of_none hh, obj?_of_none (hl.trans hh)]
    | some x =>
      cases x with
      | none => exact absurd hh (hI.nonNull id)
      | some a =>
        rw [obj?_of_lookup hh, obj?_of_lookup (hl.trans hh)]
        exact OrdMap.lookup_insert_ne _ _ (hI.live.ne_newAddr hh)

theorem Live.removed (h : s.Live) (ha : s.handleMap[objID j]? = some (some a)) :
    (s.removed j a).Live where
  alive id := by
    rw [alive_removed, h.alive]
    simp only [TypeStore.removed, OrdMap.lookup_erase]
    split <;> simp_all
  inj id id' b := by
    simp only [TypeStore.removed, OrdMap.lookup_erase]
    split <;> split <;> intro hh hh'
    · exact absurd hh (by simp)
    · exact absurd hh (by simp)
    · exact absurd hh' (by simp)
    · exact h.inj id id' b hh hh'
  storage b := by
    rw [OrdMap.mem_iff_lookup]
    simp only [TypeStore.removed, OrdMap.lookup_erase]
    by_cases hb : b = a
    · simp only [hb, if_true, reduceCtorEq, exists_false, false_iff, not_exists]
      intro id hid
      split at hid
      · exact absurd hid (by simp)
      · rename_i hne
        exact hne (h.inj _ _ _ hid ha)
    · rw [if_neg hb, ← OrdMap.mem_iff_lookup, h.storage]
      constructor
      · rintro ⟨id, hid⟩
        refine ⟨id, ?_⟩
        rwa [if_neg]
        rintro rfl
        rw [ha, Option.some_inj, Option.some_inj] at hid
        exact hb hid.symm
      · rintro ⟨id, hid⟩
        split at hid
        · exact absurd hid (by simp)
        · exact ⟨id, hid⟩

theorem Inv.removed (hI : s.Inv) (ha : s.handleMap[objID j]? = some (some a)) :
    (s.removed j a).Inv := by
  refine (hI.live.removed ha).inv fun id ↦ ?_
  simp only [TypeStore.removed, OrdMap.lookup_erase]
  split
  · simp
  · exact hI.nonNull id

theorem Inv.obj?_removed (hI : s.Inv) (ha : s.handleMap[objID j]? = some (some a)) (id : ID) :
    (s.removed j a).obj? id = if id = objID j then none else s.obj? id := by
  split
  · rename_i h
    exact obj?_of_none (by simp [TypeStore.removed, h])
  · rename_i h
    have hl : (s.removed j a).handleMap[id]? = s.handleMap[id]? := by
      simp [TypeStore.removed, OrdMap.lookup_erase, h]
    cases hh : s.handleMap[id]? with
    | none => rw [obj?_of_none hh, obj?_of_none (hl.trans hh)]
    | some x =>
      cases x with
      | none => exact absurd hh (hI.nonNull id)
      | some b =>
        have hb : b ≠ a := by rintro rfl; exact h (hI.inj _ _ _ hh ha)
        rw [obj?_of_lookup hh, obj?_of_lookup (hl.trans hh)]
        simp [TypeStore.removed, OrdMap.lookup_erase, hb]

/-- Changing an object in place touches nothing else: neither handles nor bits. -/
theorem Live.store (h : s.Live) (ha : s.handleMap[id]? = some (some a)) :
    (s.store (some a) o).Live where
  alive := h.alive
  inj := h.inj
  storage b := by
    show b ∈ s.lfManager.storage.insert a o ↔ _
    rw [OrdMap.mem_iff_lookup]
    simp only [OrdMap.lookup_insert]
    split
    · rename_i hb
      exact ⟨fun _ ↦ ⟨id, by rw [hb]; exact ha⟩, fun _ ↦ ⟨o, rfl⟩⟩
    · rw [← OrdMap.mem_iff_lookup]
      exact h.storage b

theorem Inv.store (hI : s.Inv) (ha : s.handleMap[id]? = some (some a)) :
    (s.store (some a) o).Inv :=
  (hI.live.store ha).inv hI.nonNull

theorem Inv.obj?_store (hI : s.Inv) (ha : s.handleMap[id]? = some (some a)) (id' : ID) :
    (s.store (some a) o).obj? id' = if id' = id then some o else s.obj? id' := by
  have hl : (s.store (some a) o).handleMap = s.handleMap := rfl
  split
  · rename_i h
    rw [obj?_of_lookup (a := a) (by rw [hl, h]; exact ha)]
    show (s.lfManager.storage.insert a o)[a]? = _
    simp
  · rename_i h
    cases hh : s.handleMap[id']? with
    | none => rw [obj?_of_none hh, obj?_of_none (by rw [hl, hh])]
    | some x =>
      cases x with
      | none => exact absurd hh (hI.nonNull id')
      | some b =>
        have hb : b ≠ a := by rintro rfl; exact h (hI.inj _ _ _ hh ha)
        rw [obj?_of_lookup hh, obj?_of_lookup (a := b) (by rw [hl, hh])]
        exact OrdMap.lookup_insert_ne _ _ hb

/-! ## What each operation does

Every private operation either does not start, as an assertion fails or the index is out of range,
or ends in one of the states above.  The lemmas `createImpl_cases`, `updateImpl_cases` and
`removeImpl_cases` say so of all calls, so that nothing later has to look into the operations. -/

/-- The operation did not start: an assertion failed or the identifier is out of range.  The store
is as it was. -/
def Refused {σ α : Type} (r : EStateM.Result Error σ α) (s : σ) : Prop :=
  r = .error .badIndex s ∨ r = .error .assertFailed s

theorem Refused.not_survives {σ α : Type} {r : EStateM.Result Error σ α} {s s' : σ}
    (h : Refused r s) : ¬Survives r s' := by
  rintro (_ | _) <;> rcases h with h | h <;> exact absurd h (by simp)

theorem Refused.ne_ok {σ α : Type} {r : EStateM.Result Error σ α} {s s' : σ} {a : α}
    (h : Refused r s) : r ≠ .ok a s' := by
  rcases h with rfl | rfl <;> exact fun h ↦ absurd h (by simp)

theorem Refused.state {σ α : Type} {r : EStateM.Result Error σ α} {s : σ} (h : Refused r s) :
    r.state = s := by
  rcases h with rfl | rfl <;> rfl

theorem run_isPresent (id : ID) (s : TypeStore T) :
    (isPresent id).run s = match s.bitsetIDs.test? id with
      | none => .error .badIndex s
      | some b => .ok b s := by
  rw [isPresent, EStateM.run_bind, EStateM.run_get]
  simp only
  cases s.bitsetIDs.test? id <;> rfl

theorem run_isPresent_objID (j : Fin maxObjs) (s : TypeStore T) :
    (isPresent (objID j)).run s = .ok (s.bitsetIDs j) s := by
  rw [run_isPresent, objID, Bitset.test?_natCast]

theorem run_setPresent (j : Fin maxObjs) (x : Bool) (s : TypeStore T) :
    (setPresent (objID j) x).run s =
      .ok () { s with bitsetIDs := Function.update s.bitsetIDs j x } := by
  rw [setPresent, EStateM.run_bind, EStateM.run_get]
  simp [Bitset.assign?, objID]

theorem run_withObj {handle : Handle} (h : s.deref handle = some o)
    (act : EStateM Error (SyncObj T) Unit) :
    (withObj handle act).run s = (act.run o).mapState fun o' ↦ s.store handle o' := by
  rw [withObj, EStateM.run_bind, EStateM.run_get]
  simp only [h, EStateM.run_focus]

/-- The handle of an identifier that has one is looked up without any change. -/
theorem run_getHandleFor {handle : Handle} (h : s.handleMap[id]? = some handle) :
    (getHandleFor id).run s = .ok handle s := by
  rw [getHandleFor, EStateM.run_modifyGet, OrdMap.subscript_of_some h]

/-- Looking up an identifier that has no handle inserts a null one. -/
theorem run_getHandleFor_none (h : s.handleMap[id]? = none) :
    (getHandleFor id).run s = .ok none { s with handleMap := s.handleMap.insert id none } := by
  rw [getHandleFor, EStateM.run_modifyGet, OrdMap.subscript_of_none h]

section Json

variable [Json Val] {v : Val}

/-- Creating at a free position: the object is there however reading its fields ends. -/
theorem run_createImpl (hj : s.bitsetIDs j = false) : (createImpl (objID j) v).run s =
    ((SerializationHelper.setFromJson v).run (SyncObj.fresh T)).mapState (s.created j) := by
  have hderef : (s.created j (SyncObj.fresh T)).deref (some s.lfManager.newAddr) =
      some (SyncObj.fresh T) := by
    simp [deref, TypeStore.created]
  have hstore : ∀ o, (s.created j (SyncObj.fresh T)).store (some s.lfManager.newAddr) o =
      s.created j o := by
    intro o
    simp [store, TypeStore.created, OrdMap.insert_insert_self]
  have hstate : (⟨⟨s.lfManager.storage.insert s.lfManager.newAddr (SyncObj.fresh T)⟩,
      (OrdMap.subscript none s.handleMap (objID j)).2.insert (objID j) (some s.lfManager.newAddr),
      s.lastID, Function.update s.bitsetIDs j true⟩ : TypeStore T) =
      s.created j (SyncObj.fresh T) := by
    rw [OrdMap.insert_subscript]; rfl
  rw [createImpl]
  simp only [EStateM.run_bind, run_isPresent_objID, hj, Bool.not_false, run_ssvuAssert_true,
    run_setPresent, getHandleFor, lfCreate, setHandleFor, EStateM.run_modifyGet,
    EStateM.run_modify, LifetimeManager.create]
  rw [hstate, run_withObj hderef]
  exact congrArg (fun f ↦ EStateM.Result.mapState f _) (funext hstore)

/-- Creating where there is an object already fails the assertion. -/
theorem run_createImpl_of_present (hj : s.bitsetIDs j = true) :
    (createImpl (objID j) v).run s = .error .assertFailed s := by
  rw [createImpl, EStateM.run_bind, run_isPresent_objID, hj]
  rfl

/-- Every call of `createImpl`: it is refused, or the position is free and gets an object. -/
theorem createImpl_cases (id : ID) (v : Val) (s : TypeStore T) :
    Refused ((createImpl id v).run s) s ∨ ∃ j, id = objID j ∧ s.bitsetIDs j = false ∧
      (createImpl id v).run s =
        ((SerializationHelper.setFromJson v).run (SyncObj.fresh T)).mapState (s.created j) := by
  cases h : Bitset.idx? maxObjs id with
  | none =>
    refine .inl (.inl ?_)
    rw [createImpl, EStateM.run_bind, run_isPresent, Bitset.test?, h]
    rfl
  | some j =>
    obtain rfl : id = objID j := Bitset.idx?_eq_some.1 h
    cases hj : s.bitsetIDs j with
    | true => exact .inl (.inr (run_createImpl_of_present hj))
    | false => exact .inr ⟨j, rfl, hj, run_createImpl hj⟩

/-- Updating an alive object, whose fields end as reading the JSON leaves them. -/
theorem run_updateImpl (hj : s.bitsetIDs j = true) (ha : s.handleMap[objID j]? = some (some a))
    (ho : s.lfManager.storage[a]? = some o) : (updateImpl (objID j) v).run s =
      ((SerializationHelper.setFromJson v).run o).mapState fun o' ↦ s.store (some a) o' := by
  rw [updateImpl]
  simp only [EStateM.run_bind, run_isPresent_objID, hj, run_ssvuAssert_true, run_getHandleFor ha]
  exact run_withObj (by simp [deref, ho]) _

/-- Updating an object that is not there fails the assertion. -/
theorem run_updateImpl_of_absent (hj : s.bitsetIDs j = false) :
    (updateImpl (objID j) v).run s = .error .assertFailed s := by
  rw [updateImpl, EStateM.run_bind, run_isPresent_objID, hj]
  rfl

/-- Every call of `updateImpl`: it is refused, or the object is alive and is changed in place. -/
theorem updateImpl_cases (hL : s.Live) (id : ID) (v : Val) :
    Refused ((updateImpl id v).run s) s ∨ ∃ a o, s.handleMap[id]? = some (some a) ∧
      s.obj? id = some o ∧ (updateImpl id v).run s =
        ((SerializationHelper.setFromJson v).run o).mapState fun o' ↦ s.store (some a) o' := by
  cases h : Bitset.idx? maxObjs id with
  | none =>
    refine .inl (.inl ?_)
    rw [updateImpl, EStateM.run_bind, run_isPresent, Bitset.test?, h]
    rfl
  | some j =>
    obtain rfl : id = objID j := Bitset.idx?_eq_some.1 h
    cases hj : s.bitsetIDs j with
    | false => exact .inl (.inr (run_updateImpl_of_absent hj))
    | true =>
      obtain ⟨a, o, ha, ho⟩ := hL.exists_obj (alive_objID.2 hj)
      exact .inr ⟨a, o, ha, (obj?_of_lookup ha).trans ho, run_updateImpl hj ha ho⟩

end Json

/-- Removing an alive object goes through, and removes all there is of it. -/
theorem run_removeImpl (hj : s.bitsetIDs j = true) (ha : s.handleMap[objID j]? = some (some a)) :
    (removeImpl (objID j)).run s = .ok () (s.removed j a) := by
  rw [removeImpl]
  simp only [EStateM.run_bind, run_isPresent_objID, hj, run_ssvuAssert_true, run_setPresent]
  rw [run_getHandleFor (s := { s with bitsetIDs := Function.update s.bitsetIDs j false }) ha]
  simp only [lfRemove, setHandleFor, eraseHandle, EStateM.run_modify, LifetimeManager.remove,
    OrdMap.erase_insert_self]
  rfl

/-- Removing an object that is not there fails the assertion. -/
theorem run_removeImpl_of_absent (hj : s.bitsetIDs j = false) :
    (removeImpl (objID j)).run s = .error .assertFailed s := by
  rw [removeImpl, EStateM.run_bind, run_isPresent_objID, hj]
  rfl

/-- Every call of `removeImpl`: it is refused, or the object is alive and is removed. -/
theorem removeImpl_cases (hL : s.Live) (id : ID) :
    Refused ((removeImpl id).run s) s ∨ ∃ j a, id = objID j ∧ s.bitsetIDs j = true ∧
      s.handleMap[id]? = some (some a) ∧ (removeImpl id).run s = .ok () (s.removed j a) := by
  cases h : Bitset.idx? maxObjs id with
  | none =>
    refine .inl (.inl ?_)
    rw [removeImpl, EStateM.run_bind, run_isPresent, Bitset.test?, h]
    rfl
  | some j =>
    obtain rfl : id = objID j := Bitset.idx?_eq_some.1 h
    cases hj : s.bitsetIDs j with
    | false => exact .inl (.inr (run_removeImpl_of_absent hj))
    | true =>
      obtain ⟨a, o, ha, -⟩ := hL.exists_obj (alive_objID.2 hj)
      exact .inr ⟨j, a, rfl, hj, ha, run_removeImpl hj ha⟩

/-! ## What every operation keeps

An operation that ends with an exception half way has done some of its work.  What can be said of
the store wherever it stops is what creating an object, removing one and writing to one keep:
`Stable`.  The objects of `keep` are those that may not be removed. -/

/-- Creating, removing and changing objects keeps `P`, as long as none of `keep` is removed. -/
structure Stable (keep : Set ID) (P : TypeStore T → Prop) : Prop where
  live : ∀ s, P s → s.Live
  created : ∀ s j o, P s → s.bitsetIDs j = false → P (s.created j o)
  removed : ∀ s j a, P s → s.handleMap[objID j]? = some (some a) → objID j ∉ keep →
    P (s.removed j a)
  store : ∀ s (id : ID) a o, P s → s.handleMap[id]? = some (some a) → P (s.store (some a) o)
  /-- The counter of the server has no part in it, as nothing in the store depends on it. -/
  lastID : ∀ s i, P s → P { s with lastID := i }

theorem inv_stable (keep : Set ID) : Stable (T := T) keep Inv where
  live _ hI := hI.live
  created _ _ _ hI hj := hI.created hj
  removed _ _ _ hI ha _ := hI.removed ha
  store _ _ _ _ hI ha := hI.store ha
  lastID _ _ hI := ⟨hI.keys, hI.nonNull, hI.inj, hI.storage⟩

theorem live_stable (keep : Set ID) : Stable (T := T) keep Live where
  live _ h := h
  created _ _ _ h hj := h.created hj
  removed _ _ _ h ha _ := h.removed ha
  store _ _ _ _ h ha := h.store ha
  lastID _ _ h := ⟨h.alive, h.inj, h.storage⟩

section

variable {keep : Set ID} {P : TypeStore T → Prop} (hP : Stable keep P)

include hP

theorem Stable.state_removeImpl (hs : P s) (hid : id ∉ keep) : P ((removeImpl id).run s).state := by
  obtain hr | ⟨j, a, rfl, -, ha, hrun⟩ := removeImpl_cases (hP.live s hs) id
  · rwa [hr.state]
  · rw [hrun]; exact hP.removed s j a hs ha hid

variable [Json Val]

theorem Stable.state_createImpl (hs : P s) (id : ID) (v : Val) :
    P ((createImpl id v).run s).state := by
  obtain hr | ⟨j, -, hj, hrun⟩ := createImpl_cases id v s
  · rwa [hr.state]
  · rw [hrun, EStateM.Result.state_mapState]; exact hP.created s j _ hs hj

theorem Stable.state_updateImpl (hs : P s) (id : ID) (v : Val) :
    P ((updateImpl id v).run s).state := by
  obtain hr | ⟨a, o, ha, -, hrun⟩ := updateImpl_cases (hP.live s hs) id v
  · rwa [hr.state]
  · rw [hrun, EStateM.Result.state_mapState]; exact hP.store s id a _ hs ha

end

end TypeStore

end AutoSync
