import AutoSync.Apply
import AutoSync.Chat
import AutoSync.Lib.Transition

/-!
# Runs of a manager

`Op` lists the public operations of a manager, and `Step m op m'` says that an operation takes `m`
to `m'` and that the program goes on from there: the operation returned, or it raised an exception.
An operation that fails an assertion, leaves the range of the alive bitset or dereferences a handle
that refers to nothing has no step.

Every operation but one keeps the representation invariant.  The one is `getHandleFor`, which a
caller takes for a lookup: on an identifier that is not alive it inserts a null handle, and the
next `getSnapshot` dereferences it.  `sound_iff_lookups_alive` is the exact extent of the damage.
-/

set_option autoImplicit false

namespace AutoSync

open Transition

variable {Val : Type}

/-! ## The operations of one type

What the server does to its manager, and what goes through a handle: creations under the next
identifier, edits, and lookups.  A lookup is the one operation that may leave something behind
without an object: a null handle. -/

theorem Survives.of_mapState {σ τ α : Type} {f : σ → τ} {r : EStateM.Result Error σ α} {t : τ}
    (h : Survives (r.mapState f) t) : ∃ s, Survives r s ∧ f s = t := by
  cases r with
  | ok a s => cases h; exact ⟨s, .ok a s, rfl⟩
  | error e s => cases h; exact ⟨s, .raised _ s, rfl⟩

theorem Survives.mapState {σ τ α : Type} {r : EStateM.Result Error σ α} {s : σ}
    (h : Survives r s) (f : σ → τ) : Survives (r.mapState f) (f s) := by
  cases h with
  | ok a s => exact .ok a (f s)
  | raised ex s => exact .raised ex (f s)

theorem Survives.of_ignored {σ α : Type} {act : EStateM Error σ α} {s s' : σ}
    (h : Survives ((act >>= fun _ ↦ pure ()).run s) s') : Survives (act.run s) s' := by
  rw [EStateM.run_bind] at h
  cases hr : act.run s with
  | ok a t => rw [hr] at h; cases h; exact .ok a _
  | error e t => rw [hr] at h; cases h; exact .raised _ _

namespace TypeStore

variable {T : ObjType Val} {s s' : TypeStore T} {id : ID}

/-- The store as a creation by the server finds it: the counter has already moved on. -/
def counted (s : TypeStore T) : TypeStore T := { s with lastID := s.lastID + 1 }

@[simp] theorem lastID_counted (s : TypeStore T) : s.counted.lastID = s.lastID + 1 := rfl

@[simp] theorem bitsetIDs_counted (s : TypeStore T) : s.counted.bitsetIDs = s.bitsetIDs := rfl

theorem run_getFirstFreeID (s : TypeStore T) :
    (getFirstFreeID (T := T)).run s = .ok s.lastID s.counted := rfl

/-- The counter is not part of the invariant, so that it may move on by itself. -/
theorem Inv.counted (hI : s.Inv) : s.counted.Inv := (inv_stable ∅).lastID s _ hI

/-- A null handle that a lookup leaves is the handle of no object, and breaks nothing but the
invariant. -/
theorem Live.looked (h : s.Live) (hnone : s.handleMap[id]? = none) :
    Live { s with handleMap := s.handleMap.insert id none } := by
  have hkeep : ∀ (id' : ID) (a : Addr), s.handleMap[id']? = some (some a) ↔
      (s.handleMap.insert id none)[id']? = some (some a) := by
    intro id' a
    rw [OrdMap.lookup_insert]
    split
    · rename_i he
      rw [he, hnone]
      simp
    · rfl
  exact ⟨fun id' ↦ (h.alive id').trans (exists_congr (hkeep id')),
    fun id₁ id₂ a h₁ h₂ ↦ h.inj id₁ id₂ a ((hkeep id₁ a).2 h₁) ((hkeep id₂ a).2 h₂),
    fun a ↦ (h.storage a).trans (exists_congr fun id' ↦ hkeep id' a)⟩

theorem removeImpl_survives (hL : s.Live) (h : Survives ((removeImpl id).run s) s') :
    ∃ j a, id = objID j ∧ s.handleMap[id]? = some (some a) ∧ s' = s.removed j a := by
  obtain hr | ⟨j, a, hj, -, ha, hrun⟩ := removeImpl_cases hL id
  · exact absurd h hr.not_survives
  · rw [hrun] at h
    cases h
    exact ⟨j, a, hj, ha, rfl⟩

/-- An assignment to an alive object changes its field and raises the flag. -/
theorem run_edit {i : Fin T.fieldCount} {x : (T.TypeAt i).Carrier} {a : Addr} {o : SyncObj T}
    (hh : s.handleMap[id]? = some (some a)) (ho : s.lfManager.storage[a]? = some o) :
    (edit id i x).run s = .ok () (s.store (some a) (o.edit i x)) := by
  have hderef : s.deref (some a) = some o := by simp [deref, ho]
  rw [edit, EStateM.run_bind, run_getHandleFor hh]
  simp only [run_withObj hderef, EStateM.run_modify, EStateM.Result.mapState_ok]

/-- An assignment to an object that is not there: a null handle, which may just have been inserted,
is dereferenced. -/
theorem edit_not_survives {i : Fin T.fieldCount} {x : (T.TypeAt i).Carrier}
    (hh : ∀ a, s.handleMap[id]? ≠ some (some a)) : ¬Survives ((edit id i x).run s) s' := by
  obtain ⟨t, hget⟩ : ∃ t, (getHandleFor (T := T) id).run s = .ok none t := by
    cases hl : s.handleMap[id]? with
    | none => exact ⟨_, run_getHandleFor_none hl⟩
    | some handle =>
      cases handle with
      | none => exact ⟨_, run_getHandleFor hl⟩
      | some a => exact absurd hl (hh a)
  rw [edit, EStateM.run_bind, hget]
  simp only [withObj, EStateM.run_bind, EStateM.run_get, deref, Option.bind_none,
    EStateM.run_throw]
  intro h
  cases h

/-- An assignment through a handle that the operation survives is to an alive object, and does what
it should. -/
theorem edit_survives {i : Fin T.fieldCount} {x : (T.TypeAt i).Carrier} (hL : s.Live)
    (h : Survives ((edit id i x).run s) s') :
    ∃ a o, s.handleMap[id]? = some (some a) ∧ s.obj? id = some o ∧
      s' = s.store (some a) (o.edit i x) := by
  by_cases ha : s.Alive id
  · obtain ⟨a, o, hh, ho⟩ := hL.exists_obj ha
    refine ⟨a, o, hh, (obj?_of_lookup hh).trans ho, ?_⟩
    rw [run_edit hh ho] at h
    cases h
    rfl
  · exact absurd h (edit_not_survives (hL.ne_some_of_not_alive ha))

variable [Json Val] {v : Val}

/-- A creation by the server, when the identifier in the counter is free. -/
theorem run_serverCreate {j : Fin maxObjs} (hj : s.lastID = objID j)
    (hbit : s.bitsetIDs j = false) : (serverCreate v).run s =
      match (SerializationHelper.setFromJson v).run (SyncObj.fresh T) with
      | .ok _ o => .ok (some s.lfManager.newAddr) (s.counted.created j o)
      | .error e o => .error e (s.counted.created j o) := by
  rw [serverCreate, EStateM.run_bind, run_getFirstFreeID, hj]
  simp only
  rw [EStateM.run_bind, run_createImpl (s := s.counted) hbit]
  cases (SerializationHelper.setFromJson v).run (SyncObj.fresh T) with
  | error e o => rfl
  | ok u o =>
    -- the handle of the new object is there, so looking it up changes nothing
    exact run_getHandleFor (handleMap_created s.counted j o)

/-- Every creation by the server: it is refused after the counter has moved on, or it creates an
object. -/
theorem serverCreate_cases (v : Val) (s : TypeStore T) :
    Refused ((serverCreate v).run s) s.counted ∨
      ∃ j, s.lastID = objID j ∧ s.bitsetIDs j = false := by
  obtain hr | ⟨j, hj, hbit, -⟩ := createImpl_cases s.lastID v s.counted
  · refine .inl ?_
    rw [serverCreate, EStateM.run_bind, run_getFirstFreeID]
    simp only
    rw [EStateM.run_bind]
    rcases hr with hr | hr <;> rw [hr]
    · exact .inl rfl
    · exact .inr rfl
  · exact .inr ⟨j, hj, hbit⟩

/-- A creation by the server uses the counter, and leaves it one higher. -/
theorem serverCreate_survives (h : Survives ((serverCreate v).run s) s') :
    ∃ j o, s.lastID = objID j ∧ s.bitsetIDs j = false ∧ s' = s.counted.created j o := by
  obtain hr | ⟨j, hj, hbit⟩ := serverCreate_cases v s
  · exact absurd h hr.not_survives
  · rw [run_serverCreate hj hbit] at h
    cases hset : (SerializationHelper.setFromJson v).run (SyncObj.fresh T) with
    | error e o => rw [hset] at h; cases h; exact ⟨j, o, hj, hbit, rfl⟩
    | ok u o => rw [hset] at h; cases h; exact ⟨j, o, hj, hbit, rfl⟩

end TypeStore

namespace SyncManager

variable {typeCount : ℕ} {TTypes : Fin typeCount → ObjType Val} {m m' : SyncManager TTypes}

theorem survives_onType {α : Type} {t : Fin typeCount}
    {act : EStateM Error (TypeStore (TTypes t)) α} (h : Survives ((onType t act).run m) m') :
    ∃ s, Survives (act.run (m t)) s ∧ m' = Function.update m t s := by
  obtain ⟨s, hs, rfl⟩ := h.of_mapState
  exact ⟨s, hs, rfl⟩

/-! ## The operations of a manager

The public operations, as the program calls them from outside, each of them on the part of one type
or on all of them.  `Step.keeps` is the one place that goes through them all: whatever creating,
removing and changing objects keep, they keep. -/

/-- The public operations, with the arguments they are called with. -/
inductive Op (TTypes : Fin typeCount → ObjType Val)
  | serverCreate (t : Fin typeCount) (mVal : Val)
  | edit (t : Fin typeCount) (mID : ID) (i : Fin (TTypes t).fieldCount)
    (x : ((TTypes t).TypeAt i).Carrier)
  | onReceivedPacketCreate (mIDType : Fin typeCount) (mID : ID) (mVal : Val)
  | onReceivedPacketRemove (mIDType : Fin typeCount) (mID : ID)
  | onReceivedPacketUpdate (mIDType : Fin typeCount) (mID : ID) (mVal : Val)
  | applyDiff (mX : Diff typeCount Val)
  | getHandleFor (t : Fin typeCount) (mID : ID)
  | getSnapshot

variable [Json Val]

def Op.exec : Op TTypes → EStateM Error (SyncManager TTypes) Unit
  | serverCreate t mVal => do
    let _ ← SyncManager.serverCreate t mVal
  | edit t mID i x => onType t (TypeStore.edit mID i x)
  | onReceivedPacketCreate mIDType mID mVal =>
    SyncManager.onReceivedPacketCreate mIDType mID mVal
  | onReceivedPacketRemove mIDType mID => SyncManager.onReceivedPacketRemove mIDType mID
  | onReceivedPacketUpdate mIDType mID mVal =>
    SyncManager.onReceivedPacketUpdate mIDType mID mVal
  | applyDiff mX => SyncManager.applyDiff mX
  | getHandleFor t mID => do
    let _ ← onType t (TypeStore.getHandleFor mID)
  | getSnapshot => do
    let _ ← ofExcept (SyncManager.getSnapshot (← get))

/-- The operation takes `m` to `m'`, and the program goes on from there. -/
def Step (m : SyncManager TTypes) (op : Op TTypes) (m' : SyncManager TTypes) : Prop :=
  Survives (op.exec.run m) m'

/-- A creation by the server that goes through, for a manager of several types. -/
theorem run_serverCreate {t : Fin typeCount} {v : Val} {j : Fin maxObjs} {o : SyncObj (TTypes t)}
    (hj : (m t).lastID = objID j) (hbit : (m t).bitsetIDs j = false)
    (hv : (SerializationHelper.setFromJson v).run (SyncObj.fresh (TTypes t)) = .ok () o) :
    (SyncManager.serverCreate t v).run m = .ok (some (m t).lfManager.newAddr)
      (Function.update m t ((m t).counted.created j o)) := by
  rw [SyncManager.serverCreate, onType, EStateM.run_focus, TypeStore.run_serverCreate hj hbit, hv]
  rfl

theorem Step.serverCreate {t : Fin typeCount} {v : Val} {handle : Handle}
    (h : (SyncManager.serverCreate t v).run m = .ok handle m') : Step m (.serverCreate t v) m' := by
  rw [Step, Op.exec, EStateM.run_bind, h]
  exact .ok () m'

theorem Step.onReceivedPacketRemove {t : Fin typeCount} {j : Fin maxObjs} {a : Addr}
    (hbit : (m t).bitsetIDs j = true) (ha : (m t).handleMap[objID j]? = some (some a)) :
    Step m (.onReceivedPacketRemove t (objID j)) (Function.update m t ((m t).removed j a)) := by
  rw [Step, Op.exec, SyncManager.onReceivedPacketRemove, onType, EStateM.run_focus,
    TypeStore.run_removeImpl hbit ha]
  exact .ok () _

theorem Step.unique (m : SyncManager TTypes) (op : Op TTypes) (m₁ m₂ : SyncManager TTypes)
    (h₁ : Step m op m₁) (h₂ : Step m op m₂) : m₁ = m₂ :=
  h₁.state.symm.trans h₂.state

omit [Json Val] in
/-- The operation does not look up an identifier that is not alive; any other operation does not
look up at all. -/
def Op.LooksUpAlive (m : SyncManager TTypes) : Op TTypes → Prop
  | getHandleFor t mID => (m t).Alive mID
  | _ => True

omit [Json Val] in
/-- The operation removes the object `id` of the type `t`, by itself or by a diff that names it. -/
def Op.Removes (t : Fin typeCount) (id : ID) : Op TTypes → Prop
  | onReceivedPacketRemove mIDType mID => mIDType = t ∧ mID = id
  | applyDiff mX => id ∈ (mX.typeDatas t).toRemove
  | _ => False

omit [Json Val] in
/-- The store of one type changes, and what holds of all types still does if it holds of the new
one. -/
theorem forall_update {P : ∀ t, TypeStore (TTypes t) → Prop} (hm : ∀ t, P t (m t))
    {t : Fin typeCount} {s : TypeStore (TTypes t)} (hs : P t s) (u : Fin typeCount) :
    P u (Function.update m t s u) :=
  (Function.forall_update_iff m P).2 ⟨hs, fun u _ ↦ hm u⟩ u

/-- **What an operation can do to a manager.**  Whatever creating, removing and changing objects
keep, an operation keeps, if it removes none of the objects that must stay.  A lookup is the odd one
out: what it may do is a hypothesis of its own. -/
theorem Step.keeps {op : Op TTypes} {keep : Fin typeCount → Set ID}
    {P : ∀ t, TypeStore (TTypes t) → Prop} (hP : ∀ t, TypeStore.Stable (keep t) (P t))
    (h : Step m op m') (hm : ∀ t, P t (m t)) (hr : ∀ t id, op.Removes t id → id ∉ keep t)
    (hlookup : ∀ t mID, op = .getHandleFor t mID → (m t).handleMap[mID]? = none →
      P t { m t with handleMap := (m t).handleMap.insert mID none }) (t : Fin typeCount) :
    P t (m' t) := by
  revert t
  cases op with
  | serverCreate t mVal =>
    obtain ⟨s, hs, rfl⟩ := survives_onType (Survives.of_ignored h)
    obtain ⟨j, o, -, hj, rfl⟩ := TypeStore.serverCreate_survives hs
    exact forall_update hm ((hP t).created _ j o ((hP t).lastID _ _ (hm t)) hj)
  | edit t mID i x =>
    obtain ⟨s, hs, rfl⟩ := survives_onType h
    obtain ⟨a, o, ha, -, rfl⟩ := TypeStore.edit_survives ((hP t).live _ (hm t)) hs
    exact forall_update hm ((hP t).store _ mID a _ (hm t) ha)
  | onReceivedPacketCreate t mID mVal =>
    obtain ⟨s, hs, rfl⟩ := survives_onType h
    exact forall_update hm (hs.state ▸ (hP t).state_createImpl (hm t) mID mVal)
  | onReceivedPacketRemove t mID =>
    obtain ⟨s, hs, rfl⟩ := survives_onType h
    exact forall_update hm (hs.state ▸ (hP t).state_removeImpl (hm t) (hr t mID ⟨rfl, rfl⟩))
  | onReceivedPacketUpdate t mID mVal =>
    obtain ⟨s, hs, rfl⟩ := survives_onType h
    exact forall_update hm (hs.state ▸ (hP t).state_updateImpl (hm t) mID mVal)
  | applyDiff mX =>
    refine h.state ▸ EStateM.state_run_forM (I := fun m : SyncManager TTypes ↦ ∀ t, P t (m t))
      (fun t _ m hm ↦ ?_) hm
    rw [onType, EStateM.run_focus, EStateM.Result.state_mapState]
    exact forall_update hm ((hP t).state_applyTypeDiff (hm t) (hr t))
  | getHandleFor t mID =>
    obtain ⟨s, hs, rfl⟩ := survives_onType (Survives.of_ignored h)
    cases hh : (m t).handleMap[mID]? with
    | some handle =>
      rw [TypeStore.run_getHandleFor hh] at hs
      cases hs
      exact forall_update hm (hm t)
    | none =>
      rw [TypeStore.run_getHandleFor_none hh] at hs
      cases hs
      exact forall_update hm (hlookup t mID rfl hh)
  | getSnapshot =>
    have hsame : ((Op.exec (.getSnapshot : Op TTypes)).run m).state = m := by
      rw [Op.exec, EStateM.run_bind, EStateM.run_get]
      simp only
      cases m.getSnapshot <;> rfl
    rwa [← h.state, hsame]

/-- **An operation keeps the invariant**, unless it looks up an identifier that is not alive. -/
theorem Step.inv {op : Op TTypes} (h : Step m op m') (hI : m.Inv) (hop : op.LooksUpAlive m) :
    m'.Inv := by
  refine h.keeps (fun t ↦ TypeStore.inv_stable ∅) hI (fun _ id _ ↦ Set.notMem_empty id) ?_
  rintro t mID rfl hnone
  obtain ⟨a, -, ha, -⟩ := (hI t).exists_obj hop
  exact absurd (ha.symm.trans hnone) (by simp)

omit [Json Val] in
/-- **What no operation can break**, for every type of the manager. -/
def Live (m : SyncManager TTypes) : Prop := ∀ t, (m t).Live

omit [Json Val] in
theorem Inv.live (hI : m.Inv) : m.Live := fun t ↦ (hI t).live

/-- Every operation keeps it, lookups of dead identifiers included. -/
theorem Step.live {op : Op TTypes} (h : Step m op m') (hm : m.Live) : m'.Live := by
  refine h.keeps (fun t ↦ TypeStore.live_stable ∅) hm (fun _ id _ ↦ Set.notMem_empty id) ?_
  rintro t mID - hnone
  exact (hm t).looked hnone

/-! ## Runs

A run starts from a manager that has just been constructed.  Every state of it has what no operation
can break; that it is sound as well depends on the lookups alone, and a null handle that one of them
has left stays until an object is created under its identifier. -/

/-- What everything that reads a manager relies on: the invariant, and that the manager can be
written out. -/
structure Sound (m : SyncManager TTypes) : Prop where
  /-- The three structures of every type agree, and no handle is null. -/
  inv : m.Inv
  /-- The manager can be written out, with exactly its alive identifiers. -/
  snapshot : ∃ snap, m.getSnapshot = .ok snap ∧
    ∀ t (id : ID), id ∈ (snap.typeDatas t).items ↔ (m t).Alive id

theorem Inv.sound (hI : m.Inv) : m.Sound where
  inv := hI
  snapshot := by
    obtain ⟨snap, hsnap, hdesc⟩ := getSnapshot_ok hI
    refine ⟨snap, hsnap, fun t id ↦ ?_⟩
    rw [OrdMap.mem_iff_lookup, hdesc.typeDatas t id, (hI t).alive_iff]
    cases (m t).obj? id <;> simp

/-- The state after the operations `ops`, from a new manager. -/
abbrev Reaches (ops : List (Op TTypes)) (m : SyncManager TTypes) : Prop :=
  Run Step (fresh TTypes) ops m

/-- Every lookup of the run was of an identifier alive at that moment. -/
def LookupsAlive (ops : List (Op TTypes)) : Prop :=
  ∀ pre t mID post m, ops = pre ++ Op.getHandleFor t mID :: post → Reaches pre m →
    (m t).Alive mID

theorem inv_of_reaches {ops : List (Op TTypes)} (h : Reaches ops m) (hops : LookupsAlive ops) :
    m.Inv := by
  induction h with
  | nil => exact inv_fresh
  | @snoc ops op m m' hr hs ih =>
    refine hs.inv (ih fun pre t mID post m₀ he ↦ hops pre t mID (post ++ [op]) m₀ (by simp [he])) ?_
    cases op with
    | getHandleFor t mID => exact hops ops t mID [] m rfl hr
    | _ => trivial

omit [Json Val] in
/-- Is the operation a lookup, the only one that can leave a null handle? -/
def Op.isLookup : Op TTypes → Bool
  | getHandleFor _ _ => true
  | _ => false

omit [Json Val] in
/-- Is it one of the operations by which a server changes its manager? -/
def Op.isServerOp : Op TTypes → Bool
  | serverCreate _ _ => true
  | edit _ _ _ _ => true
  | onReceivedPacketRemove _ _ => true
  | _ => false

/-- A run without lookups has no bad one, whatever else happens in it. -/
theorem lookupsAlive_of_isLookup {ops : List (Op TTypes)}
    (h : ∀ op ∈ ops, op.isLookup = false) : LookupsAlive ops := by
  rintro pre t mID post m rfl -
  exact absurd (h (.getHandleFor t mID) (by simp)) (by simp [Op.isLookup])

/-- After a lookup the identifier is in the map of handles, with an object or without. -/
theorem mem_of_step_getHandleFor {t : Fin typeCount} {mID : ID}
    (h : Step m (.getHandleFor t mID) m') :
    mID ∈ (m' t).handleMap ∧ ((m' t).Alive mID ↔ (m t).Alive mID) := by
  obtain ⟨s, hs, rfl⟩ := survives_onType (Survives.of_ignored h)
  rw [Function.update_self, OrdMap.mem_iff_lookup]
  cases hh : (m t).handleMap[mID]? with
  | some handle =>
    rw [TypeStore.run_getHandleFor hh] at hs
    cases hs
    exact ⟨⟨handle, hh⟩, Iff.rfl⟩
  | none =>
    rw [TypeStore.run_getHandleFor_none hh] at hs
    cases hs
    exact ⟨⟨none, by simp⟩, Iff.rfl⟩

/-- **When a manager stays sound.**  Every state of a run is sound exactly when every lookup of the
run was of an alive identifier. -/
theorem sound_iff_lookups_alive {ops : List (Op TTypes)} (h : Reaches ops m) :
    (∀ pre m', pre <+: ops → Reaches pre m' → m'.Sound) ↔ LookupsAlive ops := by
  constructor
  · rintro hsound pre t mID post m₀ rfl hr
    -- the state right after the lookup is sound, so the identifier looked up is alive in it
    obtain ⟨m₀', m₁, hr', hs⟩ := h.of_append_cons
    obtain rfl := hr.unique Step.unique hr'
    have hI := (hsound (pre ++ [.getHandleFor t mID]) m₁ ⟨post, by simp⟩ (hr.snoc hs)).inv
    obtain ⟨hmem, halive⟩ := mem_of_step_getHandleFor hs
    exact halive.1 (((hI t).keys mID).1 hmem)
  · rintro hops pre m' ⟨post, rfl⟩ hr
    exact (inv_of_reaches hr fun pre' t mID post' m₀ he ↦
      hops pre' t mID (post' ++ post) m₀ (by simp [he])).sound

end SyncManager

namespace Chat

open SyncManager

/-- A message is created, and its handle looked up, which is a good lookup. -/
def lookupOps : List (Op types) :=
  [.serverCreate messages (messageVal 0 "ann" "hello"), .getHandleFor messages 0]

theorem sound_iff_lookups_alive_lookupOps : ∃ m, Reaches lookupOps m ∧
    ((∀ pre m', pre <+: lookupOps → Reaches pre m' → m'.Sound) ↔ LookupsAlive lookupOps) := by
  have h : Reaches lookupOps _ := (Run.single (.ok () _)).snoc (.ok () _)
  exact ⟨_, h, sound_iff_lookups_alive h⟩

/-- **Looking up a message that does not exist** leaves a null handle behind, and the manager can
no longer be written out. -/
theorem lookup_breaks_manager : ∃ m, Reaches [(.getHandleFor messages 7 : Op types)] m ∧ ¬m.Inv ∧
    m.getSnapshot = .error .badHandle := by
  refine ⟨Function.update (fresh types) messages
    { TypeStore.fresh (Message JsonTree) with handleMap := (∅ : OrdMap ID Handle).insert 7 none },
    Run.single (.ok () _), fun hI ↦ ?_, rfl⟩
  exact (hI messages).nonNull 7 rfl

end Chat

end AutoSync
