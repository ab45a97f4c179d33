import AutoSync.Snapshot

/-!
# The synchronization manager

A `SyncManager` owns objects of several types.  For every type it has a lifetime manager, which
owns the objects and hands out a pointer to each as a *handle*; a map from identifiers to handles;
a counter for the identifiers of new objects; and the bitset of the alive identifiers.  The source
keeps four arrays indexed by the type; `TypeStore` puts the four entries of one type together, and
a manager is a `TypeStore` for every type.

The lifetime manager is that of the chat example: a vector of owned objects, searched by address.
An address is a natural number and a null pointer is `none`.

Operations are computations in `EStateM Error`, because an exception raised half way leaves the
manager as it is at that point.  Two things about the map of handles matter for everything that
follows.  `getHandleFor` is the subscript operator of `std::map`, so looking up an identifier that
is not there inserts a null handle.  And `createImpl` raises the alive bit and stores the handle
before it reads the fields from JSON.
-/

set_option autoImplicit false

namespace AutoSync

variable {Val : Type}

/-- A pointer to an object, as a number that tells it from the others. -/
abbrev Addr : Type := ℕ

/-- What the lifetime manager hands out: `none` is the null handle. -/
abbrev Handle : Type := Option Addr

/-- The lifetime manager of one type: the objects it owns, by their addresses.  It is that of the
chat and of the README, a vector of unique pointers. -/
structure LifetimeManager (T : ObjType Val) where
  storage : OrdMap Addr (SyncObj T)

namespace LifetimeManager

variable {T : ObjType Val}

/-- An address at which nothing is stored, which is all that is asked of a new one. -/
def newAddr (l : LifetimeManager T) : Addr := l.storage.keys.foldr max 0 + 1

/-- Creates an object in its initial state and returns a handle to it. -/
def create (l : LifetimeManager T) : Handle × LifetimeManager T :=
  (some l.newAddr, ⟨l.storage.insert l.newAddr (SyncObj.fresh T)⟩)

/-- Removes the object of a handle, if there is one; the null handle has none. -/
def remove (l : LifetimeManager T) (mHandle : Handle) : LifetimeManager T :=
  match mHandle with
  | none => l
  | some a => ⟨l.storage.erase a⟩

theorem newAddr_not_mem (l : LifetimeManager T) : l.storage[l.newAddr]? = none := by
  have hle : ∀ (as : List Addr) (a : Addr), a ∈ as → a ≤ as.foldr max 0 := by
    intro as
    induction as with
    | nil => simp
    | cons b as ih =>
      intro a ha
      rw [List.foldr_cons]
      rcases List.mem_cons.1 ha with rfl | ha
      · exact le_max_left _ _
      · exact (ih a ha).trans (le_max_right _ _)
  rw [OrdMap.lookup_eq_none]
  intro hm
  exact absurd (hle _ _ (Std.ExtTreeMap.mem_keys.2 hm)) (Nat.not_succ_le_self _)

end LifetimeManager

/-- The part of a manager that belongs to one type, with one entry of each of its arrays. -/
structure TypeStore (T : ObjType Val) where
  lfManager : LifetimeManager T
  handleMap : OrdMap ID Handle
  /-- The identifier of the next object created by the server, which only ever grows. -/
  lastID : ID
  bitsetIDs : ObjBitset

namespace TypeStore

variable {T : ObjType Val}

/-- No object yet, and no handle: the state of a manager that has just been constructed. -/
def fresh (T : ObjType Val) : TypeStore T := ⟨⟨∅⟩, ∅, 0, fun _ ↦ false⟩

/-! ## Private operations

These are the methods of `SyncManager` that do the work, on the part of the type they are
instantiated for.  Assertions stand where the source has them, and every operation keeps what it has
done when a later step of it fails. -/

/-- Is the object alive?  The bitset is indexed without a check, which is undefined outside its
range. -/
def isPresent (mID : ID) : EStateM Error (TypeStore T) Bool := do
  match (← get).bitsetIDs.test? mID with
  | none => throw .badIndex
  | some b => return b

/-- Sets the alive bit of the object, with the same index that nothing has checked. -/
def setPresent (mID : ID) (mX : Bool) : EStateM Error (TypeStore T) Unit := do
  match (← get).bitsetIDs.assign? mID mX with
  | none => throw .badIndex
  | some b => modify fun s ↦ { s with bitsetIDs := b }

/-- The handle of the object; a null handle is inserted if there is none, as `std::map::operator[]`
does. -/
def getHandleFor (mID : ID) : EStateM Error (TypeStore T) Handle :=
  modifyGet fun s ↦
    let (h, m) := OrdMap.subscript none s.handleMap mID
    (h, { s with handleMap := m })

/-- Assigns through the reference `getHandleFor` returns, whatever was there before. -/
def setHandleFor (mID : ID) (handle : Handle) : EStateM Error (TypeStore T) Unit :=
  modify fun s ↦ { s with handleMap := s.handleMap.insert mID handle }

/-- `getLFManagerFor<T>().create()`, on the lifetime manager of the type. -/
def lfCreate : EStateM Error (TypeStore T) Handle :=
  modifyGet fun s ↦
    let (h, l) := s.lfManager.create
    (h, { s with lfManager := l })

/-- `getLFManagerFor<T>().remove(handle)`, which leaves the handle itself where it is. -/
def lfRemove (handle : Handle) : EStateM Error (TypeStore T) Unit :=
  modify fun s ↦ { s with lfManager := s.lfManager.remove handle }

/-- `getHandleMapFor<T>().erase(mID)`, after which the identifier has no handle. -/
def eraseHandle (mID : ID) : EStateM Error (TypeStore T) Unit :=
  modify fun s ↦ { s with handleMap := s.handleMap.erase mID }

/-- The object a handle refers to, if it refers to one. -/
def deref (s : TypeStore T) (handle : Handle) : Option (SyncObj T) :=
  handle.bind fun a ↦ s.lfManager.storage[a]?

/-- Stores an object where a handle points, for an object that is changed through its handle. -/
def store (handle : Handle) (o : SyncObj T) (s : TypeStore T) : TypeStore T :=
  match handle with
  | none => s
  | some a => { s with lfManager := ⟨s.lfManager.storage.insert a o⟩ }

/-- `handle->act()`, which is undefined for a handle without an object and otherwise leaves the
object as `act` does, whether or not it fails. -/
def withObj (handle : Handle) (act : EStateM Error (SyncObj T) Unit) :
    EStateM Error (TypeStore T) Unit := do
  match (← get).deref handle with
  | none => throw .badHandle
  | some o => EStateM.focus (fun _ ↦ o) (store handle) act

variable [Json Val]

/-- Creates the object `mID` from JSON: it must not be alive, and is when the JSON has been read. -/
def createImpl (mID : ID) (mVal : Val) : EStateM Error (TypeStore T) Unit := do
  ssvuAssert (!(← isPresent mID))
  setPresent mID true
  -- an empty handle first, then that of the new object
  let _ ← getHandleFor mID
  let handle ← lfCreate
  setHandleFor mID handle
  withObj handle (SerializationHelper.setFromJson mVal)

omit [Json Val] in
/-- Removes the object `mID`, which must be alive, with its handle and its bit. -/
def removeImpl (mID : ID) : EStateM Error (TypeStore T) Unit := do
  ssvuAssert (← isPresent mID)
  setPresent mID false
  let handle ← getHandleFor mID
  lfRemove handle
  setHandleFor mID none
  eraseHandle mID

/-- Updates the object `mID` from JSON, with the fields that are there.  It must be alive. -/
def updateImpl (mID : ID) (mVal : Val) : EStateM Error (TypeStore T) Unit := do
  ssvuAssert (← isPresent mID)
  let handle ← getHandleFor mID
  withObj handle (SerializationHelper.setFromJson mVal)

/-- The next identifier; the counter only ever grows, so that none is given out twice. -/
def getFirstFreeID : EStateM Error (TypeStore T) ID :=
  modifyGet fun s ↦ (s.lastID, { s with lastID := s.lastID + 1 })

/-- `serverCreate` on the part of its type: an object under the next identifier, and its handle. -/
def serverCreate (mVal : Val) : EStateM Error (TypeStore T) Handle := do
  let createID ← getFirstFreeID
  createImpl createID mVal
  getHandleFor createID

/-- An assignment to field `i` of the object `mID` through its handle and its `FieldProxy`. -/
def edit (mID : ID) (i : Fin T.fieldCount) (x : (T.TypeAt i).Carrier) :
    EStateM Error (TypeStore T) Unit := do
  let handle ← getHandleFor mID
  withObj handle (modify fun o ↦ o.edit i x)

/-- The body of `applyDiff` for one type: three loops, one for each of the lists in the diff. -/
def applyTypeDiff (mTD : DiffTypeData Val) : EStateM Error (TypeStore T) Unit := do
  forM mTD.toCreate.toList fun p ↦ createImpl p.1 p.2
  forM mTD.toRemove fun x ↦ removeImpl x
  forM mTD.toUpdate.toList fun p ↦ updateImpl p.1 p.2

/-- The step of `getSnapshot` for one entry of the map of handles. -/
def snapshotStep (s : TypeStore T) (items : OrdMap ID Val) (x : ID × Handle) :
    Except Error (OrdMap ID Val) :=
  match s.deref x.2 with
  | none => .error .badHandle
  | some o => .ok (items.insert x.1 (SerializationHelper.getAllToJson o))

/-- The body of `getSnapshot` for one type, a loop over the map of handles. -/
def typeSnapshot (s : TypeStore T) : Except Error (SnapshotTypeData Val) := do
  let items ← s.handleMap.toList.foldlM s.snapshotStep ∅
  return ⟨items⟩

end TypeStore

/-! ## The manager

A manager has a part for every type, and its operations work on one part or go through all of them
in the order of the types.  `onType` is the former; what an operation on one part does is known from
above. -/

/-- A `SyncManager<TLFManager, TTypes...>`, as its parts. -/
abbrev SyncManager {typeCount : ℕ} (TTypes : Fin typeCount → ObjType Val) : Type :=
  ∀ t, TypeStore (TTypes t)

namespace SyncManager

variable {typeCount : ℕ} {TTypes : Fin typeCount → ObjType Val}

/-- A manager that has just been constructed, without any objects. -/
def fresh (TTypes : Fin typeCount → ObjType Val) : SyncManager TTypes :=
  fun t ↦ TypeStore.fresh (TTypes t)

/-- An operation on the part of one type, which leaves the others alone. -/
def onType {α : Type} (t : Fin typeCount) (act : EStateM Error (TypeStore (TTypes t)) α) :
    EStateM Error (SyncManager TTypes) α :=
  EStateM.focus (fun m ↦ m t) (fun s m ↦ Function.update m t s) act

variable [Json Val]

def serverCreate (t : Fin typeCount) (mVal : Val) : EStateM Error (SyncManager TTypes) Handle :=
  onType t (TypeStore.serverCreate mVal)

def onReceivedPacketCreate (mIDType : Fin typeCount) (mID : ID) (mVal : Val) :
    EStateM Error (SyncManager TTypes) Unit :=
  onType mIDType (TypeStore.createImpl mID mVal)

omit [Json Val] in
def onReceivedPacketRemove (mIDType : Fin typeCount) (mID : ID) :
    EStateM Error (SyncManager TTypes) Unit :=
  onType mIDType (TypeStore.removeImpl mID)

def onReceivedPacketUpdate (mIDType : Fin typeCount) (mID : ID) (mVal : Val) :
    EStateM Error (SyncManager TTypes) Unit :=
  onType mIDType (TypeStore.updateImpl mID mVal)

/-- Carries out a diff, type by type; when it fails half way, the types before are done. -/
def applyDiff (mX : Diff typeCount Val) : EStateM Error (SyncManager TTypes) Unit :=
  forM (List.finRange typeCount) fun t ↦ onType t (TypeStore.applyTypeDiff (mX.typeDatas t))

/-- The state of the manager, written out.  It fails if there is a null handle among the handles. -/
def getSnapshot (m : SyncManager TTypes) : Except Error (Snapshot typeCount Val) := do
  let typeDatas ← Except.collect (fun t ↦ (m t).typeSnapshot) fun _ ↦ ⟨∅⟩
  return ⟨fun t ↦ (m t).bitsetIDs, typeDatas⟩

end SyncManager

end AutoSync
