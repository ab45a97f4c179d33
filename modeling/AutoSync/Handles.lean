import AutoSync.Operations

/-!
# How long a handle is good

`serverCreate` returns a handle, and the application keeps it and writes through it later.  The
manager never looks at it again: the handle is a pointer to an object that the lifetime manager
owns, and nothing tells its holder when the object goes away.

`handle_of_created` says how long the pointer may be used.  Through any operations, also ones that
end with an exception half way and lookups of identifiers that are not there, it stays the handle of
the object it was returned for, and of no other — until an operation removes that identifier.  The
removal itself leaves it dangling.

That a handle stays where it is is one more thing that creating, removing and changing the other
objects keep (`holds_stable`), so that the rule `Step.keeps` has it for every operation.
-/

set_option autoImplicit false

namespace AutoSync

open Transition

variable {Val : Type}

namespace TypeStore

variable {T : ObjType Val} {s : TypeStore T} {id : ID} {a : Addr}

/-- `a` is the handle of the object `id`, in a store that is as every run leaves it. -/
structure Holds (id : ID) (a : Addr) (s : TypeStore T) : Prop where
  live : s.Live
  handle : s.handleMap[id]? = some (some a)

theorem Holds.alive (h : Holds id a s) : s.Alive id := (h.live.alive id).2 ⟨a, h.handle⟩

/-- A position that is free is not that of the object, whose bit is set. -/
theorem Holds.ne_of_bit (h : Holds id a s) {j : Fin maxObjs} (hj : s.bitsetIDs j = false) :
    id ≠ objID j := by
  rintro rfl
  rw [alive_objID.1 h.alive] at hj
  exact absurd hj (by simp)

/-- **What happens to the other objects** does not move the handle, nor does a change of the object
itself. -/
theorem holds_stable (id : ID) (a : Addr) : Stable (T := T) {id} (Holds id a) where
  live _ h := h.live
  created _ _ _ h hj :=
    ⟨h.live.created hj, (OrdMap.lookup_insert_ne _ _ (h.ne_of_bit hj)).trans h.handle⟩
  removed s j b h hb hne := by
    refine ⟨h.live.removed hb, ?_⟩
    show (s.handleMap.erase (objID j))[id]? = _
    rw [OrdMap.lookup_erase, if_neg (Ne.symm hne), h.handle]
  store _ _ _ _ h hb := ⟨h.live.store hb, h.handle⟩
  lastID _ _ h := ⟨⟨h.live.alive, h.live.inj, h.live.storage⟩, h.handle⟩

/-- Neither does a lookup, which can only put a null handle where there was none. -/
theorem Holds.looked (h : Holds id a s) {mID : ID} (hnone : s.handleMap[mID]? = none) :
    Holds id a { s with handleMap := s.handleMap.insert mID none } where
  live := h.live.looked hnone
  handle := by
    refine (OrdMap.lookup_insert_ne _ _ ?_).trans h.handle
    rintro rfl
    exact absurd (hnone.symm.trans h.handle) (by simp)

end TypeStore

namespace SyncManager

variable {typeCount : ℕ} {TTypes : Fin typeCount → ObjType Val} {m m₁ m' : SyncManager TTypes}
  {t : Fin typeCount} {id : ID} {a : Addr}

/-- `a` is the handle of the object `id` of the type `t`, in a manager that is as every run leaves
it. -/
structure Holds (t : Fin typeCount) (id : ID) (a : Addr) (m : SyncManager TTypes) : Prop where
  live : m.Live
  handle : (m t).handleMap[id]? = some (some a)

variable [Json Val]

/-- **An operation moves no handle** of an object it does not remove. -/
theorem Step.handle {op : Op TTypes} (hs : Step m op m') (h : Holds t id a m)
    (hr : ¬op.Removes t id) : Holds t id a m' := by
  -- of all the types only that of the object has a handle to keep
  let P (u : Fin typeCount) : TypeStore (TTypes u) → Prop :=
    if u = t then TypeStore.Holds id a else TypeStore.Live
  let keep (u : Fin typeCount) : Set ID := if u = t then {id} else ∅
  have hP : ∀ u, TypeStore.Stable (keep u) (P u) := by
    intro u
    by_cases hu : u = t
    · simpa only [P, keep, if_pos hu] using TypeStore.holds_stable id a
    · simpa only [P, keep, if_neg hu] using TypeStore.live_stable ∅
  have hm : ∀ u, P u (m u) := by
    intro u
    by_cases hu : u = t
    · subst hu
      simpa only [P, if_true] using TypeStore.Holds.mk (h.live u) h.handle
    · simpa only [P, if_neg hu] using h.live u
  have hm' : ∀ u, P u (m' u) := by
    refine hs.keeps hP hm (fun u id' hrem hmem ↦ ?_) fun u mID _ hnone ↦ ?_
    · by_cases hu : u = t
      · subst hu
        simp only [keep, if_true] at hmem
        obtain rfl := Set.mem_singleton_iff.1 hmem
        exact hr hrem
      · simp [keep, if_neg hu] at hmem
    · have hu := hm u
      simp only [P] at hu ⊢
      split_ifs at hu ⊢
      · exact hu.looked hnone
      · exact TypeStore.Live.looked hu hnone
  refine ⟨fun u ↦ ?_, ?_⟩
  · have hu := hm' u
    simp only [P] at hu
    split_ifs at hu
    · exact hu.live
    · exact hu
  · have ht := hm' t
    simp only [P, if_true] at ht
    exact ht.handle

/-! ## Runs

A handle is good as long as its object is there, so that in a run nothing has to be excluded but the
removal of the object.  Lookups of identifiers that do not exist, failed operations and diffs that
are carried out half way are all allowed. -/

theorem live_of_reaches {ops : List (Op TTypes)} (h : Reaches ops m) : m.Live :=
  h.invariant (fun _ ↦ TypeStore.inv_fresh.live) fun _ _ _ hm hs ↦ hs.live hm

/-- A run moves no handle of an object it does not remove, by induction on the run. -/
theorem Holds.of_run {ops : List (Op TTypes)} (h : Run Step m ops m') (ha : Holds t id a m)
    (hr : ∀ op ∈ ops, ¬op.Removes t id) : Holds t id a m' := by
  induction h with
  | nil => exact ha
  | @snoc ops op m₁ m₂ h hs ih =>
    exact hs.handle (ih fun op hop ↦ hr op (List.mem_append_left _ hop)) (hr op (by simp))

/-- `serverCreate` returns the handle of the object it has created, under the identifier in the
counter. -/
theorem holds_of_run_serverCreate {v : Val} {handle : Handle} (hm : m.Live)
    (h : (SyncManager.serverCreate t v).run m = .ok handle m') :
    ∃ a, handle = some a ∧ Holds t (m t).lastID a m' := by
  rw [SyncManager.serverCreate, onType, EStateM.run_focus] at h
  obtain ⟨s, hs, rfl⟩ := EStateM.Result.mapState_eq_ok.1 h
  obtain hr | ⟨j, hj, hbit⟩ := TypeStore.serverCreate_cases v (m t)
  · exact absurd hs hr.ne_ok
  · rw [TypeStore.run_serverCreate hj hbit] at hs
    cases hset : (SerializationHelper.setFromJson v).run (SyncObj.fresh (TTypes t)) with
    | error e o => rw [hset] at hs; cases hs
    | ok u o =>
      rw [hset] at hs
      cases hs
      have hcounted : (m t).counted.Live := (TypeStore.live_stable ∅).lastID _ _ (hm t)
      refine ⟨_, rfl, forall_update hm (hcounted.created hbit), ?_⟩
      rw [Function.update_self, hj]
      exact TypeStore.handleMap_created ..

/-- **How long a handle is good.**  The handle that `serverCreate` returns stays that of the object
it was returned for, and of no other object, through every run that does not remove the object; and
removing the object leaves the handle without one. -/
theorem handle_of_created {ops₀ ops : List (Op TTypes)} {v : Val} {handle : Handle}
    (h₀ : Reaches ops₀ m) (hc : (SyncManager.serverCreate t v).run m = .ok handle m₁)
    (h : Run Step m₁ ops m') (hr : ∀ op ∈ ops, ¬op.Removes t (m t).lastID) :
    (∃ o, (m' t).deref handle = some o ∧ (m' t).obj? (m t).lastID = some o) ∧
      (∀ id, (m' t).handleMap[id]? = some handle ↔ id = (m t).lastID) ∧
      ∀ m'', Step m' (.onReceivedPacketRemove t (m t).lastID) m'' →
        (m'' t).deref handle = none := by
  obtain ⟨a, rfl, ha₁⟩ := holds_of_run_serverCreate (live_of_reaches h₀) hc
  have ha := ha₁.of_run h hr
  obtain ⟨b, o, hb, ho⟩ := (ha.live t).exists_obj (((ha.live t).alive _).2 ⟨a, ha.handle⟩)
  obtain rfl : a = b := Option.some_inj.1 (Option.some_inj.1 (ha.handle.symm.trans hb))
  refine ⟨⟨o, ho, (TypeStore.obj?_of_lookup hb).trans ho⟩, fun id ↦ ⟨fun hid ↦ ?_, ?_⟩, ?_⟩
  · exact (ha.live t).inj id _ a hid hb
  · rintro rfl
    exact hb
  · intro m'' hs
    obtain ⟨s, hq, rfl⟩ := survives_onType hs
    obtain ⟨j, b, hj, hb', rfl⟩ := TypeStore.removeImpl_survives (ha.live t) hq
    obtain rfl : a = b := Option.some_inj.1 (Option.some_inj.1 (hb.symm.trans hb'))
    rw [Function.update_self]
    simp [TypeStore.deref, TypeStore.removed, OrdMap.lookup_erase]

end SyncManager

namespace Chat

open SyncManager hiding Step

/-- A message is created, edited and removed again, and one that does not exist is looked up. -/
def busyOps : List (Op types) :=
  [.serverCreate messages (messageVal 1 "bob" "hi"), .edit messages 1 Message.contents "ho",
    .getHandleFor messages 7, .onReceivedPacketRemove messages 1]

theorem handle_of_created_busyOps : ∃ m₁ m' handle,
    (SyncManager.serverCreate messages (messageVal 0 "ann" "hello")).run (fresh types) =
      .ok handle m₁ ∧ Run SyncManager.Step m₁ busyOps m' ∧
    ∃ o, (m' messages).deref handle = some o ∧ (m' messages).obj? 0 = some o := by
  have hc : (SyncManager.serverCreate messages (messageVal 0 "ann" "hello")).run (fresh types) =
      .ok (some 1) ((SyncManager.serverCreate messages (messageVal 0 "ann" "hello")).run
        (fresh types)).state := rfl
  have h : Run SyncManager.Step ((SyncManager.serverCreate messages
      (messageVal 0 "ann" "hello")).run (fresh types)).state busyOps _ :=
    (((Run.single (.of_isOk (by decide +kernel))).snoc (.of_isOk (by decide +kernel))).snoc
      (.of_isOk (by decide +kernel))).snoc (.of_isOk (by decide +kernel))
  refine ⟨_, _, _, hc, h, (handle_of_created .nil hc h ?_).1⟩
  intro op hop
  simp only [busyOps, List.mem_cons, List.not_mem_nil, or_false] at hop
  rcases hop with rfl | rfl | rfl | rfl
  · exact id
  · exact id
  · exact id
  · exact fun hr ↦ absurd hr.2 (by decide)

end Chat

end AutoSync
