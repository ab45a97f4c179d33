import AutoSync.Apply
import AutoSync.Chat

/-!
# A diff that cannot be carried out

A diff comes from the network, and the JSON of one of its objects may be anything.  When a field
cannot be converted, `applyDiff` raises an exception in the middle of its work, and the session
catches it and goes on.  Nothing is undone: what the manager then holds is what this file is about.

A diff is carried out entry by entry, and `Diff.changes` lists the entries in that order: type by
type, and within a type what to create, then what to remove, then what to update.
`applyDiff_eq` is that `applyDiff` is one loop over the list.  A `Change` acts on the objects of
its type in two ways, `applied` when it goes through and `stopped` when it fails at a field, and
`applyDiff_partial` puts the two together: the entries before the first bad one are applied, the
bad one is stopped, and the rest is not there at all.  The representation invariant survives, so
what the client describes in its next request is that state, and not the old one.
-/

set_option autoImplicit false

namespace AutoSync

open SerializationHelper (setFromJson Decodes patch patchBefore FirstBad)

variable {Val : Type}

/-- An entry of the diff of one type: one of the three things to do to an object. -/
inductive Change (Val : Type)
  | create (mID : ID) (mVal : Val)
  | remove (mID : ID)
  | update (mID : ID) (mVal : Val)

namespace Change

/-- The object the entry is about, whichever of the three it is. -/
def id : Change Val → ID
  | create mID _ => mID
  | remove mID => mID
  | update mID _ => mID

/-- The JSON the entry comes with, if it comes with any: a removal does not. -/
def val? : Change Val → Option Val
  | create _ mVal => some mVal
  | remove _ => none
  | update _ mVal => some mVal

variable {T : ObjType Val} {O : ID → Option (SyncObj T)} {c : Change Val}

/-- The assertion of the entry holds of the objects `O`: there is an object, or there is none. -/
def Met (O : ID → Option (SyncObj T)) : Change Val → Prop
  | create mID _ => (∃ j, mID = objID j) ∧ O mID = none
  | remove mID => ∃ o, O mID = some o
  | update mID _ => ∃ o, O mID = some o

/-- The assertion is about the object of the entry, and no other. -/
theorem met_congr {O' : ID → Option (SyncObj T)} (h : O c.id = O' c.id) : c.Met O ↔ c.Met O' := by
  cases c <;> simp only [Met, id] at h ⊢ <;> rw [h]

variable [Json Val]

def exec : Change Val → EStateM Error (TypeStore T) Unit
  | create mID mVal => TypeStore.createImpl mID mVal
  | remove mID => TypeStore.removeImpl mID
  | update mID mVal => TypeStore.updateImpl mID mVal

/-- What the entry makes of the objects `O`, when reading the entries `m` makes `f m o` of the
object `o`. -/
def written (f : Obj Val → SyncObj T → SyncObj T) (O : ID → Option (SyncObj T)) :
    Change Val → ID → Option (SyncObj T)
  | create mID mVal => Function.update O mID (some (f (entries mVal) (SyncObj.fresh T)))
  | remove mID => Function.update O mID none
  | update mID mVal => Function.update O mID ((O mID).map (f (entries mVal)))

/-- What an entry that goes through makes of the objects: all fields in the JSON are read. -/
def applied (O : ID → Option (SyncObj T)) : Change Val → ID → Option (SyncObj T) := written patch O

/-- What an entry that fails at field `i` makes of them: the fields before `i` have been read. -/
def stopped (i : Fin T.fieldCount) (O : ID → Option (SyncObj T)) :
    Change Val → ID → Option (SyncObj T) := written (patchBefore i) O

/-- The JSON of the entry is an object, as everything else is undefined. -/
def IsObj (c : Change Val) : Prop := ∀ v, c.val? = some v → ∃ m, v = Json.ofObj m

/-- Every field of the entry can be converted, or it comes without JSON. -/
def Good (T : ObjType Val) (c : Change Val) : Prop :=
  ∀ v, c.val? = some v → Decodes T (entries v)

/-- The first field of the entry that cannot be converted is the field `i`. -/
def FailsAt (T : ObjType Val) (c : Change Val) (i : Fin T.fieldCount) : Prop :=
  ∃ v, c.val? = some v ∧ FirstBad T (entries v) i

theorem exists_failsAt (h : ¬c.Good T) : ∃ i, c.FailsAt T i := by
  simp only [Good, not_forall] at h
  obtain ⟨v, hv, hbad⟩ := h
  obtain ⟨i, hi⟩ := SerializationHelper.exists_firstBad hbad
  exact ⟨i, v, hv, hi⟩

variable {s : TypeStore T}

/-- An entry whose assertion holds ends as reading its JSON does. -/
theorem run_exec (e? : Option Error) {f : Obj Val → SyncObj T → SyncObj T} (hI : s.Inv)
    (hmet : c.Met s.obj?) (hval : c.val? = none → e? = none)
    (hread : ∀ v, c.val? = some v → ∀ o, (setFromJson v).run o = .ended e? (f (entries v) o)) :
    ∃ s', c.exec.run s = .ended e? s' ∧ s'.Inv ∧ s'.obj? = c.written f s.obj? ∧
      s'.lastID = s.lastID := by
  cases c with
  | create mID mVal =>
    obtain ⟨⟨j, rfl⟩, hnone⟩ := hmet
    have hdead := hI.bit_eq_false_iff.2 hnone
    refine ⟨s.created j (f (entries mVal) (SyncObj.fresh T)), ?_, hI.created hdead, ?_, rfl⟩
    · rw [exec, TypeStore.run_createImpl hdead, hread mVal rfl, EStateM.Result.mapState_ended]
    · funext id
      rw [hI.obj?_created, written, Function.update_apply]
  | remove mID =>
    obtain ⟨o, ho⟩ := hmet
    obtain ⟨j, rfl, hj⟩ := (hI.alive_iff.2 ⟨o, ho⟩).exists_objID
    obtain ⟨a, ha, -⟩ := hI.lookup_of_obj? ho
    refine ⟨s.removed j a, ?_, hI.removed ha, ?_, rfl⟩
    · rw [exec, TypeStore.run_removeImpl hj ha, hval rfl]
      rfl
    · funext id
      rw [hI.obj?_removed ha, written, Function.update_apply]
  | update mID mVal =>
    obtain ⟨o, ho⟩ := hmet
    obtain ⟨j, rfl, hj⟩ := (hI.alive_iff.2 ⟨o, ho⟩).exists_objID
    obtain ⟨a, ha, hao⟩ := hI.lookup_of_obj? ho
    refine ⟨s.store (some a) (f (entries mVal) o), ?_, hI.store ha, ?_, rfl⟩
    · rw [exec, TypeStore.run_updateImpl hj ha hao, hread mVal rfl, EStateM.Result.mapState_ended]
    · funext id
      rw [hI.obj?_store ha, written, Function.update_apply, ho]
      rfl

theorem run_exec_good (hI : s.Inv) (hmet : c.Met s.obj?) (hobj : c.IsObj) (hgood : c.Good T) :
    ∃ s', c.exec.run s = .ok () s' ∧ s'.Inv ∧ s'.obj? = c.applied s.obj? ∧
      s'.lastID = s.lastID := by
  refine run_exec none hI hmet (fun _ ↦ rfl) fun v hv o ↦ ?_
  obtain ⟨m, rfl⟩ := hobj v hv
  have hdec := hgood _ hv
  rw [entries_ofObj] at hdec ⊢
  exact SerializationHelper.run_setFromJson hdec o

theorem run_exec_failsAt {i : Fin T.fieldCount} (hI : s.Inv) (hmet : c.Met s.obj?)
    (hobj : c.IsObj) (hfail : c.FailsAt T i) :
    ∃ s', c.exec.run s = .error (.raised .badCast) s' ∧ s'.Inv ∧ s'.obj? = c.stopped i s.obj? ∧
      s'.lastID = s.lastID := by
  obtain ⟨w, hw, hbad⟩ := hfail
  refine run_exec (some (.raised .badCast)) hI hmet (fun hnone ↦ ?_) fun v hv o ↦ ?_
  · rw [hw] at hnone
    cases hnone
  · obtain rfl := Option.some_inj.1 (hw.symm.trans hv)
    obtain ⟨m, rfl⟩ := hobj w hw
    rw [entries_ofObj] at hbad ⊢
    exact SerializationHelper.run_setFromJson_error hbad o

end Change

/-! ## The entries of a diff

The three loops for one type, and the loop over the types around them, are one loop over all entries
of the diff.  Seen like this a diff that fails has been carried out up to an entry, which has been
carried out up to a field. -/

namespace DiffTypeData

/-- The entries, in the order in which they are carried out: creations, removals, updates. -/
def changes (d : DiffTypeData Val) : List (Change Val) :=
  d.toCreate.toList.map (fun p ↦ .create p.1 p.2) ++
    (d.toRemove.map .remove ++ d.toUpdate.toList.map fun p ↦ .update p.1 p.2)

theorem applyTypeDiff_eq [Json Val] {T : ObjType Val} (d : DiffTypeData Val) :
    TypeStore.applyTypeDiff (T := T) d = forM d.changes Change.exec := by
  rw [changes, List.forM_append, List.forM_append, List.forM_map, List.forM_map, List.forM_map]
  rfl

end DiffTypeData

namespace Diff

variable {typeCount : ℕ}

/-- The entries of every type, one type after the other. -/
def changes (d : Diff typeCount Val) : List (Fin typeCount × Change Val) :=
  (List.finRange typeCount).flatMap fun t ↦ (d.typeDatas t).changes.map fun c ↦ (t, c)

end Diff

namespace SyncManager

variable {typeCount : ℕ} {TTypes : Fin typeCount → ObjType Val} {m m' : SyncManager TTypes}
  {d : Diff typeCount Val}

/-- The objects of the types of a manager, by their identifiers. -/
abbrev Objects (TTypes : Fin typeCount → ObjType Val) : Type :=
  ∀ t, ID → Option (SyncObj (TTypes t))

def objects (m : SyncManager TTypes) : Objects TTypes := fun t id ↦ (m t).obj? id

variable [Json Val]

omit [Json Val] in
/-- A loop on the part of one type is a loop of steps on it. -/
theorem onType_forM {α : Type} {t : Fin typeCount}
    (f : α → EStateM Error (TypeStore (TTypes t)) PUnit) (l : List α) :
    onType t (forM l f) = forM l fun x ↦ onType t (f x) := by
  simp only [onType]
  refine EStateM.focus_forM (fun s m ↦ ?_) (fun s s' m ↦ ?_) (fun m ↦ ?_) f l
  · exact Function.update_self t s m
  · exact Function.update_idem (β := fun t ↦ TypeStore (TTypes t)) s s' m
  · exact Function.update_eq_self t m

/-- **`applyDiff` is one loop** over the entries, each on the part of its type. -/
theorem applyDiff_eq (d : Diff typeCount Val) :
    (applyDiff d : EStateM Error (SyncManager TTypes) Unit) =
      forM d.changes fun p ↦ onType p.1 p.2.exec := by
  rw [applyDiff, Diff.changes]
  induction List.finRange typeCount with
  | nil => rfl
  | cons t l ih =>
    rw [List.forM_cons, List.flatMap_cons, List.forM_append, List.forM_map, ih,
      DiffTypeData.applyTypeDiff_eq, onType_forM]

/-- What an entry makes of the objects, of which it changes those of its type. -/
def applied (O : Objects TTypes) (p : Fin typeCount × Change Val) : Objects TTypes :=
  Function.update O p.1 (p.2.applied (O p.1))

/-- Every assertion holds when its entry is reached, the entries before it having been applied. -/
def AssertionsMet (m : SyncManager TTypes) (d : Diff typeCount Val) : Prop :=
  ∀ pre p post, d.changes = pre ++ p :: post → p.2.Met (pre.foldl applied m.objects p.1)

/-- An entry changes the object it is about, and no other, whatever the type. -/
theorem applied_of_ne {O : Objects TTypes} {p : Fin typeCount × Change Val} {t : Fin typeCount}
    {id : ID} (h : (p.1, p.2.id) ≠ (t, id)) : applied O p t id = O t id := by
  rw [applied]
  by_cases ht : t = p.1
  · subst ht
    have hid : id ≠ p.2.id := fun e ↦ h (by rw [e])
    rw [Function.update_self]
    cases hc : p.2 <;> rw [hc] at hid <;> exact Function.update_of_ne hid _ _
  · rw [Function.update_of_ne ht]

theorem foldl_applied_of_ne {t : Fin typeCount} {id : ID} {l : List (Fin typeCount × Change Val)}
    (h : ∀ q ∈ l, (q.1, q.2.id) ≠ (t, id)) (O : Objects TTypes) :
    l.foldl applied O t id = O t id := by
  induction l generalizing O with
  | nil => rfl
  | cons q l ih =>
    have hl := ih (fun r hr ↦ h r (List.mem_cons_of_mem _ hr)) (applied O q)
    exact hl.trans (applied_of_ne (h q List.mem_cons_self))

/-- In a diff that names no object twice, the assertions are about the manager as it is. -/
theorem assertionsMet_iff (hd : (d.changes.map fun p ↦ (p.1, p.2.id)).Nodup) :
    AssertionsMet m d ↔ ∀ p ∈ d.changes, p.2.Met (m.objects p.1) := by
  have hkeep : ∀ pre p post, d.changes = pre ++ p :: post →
      pre.foldl applied m.objects p.1 p.2.id = m.objects p.1 p.2.id := by
    intro pre p post hl
    refine foldl_applied_of_ne (fun q hq ↦ ?_) m.objects
    rw [hl, List.map_append, List.nodup_append] at hd
    exact hd.2.2 _ (List.mem_map_of_mem hq) _ (by simp)
  constructor
  · intro h p hp
    obtain ⟨pre, post, hl⟩ := List.append_of_mem hp
    exact (Change.met_congr (hkeep pre p post hl)).1 (h pre p post hl)
  · intro h pre p post hl
    exact (Change.met_congr (hkeep pre p post hl)).2 (h p (by simp [hl]))

/-- What carrying out a diff leaves when it fails: the entries `pre` have been applied, the entry
`p` has failed at field `i`, and nothing has been done about the rest. -/
structure Partial (m : SyncManager TTypes) (pre : List (Fin typeCount × Change Val))
    (p : Fin typeCount × Change Val) (i : Fin (TTypes p.1).fieldCount) (m' : SyncManager TTypes) :
    Prop where
  inv : m'.Inv
  objects : m'.objects = Function.update (pre.foldl applied m.objects) p.1
    (p.2.stopped i (pre.foldl applied m.objects p.1))
  lastID : ∀ t, (m' t).lastID = (m t).lastID
  /-- The next request of the client describes this state. -/
  snapshot : ∃ snap, m'.getSnapshot = .ok snap ∧ Describes snap m'

omit [Json Val] in
theorem objects_update (m : SyncManager TTypes) (t : Fin typeCount) (s : TypeStore (TTypes t)) :
    objects (Function.update m t s) = Function.update m.objects t s.obj? := by
  funext u
  show (Function.update m t s u).obj? = _
  by_cases hu : u = t
  · subst hu
    rw [Function.update_self, Function.update_self]
  · rw [Function.update_of_ne hu, Function.update_of_ne hu]
    rfl

omit [Json Val] in
theorem lastID_update {t : Fin typeCount} {s : TypeStore (TTypes t)}
    (hs : s.lastID = (m t).lastID) (u : Fin typeCount) :
    (Function.update m t s u).lastID = (m u).lastID := by
  by_cases hu : u = t
  · subst hu; rw [Function.update_self, hs]
  · rw [Function.update_of_ne hu]

/-- **A diff that cannot be carried out to the end** is carried out up to the first field that
cannot be converted. -/
theorem applyDiff_partial (hI : m.Inv) (hmet : AssertionsMet m d)
    (hobj : ∀ p ∈ d.changes, p.2.IsObj) (hbad : ∃ p ∈ d.changes, ¬p.2.Good (TTypes p.1)) :
    ∃ pre p post i m', d.changes = pre ++ p :: post ∧ (∀ q ∈ pre, q.2.Good (TTypes q.1)) ∧
      p.2.FailsAt (TTypes p.1) i ∧ (applyDiff d).run m = .error (.raised .badCast) m' ∧
      Partial m pre p i m' := by
  obtain ⟨pre, p, post, hl, hp, hpre⟩ := EStateM.exists_first hbad
  simp only [not_not] at hpre
  obtain ⟨i, hi⟩ := Change.exists_failsAt hp
  -- the state in which the entries `done` have been applied
  let I : List (Fin typeCount × Change Val) → SyncManager TTypes → Prop := fun done x ↦
    x.Inv ∧ x.objects = done.foldl applied m.objects ∧ ∀ t, (x t).lastID = (m t).lastID
  have hgood : ∀ done q rest x, pre = done ++ q :: rest → I done x →
      ∃ x', (onType q.1 q.2.exec).run x = .ok () x' ∧ I (done ++ [q]) x' := by
    rintro done q rest x hdone ⟨hIx, hobjects, hlast⟩
    have hq : q.2.Met (x q.1).obj? := by
      have := hmet done q (rest ++ p :: post) (by simp [hl, hdone])
      rwa [← hobjects] at this
    obtain ⟨s, hs, hIs, hobjs, hlasts⟩ := Change.run_exec_good (hIx q.1) hq
      (hobj q (by simp [hl, hdone])) (hpre q (by simp [hdone]))
    refine ⟨Function.update x q.1 s, ?_, hIx.update hIs, ?_, fun t ↦ ?_⟩
    · rw [onType, EStateM.run_focus, hs]
      rfl
    · rw [objects_update, hobjs, List.foldl_append, ← hobjects]
      rfl
    · rw [lastID_update hlasts, hlast]
  have hfail : ∀ x, I pre x → ∃ x', (onType p.1 p.2.exec).run x = .error (.raised .badCast) x' ∧
      Partial m pre p i x' := by
    rintro x ⟨hIx, hobjects, hlast⟩
    have hq : p.2.Met (x p.1).obj? := by
      have := hmet pre p post hl
      rwa [← hobjects] at this
    obtain ⟨s, hs, hIs, hobjs, hlasts⟩ := Change.run_exec_failsAt (hIx p.1) hq
      (hobj p (by simp [hl])) hi
    refine ⟨Function.update x p.1 s, ?_, hIx.update hIs, ?_, fun t ↦ ?_,
      getSnapshot_ok (hIx.update hIs)⟩
    · rw [onType, EStateM.run_focus, hs]
      rfl
    · rw [objects_update, hobjs, ← hobjects]
      rfl
    · rw [lastID_update hlasts, hlast]
  obtain ⟨m', hrun, hpartial⟩ := EStateM.run_forM_error (I := I) ⟨hI, rfl, fun _ ↦ rfl⟩ hl hgood
    hfail
  rw [← applyDiff_eq] at hrun
  exact ⟨pre, p, post, i, m', hl, hpre, hi, hrun, hpartial⟩

end SyncManager

namespace Chat

open SyncManager

/-- A message with a number for an author, which cannot be read as a string. -/
def badMessage : JsonTree :=
  Json.ofObj (((∅ : Obj JsonTree).insert "0" (.int 0)).insert "1" (.int 5))

/-- A diff that creates it, under the first identifier. -/
def badDiff : Diff 1 JsonTree := ⟨fun _ ↦ ⟨(∅ : OrdMap ID JsonTree).insert 0 badMessage, ∅, []⟩⟩

theorem changes_badDiff : badDiff.changes = [(messages, .create 0 badMessage)] := rfl

theorem assertionsMet_badDiff : AssertionsMet (fresh types) badDiff := by
  refine (assertionsMet_iff (by rw [changes_badDiff]; simp)).2 fun p hp ↦ ?_
  rw [changes_badDiff, List.mem_singleton] at hp
  subst hp
  exact ⟨⟨⟨0, by decide⟩, rfl⟩, rfl⟩

theorem isObj_badDiff : ∀ p ∈ badDiff.changes, p.2.IsObj := by
  intro p hp v hv
  rw [changes_badDiff, List.mem_singleton] at hp
  subst hp
  cases hv
  exact ⟨_, rfl⟩

theorem applyDiff_partial_badDiff : ∃ pre p post i m', badDiff.changes = pre ++ p :: post ∧
    (applyDiff badDiff).run (fresh types) = .error (.raised .badCast) m' ∧
    Partial (fresh types) pre p i m' := by
  have hbad : ∃ p ∈ badDiff.changes, ¬p.2.Good (types p.1) := by
    refine ⟨_, List.mem_singleton.2 rfl, fun hgood ↦ ?_⟩
    have := hgood badMessage rfl (1 : Fin 3) (.int 5) rfl
    exact absurd this (by decide)
  obtain ⟨pre, p, post, i, m', hl, -, -, hrun, hpartial⟩ :=
    applyDiff_partial inv_fresh assertionsMet_badDiff isObj_badDiff hbad
  exact ⟨pre, p, post, i, m', hl, hrun, hpartial⟩

/-- **A message that could not be created** is alive all the same, and part of what the client
describes next. -/
theorem failed_creation_stays : (fresh types).Inv ∧ AssertionsMet (fresh types) badDiff ∧
    ¬(fresh types messages).Alive 0 ∧ ∃ m' snap,
      (applyDiff badDiff).run (fresh types) = .error (.raised .badCast) m' ∧
      (m' messages).Alive 0 ∧ m'.getSnapshot = .ok snap ∧
      0 ∈ (snap.typeDatas messages).items := by
  refine ⟨inv_fresh, assertionsMet_badDiff, by decide, _, _, rfl, rfl, rfl, ?_⟩
  decide

end Chat

end AutoSync
