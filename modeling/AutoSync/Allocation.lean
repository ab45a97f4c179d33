import AutoSync.Sync

/-!
# The identifiers of new objects

A server takes the identifier of a new object from a counter that only ever grows.  The alive
bitset has `maxObjs` positions, so what counts against the limit is not how many objects are alive
but how many have ever been created: an identifier that has been freed is not used again.

`Counts` is the invariant of a store that only a server changes: the counter is the number of
creations, and every alive identifier is below it.  As long as that number is below `maxObjs` a
creation finds a free position; from then on no creation succeeds, however few objects are alive,
and each of them still moves the counter.  `allocates_iff` is the two together.
-/

set_option autoImplicit false

namespace AutoSync

variable {Val : Type}

namespace TypeStore

variable {T : ObjType Val} {s s' : TypeStore T} {n : ℕ}

/-- The number of alive objects, counted by their bits. -/
def aliveCount (s : TypeStore T) : ℕ := (List.finRange maxObjs).countP fun j ↦ s.bitsetIDs j

theorem aliveCount_le (s : TypeStore T) : s.aliveCount ≤ maxObjs :=
  List.countP_le_length.trans_eq (List.length_finRange)

theorem aliveCount_lt {j : Fin maxObjs} (hj : s.bitsetIDs j = false) : s.aliveCount < maxObjs := by
  refine lt_of_le_of_ne s.aliveCount_le fun h ↦ ?_
  have hall := List.countP_eq_length.1 (h.trans (List.length_finRange (n := maxObjs)).symm)
  exact absurd (hall j (List.mem_finRange j)) (by simp [hj])

/-- The counter has given out `n` identifiers, and only these may be alive. -/
structure Counts (s : TypeStore T) (n : ℕ) : Prop where
  lastID : s.lastID = (n : ℤ)
  alive : ∀ id, s.Alive id → id < n

theorem counts_fresh : (fresh T).Counts 0 := by
  refine ⟨rfl, fun id h ↦ ?_⟩
  obtain ⟨j, -, hj⟩ := h.exists_objID
  exact absurd hj (by simp [fresh])

theorem Counts.mono (h : s.Counts n) (hlast : s'.lastID = s.lastID)
    (halive : ∀ id, s'.Alive id → s.Alive id) : s'.Counts n :=
  ⟨hlast.trans h.lastID, fun id hid ↦ h.alive id (halive id hid)⟩

theorem Counts.created {j : Fin maxObjs} {o : SyncObj T} (h : s.Counts n)
    (hj : s.lastID = objID j) : (s.counted.created j o).Counts (n + 1) := by
  refine ⟨by simp [TypeStore.created, h.lastID], fun id hid ↦ ?_⟩
  rw [Int.natCast_succ]
  rcases alive_created.1 hid with rfl | hid
  · rw [← hj, h.lastID]
    exact Int.lt_succ _
  · exact (h.alive id hid).trans (Int.lt_succ _)

/-- The identifier in the counter is free, as long as it is in range. -/
theorem Counts.exists_objID (h : s.Counts n) (hn : n < maxObjs) :
    ∃ j, s.lastID = objID j ∧ s.bitsetIDs j = false := by
  have hlast : s.lastID = objID ⟨n, hn⟩ := h.lastID
  refine ⟨⟨n, hn⟩, hlast, ?_⟩
  rw [← Bool.not_eq_true, ← alive_objID]
  exact fun ha ↦ lt_irrefl (n : ℤ) (h.alive _ ha)

end TypeStore

namespace SyncManager

variable {typeCount : ℕ} {TTypes : Fin typeCount → ObjType Val} {m m' : SyncManager TTypes}
  {t : Fin typeCount}

/-- Does the operation create an object of type `t`, as the server does? -/
def Op.createsAt (t : Fin typeCount) : Op TTypes → Bool
  | serverCreate u _ => decide (u = t)
  | _ => false

/-- The number of objects of type `t` the operations create, removed or not. -/
def creates (t : Fin typeCount) (ops : List (Op TTypes)) : ℕ := ops.countP (Op.createsAt t)

/-- A change of one type that leaves its count alone, and the others anyway. -/
theorem counts_update {u : Fin typeCount} {s : TypeStore (TTypes u)} {n : ℕ} (h : (m t).Counts n)
    (hs : ∀ k, (m u).Counts k → s.Counts k) : (Function.update m u s t).Counts n := by
  by_cases hu : t = u
  · subst hu
    rw [Function.update_self]
    exact hs n h
  · rwa [Function.update_of_ne hu]

variable [Json Val]

/-- A step of a server adds its creation to the count, if it is one. -/
theorem Step.counts {op : Op TTypes} (hs : Step m op m') (hI : m.Inv)
    (hop : op.isServerOp = true) {ops : List (Op TTypes)} (h : (m t).Counts (creates t ops)) :
    (m' t).Counts (creates t (ops ++ [op])) := by
  rw [creates, List.countP_append, List.countP_singleton, ← creates]
  cases op with
  | serverCreate u v =>
    obtain ⟨s, hq, rfl⟩ := survives_onType (Survives.of_ignored hs)
    obtain ⟨j, o, hj, -, rfl⟩ := TypeStore.serverCreate_survives hq
    by_cases hu : t = u
    · subst hu
      rw [Function.update_self]
      simpa [Op.createsAt] using h.created hj
    · simpa [Op.createsAt, Function.update_of_ne hu, Ne.symm hu] using h
  | edit u id i x =>
    obtain ⟨s, hq, rfl⟩ := survives_onType hs
    obtain ⟨a, o, ha, -, rfl⟩ := TypeStore.edit_survives (hI u).live hq
    exact counts_update h fun k hk ↦ hk.mono rfl fun _ hid ↦ hid
  | onReceivedPacketRemove u id =>
    obtain ⟨s, hq, rfl⟩ := survives_onType hs
    obtain ⟨j, a, -, -, rfl⟩ := TypeStore.removeImpl_survives (hI u).live hq
    exact counts_update h fun k hk ↦ hk.mono rfl fun _ hid ↦ (TypeStore.alive_removed.1 hid).2
  | _ => exact absurd hop (by simp [Op.isServerOp])

/-- **The counter of a server** is the number of its creations, and bounds what is alive. -/
theorem counts_of_reaches {ops : List (Op TTypes)} (h : Reaches ops m)
    (hops : ∀ op ∈ ops, op.isServerOp = true) : m.Inv ∧ (m t).Counts (creates t ops) := by
  induction h with
  | nil => exact ⟨inv_fresh, TypeStore.counts_fresh⟩
  | @snoc ops op m m' hr hs ih =>
    obtain ⟨hI, hcount⟩ := ih fun op hop ↦ hops op (List.mem_append_left _ hop)
    have hop := hops op (by simp)
    refine ⟨hs.inv hI ?_, hs.counts hI hop hcount⟩
    cases op with
    | getHandleFor u id => exact absurd hop (by simp [Op.isServerOp])
    | _ => trivial

/-! ## What a creation is meant to do

The documentation speaks of the first unique identifier that is available, so that a creation should
succeed as long as there is room.  `Allocates` is that, with what has to come of the object: it
takes part in what is sent. -/

variable [DecidableEq Val] {v : Val}

/-- The object is in the next snapshot, and in its difference with the last one it is created. -/
def TakesPart (m m' : SyncManager TTypes) (t : Fin typeCount) (id : ID) : Prop :=
  ∃ before after d, m.getSnapshot = .ok before ∧ m'.getSnapshot = .ok after ∧
    after.getDiffWith before = .ok (d, after) ∧ id ∈ (after.typeDatas t).items ∧
    id ∈ (d.typeDatas t).toCreate

/-- What a creation by the server is meant to do, in the state `m`. -/
structure Allocates (m : SyncManager TTypes) (t : Fin typeCount) (v : Val) : Prop where
  /-- With room for another object it uses a position of the bitset that is free. -/
  inRange : (m t).aliveCount < maxObjs → ∃ j s s',
    (TypeStore.getFirstFreeID (T := TTypes t)).run (m t) = .ok (objID j) s ∧
    (TypeStore.isPresent (objID j)).run s = .ok false s ∧
    (TypeStore.setPresent (objID j) true).run s = .ok () s' ∧
    TakesPart m ((SyncManager.serverCreate t v).run m).state t (objID j)
  /-- Without room, it is refused and changes nothing. -/
  rejected : (m t).aliveCount = maxObjs → ∃ e, (SyncManager.serverCreate t v).run m = .error e m

omit [DecidableEq Val] in
/-- A creation at a free position, as a whole: the object is there whether or not its fields could
be read. -/
theorem state_serverCreate {j : Fin maxObjs} (hj : (m t).lastID = objID j)
    (hbit : (m t).bitsetIDs j = false) : ∃ o, ((SyncManager.serverCreate t v).run m).state =
      Function.update m t ((m t).counted.created j o) := by
  rw [SyncManager.serverCreate, onType, EStateM.run_focus, EStateM.Result.state_mapState,
    TypeStore.run_serverCreate hj hbit]
  cases (SerializationHelper.setFromJson v).run (SyncObj.fresh (TTypes t)) with
  | ok u o => exact ⟨o, rfl⟩
  | error e o => exact ⟨o, rfl⟩

/-- A new object takes part, since its bit is set and it has a handle. -/
theorem takesPart_created (hI : m.Inv) {j : Fin maxObjs} (hbit : (m t).bitsetIDs j = false)
    (o : SyncObj (TTypes t)) :
    TakesPart m (Function.update m t ((m t).counted.created j o)) t (objID j) := by
  have hI' : Inv (Function.update m t ((m t).counted.created j o)) :=
    hI.update ((hI t).counted.created hbit)
  obtain ⟨before, hbefore, hdesc⟩ := getSnapshot_ok hI
  obtain ⟨after, hafter, hdesc'⟩ := getSnapshot_ok hI'
  obtain ⟨d, hd, hbetween⟩ := getDiffWith_ok hI' hI hdesc' hdesc
  have hnew : (Function.update m t ((m t).counted.created j o) t).obj? (objID j) = some o := by
    rw [Function.update_self, (hI t).counted.obj?_created, if_pos rfl]
  refine ⟨before, after, d, hbefore, hafter, hd, ?_, (hbetween t).mem_toCreate.2 ⟨?_, o, hnew⟩⟩
  · rw [OrdMap.mem_iff_lookup, hdesc'.typeDatas t, hnew]
    exact ⟨_, rfl⟩
  · exact (hI t).bit_eq_false_iff.1 hbit

/-- Whether a creation does what it is meant to depends on the counter alone, and not on what is
alive. -/
theorem allocates_iff_lastID {n : ℕ} (hI : m.Inv) (hn : (m t).Counts n) :
    Allocates m t v ↔ n < maxObjs := by
  constructor
  · intro h
    rcases (m t).aliveCount_le.lt_or_eq with hlt | heq
    · obtain ⟨j, s, -, hrun, -⟩ := h.inRange hlt
      rw [TypeStore.run_getFirstFreeID, hn.lastID] at hrun
      have hj : (n : ℤ) = objID j := (EStateM.Result.ok.inj hrun).1
      exact Int.ofNat_inj.1 hj ▸ j.isLt
    · obtain ⟨e, hrun⟩ := h.rejected heq
      obtain hr | ⟨j, -, hbit⟩ := TypeStore.serverCreate_cases v (m t)
      · -- a creation that is refused has already moved the counter
        have hstate := congrArg (fun r ↦ (EStateM.Result.state r t).lastID) hrun
        simp only [SyncManager.serverCreate, onType, EStateM.run_focus,
          EStateM.Result.state_mapState, hr.state, Function.update_self,
          TypeStore.lastID_counted, EStateM.Result.state_error] at hstate
        exact absurd hstate (Int.lt_succ _).ne'
      · exact absurd heq (TypeStore.aliveCount_lt hbit).ne
  · intro hlt
    obtain ⟨j, hj, hbit⟩ := hn.exists_objID hlt
    refine ⟨fun _ ↦ ?_, fun hfull ↦ absurd hfull (TypeStore.aliveCount_lt hbit).ne⟩
    obtain ⟨o, ho⟩ := state_serverCreate (v := v) hj hbit
    refine ⟨j, _, _, by rw [TypeStore.run_getFirstFreeID, hj], ?_, TypeStore.run_setPresent j _ _,
      ?_⟩
    · rw [TypeStore.run_isPresent_objID, TypeStore.bitsetIDs_counted, hbit]
    · rw [ho]
      exact takesPart_created hI hbit o

/-- **When a creation does what it is meant to**, in every state a server can reach: as long as
fewer than `maxObjs` objects of its type have been created. -/
theorem allocates_iff {ops : List (Op TTypes)} (h : Reaches ops m)
    (hops : ∀ op ∈ ops, op.isServerOp = true) : Allocates m t v ↔ creates t ops < maxObjs := by
  obtain ⟨hI, hn⟩ := counts_of_reaches (t := t) h hops
  exact allocates_iff_lastID hI hn

end SyncManager

namespace Chat

open SyncManager

/-- Messages are created and removed again, one after the other, `n` of them. -/
def churn : ℕ → List (Op types)
  | 0 => []
  | n + 1 => churn n ++ [.serverCreate messages (messageVal 0 "ann" "hello"),
      .onReceivedPacketRemove messages n]

theorem isServerOp_of_mem_churn {op : Op types} :
    ∀ {n : ℕ}, op ∈ churn n → op.isServerOp = true
  | 0, h => absurd h (by simp [churn])
  | n + 1, h => by
    rcases List.mem_append.1 h with h | h
    · exact isServerOp_of_mem_churn h
    · simp only [List.mem_cons, List.not_mem_nil, or_false] at h
      rcases h with rfl | rfl <;> rfl

theorem creates_churn (n : ℕ) : creates messages (churn n) = n := by
  induction n with
  | zero => rfl
  | succ n ih => rw [churn, creates, List.countP_append, ← creates, ih]; rfl

/-- As long as the identifiers last, the messages come and go, and none of them stays. -/
theorem reaches_churn : ∀ {n : ℕ}, n ≤ maxObjs →
    ∃ m : SyncManager types, Reaches (churn n) m ∧ ∀ j, (m messages).bitsetIDs j = false
  | 0, _ => ⟨_, .nil, fun _ ↦ rfl⟩
  | n + 1, hn => by
    obtain ⟨m, h, hempty⟩ := reaches_churn (Nat.le_of_succ_le hn)
    obtain ⟨-, hcount⟩ := counts_of_reaches (t := messages) h fun _ ↦ isServerOp_of_mem_churn
    rw [creates_churn] at hcount
    obtain ⟨j, hj, hbit⟩ := hcount.exists_objID hn
    obtain ⟨m₁, hcreate, hm₁⟩ : ∃ m₁, Step m (.serverCreate messages _) m₁ ∧
        m₁ messages = (m messages).counted.created j (message 0 "ann" "hello") :=
      ⟨_, .serverCreate (run_serverCreate hj hbit (run_setFromJson_messageVal 0 "ann" "hello")),
        Function.update_self ..⟩
    have hremove := Step.onReceivedPacketRemove (m := m₁) (t := messages) (j := j)
      (by simp [hm₁, TypeStore.created]) (by rw [hm₁]; exact TypeStore.handleMap_created _ j _)
    rw [← hj, hcount.lastID, hm₁] at hremove
    refine ⟨_, by simpa [churn] using (h.snoc hcreate).snoc hremove, fun i ↦ ?_⟩
    simp [TypeStore.created, TypeStore.removed, Function.update_apply, hempty]

/-- **A server that has created and removed `maxObjs` messages** has none alive, and cannot create
another one. -/
theorem no_identifier_left : ∃ m : SyncManager types, Reaches (churn maxObjs) m ∧
    (∀ op ∈ churn maxObjs, op.isServerOp = true) ∧ (m messages).aliveCount = 0 ∧
    ¬Allocates m messages (messageVal 0 "ann" "hello") := by
  obtain ⟨m, h, hempty⟩ := reaches_churn le_rfl
  obtain ⟨hI, hcount⟩ := counts_of_reaches (t := messages) h fun _ ↦ isServerOp_of_mem_churn
  rw [creates_churn] at hcount
  refine ⟨m, h, fun _ ↦ isServerOp_of_mem_churn, ?_, ?_⟩
  · simp [TypeStore.aliveCount, hempty]
  · rw [allocates_iff_lastID hI hcount]
    exact lt_irrefl maxObjs

theorem allocates_iff_churn : ∃ m : SyncManager types, Reaches (churn 1) m ∧
    Allocates m messages (messageVal 0 "ann" "hello") := by
  obtain ⟨m, h, -⟩ := reaches_churn (n := 1) (by decide)
  exact ⟨m, h, (allocates_iff h fun _ ↦ isServerOp_of_mem_churn).2 (by decide)⟩

end Chat

end AutoSync
