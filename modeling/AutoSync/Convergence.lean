import AutoSync.Sync

/-!
# One server, any number of clients

The server creates, edits and removes objects.  Each client now and then sends its snapshot to the
server, the server answers with the diff between its own snapshot and the client's, and the client
carries the diff out.  A client has one exchange going on at most; requests and answers take as
long as they take, or are lost; in between everybody else goes on.

`SyncSession.Step` is that system.  An answer in flight is kept together with the manager the
server had when it answered, which nothing in the system looks at: it is there to say what the
answer is about.

The system is simulated by `PullSync.System` (`Step.simulated`), and the invariant found there —
the server's flags tell the truth about every client and about every answer in flight — is what
makes `converges` true: no step of an exchange can fail, and a client that carries out an answer
holds the objects the server had when it answered.
-/

set_option autoImplicit false

namespace AutoSync

open Transition SyncManager

variable {Val : Type} [DecidableEq Val] [Json Val] {typeCount : ℕ} {C : Type} [DecidableEq C]

/-- How far the exchange of a client has got, and what is under way. -/
inductive SyncExchange (TTypes : Fin typeCount → ObjType Val)
  /-- Nothing is under way, and the client may send a request. -/
  | idle
  /-- The client's snapshot is on its way to the server, as it was when the client sent it. -/
  | requested (clientSnapshot : Snapshot typeCount Val)
  /-- The diff is on its way to the client; the server was `server` when it sent it. -/
  | satisfied (diff : Diff typeCount Val) (server : SyncManager TTypes)

/-- The managers of the server and of the clients, and the exchanges between them, one for each
client. -/
structure SyncSession (C : Type) (TTypes : Fin typeCount → ObjType Val) where
  server : SyncManager TTypes
  client : C → SyncManager TTypes
  exchange : C → SyncExchange TTypes

namespace SyncSession

variable {TTypes : Fin typeCount → ObjType Val} {σ σ' : SyncSession C TTypes}

/-- Every manager has just been constructed, and nothing is under way. -/
def init (C : Type) (TTypes : Fin typeCount → ObjType Val) : SyncSession C TTypes where
  server := fresh TTypes
  client _ := fresh TTypes
  exchange _ := .idle

/-- What can happen: something at the server, a part of an exchange, or a loss. -/
inductive Event (C : Type) (TTypes : Fin typeCount → ObjType Val)
  | serverCreate (t : Fin typeCount) (mVal : Val)
  | edit (t : Fin typeCount) (mID : ID) (i : Fin (TTypes t).fieldCount)
    (x : ((TTypes t).TypeAt i).Carrier)
  | onReceivedPacketRemove (t : Fin typeCount) (mID : ID)
  | sendSyncRequest (c : C)
  | handleSyncRequest (c : C)
  | handleSyncRequestSatisfy (c : C)
  | lose (c : C)

/-- A step of the system, in which the operation of the source goes through. -/
inductive Step (σ : SyncSession C TTypes) : Event C TTypes → SyncSession C TTypes → Prop
  | serverCreate {t mVal s} (h : Survives ((SyncManager.serverCreate t mVal).run σ.server) s) :
      Step σ (.serverCreate t mVal) { σ with server := s }
  | edit {t mID i x s} (h : Survives ((onType t (TypeStore.edit mID i x)).run σ.server) s) :
      Step σ (.edit t mID i x) { σ with server := s }
  | onReceivedPacketRemove {t mID s}
      (h : Survives ((SyncManager.onReceivedPacketRemove t mID).run σ.server) s) :
      Step σ (.onReceivedPacketRemove t mID) { σ with server := s }
  | sendSyncRequest {c snap} (h : σ.exchange c = .idle)
      (hsnap : (σ.client c).getSnapshot = .ok snap) :
      Step σ (.sendSyncRequest c)
        { σ with exchange := Function.update σ.exchange c (.requested snap) }
  | handleSyncRequest {c clientSnapshot serverSnapshot left d}
      (h : σ.exchange c = .requested clientSnapshot)
      (hsnap : σ.server.getSnapshot = .ok serverSnapshot)
      (hdiff : serverSnapshot.getDiffWith clientSnapshot = .ok (d, left)) :
      Step σ (.handleSyncRequest c)
        { σ with exchange := Function.update σ.exchange c (.satisfied d σ.server) }
  | handleSyncRequestSatisfy {c d server m} (h : σ.exchange c = .satisfied d server)
      (hrun : Survives ((applyDiff d).run (σ.client c)) m) :
      Step σ (.handleSyncRequestSatisfy c)
        { σ with
          client := Function.update σ.client c m
          exchange := Function.update σ.exchange c .idle }
  | lose {c} : Step σ (.lose c) { σ with exchange := Function.update σ.exchange c .idle }

/-! ## The simulation

The session is simulated by the pull protocol of the library.  The server is the origin, its objects
are the records, and the keys that it has used are those below its counters; an answer stands for
the records that the server had when it gave it. -/

/-- The keys the server has used, which are those below the counter of their type. -/
def usedKeys (m : SyncManager TTypes) : Set (Fin typeCount × ID) := { k | k.2 < (m k.1).lastID }

/-- An exchange of a client that holds `m`, and the abstract exchange it stands for. -/
inductive SimulatesExchange (m : SyncManager TTypes) :
    SyncExchange TTypes → PullSync.Exchange (FieldValue TTypes) → Prop
  | idle : SimulatesExchange m .idle .idle
  | requested {snap} (h : Describes snap m) : SimulatesExchange m (.requested snap) .asked
  | satisfied {d server} (hI : server.Inv) (h : Between d server m) :
      SimulatesExchange m (.satisfied d server) (.answered server.records)

/-- The session and the abstract system it stands for, with the invariants of all managers. -/
structure Simulates (σ : SyncSession C TTypes)
    (a : PullSync.System C (FieldValue TTypes)) : Prop where
  server_inv : σ.server.Inv
  client_inv : ∀ c, (σ.client c).Inv
  origin : a.origin = σ.server.records
  used : a.used = usedKeys σ.server
  client : ∀ c, a.client c = (σ.client c).values
  exchange : ∀ c, SimulatesExchange (σ.client c) (σ.exchange c) (a.exchange c)

omit [DecidableEq Val] [Json Val] in
theorem records_fresh : (fresh TTypes).records = fun _ ↦ none := by
  funext k
  simp [records, fresh, TypeStore.obj?_fresh]

omit [DecidableEq C] in
theorem simulates_init : Simulates (init C TTypes)
    (PullSync.System.init C (FieldValue TTypes) (usedKeys (fresh TTypes))) where
  server_inv := inv_fresh
  client_inv _ := inv_fresh
  origin := records_fresh.symm
  used := rfl
  client c := by
    simp only [init, SyncManager.values, records_fresh]
    rfl
  exchange _ := .idle

section

variable {a : PullSync.System C (FieldValue TTypes)} {c : C}

omit [DecidableEq C] in
theorem Simulates.of_idle (h : Simulates σ a) (hc : σ.exchange c = .idle) :
    a.exchange c = .idle := by
  have hx := h.exchange c
  rw [hc] at hx
  generalize a.exchange c = y at hx
  cases hx
  rfl

omit [DecidableEq C] in
theorem Simulates.of_requested {snap : Snapshot typeCount Val} (h : Simulates σ a)
    (hc : σ.exchange c = .requested snap) :
    a.exchange c = .asked ∧ Describes snap (σ.client c) := by
  have hx := h.exchange c
  rw [hc] at hx
  generalize a.exchange c = y at hx
  cases hx with
  | requested hdesc => exact ⟨rfl, hdesc⟩

omit [DecidableEq C] in
theorem Simulates.of_satisfied {d : Diff typeCount Val} {server : SyncManager TTypes}
    (h : Simulates σ a) (hc : σ.exchange c = .satisfied d server) :
    a.exchange c = .answered server.records ∧ server.Inv ∧ Between d server (σ.client c) := by
  have hx := h.exchange c
  rw [hc] at hx
  generalize a.exchange c = y at hx
  cases hx with
  | satisfied hI hbetween => exact ⟨rfl, hI, hbetween⟩

end

/-- Replacing the exchange of one client, by one that stands for something. -/
theorem Simulates.update_exchange {a : PullSync.System C (FieldValue TTypes)} (h : Simulates σ a)
    {c : C} {x : SyncExchange TTypes} {y : PullSync.Exchange (FieldValue TTypes)}
    (hxy : SimulatesExchange (σ.client c) x y) :
    Simulates { σ with exchange := Function.update σ.exchange c x }
      { a with exchange := Function.update a.exchange c y } :=
  { h with
    exchange := fun d ↦ by
      by_cases hd : d = c
      · subst hd; simpa using hxy
      · simpa [Function.update_of_ne hd] using h.exchange d }

/-- Replacing the objects of one client, whose exchange is over with that. -/
theorem Simulates.update_client {a : PullSync.System C (FieldValue TTypes)} (h : Simulates σ a)
    {c : C} (hc : σ.exchange c = .idle) {m : SyncManager TTypes} (hm : m.Inv) :
    Simulates { σ with client := Function.update σ.client c m }
      { a with client := Function.update a.client c m.values } :=
  { h with
    client_inv := fun d ↦ by
      by_cases hd : d = c
      · subst hd; simpa using hm
      · simpa [Function.update_of_ne hd] using h.client_inv d
    client := fun d ↦ by
      by_cases hd : d = c
      · subst hd; simp
      · simpa [Function.update_of_ne hd] using h.client d
    exchange := fun d ↦ by
      by_cases hd : d = c
      · subst hd
        rw [h.of_idle hc, hc]
        exact .idle
      · simpa [Function.update_of_ne hd] using h.exchange d }

omit [DecidableEq C] in
/-- Replacing one type of the server, by a change that the origin can make. -/
theorem Simulates.update_server {a : PullSync.System C (FieldValue TTypes)} (h : Simulates σ a)
    {t : Fin typeCount} {s : TypeStore (TTypes t)} (id : ID) (o : Option (SyncObj (TTypes t)))
    {used : Set (Fin typeCount × ID)} (hs : s.Inv)
    (hobj : ∀ id', s.obj? id' = if id' = id then o else (σ.server t).obj? id')
    (hused : used = usedKeys (Function.update σ.server t s)) :
    Simulates { σ with server := Function.update σ.server t s }
      { a with
        origin := Function.update a.origin (t, id) (o.map SyncObj.record)
        used := used } :=
  { h with
    server_inv := h.server_inv.update hs
    origin := by
      show Function.update a.origin (t, id) _ = _
      rw [h.origin, records_update hobj]
    used := hused }

omit [DecidableEq Val] [Json Val] in
/-- The counter of one type going up uses one key, which was not used before. -/
theorem usedKeys_succ {m : SyncManager TTypes} {t : Fin typeCount} {s : TypeStore (TTypes t)}
    (hs : s.lastID = (m t).lastID + 1) :
    usedKeys (Function.update m t s) = insert (t, (m t).lastID) (usedKeys m) := by
  ext ⟨u, id⟩
  simp only [usedKeys, Set.mem_ofPred_eq, Set.mem_insert_iff, Prod.mk.injEq]
  by_cases hu : u = t
  · subst hu
    rw [Function.update_self, hs, Int.lt_add_one_iff, le_iff_eq_or_lt]
    simp
  · rw [Function.update_of_ne hu]
    simp [hu]

omit [DecidableEq Val] [Json Val] in
/-- A change of the server that leaves the counter alone uses no key. -/
theorem usedKeys_update {m : SyncManager TTypes} {t : Fin typeCount} {s : TypeStore (TTypes t)}
    (hs : s.lastID = (m t).lastID) : usedKeys (Function.update m t s) = usedKeys m := by
  ext ⟨u, id⟩
  simp only [usedKeys, Set.mem_ofPred_eq]
  by_cases hu : u = t
  · subst hu; rw [Function.update_self, hs]
  · rw [Function.update_of_ne hu]

/-- **A step of the session is a step of the protocol**, in which the server is the origin and an
answer that is carried out is a pull. -/
theorem Step.simulated (hn : ∀ t, (TTypes t).fieldCount ≤ maxObjs) {e : Event C TTypes}
    (hs : Step σ e σ') {a : PullSync.System C (FieldValue TTypes)} (h : Simulates σ a) :
    ∃ l a', PullSync.Step a l a' ∧ Simulates σ' a' := by
  cases hs with
  | @serverCreate t mVal s hrun =>
    obtain ⟨q, hq, rfl⟩ := survives_onType hrun
    obtain ⟨j, o, hj, hbit, rfl⟩ := TypeStore.serverCreate_survives hq
    have hI := (h.server_inv t).counted
    refine ⟨none, _, .create (t, (σ.server t).lastID) o.record ?_, ?_⟩
    · rw [h.used]; exact lt_irrefl (σ.server t).lastID
    · exact h.update_server (σ.server t).lastID (some o) (hI.created hbit)
        (fun id' ↦ by rw [hI.obj?_created, hj]; rfl) (by rw [h.used, usedKeys_succ]; rfl)
  | @edit t mID i x s hrun =>
    obtain ⟨q, hq, rfl⟩ := survives_onType hrun
    obtain ⟨ad, o, had, ho, rfl⟩ := TypeStore.edit_survives (h.server_inv t).live hq
    have ho' : a.origin (t, mID) = some o.record := by
      rw [h.origin]; simp [records, ho]
    refine ⟨none, _, .edit (t, mID) o.record ho' i x, ?_⟩
    exact h.update_server mID (some (o.edit i x)) ((h.server_inv t).store had)
      ((h.server_inv t).obj?_store had) (by rw [h.used, usedKeys_update]; rfl)
  | @onReceivedPacketRemove t mID s hrun =>
    obtain ⟨q, hq, rfl⟩ := survives_onType hrun
    obtain ⟨j, ad, rfl, had, rfl⟩ := TypeStore.removeImpl_survives (h.server_inv t).live hq
    refine ⟨none, _, .remove (t, objID j), ?_⟩
    exact h.update_server (objID j) none ((h.server_inv t).removed had)
      ((h.server_inv t).obj?_removed had) (by rw [h.used, usedKeys_update]; rfl)
  | @sendSyncRequest c snap hc hsnap =>
    have hdesc := (h.client_inv c).describes hsnap
    exact ⟨some c, _, .ask (h.of_idle hc), h.update_exchange (.requested hdesc)⟩
  | @handleSyncRequest c clientSnapshot serverSnapshot left d hc hsnap hdiff =>
    obtain ⟨ha, hdesc⟩ := h.of_requested hc
    have hbetween := (h.server_inv.describes hsnap).between hdesc h.server_inv (h.client_inv c)
      hdiff
    exact ⟨some c, _, .answer ha, h.update_exchange (h.origin ▸ .satisfied h.server_inv hbetween)⟩
  | @handleSyncRequestSatisfy c d server m hc hrun =>
    obtain ⟨ha, hI, hbetween⟩ := h.of_satisfied hc
    obtain ⟨m', hrun', hI', hobj⟩ := run_sync hI (h.client_inv c) hbetween
    rw [hrun'] at hrun
    cases hrun
    refine ⟨some c, _, .apply _ ha, ?_⟩
    rw [h.client, ← values_of_synced hn hobj]
    -- the exchange is over first, then the client's objects change
    exact (h.update_exchange .idle).update_client (Function.update_self ..) hI'
  | @lose c => exact ⟨some c, _, .lose, h.update_exchange .idle⟩

theorem simulated_of_run (hn : ∀ t, (TTypes t).fieldCount ≤ maxObjs) {es : List (Event C TTypes)}
    (h : Run Step (init C TTypes) es σ) :
    ∃ fs a, Run PullSync.Step (PullSync.System.init C (FieldValue TTypes) (usedKeys (fresh TTypes)))
      fs a ∧ Simulates σ a :=
  h.simulate simulates_init fun _ _ _ _ hR hs ↦ by
    obtain ⟨l, a', ha, hR'⟩ := hs.simulated hn hR
    exact ⟨[l], a', .single ha, hR'⟩

/-! ## Convergence

Every state of a run is simulated, so that the invariant of the protocol holds in it.  That no step
of an exchange can fail follows from the invariants of the managers, and that a client becomes level
with the server from the law of the pull. -/

section

variable {es : List (Event C TTypes)} {c : C} (hn : ∀ t, (TTypes t).fieldCount ≤ maxObjs)
  (h : Run Step (init C TTypes) es σ)

include hn h

theorem inv_of_run : σ.server.Inv ∧ ∀ c, (σ.client c).Inv := by
  obtain ⟨-, a, -, hR⟩ := simulated_of_run hn h
  exact ⟨hR.server_inv, hR.client_inv⟩

/-- A client can always send its snapshot, as its manager satisfies the invariant. -/
theorem exists_request : ∃ snap, (σ.client c).getSnapshot = .ok snap := by
  obtain ⟨snap, hsnap, -⟩ := getSnapshot_ok ((inv_of_run hn h).2 c)
  exact ⟨snap, hsnap⟩

/-- The server can answer every request, whatever has happened since it was sent. -/
theorem exists_answer {clientSnapshot : Snapshot typeCount Val}
    (hc : σ.exchange c = .requested clientSnapshot) :
    ∃ serverSnapshot d left, σ.server.getSnapshot = .ok serverSnapshot ∧
      serverSnapshot.getDiffWith clientSnapshot = .ok (d, left) := by
  obtain ⟨-, a, -, hR⟩ := simulated_of_run hn h
  obtain ⟨-, hdesc⟩ := hR.of_requested hc
  obtain ⟨snap, hsnap, hdesc'⟩ := getSnapshot_ok hR.server_inv
  obtain ⟨d, hd, -⟩ := getDiffWith_ok hR.server_inv (hR.client_inv c) hdesc' hdesc
  exact ⟨snap, d, _, hsnap, hd⟩

/-- Carrying out an answer goes through, and gives the client the objects the server had when it
answered. -/
theorem exists_applied {d : Diff typeCount Val} {server : SyncManager TTypes}
    (hc : σ.exchange c = .satisfied d server) :
    ∃ m, (applyDiff d).run (σ.client c) = .ok () m ∧
      (∀ t, (m t).bitsetIDs = (server t).bitsetIDs) ∧ m.values = server.values := by
  obtain ⟨fs, a, hrun, hR⟩ := simulated_of_run hn h
  obtain ⟨ha, hI, hbetween⟩ := hR.of_satisfied hc
  obtain ⟨m, hm, hIm, hobj⟩ := run_sync hI (hR.client_inv c) hbetween
  refine ⟨m, hm, bitsetIDs_of_synced hI hIm hobj, ?_⟩
  rw [values_of_synced hn hobj, ← hR.client c]
  exact PullSync.pull_eq_values_of_run hrun ha

/-- **Convergence.**  In every run no step of an exchange fails, and a client that carries out an
answer has alive exactly the identifiers, with exactly the field values, that the server had when
it answered. -/
theorem converges (c : C) :
    (∃ snap, (σ.client c).getSnapshot = .ok snap) ∧
    (∀ clientSnapshot, σ.exchange c = .requested clientSnapshot →
      ∃ serverSnapshot d left, σ.server.getSnapshot = .ok serverSnapshot ∧
        serverSnapshot.getDiffWith clientSnapshot = .ok (d, left)) ∧
    ∀ d server, σ.exchange c = .satisfied d server →
      ∃ m, (applyDiff d).run (σ.client c) = .ok () m ∧
        (∀ t, (m t).bitsetIDs = (server t).bitsetIDs) ∧
        ∀ t id x, (server t).obj? id = some x →
          ∃ z, (m t).obj? id = some z ∧ ∀ i, z.fields i = x.fields i := by
  refine ⟨exists_request hn h, fun snap hc ↦ exists_answer hn h hc, fun d server hc ↦ ?_⟩
  obtain ⟨m, hm, hbits, hvalues⟩ := exists_applied hn h hc
  refine ⟨m, hm, hbits, fun t id x hx ↦ ?_⟩
  obtain ⟨z, hz, hfields⟩ := exists_obj_of_values_eq hvalues hx
  exact ⟨z, hz, congrFun hfields⟩

end

end SyncSession

namespace Chat

open SyncSession hiding Step

/-- The server creates a message, and a client asks and is answered. -/
def firstExchange : List (Event (Fin 2) types) :=
  [.serverCreate messages (messageVal 0 "ann" "hello"), .sendSyncRequest 1, .handleSyncRequest 1]

theorem run_firstExchange : ∃ σ d server,
    Run SyncSession.Step (init (Fin 2) types) firstExchange σ ∧
    σ.exchange 1 = .satisfied d server ∧ server = σ.server := by
  have h₁ : Run SyncSession.Step (init (Fin 2) types)
      [.serverCreate messages (messageVal 0 "ann" "hello")] _ :=
    .single (.serverCreate (.ok _ _))
  obtain ⟨snap, hsnap⟩ := exists_request (c := 1) fieldCount_le h₁
  have h₂ := h₁.snoc (.sendSyncRequest rfl hsnap)
  obtain ⟨serverSnap, d, left, hserver, hd⟩ := exists_answer (c := 1) fieldCount_le h₂ rfl
  exact ⟨_, d, _, h₂.snoc (.handleSyncRequest rfl hserver hd), rfl, rfl⟩

theorem converges_firstExchange : ∃ σ d m,
    Run SyncSession.Step (init (Fin 2) types) firstExchange σ ∧
    (applyDiff d).run (σ.client 1) = .ok () m ∧ ∀ t, (m t).bitsetIDs = (σ.server t).bitsetIDs := by
  obtain ⟨σ, d, server, h, hx, rfl⟩ := run_firstExchange
  obtain ⟨m, hm, hbits, -⟩ := (converges fieldCount_le h 1).2.2 d _ hx
  exact ⟨σ, d, m, h, hm, hbits⟩

end Chat

end AutoSync
