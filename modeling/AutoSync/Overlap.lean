import AutoSync.Sync

/-!
# Overlapping exchanges

The client of the program does not wait for an answer before it asks again, and the packets travel
over a transport that delays, reorders, loses and duplicates them.  `DatagramSession` is one server
and one such client: everything that was ever sent stays available, and may be delivered any number
of times, at any later moment, in any order.

A diff names the identifiers to create, remove and update by comparison with the snapshot in the
request it answers, but it is carried out on whatever the client holds when it arrives.
`applyDiff_ok_iff_current` says exactly when that goes through: when none of the identifiers the
diff names has come or gone at the client since it sent the request.  An answer that arrives twice
is enough to break it (`Chat.duplicate_fails`).
-/

set_option autoImplicit false

namespace AutoSync

open Transition SyncManager

variable {Val : Type} [DecidableEq Val] [Json Val] {typeCount : ℕ}

/-- A `SyncRequestSatisfy` packet.  The packet carries the diff only; `request` is the snapshot of
the request it answers. -/
structure Response (typeCount : ℕ) (Val : Type) where
  diff : Diff typeCount Val
  request : Snapshot typeCount Val

/-- A server, a client, and all the packets ever sent between them, any of which may still
arrive. -/
structure DatagramSession (TTypes : Fin typeCount → ObjType Val) where
  server : SyncManager TTypes
  client : SyncManager TTypes
  requests : List (Snapshot typeCount Val)
  responses : List (Response typeCount Val)

omit [DecidableEq Val] [Json Val] in
/-- Of the identifiers the diff names, the client has the same alive as when it sent the request. -/
def Response.Current {TTypes : Fin typeCount → ObjType Val} (a : Response typeCount Val)
    (client : SyncManager TTypes) : Prop :=
  ∀ t id, (a.diff.typeDatas t).Names id →
    ((client t).Alive id ↔ (a.request.bitsetIDs t).test? id = some true)

namespace DatagramSession

variable {TTypes : Fin typeCount → ObjType Val} {σ σ' : DatagramSession TTypes}

def init (TTypes : Fin typeCount → ObjType Val) : DatagramSession TTypes where
  server := fresh TTypes
  client := fresh TTypes
  requests := []
  responses := []

/-- What can happen: something at the server, or the sending or the arrival of a packet. -/
inductive Event (TTypes : Fin typeCount → ObjType Val)
  | server (op : Op TTypes)
  | sendSyncRequest
  | handleSyncRequest (clientSnapshot : Snapshot typeCount Val)
  | handleSyncRequestSatisfy (a : Response typeCount Val)

/-- A step of the session, in which the operation of the source goes through. -/
inductive Step (σ : DatagramSession TTypes) : Event TTypes → DatagramSession TTypes → Prop
  | server {op s} (hop : op.isServerOp = true) (h : SyncManager.Step σ.server op s) :
      Step σ (.server op) { σ with server := s }
  | sendSyncRequest {snap} (hsnap : σ.client.getSnapshot = .ok snap) :
      Step σ .sendSyncRequest { σ with requests := snap :: σ.requests }
  | handleSyncRequest {clientSnapshot serverSnapshot left d} (h : clientSnapshot ∈ σ.requests)
      (hsnap : σ.server.getSnapshot = .ok serverSnapshot)
      (hdiff : serverSnapshot.getDiffWith clientSnapshot = .ok (d, left)) :
      Step σ (.handleSyncRequest clientSnapshot)
        { σ with responses := ⟨d, clientSnapshot⟩ :: σ.responses }
  | handleSyncRequestSatisfy {a m} (h : a ∈ σ.responses)
      (hrun : Survives ((applyDiff a.diff).run σ.client) m) :
      Step σ (.handleSyncRequestSatisfy a) { σ with client := m }

/-- A response that was computed from the snapshots of two managers, one of the server and one of
the client. -/
def Genuine (TTypes : Fin typeCount → ObjType Val) (a : Response typeCount Val) : Prop :=
  ∃ s r : SyncManager TTypes, s.Inv ∧ r.Inv ∧ Describes a.request r ∧ Between a.diff s r

/-- The invariant of the session: the managers satisfy theirs, and what is under way is genuine. -/
structure Inv (σ : DatagramSession TTypes) : Prop where
  server : σ.server.Inv
  client : σ.client.Inv
  requests : ∀ snap ∈ σ.requests, ∃ r : SyncManager TTypes, r.Inv ∧ Describes snap r
  responses : ∀ a ∈ σ.responses, Genuine TTypes a

theorem inv_init : (init TTypes).Inv where
  server := inv_fresh
  client := inv_fresh
  requests := by simp [init]
  responses := by simp [init]

theorem Step.inv {e : Event TTypes} (hs : Step σ e σ') (hI : σ.Inv) : σ'.Inv := by
  cases hs with
  | @server op s hop h =>
    have hlookup : op.LooksUpAlive σ.server := by
      cases op <;> trivial
    exact { hI with server := h.inv hI.server hlookup }
  | @sendSyncRequest snap hsnap =>
    have hdesc := hI.client.describes hsnap
    exact { hI with
      requests := List.forall_mem_cons.2 ⟨⟨σ.client, hI.client, hdesc⟩, hI.requests⟩ }
  | @handleSyncRequest clientSnapshot serverSnapshot left d h hsnap hdiff =>
    obtain ⟨r, hr, hdesc⟩ := hI.requests _ h
    have hbetween := (hI.server.describes hsnap).between hdesc hI.server hr hdiff
    exact { hI with
      responses := List.forall_mem_cons.2
        ⟨⟨σ.server, r, hI.server, hr, hdesc, hbetween⟩, hI.responses⟩ }
  | @handleSyncRequestSatisfy a m h hrun =>
    have happly : SyncManager.Step σ.client (.applyDiff a.diff) m := hrun
    exact { hI with client := happly.inv hI.client trivial }

theorem inv_of_run {es : List (Event TTypes)} (h : Run Step (init TTypes) es σ) : σ.Inv :=
  h.invariant inv_init fun _ _ _ hI hs ↦ hs.inv hI

/-! ## When a response can be carried out

A response was made for the client as it was when it asked.  The client may have carried out others
in the meantime, so that the objects the response names have come or gone.  Whether it still fits is
a matter of the alive identifiers alone, and only of those that it names. -/

section

variable {a : Response typeCount Val} {c : SyncManager TTypes}

theorem Genuine.wellFormed (ha : Genuine TTypes a) (t : Fin typeCount) :
    (a.diff.typeDatas t).WellFormed (TTypes t) := by
  obtain ⟨s, r, hs, hr, -, hbetween⟩ := ha
  exact (hbetween t).wellFormed (hs t) (hr t)

/-- A response fits the client exactly when it is current, by what is known of diffs between two
managers. -/
theorem Genuine.fits_iff (ha : Genuine TTypes a) :
    (∀ t, (a.diff.typeDatas t).Fits (c t)) ↔ a.Current c := by
  obtain ⟨s, r, hs, hr, hdesc, hbetween⟩ := ha
  refine forall_congr' fun t ↦ ?_
  rw [(hbetween t).fits_iff (hr t), hdesc.bitsetIDs]
  rfl

theorem Genuine.run_ok_iff (ha : Genuine TTypes a) (hc : c.Inv) :
    (∃ m, (applyDiff a.diff).run c = .ok () m) ↔ a.Current c := by
  rw [← ha.fits_iff]
  constructor
  · rintro ⟨m, hm⟩
    exact fits_of_run_applyDiff hc ha.wellFormed hm
  · intro hfit
    obtain ⟨m, hm, -⟩ := run_applyDiff hc ha.wellFormed hfit
    exact ⟨m, hm⟩

theorem Genuine.run_error_iff (ha : Genuine TTypes a) (hc : c.Inv) :
    (∃ m, (applyDiff a.diff).run c = .error .assertFailed m) ↔ ¬a.Current c := by
  rw [← ha.run_ok_iff hc]
  cases hrun : (applyDiff a.diff).run c with
  | ok u m => simp
  | error e m =>
    rw [error_of_run_applyDiff hc ha.wellFormed hrun]
    simp

end

/-- **When a response is safe.**  In every run, carrying out a response that was ever sent meets
every assertion if the client still has the same of the named identifiers alive as when it sent the
request, and otherwise fails one. -/
theorem applyDiff_ok_iff_current {es : List (Event TTypes)} (h : Run Step (init TTypes) es σ)
    {a : Response typeCount Val} (ha : a ∈ σ.responses) :
    ((∃ m, (applyDiff a.diff).run σ.client = .ok () m) ↔ a.Current σ.client) ∧
      ((∃ m, (applyDiff a.diff).run σ.client = .error .assertFailed m) ↔ ¬a.Current σ.client) :=
  have hI := inv_of_run h
  ⟨(hI.responses a ha).run_ok_iff hI.client, (hI.responses a ha).run_error_iff hI.client⟩

end DatagramSession

namespace Chat

open DatagramSession hiding Step

/-- The server creates a message; the client asks for it and is answered. -/
def answeredEvents (snap : Snapshot 1 JsonTree) : List (Event types) :=
  [.server (.serverCreate messages (messageVal 0 "ann" "hello")), .sendSyncRequest,
    .handleSyncRequest snap]

theorem run_answeredEvents : ∃ snap σ a, Run DatagramSession.Step (init types)
    (answeredEvents snap) σ ∧ a ∈ σ.responses ∧ Between a.diff σ.server σ.client ∧
      Describes a.request σ.client ∧ σ.client = fresh types ∧
      ∃ x, (σ.server messages).obj? 0 = some x := by
  have h₁ : Run DatagramSession.Step (init types)
      [.server (.serverCreate messages (messageVal 0 "ann" "hello"))] _ :=
    .single (.server rfl (.ok () _))
  have hI := inv_of_run h₁
  obtain ⟨snap, hsnap, hdesc⟩ := getSnapshot_ok hI.client
  obtain ⟨serverSnap, hserver, hdesc'⟩ := getSnapshot_ok hI.server
  obtain ⟨d, hd, hbetween⟩ := getDiffWith_ok hI.server hI.client hdesc' hdesc
  exact ⟨snap, _, ⟨d, snap⟩, (h₁.snoc (.sendSyncRequest hsnap)).snoc
    (.handleSyncRequest (by simp) hserver hd), by simp, hbetween, hdesc, rfl, _, rfl⟩

theorem applyDiff_ok_answeredEvents : ∃ snap σ a m, Run DatagramSession.Step (init types)
    (answeredEvents snap) σ ∧ a ∈ σ.responses ∧ (applyDiff a.diff).run σ.client = .ok () m := by
  obtain ⟨snap, σ, a, h, ha, -, hdesc, -⟩ := run_answeredEvents
  have hcurrent : a.Current σ.client := fun t id _ ↦ by rw [hdesc.bitsetIDs]; rfl
  obtain ⟨m, hm⟩ := (applyDiff_ok_iff_current h ha).1.2 hcurrent
  exact ⟨snap, σ, a, m, h, ha, hm⟩

/-- **A duplicated answer fails an assertion**: the message that it is to create is already
there. -/
theorem duplicate_fails : ∃ snap a σ m, Run DatagramSession.Step (init types)
    (answeredEvents snap ++ [.handleSyncRequestSatisfy a]) σ ∧ a ∈ σ.responses ∧
      (applyDiff a.diff).run σ.client = .error .assertFailed m := by
  obtain ⟨snap, σ, a, h, ha, hbetween, hdesc, hfresh, x, hx⟩ := run_answeredEvents
  have hI := inv_of_run h
  obtain ⟨c', hrun, hI', hobj⟩ := run_sync hI.server hI.client hbetween
  have hnone : (σ.client messages).obj? 0 = none := by
    rw [hfresh]; exact TypeStore.obj?_fresh 0
  -- the diff creates message 0, which the client has now and did not have when it asked
  have hnot : ¬a.Current c' := fun hcurrent ↦ by
    have hnames : (a.diff.typeDatas 0).Names 0 :=
      .inl ((hbetween messages).mem_toCreate.2 ⟨hnone, x, hx⟩)
    have halive : (c' messages).Alive 0 :=
      (hI' messages).alive_iff.2 ⟨_, by rw [hobj, hx, hnone]; rfl⟩
    have := (hcurrent messages 0 hnames).1 halive
    rw [hdesc.bitsetIDs] at this
    exact (hI.client messages).obj?_eq_none.1 hnone this
  obtain ⟨m, hm⟩ := ((hI.responses a ha).run_error_iff hI').2 hnot
  have hsurvives : Survives ((applyDiff a.diff).run σ.client) c' := hrun ▸ .ok () c'
  exact ⟨snap, a, { σ with client := c' }, m, h.snoc (.handleSyncRequestSatisfy ha hsurvives), ha,
    hm⟩

end Chat

end AutoSync
