import AutoSync.Network.Server

/-!
# Runs of the server

What may come of a server over whole runs: in `ServerHost.Step` it receives arbitrary bytes from
arbitrary addresses, and the local variables that a handler reads into hold arbitrary values before.

`ServerHost.bindings_of_run` is the result about identities.  The clients the server has accepted
are the senders of the datagrams it has taken for connection requests, numbered in the order in
which these came; each of them has been told its identifier, once; and nothing is ever sent to
anybody else.  `ServerHost.server_stops_of_run` is the one about failure, and lists all that a
datagram can stop the server with.

The application's handler for data may depend on variables of the application's own, of which
nothing is known: these are the `A`.  Between two datagrams the application may do anything to the
manager that its public operations allow, and neither result needs the manager to be in order.
-/

set_option autoImplicit false

namespace AutoSync

open Transition

open EStateM (Result)

variable {Val A : Type} {typeCount : ℕ} {TTypes : Fin typeCount → ObjType Val}

/-! ## Who the clients are

The events of a run are datagrams, ticks of the timeout, data that the application sends, and
operations on the manager.  The invariant `Inv` looks at the events so far: the list of clients is
the list of the senders of connection requests, and what has been sent is accounted for by it. -/

namespace ServerHost

/-- A server that has just been started, with no clients and no objects. -/
def init (TTypes : Fin typeCount → ObjType Val) : ServerHost TTypes where
  recvBuffer := Packet.received []
  sender := (0, 0)
  syncManager := SyncManager.fresh TTypes
  sent := []
  own := ClientHandlerManager.init

/-- What can happen to the server, from outside or by its application. -/
inductive Event (TTypes : Fin typeCount → ObjType Val)
  /-- A datagram arrives, and the variables that are read into hold these values. -/
  | datagram (sender : Address) (bytes : List UInt8) (type₀ : NType) (temp₀ : CID)
  | sendDataToClient (mCID : CID) (mArgs : List (Arg Val))
  /-- The application works on the manager, by one of its operations. -/
  | onManager (op : SyncManager.Op TTypes)
  | tick

/-- The sender of a datagram that is taken for a connection request. -/
def Event.requester? : Event TTypes → Option Address
  | .datagram sender bytes type₀ _ =>
    if CtoS.toEnum (SessionHost.typeInEffect type₀ bytes) = some .connectionRequest then some sender
    else none
  | _ => none

/-- The senders of the connection requests, in the order in which these came. -/
def requesters (es : List (Event TTypes)) : List Address := es.filterMap Event.requester?

/-- The clients at these addresses, numbered from zero. -/
def numbered (l : List Address) : List (CID × Address) := l.zipIdx.map fun p ↦ ((p.2 : ℤ), p.1)

/-- The identifiers the server has told clients, and to which address. -/
def acceptances (s : ServerHost TTypes) : List (CID × Address) :=
  s.toClient.filterMap fun
    | (a, .connectionAccept id) => some (id, a)
    | _ => none

section

variable [DecidableEq Val] [Json Val] (extractVal : Val → EStateM Error Packet Val)
  (onDataReceived : A → CID → EStateM Error (ServerHost TTypes) Unit)

/-- A step of the server.  A datagram may find the application in any state `a`. -/
inductive Step (s : ServerHost TTypes) : Event TTypes → ServerHost TTypes → Prop
  | datagram {sender bytes type₀ temp₀ s'} (a : A)
      (h : (forward extractVal (onDataReceived a) type₀ temp₀).run (s.receive sender bytes) =
        .ok () s') : Step s (.datagram sender bytes type₀ temp₀) s'
  | sendDataToClient {mCID mArgs s'} (h : (sendToClient mCID .data mArgs).run s = .ok () s') :
      Step s (.sendDataToClient mCID mArgs) s'
  | onManager {op m} (h : SyncManager.Step s.syncManager op m) :
      Step s (.onManager op) { s with syncManager := m }
  | tick : Step s .tick { s with own := s.own.tick }

end

theorem numbered_append_singleton (l : List Address) (a : Address) :
    numbered (l ++ [a]) = numbered l ++ [((l.length : ℤ), a)] := by
  simp [numbered, List.zipIdx_append]

theorem length_numbered (l : List Address) : (numbered l).length = l.length := by
  simp [numbered]

variable {es : List (Event TTypes)} {s s' : ServerHost TTypes}

theorem requesters_append_singleton (es : List (Event TTypes)) (e : Event TTypes) :
    requesters (es ++ [e]) = requesters es ++ e.requester?.toList := by
  rw [requesters, List.filterMap_append]
  cases h : e.requester? <;> simp [requesters, h]

/-- What is sent besides acceptances tells nobody an identifier. -/
theorem acceptances_of_append {out : List (Address × StoC × List (Arg Val))}
    (h : s'.sent = s.sent ++ out) (hout : ∀ p ∈ out, p.2.1 ≠ .connectionAccept) :
    s'.acceptances = s.acceptances := by
  rw [acceptances, toClient, h, List.filterMap_append, List.filterMap_append]
  refine (congrArg _ (List.filterMap_eq_nil_iff.2 ?_)).trans (List.append_nil _)
  rintro ⟨a, p⟩ hp
  obtain ⟨⟨a', mType, mArgs⟩, hmem, hp⟩ := List.mem_filterMap.1 hp
  obtain ⟨q, hq, he⟩ := Option.map_eq_some_iff.1 hp
  cases he
  cases mType with
  | connectionAccept => exact absurd rfl (hout _ hmem)
  | _ => cases hq; rfl

variable [Json Val]

/-- **The invariant of the server**, after the events `es`. -/
structure Inv (es : List (Event TTypes)) (s : ServerHost TTypes) : Prop where
  manager : s.own.Inv
  /-- The clients are the senders of the connection requests, in order. -/
  bindings : s.own.bindings = numbered (requesters es)
  /-- Every client has been told its identifier, once. -/
  acceptances : s.acceptances = s.own.bindings
  /-- Nothing has been sent to anybody else than these clients. -/
  sent : ∀ p ∈ s.sent, s.Connected p.1
  /-- The answers to sync requests are diffs. -/
  answers : ∀ p ∈ s.sent, p.2.1 = .syncRequestSatisfy →
    ∃ d : Diff typeCount Val, p.2.2 = [.val d.json]
  nextCID : s.own.nextCID ≤ maxInt

theorem inv_init : Inv [] (init TTypes) where
  manager := ClientHandlerManager.inv_init
  bindings := rfl
  acceptances := rfl
  sent p hp := by simp [init] at hp
  answers p hp := by simp [init] at hp
  nextCID := show (0 : ℤ) ≤ maxInt by decide

/-- A step in which nobody is accepted keeps the invariant. -/
theorem Serves.inv (h : Serves s s') (hI : Inv es s) {e : Event TTypes}
    (he : e.requester? = none) : Inv (es ++ [e]) s' := by
  have hreq : requesters (es ++ [e]) = requesters es := by
    rw [requesters_append_singleton, he]
    exact List.append_nil _
  obtain ⟨out, hout, hto⟩ := h.sent
  refine ⟨h.manager, by rw [hreq, h.bindings, hI.bindings], ?_, fun p hp ↦ ?_,
    fun p hp hty ↦ ?_, h.nextCID ▸ hI.nextCID⟩
  · rw [h.bindings, ← hI.acceptances]
    refine acceptances_of_append hout fun p hp ↦ ?_
    rcases (hto p hp).1 with ⟨d, hd⟩ | hty
    · rw [hd]
      simp
    · rw [hty]
      simp
  · rw [hout] at hp
    rw [Connected, h.bindings]
    rcases List.mem_append.1 hp with hp | hp
    · exact hI.sent p hp
    · exact (hto p hp).2
  · rw [hout] at hp
    rcases List.mem_append.1 hp with hp | hp
    · exact hI.answers p hp hty
    · obtain ⟨d, hd⟩ | hdata := (hto p hp).1
      · exact ⟨d, by rw [hd]⟩
      · rw [hdata] at hty
        cases hty

theorem Inv.nextCID_eq (hI : Inv es s) : s.own.nextCID = ((requesters es).length : ℤ) := by
  rw [hI.manager.nextCID, ← length_numbered, ← hI.bindings, ClientHandlerManager.bindings,
    List.length_map]

/-- A connection request that is granted keeps it as well: one requester more, and one client. -/
theorem Inv.accepted (hI : Inv es s) (hne : s.own.nextCID ≠ maxInt) {sender : Address}
    {e : Event TTypes} (he : e.requester? = some sender) {recvBuffer : Packet} :
    Inv (es ++ [e]) { s with
      recvBuffer := recvBuffer
      sender := sender
      own := s.own.accepted sender.1 sender.2
      sent := s.sent ++ [(sender, .connectionAccept,
        [.int s.own.nextCID, .str "Welcome to the server."])] } := by
  have hreq : requesters (es ++ [e]) = requesters es ++ [sender] := by
    rw [requesters_append_singleton, he]
    rfl
  have hnext := hI.nextCID_eq
  refine ⟨hI.manager.accepted, ?_, ?_, fun p hp ↦ ?_, fun p hp hty ↦ ?_, ?_⟩
  · rw [hreq, numbered_append_singleton, ClientHandlerManager.bindings_accepted, hI.bindings, hnext]
  · rw [ClientHandlerManager.bindings_accepted, ← hI.acceptances, ServerHost.acceptances, toClient,
      List.filterMap_append, List.filterMap_append]
    rfl
  · rw [Connected, ClientHandlerManager.bindings_accepted]
    rcases List.mem_append.1 hp with hp | hp
    · obtain ⟨cid, hcid⟩ := hI.sent p hp
      exact ⟨cid, List.mem_append_left _ hcid⟩
    · obtain rfl := List.mem_singleton.1 hp
      exact ⟨s.own.nextCID, List.mem_append_right _ (List.mem_singleton_self _)⟩
  · rcases List.mem_append.1 hp with hp | hp
    · exact hI.answers p hp hty
    · obtain rfl := List.mem_singleton.1 hp
      cases hty
  · exact lt_of_le_of_ne hI.nextCID hne

variable [DecidableEq Val] {extractVal : Val → EStateM Error Packet Val}
  {onDataReceived : A → CID → EStateM Error (ServerHost TTypes) Unit} {P : Error → Prop}

theorem Step.inv {e : Event TTypes} (hdata : ∀ a, Confined (onDataReceived a) P)
    (hs : Step extractVal onDataReceived s e s') (hI : Inv es s) : Inv (es ++ [e]) s' := by
  cases hs with
  | @datagram sender bytes type₀ temp₀ s' a h =>
    obtain ⟨hty, hmax, recvBuffer, rfl⟩ | ⟨hty, hserves⟩ := forward_cases (hdata a) hI.manager h
    · exact hI.accepted (e := .datagram sender bytes type₀ temp₀) hmax (if_pos hty)
    · exact hserves.inv (e := .datagram sender bytes type₀ temp₀) hI (if_neg hty)
  | @sendDataToClient mCID mArgs s' h =>
    obtain ⟨out, hrun, hout⟩ := exists_run_sendToClient hI.manager mCID .data mArgs
    cases hrun.symm.trans h
    have hserves : Serves s { s with sent := s.sent ++ out } :=
      ⟨hI.manager, rfl, rfl, out, rfl,
        fun p hp ↦ ⟨.inr (by rw [(hout p hp).1]), mCID, (hout p hp).2⟩⟩
    exact hserves.inv hI rfl
  | @onManager op m h =>
    have hserves : Serves s { s with syncManager := m } :=
      ⟨hI.manager, rfl, rfl, [], (List.append_nil _).symm, by simp⟩
    exact hserves.inv hI rfl
  | tick =>
    have htick := hI.manager.tick_eq
    have hserves : Serves s { s with own := s.own.tick } :=
      ⟨htick.symm ▸ hI.manager, by rw [htick], by rw [htick], [],
        (List.append_nil _).symm, by simp⟩
    exact hserves.inv hI rfl

/-- What has been sent stays sent, and in the same order. -/
theorem Step.isPrefix {e : Event TTypes} (hdata : ∀ a, Confined (onDataReceived a) P)
    (hs : Step extractVal onDataReceived s e s') (hI : Inv es s) : s.sent <+: s'.sent := by
  cases hs with
  | datagram a h =>
    obtain ⟨-, -, recvBuffer, rfl⟩ | ⟨-, hserves⟩ := forward_cases (hdata a) hI.manager h
    · exact List.prefix_append _ _
    · exact hserves.isPrefix
  | @sendDataToClient mCID mArgs s' h =>
    obtain ⟨out, hrun, -⟩ := exists_run_sendToClient hI.manager mCID .data mArgs
    cases hrun.symm.trans h
    exact List.prefix_append _ _
  | onManager h => exact List.prefix_refl _
  | tick => exact List.prefix_refl _

theorem inv_of_run (hdata : ∀ a, Confined (onDataReceived a) P)
    (h : Run (Step extractVal onDataReceived) (init TTypes) es s) : Inv es s :=
  h.invariant_events inv_init fun _ _ _ _ _ hI hs ↦ hs.inv hdata hI

omit [DecidableEq Val] [Json Val] in
/-- Sending data to the client is something the application may do. -/
theorem confined_sendToClient (mArgs : List (Arg Val)) (P : Error → Prop) :
    Confined (fun cid ↦ (sendToClient cid .data mArgs : EStateM Error (ServerHost TTypes) Unit))
      P := by
  intro cid s hown
  obtain ⟨out, hrun, hout⟩ := exists_run_sendToClient hown cid .data mArgs
  rw [hrun]
  exact .of_ends ⟨rfl, out, rfl, fun p hp ↦ ⟨by rw [(hout p hp).1], cid, (hout p hp).2⟩⟩

/-- **Who the clients are**, whatever the server has received: the senders of the connection
requests, numbered in the order in which these came.  Each has been told its identifier once, and
nothing has been sent to anybody else. -/
theorem bindings_of_run (hdata : ∀ a, Confined (onDataReceived a) P)
    (h : Run (Step extractVal onDataReceived) (init TTypes) es s) :
    s.own.bindings = numbered (requesters es) ∧ s.acceptances = numbered (requesters es) ∧
      ∀ p ∈ s.sent, p.1 ∈ requesters es := by
  have hI := inv_of_run hdata h
  refine ⟨hI.bindings, hI.acceptances.trans hI.bindings, fun p hp ↦ ?_⟩
  obtain ⟨cid, hcid⟩ := hI.sent p hp
  rw [hI.bindings, numbered, List.mem_map] at hcid
  obtain ⟨q, hq, he⟩ := hcid
  exact (Prod.mk.inj he).2 ▸ List.fst_mem_of_mem_zipIdx hq

/-! ## What can stop the server

The session catches exceptions, so that what stops the server is everything else.  Not even now is
anything needed of the manager: a lookup of an object that is not there may have left a handle
without an object, and then the manager itself is what a sync request stops the server with. -/

/-- What a packet can stop a server with that has the manager `m` and `n` clients: a connection
request when the identifiers have run out; a sync request with JSON of the wrong kind, or when the
server's own manager has a handle without an object; and what the JSON library and the application
fail on. -/
def StopsWith (m : SyncManager TTypes) (P : Error → Prop) (n : ℕ) : Option CtoS → Error → Prop
  | some .connectionRequest, e => e = .overflow ∧ (n : ℤ) = maxInt
  | some .syncRequest, e =>
    e = Json.misuse Val ∨ (e = .badHandle ∧ m.getSnapshot = .error .badHandle) ∨ P e
  | some .data, e => P e
  | _, _ => False

omit [DecidableEq Val] in
/-- Of the failures of a handler, the exceptions do not stop the server. -/
theorem FailsWith.stopsWith {m : SyncManager TTypes} {mType : Option CtoS} {e : Error}
    (h : FailsWith m P mType e) (hne : ∀ ex, e ≠ .raised ex) (n : ℕ) :
    StopsWith m P n mType e := by
  cases mType with
  | none => exact h
  | some mType =>
    cases mType with
    | connectionRequest => exact h.elim
    | syncRequest =>
      rcases h with hjson | hsnap | hP
      · cases hjson with
        | misuse => exact .inl rfl
        | raised ex => exact absurd rfl (hne ex)
      · exact .inr (.inl hsnap)
      · exact .inr (.inr hP)
    | _ => exact h

/-- **What can stop the server**, whatever it has received and whatever its application has done to
the manager. -/
theorem server_stops_of_run (hval : ∀ v p, ((extractVal v).run p).Ends (fun _ ↦ True) P)
    (hdata : ∀ a, Confined (onDataReceived a) P)
    (h : Run (Step extractVal onDataReceived) (init TTypes) es s) {sender : Address}
    {bytes : List UInt8} {type₀ : NType} {temp₀ : CID} {a : A} {e : Error}
    (he : (forward extractVal (onDataReceived a) type₀ temp₀).run (s.receive sender bytes) =
      .error e s') :
    StopsWith s.syncManager P (requesters es).length
      (CtoS.toEnum (SessionHost.typeInEffect type₀ bytes)) e := by
  have hI := inv_of_run hdata h
  rw [forward, SessionHost.run_tryForwardReceivedPacket] at he
  let t : ServerHost TTypes :=
    { s with recvBuffer := ⟨bytes.tail, !bytes.isEmpty⟩, sender := sender }
  by_cases hty : CtoS.toEnum (SessionHost.typeInEffect type₀ bytes) = some .connectionRequest
  · rw [hty, handle, if_pos rfl, run_handleConnectionRequest (s := t) hI.manager] at he
    rw [hty]
    by_cases hmax : t.own.nextCID = maxInt
    · rw [if_pos hmax] at he
      exact ⟨(Result.error.inj he).1.symm, hI.nextCID_eq ▸ hmax⟩
    · rw [if_neg hmax] at he
      cases he
  · obtain ⟨hfails, hne⟩ := (SessionHost.copes_caught
      (copes_handle (s := t) temp₀ hval (hdata a) hty hI.manager)).error _ _ he
    exact hfails.stopsWith hne _

end ServerHost

namespace Chat

/-- Two connection requests, one of them empty, and three datagrams from somebody else. -/
def strayDatagrams : List (ServerHost.Event types) :=
  [.datagram (1, 27016) [] 0 7, .datagram (9, 9) [77, 1, 2] 0 7, .datagram (2, 27016) [0] 3 7,
    .datagram (9, 9) [4, 0, 0, 0, 1] 0 7, .datagram (9, 9) [1, 0] 0 0]

/-- Data are answered with the value of a counter. -/
def acknowledge (n : ℤ) (cid : CID) : EStateM Error (ServerHost types) Unit :=
  ServerHost.sendToClient cid .data [.int n]

theorem confined_acknowledge (n : ℤ) : ServerHost.Confined (acknowledge n) fun _ ↦ False :=
  ServerHost.confined_sendToClient [.int n] _

theorem bindings_of_run_strayDatagrams : ∃ s,
    Run (ServerHost.Step pure acknowledge) (ServerHost.init types) strayDatagrams s ∧
    s.own.bindings = [(0, (1, 27016)), (1, (2, 27016))] ∧ s.sent.length = 3 ∧
    ∀ p ∈ s.sent, p.1 ∈ [((1, 27016) : Address), (2, 27016)] := by
  have h : Run (ServerHost.Step pure acknowledge) (ServerHost.init types) strayDatagrams _ :=
    ((((Run.single (.datagram 0 rfl)).snoc (.datagram 0 rfl)).snoc (.datagram 0 rfl)).snoc
      (.datagram 0 rfl)).snoc (.datagram 0 rfl)
  obtain ⟨hbindings, -, hsent⟩ := ServerHost.bindings_of_run confined_acknowledge h
  exact ⟨_, h, hbindings, rfl, hsent⟩

/-- A reader that knows two values can fail, when it is given something else to read. -/
theorem ends_readKnown (v : JsonTree) (p : Packet) :
    ((JsonTree.readKnown [noMessages, oneMessageDiff] v).run p).Ends (fun _ ↦ True)
      fun e ↦ e = .raised .runtimeError := by
  simp only [JsonTree.readKnown, EStateM.run]
  cases [noMessages, oneMessageDiff].find? fun w ↦ w.text == p.extractStr.1 with
  | none => exact ⟨trivial, rfl⟩
  | some w => trivial

/-- A client connects, and then the server looks up a message that does not exist. -/
def lookedUp : List (ServerHost.Event types) :=
  [.datagram (1, 27016) [0] 0 7, .onManager (.getHandleFor messages 7)]

/-- The request of a client without messages, in a datagram. -/
def syncRequest : List UInt8 :=
  mkPacket JsonTree.write CtoS.castEnum .syncRequest [.int 0, .val noMessages]

/-- The server cannot write its manager out any more when that request comes. -/
theorem exists_run_lookedUp : ∃ s,
    Run (ServerHost.Step (JsonTree.readKnown [noMessages, oneMessageDiff]) acknowledge)
      (ServerHost.init types) lookedUp s ∧
    ∃ s', (ServerHost.forward (JsonTree.readKnown [noMessages, oneMessageDiff]) (acknowledge 0) 0
      7).run (s.receive (1, 27016) syncRequest) = .error .badHandle s' := by
  obtain ⟨snapshot, -, -, -, -, -, -, hj, -⟩ := exists_oneMessageDiff
  obtain ⟨s, h, hhas, hsnap⟩ : ∃ s,
      Run (ServerHost.Step (JsonTree.readKnown [noMessages, oneMessageDiff]) acknowledge)
        (ServerHost.init types) lookedUp s ∧ s.own.has 0 = true ∧
      s.syncManager.getSnapshot = .error .badHandle :=
    ⟨_, (Run.single (.datagram 0 rfl)).snoc (.onManager (.ok () _)), rfl, rfl⟩
  refine ⟨s, h, ?_⟩
  rw [syncRequest, ServerHost.run_forward_mkPacket (by simp) (by decide), ServerHost.serve,
    EStateM.run_bind, EStateM.run_get]
  simp only [hhas, Bool.not_true, Bool.false_eq_true, if_false]
  rw [ServerHost.handleSyncRequest, EStateM.run_bind,
    run_popRecvJson_of_readsBack (readsBack_noMessages (.inl rfl)) rfl, ← hj,
    Snapshot.run_initFromJson_json]
  simp only [EStateM.run_bind, EStateM.run_get, hsnap, EStateM.run_ofExcept_error]
  exact ⟨_, rfl⟩

/-- **After a lookup of a message that does not exist**, a request that is as it should be stops the
server: what it fails on is its own manager. -/
theorem server_stops_of_run_lookedUp : ∃ s e s',
    Run (ServerHost.Step (JsonTree.readKnown [noMessages, oneMessageDiff]) acknowledge)
      (ServerHost.init types) lookedUp s ∧
    (ServerHost.forward (JsonTree.readKnown [noMessages, oneMessageDiff]) (acknowledge 0) 0 7).run
      (s.receive (1, 27016) syncRequest) = .error e s' ∧
    s.syncManager.getSnapshot = .error .badHandle := by
  obtain ⟨s, h, s', hs'⟩ := exists_run_lookedUp
  have hstop := ServerHost.server_stops_of_run ends_readKnown
    (fun n ↦ ServerHost.confined_sendToClient [.int n] _) h hs'
  have hty : CtoS.toEnum (SessionHost.typeInEffect 0 syncRequest) = some .syncRequest := by
    rw [syncRequest, SessionHost.typeInEffect_mkPacket CtoS.syncRequest.fits_castEnum,
      CtoS.toEnum_castEnum]
  rw [hty] at hstop
  refine ⟨s, _, s', h, hs', ?_⟩
  rcases hstop with hkind | ⟨-, hsnap⟩ | hraised
  · cases hkind
  · exact hsnap
  · cases hraised

end Chat

end AutoSync
