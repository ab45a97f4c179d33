import AutoSync.Network.ClientHandlerManager

/-!
# Sessions: one server and its clients

A client asks for a connection, the server accepts it and answers with an identifier, and from then
on every packet of the client carries that identifier.  The packets are datagrams: everything that
was ever sent stays available and may be delivered any number of times, in any order, or never.

What the packets carry besides — a snapshot, a diff, the data of the application — has no influence
on who is connected as what, and is left out.  So is the text that comes with an acceptance.

`Inv` ties the four things together: the handlers of the server, the log of the identifiers the
server has given out (which nothing in the program looks at), the acceptances under way, and the
identifiers the clients hold.  `agreement` is what it says about identities.

A client does not wait for the acceptance.  It asks once, waits for a second, and then goes on to
send; `sends_iff_accepted` says when its packets carry an identifier that is its own.
-/

set_option autoImplicit false

namespace AutoSync

open Transition

/-- An address and a port, as a datagram has them for its sender. -/
abbrev Address : Type := IpAddress × Port

/-- A packet from a client to the server, with what matters of it. -/
inductive ToServer
  | connectionRequest
  | ping (cid : CID)
  | syncRequest (cid : CID)
  | syncSatisfied (cid : CID)
  | data (cid : CID)
  deriving DecidableEq

/-- The identifier a packet carries.  A connection request carries none. -/
def ToServer.cid? : ToServer → Option CID
  | connectionRequest => none
  | ping cid => some cid
  | syncRequest cid => some cid
  | syncSatisfied cid => some cid
  | data cid => some cid

/-- A packet from the server to a client, with what matters of it. -/
inductive ToClient
  | connectionAccept (id : CID)
  | connectionDecline
  | syncRequestSatisfy
  | syncRequestUnneeded
  | syncRequestDecline
  | data
  deriving DecidableEq

/-! ## The server

What the server does with a packet, as a function of its manager of clients: the packets it sends in
answer, with their addresses, and the manager afterwards.  A connection request is served for its
sender's address, and any other packet for the identifier in it. -/

namespace SessionServer

/-- `sendToClient`: the packet goes to the address of the handler found for the identifier, or
nowhere if there is none. -/
def sendToClient (cManager : ClientHandlerManager) (mCID : CID) (p : ToClient) :
    List (Address × ToClient) :=
  match cManager.chMap[mCID]? with
  | none => []
  | some ch => [(((cManager.handler ch).ip, (cManager.handler ch).port), p)]

/-- Accepts the sender of a connection request.  The result is the identifier of the new client,
the packets sent, and the manager. -/
def handleConnectionRequest (sender : Address) (cManager : ClientHandlerManager) :
    Except Error (CID × List (Address × ToClient) × ClientHandlerManager) := do
  let (ch, cManager) ← cManager.acceptClient sender.1 sender.2
  let cid := (cManager.handler ch).cid
  return (cid, sendToClient cManager cid (.connectionAccept cid), cManager)

/-- Handles any other packet.  The result is the packets sent and the manager. -/
def handle (mType : ToServer) (cid : CID) (cManager : ClientHandlerManager) :
    Except Error (List (Address × ToClient) × ClientHandlerManager) :=
  if !cManager.has cid then return ([], cManager)
  else match mType with
    | .connectionRequest => throw (.raised .runtimeError)
    | .ping _ => do
      let cManager ← cManager.pingReceived cid
      return ([], cManager)
    | .syncRequest _ => return (sendToClient cManager cid .syncRequestSatisfy, cManager)
    | .syncSatisfied _ => return ([], cManager)
    | .data _ => return ([], cManager)

end SessionServer

/-! ## A client

A client has its identifier and a thread.  The thread sends a connection request, then pings, of
which every fifth is a sync request instead, whatever has been received meanwhile; the identifier is
whatever the last acceptance has said. -/

/-- Where the thread of a client that sends has got to. -/
inductive ClientThread
  /-- It is about to ask for a connection, which it does once. -/
  | connect
  /-- It is about to send a ping, having sent `i` since the last sync request. -/
  | ping (i : ℕ)
  /-- It is about to send a sync request, after four pings. -/
  | syncRequest
  deriving DecidableEq

structure SessionClient where
  cid : CID
  thread : ClientThread

namespace SessionClient

def init : SessionClient where
  cid := nullCID
  thread := .connect

/-- The thread has sent a packet and goes on to the next one, never back to the start. -/
def next : ClientThread → ClientThread
  | .connect => .ping 0
  | .ping i => if i + 1 = 4 then .syncRequest else .ping (i + 1)
  | .syncRequest => .ping 0

def advance (c : SessionClient) : SessionClient := { c with thread := next c.thread }

theorem cid_advance (c : SessionClient) : c.advance.cid = c.cid := rfl

/-- Handles a packet from the server, of which only an acceptance changes anything here. -/
def handle (c : SessionClient) : ToClient → SessionClient
  | .connectionAccept id => { c with cid := id }
  | _ => c

end SessionClient

/-! ## The session

All packets ever sent are kept, so that any of them may arrive at any time.  `issued` is a history
variable: the server's answers to connection requests, which nothing in the session looks at. -/

/-- A server, its clients, and all the packets ever sent between them. -/
structure Session (C : Type) where
  client : C → SessionClient
  cManager : ClientHandlerManager
  toServer : List (Address × ToServer)
  toClient : List (Address × ToClient)
  /-- The identifiers the server has given out, and to which address. -/
  issued : List (CID × Address)

namespace Session

variable {C : Type} [DecidableEq C] {addr : C → Address} {σ σ' : Session C}

def init (C : Type) : Session C where
  client _ := SessionClient.init
  cManager := ClientHandlerManager.init
  toServer := []
  toClient := []
  issued := []

/-- What can happen, at one of the clients or at the server. -/
inductive Event (C : Type)
  | sendConnectionRequest (k : C)
  | sendPing (k : C)
  | sendSyncRequest (k : C)
  | sendDataToServer (k : C)
  /-- The server receives a packet, from an address that may be anybody's. -/
  | serve (sender : Address) (p : ToServer)
  | sendDataToClient (cid : CID)
  /-- A client receives a packet that was sent to its address. -/
  | receive (k : C) (p : ToClient)
  | tick

/-- A client sends a packet, and its thread is afterwards as in `c`. -/
def send (addr : C → Address) (σ : Session C) (k : C) (c : SessionClient) (p : ToServer) :
    Session C :=
  { σ with
    client := Function.update σ.client k c
    toServer := σ.toServer ++ [(addr k, p)] }

/-- Sending changes no identifier, whatever is sent. -/
theorem cid_send {j : C} {c : SessionClient} {p : ToServer} (hc : c.cid = (σ.client j).cid)
    (k : C) : ((σ.send addr j c p).client k).cid = (σ.client k).cid := by
  by_cases hkj : k = j
  · subst hkj; simp only [send, Function.update_self, hc]
  · simp only [send, Function.update_of_ne hkj]

/-- A step of the session.  The server may receive any packet a client has sent, and pings that
come from nowhere. -/
inductive Step (addr : C → Address) (σ : Session C) : Event C → Session C → Prop
  | sendConnectionRequest {k} (h : (σ.client k).thread = .connect) :
      Step addr σ (.sendConnectionRequest k)
        (σ.send addr k (σ.client k).advance .connectionRequest)
  | sendPing {k i} (h : (σ.client k).thread = .ping i) : Step addr σ (.sendPing k)
      (σ.send addr k (σ.client k).advance (.ping (σ.client k).cid))
  | sendSyncRequest {k} (h : (σ.client k).thread = .syncRequest) :
      Step addr σ (.sendSyncRequest k)
        (σ.send addr k (σ.client k).advance (.syncRequest (σ.client k).cid))
  | sendDataToServer {k} : Step addr σ (.sendDataToServer k)
      (σ.send addr k (σ.client k) (.data (σ.client k).cid))
  | serveConnectionRequest {sender cid out cManager}
      (hp : (sender, .connectionRequest) ∈ σ.toServer)
      (h : SessionServer.handleConnectionRequest sender σ.cManager = .ok (cid, out, cManager)) :
      Step addr σ (.serve sender .connectionRequest)
        { σ with
          cManager := cManager
          toClient := σ.toClient ++ out
          issued := σ.issued ++ [(cid, sender)] }
  | serve {sender p cid out cManager} (hp : (sender, p) ∈ σ.toServer ∨ p = .ping cid)
      (hcid : p.cid? = some cid)
      (h : SessionServer.handle p cid σ.cManager = .ok (out, cManager)) :
      Step addr σ (.serve sender p)
        { σ with cManager := cManager, toClient := σ.toClient ++ out }
  | sendDataToClient {cid} : Step addr σ (.sendDataToClient cid)
      { σ with toClient := σ.toClient ++ SessionServer.sendToClient σ.cManager cid .data }
  | receive {k p} (hp : (addr k, p) ∈ σ.toClient) : Step addr σ (.receive k p)
      { σ with client := Function.update σ.client k ((σ.client k).handle p) }
  | tick : Step addr σ .tick { σ with cManager := σ.cManager.tick }

/-! ## The invariant

What is known of identities at any time: who has been given which identifier, that this is what the
handlers say, and that both the packets and the clients agree with it.  Each part is kept by every
step, given the others. -/

/-- **The invariant of a session**, from which everything about identities follows. -/
structure Inv (addr : C → Address) (σ : Session C) : Prop where
  manager : σ.cManager.Inv
  /-- The handlers are bound to the clients the identifiers were given to. -/
  issued : σ.issued = σ.cManager.bindings
  /-- An acceptance under way is on its way to the client its identifier was given to. -/
  inFlight : ∀ a id, (a, ToClient.connectionAccept id) ∈ σ.toClient → (id, a) ∈ σ.issued
  /-- The identifier a client holds was given to it. -/
  held : ∀ k, (σ.client k).cid ≠ nullCID → ((σ.client k).cid, addr k) ∈ σ.issued

omit [DecidableEq C] in
theorem inv_init : Inv addr (init C) where
  manager := ClientHandlerManager.inv_init
  issued := rfl
  inFlight a id h := by simp [init] at h
  held k h := absurd rfl h

/-- What is sent to a client that is connected goes to its address, and is sent once. -/
theorem sendToClient_of_binding {m : ClientHandlerManager} (hm : m.Inv) {cid : CID} {a : Address}
    (h : (cid, a) ∈ m.bindings) (p : ToClient) :
    SessionServer.sendToClient m cid p = [(a, p)] := by
  obtain ⟨ch, hch, -, ha⟩ := hm.handler_of_mem_bindings h
  rw [SessionServer.sendToClient, hch]
  simp only [ha]

/-- Everything `sendToClient` sends is the packet it was given, and not more than that. -/
theorem snd_of_mem_sendToClient {m : ClientHandlerManager} {cid : CID} {p : ToClient}
    {x : Address × ToClient} (h : x ∈ SessionServer.sendToClient m cid p) : x.2 = p := by
  rw [SessionServer.sendToClient] at h
  split at h
  · simp at h
  · rw [List.mem_singleton] at h
    rw [h]

/-- **A connection request** gives one new identifier to its sender, and tells it so. -/
theorem handleConnectionRequest_eq {m : ClientHandlerManager} (hm : m.Inv) (sender : Address)
    (hne : m.nextCID ≠ maxInt) :
    SessionServer.handleConnectionRequest sender m =
      .ok (m.nextCID, [(sender, .connectionAccept m.nextCID)], m.accepted sender.1 sender.2) := by
  have hhandler : (m.accepted sender.1 sender.2).handler m.clientHandlers.length =
      ClientHandler.fresh.bindToClient m.nextCID sender.1 sender.2 := by
    simp [ClientHandlerManager.handler, ClientHandlerManager.accepted]
  have hmem : (m.nextCID, sender) ∈ (m.accepted sender.1 sender.2).bindings := by
    rw [ClientHandlerManager.bindings_accepted]
    exact List.mem_append_right _ (List.mem_singleton_self _)
  have hsend := sendToClient_of_binding hm.accepted hmem (.connectionAccept m.nextCID)
  rw [SessionServer.handleConnectionRequest, hm.acceptClient_eq, if_neg hne]
  show Except.ok (((m.accepted sender.1 sender.2).handler m.clientHandlers.length).cid, _, _) = _
  rw [hhandler]
  exact congrArg (fun out ↦ Except.ok (m.nextCID, out, m.accepted sender.1 sender.2)) hsend

theorem handleConnectionRequest_ok {m m' : ClientHandlerManager} {sender : Address} {cid : CID}
    {out : List (Address × ToClient)} (hm : m.Inv)
    (h : SessionServer.handleConnectionRequest sender m = .ok (cid, out, m')) :
    m'.Inv ∧ m'.bindings = m.bindings ++ [(cid, sender)] ∧
      out = [(sender, .connectionAccept cid)] := by
  by_cases hmax : m.nextCID = maxInt
  · rw [SessionServer.handleConnectionRequest, hm.acceptClient_eq, if_pos hmax] at h
    cases h
  · rw [handleConnectionRequest_eq hm sender hmax] at h
    cases h
    exact ⟨hm.accepted, ClientHandlerManager.bindings_accepted, rfl⟩

/-- Any other packet changes no binding and accepts nobody, whether it is handled or dropped. -/
theorem handle_ok {m m' : ClientHandlerManager} {p : ToServer} {cid : CID}
    {out : List (Address × ToClient)} (hm : m.Inv)
    (h : SessionServer.handle p cid m = .ok (out, m')) :
    m'.Inv ∧ m'.bindings = m.bindings ∧ ∀ x ∈ out, ∀ id, x.2 ≠ .connectionAccept id := by
  rw [SessionServer.handle.eq_def] at h
  split at h
  · cases h; exact ⟨hm, rfl, by simp⟩
  · cases p with
    | ping _ =>
      simp only at h
      cases hping : m.pingReceived cid with
      | error e => rw [hping] at h; cases h
      | ok m₁ =>
        rw [hping] at h
        cases h
        obtain ⟨ch, -, rfl⟩ := ClientHandlerManager.pingReceived_eq_ok hping
        exact ⟨hm.resetTimeout ch, ClientHandlerManager.bindings_resetTimeout m ch, by simp⟩
    | syncRequest _ =>
      cases h
      refine ⟨hm, rfl, fun x hx id he ↦ ?_⟩
      rw [snd_of_mem_sendToClient hx] at he
      cases he
    | connectionRequest => cases h
    | _ => cases h; exact ⟨hm, rfl, by simp⟩

/-- Sending a packet to the server keeps the invariant, as long as the client keeps its
identifier. -/
theorem Inv.send (hI : Inv addr σ) {k : C} {c : SessionClient} {p : ToServer}
    (hc : c.cid = (σ.client k).cid) : Inv addr (σ.send addr k c p) where
  manager := hI.manager
  issued := hI.issued
  inFlight := hI.inFlight
  held j hj := by
    rw [cid_send hc] at hj ⊢
    exact hI.held j hj

theorem Step.inv {e : Event C} (hs : Step addr σ e σ') (hI : Inv addr σ) : Inv addr σ' := by
  cases hs with
  | sendConnectionRequest h => exact hI.send rfl
  | sendPing h => exact hI.send rfl
  | sendSyncRequest h => exact hI.send rfl
  | sendDataToServer => exact hI.send rfl
  | @serveConnectionRequest sender cid out cManager hp h =>
    obtain ⟨hm, hbindings, rfl⟩ := handleConnectionRequest_ok hI.manager h
    refine ⟨hm, by rw [hbindings, hI.issued], fun a id ha ↦ ?_, fun k hk ↦ ?_⟩
    · rw [List.mem_append, List.mem_singleton, Prod.mk.injEq] at ha
      rcases ha with ha | ⟨rfl, hid⟩
      · exact List.mem_append_left _ (hI.inFlight a id ha)
      · cases hid
        exact List.mem_append_right _ (by simp)
    · exact List.mem_append_left _ (hI.held k hk)
  | @serve sender p cid out cManager hp hcid h =>
    obtain ⟨hm, hbindings, hout⟩ := handle_ok hI.manager h
    refine ⟨hm, by rw [hbindings, hI.issued], fun a id ha ↦ ?_, hI.held⟩
    rcases List.mem_append.1 ha with ha | ha
    · exact hI.inFlight a id ha
    · exact absurd rfl (hout _ ha id)
  | @sendDataToClient cid =>
    refine ⟨hI.manager, hI.issued, fun a id ha ↦ ?_, hI.held⟩
    rcases List.mem_append.1 ha with ha | ha
    · exact hI.inFlight a id ha
    · exact absurd (snd_of_mem_sendToClient ha) (by simp)
  | @receive k p hp =>
    refine ⟨hI.manager, hI.issued, hI.inFlight, fun j hj ↦ ?_⟩
    by_cases hjk : j = k
    · subst hjk
      simp only [Function.update_self] at hj ⊢
      cases p with
      | connectionAccept id => exact hI.inFlight _ id hp
      | _ => exact hI.held j hj
    · simp only [Function.update_of_ne hjk] at hj ⊢
      exact hI.held j hj
  | tick =>
    have htick := hI.manager.tick_eq
    exact ⟨by rw [htick]; exact hI.manager, by rw [htick]; exact hI.issued, hI.inFlight, hI.held⟩

theorem inv_of_run {es : List (Event C)} (h : Run (Step addr) (init C) es σ) : Inv addr σ :=
  h.invariant inv_init fun _ _ _ hI hs ↦ hs.inv hI

/-! ## Agreement on identities

The invariant speaks of lists of identifiers and addresses.  What it comes to for the server and its
clients is `Agreement`: that each identifier means one client, to both of them. -/

/-- The server has given out the identifier once, to that address. -/
def IssuedOnce (σ : Session C) (cid : CID) (a : Address) : Prop :=
  (cid, a) ∈ σ.issued ∧ (σ.issued.map Prod.fst).count cid = 1

omit [DecidableEq C] in
theorem Inv.issuedOnce (hI : Inv addr σ) {cid : CID} {a : Address} (h : (cid, a) ∈ σ.issued) :
    σ.IssuedOnce cid a := by
  refine ⟨h, ?_⟩
  have hnodup := hI.manager.nodup_bindings
  rw [← hI.issued] at hnodup
  exact List.count_eq_one_of_mem hnodup (List.mem_map.2 ⟨_, h, rfl⟩)

omit [DecidableEq C] in
/-- An identifier was given to one address only, as no two handlers have the same. -/
theorem Inv.address_unique (hI : Inv addr σ) {cid : CID} {a b : Address}
    (ha : (cid, a) ∈ σ.issued) (hb : (cid, b) ∈ σ.issued) : a = b := by
  rw [hI.issued] at ha hb
  have := sendToClient_of_binding hI.manager ha .data
  rw [sendToClient_of_binding hI.manager hb .data] at this
  simpa using this.symm

/-- What server and clients agree on, in every state of a run. -/
structure Agreement (addr : C → Address) (σ : Session C) : Prop where
  /-- No two clients hold the same identifier, unless it is the one for having none. -/
  distinct : ∀ k k', (σ.client k).cid = (σ.client k').cid → (σ.client k).cid ≠ nullCID → k = k'
  /-- The identifier a client holds was given out once, to that client. -/
  held : ∀ k, (σ.client k).cid ≠ nullCID → σ.IssuedOnce (σ.client k).cid (addr k)
  /-- So was every identifier on its way, to the address it is on its way to. -/
  inFlight : ∀ a id, (a, ToClient.connectionAccept id) ∈ σ.toClient → σ.IssuedOnce id a
  /-- An identifier that is connected was given out once, and its handler has the identifier and
  the address it was given to, which is where packets for it are sent. -/
  handler : ∀ cid, σ.cManager.has cid = true → ∃ a ch, σ.IssuedOnce cid a ∧
    σ.cManager.chMap[cid]? = some ch ∧ (σ.cManager.handler ch).cid = cid ∧
    ((σ.cManager.handler ch).ip, (σ.cManager.handler ch).port) = a ∧
    ∀ p, SessionServer.sendToClient σ.cManager cid p = [(a, p)]

/-- **Identity agreement**, in every run, if the clients have distinct addresses. -/
theorem agreement (haddr : Function.Injective addr) {es : List (Event C)}
    (h : Run (Step addr) (init C) es σ) : Agreement addr σ := by
  have hI := inv_of_run h
  refine ⟨fun k k' he hk ↦ ?_, fun k hk ↦ hI.issuedOnce (hI.held k hk),
    fun a id ha ↦ hI.issuedOnce (hI.inFlight a id ha), fun cid hcid ↦ ?_⟩
  · exact haddr (hI.address_unique (hI.held k hk) (he ▸ hI.held k' (he ▸ hk)))
  · obtain ⟨ch, hch⟩ := Option.isSome_iff_exists.1 hcid
    obtain ⟨a, ha⟩ := hI.manager.exists_binding hch
    obtain ⟨ch', hch', hcid', ha'⟩ := hI.manager.handler_of_mem_bindings ha
    exact ⟨a, ch', hI.issuedOnce (hI.issued ▸ ha), hch', hcid', ha',
      sendToClient_of_binding hI.manager ha⟩

/-- The addresses of two clients, with the same port on two hosts. -/
def twoAddresses : Bool → Address
  | false => (1, 27016)
  | true => (2, 27016)

theorem twoAddresses_injective : Function.Injective twoAddresses := by
  intro k k'
  revert k k'
  decide

/-- Two clients ask for a connection, and the request of the second overtakes that of the first. -/
def twoClients : List (Event Bool) :=
  [.sendConnectionRequest false, .sendConnectionRequest true,
    .serve (2, 27016) .connectionRequest, .serve (1, 27016) .connectionRequest,
    .receive false (.connectionAccept 1), .receive true (.connectionAccept 0)]

theorem run_twoClients : ∃ σ, Run (Step twoAddresses) (init Bool) twoClients σ ∧
    (σ.client false).cid = 1 ∧ (σ.client true).cid = 0 := by
  have hm := ClientHandlerManager.inv_init
  have h₁ : Run (Step twoAddresses) (init Bool) [.sendConnectionRequest false] _ :=
    .single (.sendConnectionRequest rfl)
  have h₂ := h₁.snoc (.sendConnectionRequest (k := true) rfl)
  have h₃ := h₂.snoc (.serveConnectionRequest (by decide)
    (handleConnectionRequest_eq hm (2, 27016) (by decide)))
  have h₄ := h₃.snoc (.serveConnectionRequest (by decide)
    (handleConnectionRequest_eq hm.accepted (1, 27016) (by decide)))
  have h₅ := h₄.snoc (.receive (k := false) (p := .connectionAccept 1) (by decide))
  have h₆ := h₅.snoc (.receive (k := true) (p := .connectionAccept 0) (by decide))
  exact ⟨_, h₆, rfl, rfl⟩

/-- The two clients hold different identifiers, although one has overtaken the other. -/
theorem agreement_two_clients :
    ∃ σ, Run (Step twoAddresses) (init Bool) twoClients σ ∧ Agreement twoAddresses σ ∧
      (σ.client false).cid = 1 ∧ (σ.client true).cid = 0 := by
  obtain ⟨σ, h, hcid⟩ := run_twoClients
  exact ⟨σ, h, agreement twoAddresses_injective h, hcid⟩

/-! ## What a client sends before it is accepted

The thread of a client does not wait for its acceptance.  It sends a ping a second after its
request, with whatever identifier it has, and an assertion is all that stands against that.  The
packets are identified exactly when the events come in an order in which it is never reached too
early. -/

/-- The client that sends a packet with its identifier in this event. -/
def Event.sender? : Event C → Option C
  | .sendPing k => some k
  | .sendSyncRequest k => some k
  | .sendDataToServer k => some k
  | _ => none

/-- The client has received an acceptance, in the course of the events. -/
def Accepted (k : C) (es : List (Event C)) : Prop := ∃ id, .receive k (.connectionAccept id) ∈ es

omit [DecidableEq C] in
theorem accepted_append {k : C} {es fs : List (Event C)} :
    Accepted k (es ++ fs) ↔ Accepted k es ∨ Accepted k fs := by
  simp only [Accepted, List.mem_append, exists_or]

omit [DecidableEq C] in
theorem Inv.ne_nullCID (hI : Inv addr σ) {cid : CID} {a : Address} (h : (cid, a) ∈ σ.issued) :
    cid ≠ nullCID := by
  have h0 := hI.manager.nonneg_of_mem_bindings (hI.issued ▸ h)
  rintro rfl
  exact absurd h0 (by decide)

/-- Receiving an acceptance is the one way to get an identifier, and there is none to lose it. -/
theorem Step.cid_ne_nullCID_iff {e : Event C} (hs : Step addr σ e σ') (hI : Inv addr σ) (k : C) :
    (σ'.client k).cid ≠ nullCID ↔ (σ.client k).cid ≠ nullCID ∨ Accepted k [e] := by
  cases hs with
  | @receive j p hp =>
    by_cases hkj : k = j
    · subst hkj
      cases p with
      | connectionAccept id =>
        have hid := hI.ne_nullCID (hI.inFlight _ id hp)
        simp [SessionClient.handle, Accepted, hid]
      | _ => simp [SessionClient.handle, Accepted]
    · simp [hkj, Accepted]
  | sendConnectionRequest h => rw [cid_send (SessionClient.cid_advance _)]; simp [Accepted]
  | sendPing h => rw [cid_send (SessionClient.cid_advance _)]; simp [Accepted]
  | sendSyncRequest h => rw [cid_send (SessionClient.cid_advance _)]; simp [Accepted]
  | sendDataToServer => rw [cid_send rfl]; simp [Accepted]
  | _ => simp [Accepted]

/-- **A client has an identifier** when it has received an acceptance, and only then. -/
theorem cid_ne_nullCID_iff {es : List (Event C)} (h : Run (Step addr) (init C) es σ) (k : C) :
    (σ.client k).cid ≠ nullCID ↔ Accepted k es := by
  refine h.invariant_events (I := fun es σ ↦ (σ.client k).cid ≠ nullCID ↔ Accepted k es) ?_ ?_
  · simp [init, SessionClient.init, Accepted]
  · intro es σ e σ' hr ih hs
    rw [hs.cid_ne_nullCID_iff (inv_of_run hr), ih, accepted_append]

/-- A new packet with an identifier has that of the client that sent it. -/
theorem Step.mem_toServer {e : Event C} (hs : Step addr σ e σ') {a : Address} {p : ToServer}
    {cid : CID} (hp : (a, p) ∈ σ'.toServer) (hcid : p.cid? = some cid) :
    (a, p) ∈ σ.toServer ∨ ∃ k, e.sender? = some k ∧ a = addr k ∧ cid = (σ.client k).cid := by
  have hsend : ∀ {k c q}, (a, p) ∈ (σ.send addr k c q).toServer →
      (a, p) ∈ σ.toServer ∨ a = addr k ∧ q.cid? = some cid := by
    intro k c q h
    rcases List.mem_append.1 h with h | h
    · exact .inl h
    · obtain ⟨rfl, rfl⟩ := Prod.mk.inj (List.mem_singleton.1 h)
      exact .inr ⟨rfl, hcid⟩
  cases hs with
  | sendConnectionRequest h =>
    exact (hsend hp).imp_right fun h ↦ absurd h.2 (by simp [ToServer.cid?])
  | @sendPing k i h => exact (hsend hp).imp_right fun h ↦ ⟨k, rfl, h.1, (Option.some.inj h.2).symm⟩
  | @sendSyncRequest k h =>
    exact (hsend hp).imp_right fun h ↦ ⟨k, rfl, h.1, (Option.some.inj h.2).symm⟩
  | @sendDataToServer k =>
    exact (hsend hp).imp_right fun h ↦ ⟨k, rfl, h.1, (Option.some.inj h.2).symm⟩
  | _ => exact .inl hp

theorem Step.issued_subset {e : Event C} (hs : Step addr σ e σ') : σ.issued ⊆ σ'.issued := by
  cases hs with
  | serveConnectionRequest hp h => exact List.subset_append_left _ _
  | _ => exact List.Subset.refl _

/-- What the packets of the clients are meant to satisfy, in the course of the events. -/
structure Identified (addr : C → Address) (es : List (Event C)) (σ : Session C) : Prop where
  /-- The assertion of `sendToServer` holds whenever it is reached, with the identifier of the
  client. -/
  assertion : ∀ pre e post k σ₁, es = pre ++ e :: post → e.sender? = some k →
    Run (Step addr) (init C) pre σ₁ → (σ₁.client k).cid ≠ nullCID
  /-- The identifier in a packet was given to the client that sent it. -/
  packet : ∀ a p cid, (a, p) ∈ σ.toServer → p.cid? = some cid → (cid, a) ∈ σ.issued

/-- No client sends a packet with its identifier before it has received an acceptance. -/
def SendsAfterAccepted (es : List (Event C)) : Prop :=
  ∀ pre e post k, es = pre ++ e :: post → e.sender? = some k → Accepted k pre

omit [DecidableEq C] in
theorem SendsAfterAccepted.of_append {es fs : List (Event C)} (h : SendsAfterAccepted (es ++ fs)) :
    SendsAfterAccepted es := by
  rintro pre e post k rfl
  exact h pre e (post ++ fs) k (by simp)

omit [DecidableEq C] in
theorem sendsAfterAccepted_nil : SendsAfterAccepted ([] : List (Event C)) := by
  rintro pre e post k he
  exact absurd he (by simp)

omit [DecidableEq C] in
theorem SendsAfterAccepted.snoc {es : List (Event C)} {e : Event C} (h : SendsAfterAccepted es)
    (he : ∀ k, e.sender? = some k → Accepted k es) : SendsAfterAccepted (es ++ [e]) := by
  intro pre f post k hsplit hk
  rcases List.eq_nil_or_concat post with rfl | ⟨post, g, rfl⟩
  · obtain ⟨rfl, hf⟩ := List.append_inj' hsplit rfl
    obtain rfl := List.singleton_inj.1 hf
    exact he k hk
  · rw [List.concat_eq_append, ← List.cons_append, ← List.append_assoc] at hsplit
    exact h pre f post k (List.append_inj' hsplit rfl).1 hk

theorem SendsAfterAccepted.packet {es : List (Event C)} (h : Run (Step addr) (init C) es σ) :
    SendsAfterAccepted es →
      ∀ a p cid, (a, p) ∈ σ.toServer → p.cid? = some cid → (cid, a) ∈ σ.issued := by
  refine h.invariant_events (I := fun es σ ↦ SendsAfterAccepted es →
    ∀ a p cid, (a, p) ∈ σ.toServer → p.cid? = some cid → (cid, a) ∈ σ.issued) ?_ ?_
  · intro _ a p cid hp
    simp [init] at hp
  · intro es σ e σ' hr ih hs hes a p cid hp hcid
    refine hs.issued_subset ?_
    rcases hs.mem_toServer hp hcid with hold | ⟨k, hk, rfl, rfl⟩
    · exact ih hes.of_append a p cid hold hcid
    · exact (inv_of_run hr).held k ((cid_ne_nullCID_iff hr k).2 (hes es e [] k rfl hk))

/-- **When the packets of the clients are identified**: as long as no client sends before it has
received its acceptance. -/
theorem sends_iff_accepted {es : List (Event C)} (h : Run (Step addr) (init C) es σ) :
    Identified addr es σ ↔ SendsAfterAccepted es := by
  constructor
  · rintro hi pre e post k rfl hk
    obtain ⟨σ₁, -, hpre, -⟩ := h.of_append_cons
    exact (cid_ne_nullCID_iff hpre k).1 (hi.assertion pre e post k σ₁ rfl hk hpre)
  · intro hes
    refine ⟨fun pre e post k σ₁ he hk hpre ↦ ?_, SendsAfterAccepted.packet h hes⟩
    exact (cid_ne_nullCID_iff hpre k).2 (hes pre e post k he hk)

/-- The address of the only client there is. -/
def oneAddress (_ : Unit) : Address := (1, 27016)

theorem sends_iff_accepted_ping : ∃ es σ, Run (Step oneAddress) (init Unit) es σ ∧
    (oneAddress (), .ping 0) ∈ σ.toServer ∧ Identified oneAddress es σ := by
  have h₁ : Run (Step oneAddress) (init Unit) [.sendConnectionRequest ()] _ :=
    .single (.sendConnectionRequest rfl)
  have h₂ := h₁.snoc (.serveConnectionRequest (by decide)
    (handleConnectionRequest_eq ClientHandlerManager.inv_init (oneAddress ()) (by decide)))
  have h₃ := h₂.snoc (.receive (k := ()) (p := .connectionAccept 0) (by decide))
  have h₄ := h₃.snoc (.sendPing (k := ()) rfl)
  -- only the last event sends anything, and by then the acceptance has been received
  have hes := ((sendsAfterAccepted_nil (C := Unit)).snoc (e := .sendConnectionRequest ())
    (by simp [Event.sender?])).snoc (e := .serve (oneAddress ()) .connectionRequest)
    (by simp [Event.sender?]) |>.snoc (e := .receive () (.connectionAccept 0))
    (by simp [Event.sender?]) |>.snoc (e := .sendPing ()) fun k _ ↦ ⟨0, by simp⟩
  exact ⟨_, _, h₄, by decide, (sends_iff_accepted h₄).2 hes⟩

/-- **A client that is not answered within a second** sends a ping nobody gave it an identifier
for. -/
theorem early_ping : ∃ σ,
    Run (Step oneAddress) (init Unit) [.sendConnectionRequest (), .sendPing ()] σ ∧
    ¬Identified oneAddress [.sendConnectionRequest (), .sendPing ()] σ := by
  have h₁ : Run (Step oneAddress) (init Unit) [.sendConnectionRequest ()] _ :=
    .single (.sendConnectionRequest rfl)
  refine ⟨_, h₁.snoc (.sendPing (k := ()) rfl), fun hi ↦ ?_⟩
  exact hi.assertion [.sendConnectionRequest ()] (.sendPing ()) [] () _ rfl rfl h₁ rfl

end Session

end AutoSync
