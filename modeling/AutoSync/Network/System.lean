import AutoSync.Network.Client
import AutoSync.Network.ServerRuns

/-!
# The whole system

One server and its clients, with datagrams of bytes between them.  Every host is the model of its
class, sending thread included; what it has sent may be delivered any number of times, in any order,
or never.  `Deployment` has what the program does not settle: the addresses, the JSON library, and
the applications on both sides.

The system adds nothing to what its hosts do: each of its steps is a step of one of them
(`Step.server`, `Step.client`).  And a packet that arrives does to a host what the session model
says it does, whatever the packet carries besides (`served_of_run`, `received_of_run`).  The module
`AutoSync.Network.Refinement` puts the two together.
-/

set_option autoImplicit false

namespace AutoSync

open Transition

variable {Val C A : Type} {typeCount : ℕ} {TTypes : Fin typeCount → ObjType Val}

/-- What the sending thread of a client does next: a connection request at first, and then the pings
and the sync requests of its loop. -/
def ClientHost.sendNext [Json Val] (server : Address) :
    ClientThread → EStateM Error (ClientHost TTypes) Unit
  | .connect => sendConnectionRequest server
  | .ping _ => sendPing server
  | .syncRequest => sendSyncRequest server

/-- The surroundings of the program, which its source does not settle: where the hosts are, how the
JSON library writes and reads, and what the applications do with data.  These may have variables of
their own, `A`, so that what they do need not be the same each time. -/
structure Deployment (C A : Type) (TTypes : Fin typeCount → ObjType Val) where
  /-- The address of a client, from which the server takes its packets to come. -/
  addr : C → Address
  /-- The address of the server, to which the clients send theirs. -/
  server : Address
  putVal : Val → List UInt8
  extractVal : Val → EStateM Error Packet Val
  onServerData : A → CID → EStateM Error (ServerHost TTypes) Unit
  onClientData : C → A → EStateM Error (ClientHost TTypes) Unit

/-- The server, the clients, and where their sending threads have got to.  What is in the network is
what the hosts have sent, and needs no field. -/
structure System (C : Type) (TTypes : Fin typeCount → ObjType Val) where
  server : ServerHost TTypes
  client : C → ClientHost TTypes
  thread : C → ClientThread

namespace System

def init (C : Type) (TTypes : Fin typeCount → ObjType Val) : System C TTypes where
  server := ServerHost.init TTypes
  client _ := ClientHost.init TTypes
  thread _ := .connect

/-- What can happen, with what the read of a datagram finds in the variables it is to write. -/
inductive Event (C : Type) (TTypes : Fin typeCount → ObjType Val)
  /-- The thread of a client sends its next packet, whichever that is. -/
  | sendNext (k : C)
  | sendDataToServer (k : C) (mArgs : List (Arg Val))
  /-- A packet that a client has sent, be it the first time or not, arrives at the server. -/
  | serve (k : C) (mType : CtoS) (mArgs : List (Arg Val)) (type₀ : NType) (temp₀ : CID)
  | sendDataToClient (mCID : CID) (mArgs : List (Arg Val))
  /-- A packet that the server has sent to the address of a client arrives there. -/
  | receive (k : C) (mType : StoC) (mArgs : List (Arg Val)) (type₀ : NType) (temp₀ : CID)
  | onServer (op : SyncManager.Op TTypes)
  | onClient (k : C) (op : SyncManager.Op TTypes)
  | tick

/-- The client at which something happens, where there is one.  Everything else happens at the
server. -/
def Event.client? : Event C TTypes → Option C
  | .sendNext k | .sendDataToServer k _ | .receive k .. | .onClient k _ => some k
  | .serve .. | .sendDataToClient .. | .onServer _ | .tick => none

variable [DecidableEq C]

/-- The system with another state of one of its clients, and everything else as it was. -/
def setClient (σ : System C TTypes) (k : C) (c : ClientHost TTypes) : System C TTypes :=
  { σ with client := Function.update σ.client k c }

/-- The system after the thread of a client has sent a packet, and goes on to the next. -/
def advance (σ : System C TTypes) (k : C) : System C TTypes :=
  { σ with thread := Function.update σ.thread k (SessionClient.next (σ.thread k)) }

section

variable (σ : System C TTypes) {k j : C} (c : ClientHost TTypes)

@[simp] theorem client_setClient_self : (σ.setClient k c).client k = c := Function.update_self ..

theorem client_setClient_of_ne (h : j ≠ k) : (σ.setClient k c).client j = σ.client j :=
  Function.update_of_ne h ..

@[simp] theorem client_advance : (σ.advance k).client = σ.client := rfl

@[simp] theorem thread_advance_self :
    (σ.advance k).thread k = SessionClient.next (σ.thread k) := Function.update_self ..

theorem thread_advance_of_ne (h : j ≠ k) : (σ.advance k).thread j = σ.thread j :=
  Function.update_of_ne h ..

end

variable [DecidableEq Val] [Json Val]

/-- A step of the system.  It takes place only if the host that takes it comes to the end of what it
does: a host that stops takes no step, here or later, and the others go on without it. -/
inductive Step (D : Deployment C A TTypes) (σ : System C TTypes) :
    Event C TTypes → System C TTypes → Prop
  | sendNext {k c} (h : (ClientHost.sendNext D.server (σ.thread k)).run (σ.client k) = .ok () c) :
      Step D σ (.sendNext k) ((σ.setClient k c).advance k)
  | sendDataToServer {k mArgs c}
      (h : (ClientHost.sendDataToServer D.server mArgs).run (σ.client k) = .ok () c) :
      Step D σ (.sendDataToServer k mArgs) (σ.setClient k c)
  | serve {k mType mArgs type₀ temp₀ s} (a : A) (hp : (D.server, mType, mArgs) ∈ (σ.client k).sent)
      (h : (ServerHost.forward D.extractVal (D.onServerData a) type₀ temp₀).run
        (σ.server.receive (D.addr k) (mkPacket D.putVal CtoS.castEnum mType mArgs)) = .ok () s) :
      Step D σ (.serve k mType mArgs type₀ temp₀) { σ with server := s }
  | sendDataToClient {mCID mArgs s}
      (h : (ServerHost.sendToClient mCID .data mArgs).run σ.server = .ok () s) :
      Step D σ (.sendDataToClient mCID mArgs) { σ with server := s }
  | receive {k mType mArgs type₀ temp₀ c} (a : A) (hp : (D.addr k, mType, mArgs) ∈ σ.server.sent)
      (h : (ClientHost.forward D.extractVal (D.onClientData k a) type₀ temp₀).run
        ((σ.client k).receive D.server (mkPacket D.putVal StoC.castEnum mType mArgs)) = .ok () c) :
      Step D σ (.receive k mType mArgs type₀ temp₀) (σ.setClient k c)
  | onServer {op m} (h : SyncManager.Step σ.server.syncManager op m) :
      Step D σ (.onServer op) { σ with server := { σ.server with syncManager := m } }
  | onClient {k op m} (h : SyncManager.Step (σ.client k).syncManager op m) :
      Step D σ (.onClient k op) (σ.setClient k { σ.client k with syncManager := m })
  | tick : Step D σ .tick { σ with server := { σ.server with own := σ.server.own.tick } }

variable {D : Deployment C A TTypes} {σ σ' : System C TTypes}

/-! ## The hosts on their own

The system does not add anything to what its hosts do.  Each of its steps is a step of the server or
of one client, so that what holds in every run of a host holds of that host in every run of the
system, whatever the others do meanwhile.  `HostsInv` has the two invariants together. -/

/-- **A step of the system is a step of its server**, or leaves the server alone. -/
theorem Step.server {e : Event C TTypes} (hs : Step D σ e σ') : σ'.server = σ.server ∨
    ∃ f, ServerHost.Step D.extractVal D.onServerData σ.server f σ'.server := by
  cases hs with
  | sendNext h => exact .inl rfl
  | sendDataToServer h => exact .inl rfl
  | serve a hp h => exact .inr ⟨_, .datagram a h⟩
  | sendDataToClient h => exact .inr ⟨_, .sendDataToClient h⟩
  | receive a hp h => exact .inl rfl
  | onServer h => exact .inr ⟨_, .onManager h⟩
  | onClient h => exact .inl rfl
  | tick => exact .inr ⟨_, .tick⟩

/-- What happens at one client leaves the others alone, with the threads they have. -/
theorem Step.client_eq {e : Event C TTypes} (hs : Step D σ e σ') {k : C}
    (hk : e.client? ≠ some k) : σ'.client k = σ.client k ∧ σ'.thread k = σ.thread k := by
  have hset : ∀ {j c}, some j ≠ some k →
      (σ.setClient j c).client k = σ.client k ∧ k ≠ j := fun hjk ↦ by
    have hne : k ≠ _ := fun h ↦ hjk (congrArg some h.symm)
    exact ⟨client_setClient_of_ne _ _ hne, hne⟩
  cases hs with
  | sendNext h =>
    obtain ⟨hclient, hne⟩ := hset hk
    exact ⟨hclient, thread_advance_of_ne _ hne⟩
  | sendDataToServer h => exact ⟨(hset hk).1, rfl⟩
  | receive a hp h => exact ⟨(hset hk).1, rfl⟩
  | onClient h => exact ⟨(hset hk).1, rfl⟩
  | _ => exact ⟨rfl, rfl⟩

/-- **A step of the system is a step of a client**, or leaves the client alone. -/
theorem Step.client {e : Event C TTypes} (hs : Step D σ e σ') (k : C) :
    σ'.client k = σ.client k ∨
      ∃ f, ClientHost.Step D.server D.extractVal (D.onClientData k) (σ.client k) f
        (σ'.client k) := by
  by_cases hk : e.client? = some k
  · right
    cases hs with
    | @sendNext j c h =>
      cases hk
      rw [client_advance, client_setClient_self]
      cases hth : σ.thread k with
      | connect => rw [hth] at h; exact ⟨_, .sendConnectionRequest h⟩
      | ping i => rw [hth] at h; exact ⟨_, .sendPing h⟩
      | syncRequest => rw [hth] at h; exact ⟨_, .sendSyncRequest h⟩
    | sendDataToServer h =>
      cases hk
      rw [client_setClient_self]
      exact ⟨_, .sendDataToServer h⟩
    | receive a hp h =>
      cases hk
      rw [client_setClient_self]
      exact ⟨_, .datagram a h⟩
    | onClient h =>
      cases hk
      rw [client_setClient_self]
      exact ⟨_, .onManager h⟩
    | _ => cases hk
  · exact .inl (hs.client_eq hk).1

/-- What the applications on the two sides keep to: when they are given data they send data and
nothing else, the server to clients it has and a client to the server. -/
structure Confined (D : Deployment C A TTypes) : Prop where
  server : ∀ a, ServerHost.Confined (D.onServerData a) fun _ ↦ True
  client : ∀ k a, ClientHost.Confined D.server (D.onClientData k a) fun _ ↦ True

/-- Every host is as it is in a run of its own, with events of which the system needs to know no
more. -/
structure HostsInv (D : Deployment C A TTypes) (σ : System C TTypes) : Prop where
  server : ∃ es, ServerHost.Inv es σ.server
  client : ∀ k, ∃ es, ClientHost.Inv D.server es (σ.client k)

theorem Step.hostsInv (hD : Confined D) {e : Event C TTypes} (hs : Step D σ e σ')
    (hI : HostsInv D σ) : HostsInv D σ' := by
  refine ⟨?_, fun k ↦ ?_⟩
  · obtain ⟨es, hes⟩ := hI.server
    obtain heq | ⟨f, hf⟩ := hs.server
    · exact ⟨es, heq ▸ hes⟩
    · exact ⟨es ++ [f], hf.inv hD.server hes⟩
  · obtain ⟨es, hes⟩ := hI.client k
    obtain heq | ⟨f, hf⟩ := hs.client k
    · exact ⟨es, heq ▸ hes⟩
    · exact ⟨es ++ [f], hf.inv (hD.client k) hes⟩

theorem hostsInv_of_run (hD : Confined D) {es : List (Event C TTypes)}
    (h : Run (Step D) (init C TTypes) es σ) : HostsInv D σ :=
  h.invariant ⟨⟨[], ServerHost.inv_init⟩, fun _ ↦ ⟨[], ClientHost.inv_init D.server⟩⟩
    fun _ _ _ hI hs ↦ hs.hostsInv hD hI

end System

/-! ## What becomes of a packet that arrives

`Server` and `Client` say what datagrams of any origin do.  A packet of the system has been written
by the other side, with the identifier in front, and says more: which event of the session its
arrival is.  `Served` and `Received` have a case for every packet the session model treats on its
own, and one for those that at most make the application send data. -/

/-- What the session model keeps of a packet to the server, which is its type and the identifier it
starts with. -/
def CtoS.toServer : CtoS → List (Arg Val) → Option ToServer
  | .connectionRequest, _ => some .connectionRequest
  | .ping, .int cid :: _ => some (.ping cid)
  | .syncRequest, .int cid :: _ => some (.syncRequest cid)
  | .syncSatisfied, .int cid :: _ => some (.syncSatisfied cid)
  | .data, .int cid :: _ => some (.data cid)
  | _, _ => none

namespace ServerHost

variable {s s' : ServerHost TTypes}

/-- What a packet from `a` makes of the server, as far as the list of clients and the packets sent
go. -/
inductive Served (a : Address) (s s' : ServerHost TTypes) [Json Val] : ToServer → Prop
  | connectionRequest (hne : s.own.nextCID ≠ maxInt) (hown : s'.own = s.own.accepted a.1 a.2)
      (hsent : s'.sent = s.sent ++ [(a, .connectionAccept,
        [.int s.own.nextCID, .str "Welcome to the server."])]) : Served a s s' .connectionRequest
  | ping {cid : CID} {ch : HandlerPtr} (hch : s.own.chMap[cid]? = some ch)
      (hown : s'.own = { s.own with
        clientHandlers := s.own.clientHandlers.modify ch ClientHandler.resetTimeout })
      (hsent : s'.sent = s.sent) : Served a s s' (.ping cid)
  | syncRequest {cid : CID} (h : Answers cid s s') : Served a s s' (.syncRequest cid)
  | other {q : ToServer} (hown : s'.own = s.own) {out : List (Address × StoC × List (Arg Val))}
      (hsent : s'.sent = s.sent ++ out)
      (hout : ∀ p ∈ out, p.2.1 = .data ∧ s.Connected p.1) : Served a s s' q

variable [DecidableEq Val] [Json Val] {putVal : Val → List UInt8}
  {extractVal : Val → EStateM Error Packet Val}
  {onDataReceived : CID → EStateM Error (ServerHost TTypes) Unit} {a : Address} {mType : CtoS}
  {mArgs : List (Arg Val)} {q : ToServer} {type₀ : NType} {temp₀ : CID}

/-- **A packet of a client that arrives** does to the server what the session model says, if the
read of the identifier gives what the client has written. -/
theorem served_of_run (hown : s.own.Inv) (hdata : Confined onDataReceived fun _ ↦ True)
    (hq : CtoS.toServer mType mArgs = some q)
    (hcid : ∀ cid, q.cid? = some cid → Packet.Fits 4 cid)
    (h : (forward extractVal onDataReceived type₀ temp₀).run
      (s.receive a (mkPacket putVal CtoS.castEnum mType mArgs)) = .ok () s') : Served a s s' q := by
  by_cases hty : mType = .connectionRequest
  · subst hty
    obtain rfl := Option.some_inj.1 hq
    rw [run_forward_mkPacket_connectionRequest, run_handleConnectionRequest (s := { s with
      recvBuffer := Packet.received (fillPacket putVal [] mArgs), sender := a }) hown] at h
    by_cases hmax : s.own.nextCID = maxInt
    · rw [if_pos hmax] at h
      cases h
    · rw [if_neg hmax] at h
      cases h
      exact .connectionRequest hmax rfl rfl
  -- every other packet starts with an identifier
  obtain ⟨cid, rest, rfl, hqcid⟩ : ∃ cid rest, mArgs = .int cid :: rest ∧ q.cid? = some cid := by
    unfold CtoS.toServer at hq
    split at hq <;> first | exact absurd rfl hty | (cases hq; exact ⟨_, _, rfl, rfl⟩) | cases hq
  rw [run_forward_mkPacket hty (hcid cid hqcid), serve.eq_def, EStateM.run_bind,
    EStateM.run_get] at h
  let t : ServerHost TTypes :=
    { s with recvBuffer := Packet.received (fillPacket putVal [] rest), sender := a }
  have hval : ∀ v p, ((extractVal v).run p).Ends (fun _ ↦ True) fun _ ↦ True :=
    fun _ _ ↦ EStateM.Result.ends_true _
  cases hhas : s.own.has cid with
  | false =>
    simp only [hhas, Bool.not_false, if_true] at h
    cases h
    exact .other rfl (List.append_nil _).symm (by simp)
  | true =>
    simp only [hhas, Bool.not_true, Bool.false_eq_true, if_false] at h
    cases mType with
    | connectionRequest => exact absurd rfl hty
    | ping =>
      obtain rfl := Option.some_inj.1 hq
      obtain ⟨ch, hch⟩ := Option.isSome_iff_exists.1 hhas
      have hrun := run_handlePing (s := t) hch
      rw [hrun] at h
      cases h
      exact .ping hch rfl rfl
    | syncRequest =>
      obtain rfl := Option.some_inj.1 hq
      have hends := SessionHost.ends_caught (ends_handleSyncRequest (s := t) hval hown cid)
      rw [h] at hends
      exact .syncRequest ⟨hends.own, hends.syncManager, hends.sent⟩
    | data =>
      have hcopes := SessionHost.copes_caught (hdata cid t hown)
      rw [h] at hcopes
      obtain ⟨hown', out, hout, hto⟩ := hcopes.survives s' (.ok () s')
      exact .other hown' hout hto
    | syncSatisfied =>
      cases h
      exact .other rfl (List.append_nil _).symm (by simp)

end ServerHost

theorem StoC.of_toClient_connectionAccept {mArgs : List (Arg Val)} {q : ToClient}
    (h : StoC.toClient .connectionAccept mArgs = some q) :
    ∃ id rest, mArgs = .int id :: rest ∧ q = .connectionAccept id := by
  cases mArgs with
  | nil => cases h
  | cons mArg rest =>
    cases mArg with
    | int id => exact ⟨id, rest, rfl, (Option.some_inj.1 h).symm⟩
    | _ => cases h

namespace ClientHost

variable {c c' : ClientHost TTypes}

/-- What a packet makes of a client, as far as its identifier and the packets it has sent go. -/
inductive Received (server : Address) (c c' : ClientHost TTypes) : ToClient → Prop
  | connectionAccept {id : CID} (hown : c'.own = id) (hsent : c'.sent = c.sent) :
      Received server c c' (.connectionAccept id)
  | other {q : ToClient} (hown : c'.own = c.own) {out : List (Address × CtoS × List (Arg Val))}
      (hsent : c'.sent = c.sent ++ out) (hout : ∀ p ∈ out, c.IsData server p) :
      Received server c c' q

variable [Json Val] {putVal : Val → List UInt8} {extractVal : Val → EStateM Error Packet Val}
  {onDataReceived : EStateM Error (ClientHost TTypes) Unit} {server : Address} {mType : StoC}
  {mArgs : List (Arg Val)} {q : ToClient} {type₀ : NType} {temp₀ : CID}

/-- **A packet of the server that arrives** does to the client what the session model says, if the
identifier in it fits into the bytes it is written to. -/
theorem received_of_run (hdata : Confined server onDataReceived fun _ ↦ True)
    (hq : StoC.toClient mType mArgs = some q)
    (hid : ∀ id, q = .connectionAccept id → Packet.Fits 4 id)
    (h : (forward extractVal onDataReceived type₀ temp₀).run
      (c.receive server (mkPacket putVal StoC.castEnum mType mArgs)) = .ok () c') :
    Received server c c' q := by
  cases mType with
  | connectionAccept =>
    obtain ⟨id, rest, rfl, rfl⟩ := StoC.of_toClient_connectionAccept hq
    obtain ⟨recvBuffer, hrun⟩ := run_forward_mkPacket_connectionAccept (hid id rfl) rest
    rw [hrun] at h
    cases h
    exact .connectionAccept rfl rfl
  | syncRequestSatisfy =>
    rw [run_forward_mkPacket] at h
    have hends := SessionHost.ends_caught (ends_handle extractVal (s := { c with
      recvBuffer := Packet.received (fillPacket putVal [] mArgs), sender := server }) temp₀ hdata
      (show some StoC.syncRequestSatisfy ≠ some .connectionAccept by simp))
    rw [h] at hends
    obtain ⟨hown, out, hout, hto⟩ := hends
    exact .other hown hout hto
  | data =>
    rw [run_forward_mkPacket] at h
    have hends := SessionHost.ends_caught (ends_handle extractVal (s := { c with
      recvBuffer := Packet.received (fillPacket putVal [] mArgs), sender := server }) temp₀ hdata
      (show some StoC.data ≠ some .connectionAccept by simp))
    rw [h] at hends
    obtain ⟨hown, out, hout, hto⟩ := hends
    exact .other hown hout hto
  | _ =>
    rw [run_forward_mkPacket] at h
    cases h
    exact .other rfl (List.append_nil _).symm (by simp)

end ClientHost

end AutoSync
