import AutoSync.Network.ChatHost
import AutoSync.Network.Schedule

/-!
# The chat over the network

The whole program: the server of the chat, the hosts of its clients with their threads, the users
who write through them, and datagrams that may arrive in any order, repeatedly or never.

`chat_of_run` says what comes of it.  The server has a list of messages, made of packets that the
users have written and of no others.  But the users do not get to see it: the managers of the
clients stay empty.

For that it does not matter what is lost, or which hosts have stopped.  Here every packet that was
ever sent may still arrive, and an operation that fails is no step; `ChatNet` puts the chat into a
network that loses packets, with hosts that stop.
-/

set_option autoImplicit false

namespace AutoSync

open Transition

/-! ## What a client does with data

The server never sends data, but a datagram from elsewhere may be taken for them.  The handler of
the client reads what it is to show, and shows it in the log: the list of messages that the user
sees is the one in the manager. -/

namespace ChatClient

variable [EnumStream DP_StoC]

/-- What a client reads.  The variables `type` and `id` have not been initialised. -/
def read (type₀ : Option DP_StoC) (id₀ : ℤ) (mP : Packet) :
    Option (ℤ × String × String) × Packet :=
  let (type, mP) := EnumStream.extract type₀ mP
  match type with
  | some .displayMsg =>
    let (id, mP) := mP.extractInt 4 id₀
    let (author, mP) := mP.extractStr
    let (msg, mP) := mP.extractStr
    (some (id, author, msg), mP)
  | none => (none, mP)

/-- The handler for data.  What it reads is only logged, and the packet is what changes. -/
def onDataReceived (vars : ChatVars) : EStateM Error (ClientHost Chat.types) Unit :=
  modify fun s ↦ { s with recvBuffer := (read vars.toClient vars.id₀ s.recvBuffer).2 }

theorem confined_onDataReceived (server : Address) (vars : ChatVars) :
    ClientHost.Confined server (onDataReceived vars) fun _ ↦ True := fun _ ↦
  ⟨rfl, [], (List.append_nil _).symm, by simp⟩

end ChatClient

/-! ## What the applications have sent

Whoever looks for the origin of a packet at the server gets to the packets that the clients have
sent, and there to what their applications wanted to be sent.  `SentBy` is the second half of that
way, for any system whose handlers for data do not send. -/

namespace System

variable {Val C A : Type} {typeCount : ℕ} {TTypes : Fin typeCount → ObjType Val}

/-- The data that a client sends are those its application sends, with an identifier in front. -/
def SentBy (es : List (Event C TTypes)) (k : C) (c : ClientHost TTypes) : Prop :=
  ∀ dest mArgs, (dest, .data, mArgs) ∈ c.sent → ∃ cid mArgs',
    mArgs = .int cid :: mArgs' ∧ .sendDataToServer k mArgs' ∈ es

theorem SentBy.mono {es fs : List (Event C TTypes)} {k : C} {c c' : ClientHost TTypes}
    (h : SentBy es k c) (hsub : es ⊆ fs) (hsent : c'.sent = c.sent) : SentBy fs k c' := by
  intro dest mArgs hp
  obtain ⟨cid, mArgs', rfl, he⟩ := h dest mArgs (hsent ▸ hp)
  exact ⟨cid, mArgs', rfl, hsub he⟩

variable [DecidableEq C] [DecidableEq Val] [Json Val] {D : Deployment C A TTypes}
  {σ σ' : System C TTypes}

theorem SentBy.step (hcount : typeCount ≠ 0)
    (hkeep : ∀ k a c, ((D.onClientData k a).run c).state.sent = c.sent)
    {es : List (Event C TTypes)} {e : Event C TTypes} (hs : Step D σ e σ') (hH : HostsInv D σ)
    (hv : ReadsBackSent D σ) {k : C} (h : SentBy es k (σ.client k)) :
    SentBy (es ++ [e]) k (σ'.client k) := by
  have hsub : es ⊆ es ++ [e] := List.subset_append_left ..
  by_cases hk : e.client? = some k
  · obtain ⟨gs, hgs⟩ := hH.server
    cases hs with
    | @sendNext j c hrun =>
      cases hk
      obtain ⟨mArgs₀, rfl⟩ := ClientHost.run_sendNext hrun
      rw [client_advance, client_setClient_self]
      intro dest mArgs hp
      rcases List.mem_append.1 hp with hp | hp
      · exact h.mono hsub rfl dest mArgs hp
      · obtain ⟨-, hp⟩ := Prod.mk.inj (List.mem_singleton.1 hp)
        exact absurd (Prod.mk.inj hp).1.symm (ClientThread.packet_ne_data _)
    | @sendDataToServer j mArgs₀ c hrun =>
      cases hk
      rw [client_setClient_self]
      intro dest mArgs hp
      rw [ClientHost.sendDataToServer, ClientHost.run_sendToServer] at hrun
      split at hrun
      · cases hrun
      · cases hrun
        rcases List.mem_append.1 hp with hp | hp
        · exact h.mono hsub rfl dest mArgs hp
        · cases List.mem_singleton.1 hp
          exact ⟨_, mArgs₀, rfl, List.mem_append_right _ (List.mem_singleton_self _)⟩
    | @receive j mType mArgs type₀ temp₀ c a hp hrun =>
      cases hk
      rw [client_setClient_self]
      by_cases hty : mType = .syncRequestSatisfy
      · subst hty
        obtain ⟨d, rfl⟩ := hgs.answers _ hp rfl
        exact absurd hrun (ClientHost.forward_syncRequestSatisfy_ne_ok hcount
          (hv _ hp d.json (List.mem_singleton_self _)))
      · exact h.mono hsub (ClientHost.keeps_forward (f := SessionHost.sent) (fun _ _ _ _ ↦ rfl)
          (hkeep k a) hty hrun)
    | onClient hop =>
      cases hk
      rw [client_setClient_self]
      exact h.mono hsub rfl
    | _ => cases hk
  · rw [(hs.client_eq hk).1]
    exact h.mono hsub rfl

theorem sentBy_of_run (hD : Confined D) (hcount : typeCount ≠ 0)
    (hkeep : ∀ k a c, ((D.onClientData k a).run c).state.sent = c.sent)
    {es : List (Event C TTypes)} (h : Run (Step D) (init C TTypes) es σ) (hv : ReadsBackSent D σ)
    (k : C) : SentBy es k (σ.client k) := by
  refine invariant_of_readsBack (I := fun es σ ↦ SentBy es k (σ.client k)) hD ?_ ?_ h hv
  · intro dest mArgs hp
    simp [init, ClientHost.init] at hp
  · exact fun es σ e σ' hH hv ih hs ↦ ih.step hcount hkeep hs hH hv

end System

/-! ## The program

`ChatSystem` is the system of `System` with the chat as its application, and with the counter that
the handler for data of the server has captured.  Its runs are runs of that system, and seen from
the server they are runs of `ChatHost`.  What is known of the two then holds of the program. -/

/-- Where the hosts are, and how the JSON library writes and reads, which the program does not
settle. -/
structure Surroundings (C : Type) where
  addr : C → Address
  server : Address
  putVal : JsonTree → List UInt8
  extractVal : JsonTree → EStateM Error Packet JsonTree

/-- The chat in its surroundings, as a system of hosts whose handlers for data are those of the
chat. -/
def Surroundings.deployment {C : Type} [EnumStream DP_CtoS] [EnumStream DP_StoC]
    (N : Surroundings C) : Deployment C ChatVars Chat.types where
  addr := N.addr
  server := N.server
  putVal := N.putVal
  extractVal := N.extractVal
  onServerData := ChatHost.onServerData
  onClientData _ := ChatClient.onDataReceived

/-- The hosts, and the counter of the server. -/
structure ChatSystem (C : Type) where
  system : System C Chat.types
  lastID : ℤ

namespace ChatSystem

variable {C : Type} [EnumStream DP_CtoS] [EnumStream DP_StoC]

def init (C : Type) : ChatSystem C := ⟨System.init C Chat.types, 0⟩

/-- The server of the chat, which is the session together with the counter. -/
def host (σ : ChatSystem C) : ChatHost := ⟨σ.system.server, σ.lastID⟩

def setHost (σ : ChatSystem C) (c : ChatHost) : ChatSystem C :=
  ⟨{ σ.system with server := c.host }, c.lastID⟩

/-- What can happen.  The users have two ways to write, and no other way to change anything. -/
inductive Event (C : Type)
  /-- The thread of a client sends its next packet, whichever that is. -/
  | sendNext (k : C)
  /-- The user of a client writes a message, or edits one, and the client sends it at once. -/
  | write (k : C) (p : DataPacket)
  /-- A packet that a client has sent, be it the first time or not, arrives at the server. -/
  | serve (k : C) (mType : CtoS) (mArgs : List (Arg JsonTree)) (type₀ : NType) (temp₀ : CID)
    (dataType₀ : Option DP_CtoS) (id₀ : ℤ)
  /-- A packet that the server has sent to the address of a client arrives there. -/
  | receive (k : C) (mType : StoC) (mArgs : List (Arg JsonTree)) (type₀ : NType) (temp₀ : CID)
  | tick

def Event.toSystem : Event C → System.Event C Chat.types
  | .sendNext k => .sendNext k
  | .write k p => .sendDataToServer k p.mArgs
  | .serve k mType mArgs type₀ temp₀ _ _ => .serve k mType mArgs type₀ temp₀
  | .receive k mType mArgs type₀ temp₀ => .receive k mType mArgs type₀ temp₀
  | .tick => .tick

/-- What the event is for the server, if it is anything: the arrival of a datagram, or a step of its
timeout. -/
def Event.toHost? (N : Surroundings C) : Event C → Option ChatHost.Event
  | .serve k mType mArgs type₀ temp₀ dataType₀ id₀ =>
    some (.datagram (N.addr k) (mkPacket N.putVal CtoS.castEnum mType mArgs) type₀ temp₀ dataType₀
      id₀)
  | .tick => some .tick
  | _ => none

/-- The packets that the server handles as data, in the order in which they arrive. -/
def handled (N : Surroundings C) (es : List (Event C)) : List DataPacket :=
  ChatHost.packets (es.filterMap (Event.toHost? N))

variable [DecidableEq C]

/-- A step of the program, which takes place only if the host it belongs to comes to the end of what
it does. -/
inductive Step (N : Surroundings C) (σ : ChatSystem C) : Event C → ChatSystem C → Prop
  | sendNext {k τ} (h : System.Step N.deployment σ.system (.sendNext k) τ) :
      Step N σ (.sendNext k) { σ with system := τ }
  | write {k p τ} (hp : p.Fits)
      (h : System.Step N.deployment σ.system (.sendDataToServer k p.mArgs) τ) :
      Step N σ (.write k p) { σ with system := τ }
  | serve {k mType mArgs type₀ temp₀ dataType₀ id₀ c}
      (hp : (N.server, mType, mArgs) ∈ (σ.system.client k).sent)
      (h : (ChatHost.forward N.extractVal type₀ temp₀ dataType₀ id₀).run { σ.host with
        host := σ.system.server.receive (N.addr k) (mkPacket N.putVal CtoS.castEnum mType mArgs) } =
          .ok () c) :
      Step N σ (.serve k mType mArgs type₀ temp₀ dataType₀ id₀) (σ.setHost c)
  | receive {k mType mArgs type₀ temp₀ τ}
      (h : System.Step N.deployment σ.system (.receive k mType mArgs type₀ temp₀) τ) :
      Step N σ (.receive k mType mArgs type₀ temp₀) { σ with system := τ }
  | tick {τ} (h : System.Step N.deployment σ.system .tick τ) :
      Step N σ .tick { σ with system := τ }

variable {N : Surroundings C} {σ σ' : ChatSystem C} {e : Event C} {es : List (Event C)}

omit [DecidableEq C] in
theorem confined_deployment (N : Surroundings C) : System.Confined N.deployment where
  server := ChatHost.confined_onServerData
  client _ := ChatClient.confined_onDataReceived N.server

theorem Step.system (hs : Step N σ e σ') :
    System.Step N.deployment σ.system e.toSystem σ'.system := by
  cases hs with
  | sendNext h => exact h
  | write hp h => exact h
  | @serve k mType mArgs type₀ temp₀ dataType₀ id₀ c hp h =>
    have hhost := ChatHost.mapState_run_forward N.extractVal { σ.host with
      host := σ.system.server.receive (N.addr k) (mkPacket N.putVal CtoS.castEnum mType mArgs) }
        type₀ temp₀ dataType₀ id₀
    rw [h] at hhost
    exact .serve _ hp hhost.symm
  | receive h => exact h
  | tick h => exact h

/-- The program is a system of hosts, with the chat as its application. -/
theorem system_of_run (h : Run (Step N) (init C) es σ) :
    Run (System.Step N.deployment) (System.init C Chat.types) (es.map Event.toSystem) σ.system :=
  h.map system Event.toSystem fun _ _ _ ↦ Step.system

/-- A step of the program is a step of its server, or leaves the server alone. -/
theorem Step.host (hs : Step N σ e σ') : (e.toHost? N = none ∧ σ'.host = σ.host) ∨
    ∃ f, e.toHost? N = some f ∧ ChatHost.Step N.extractVal σ.host f σ'.host := by
  cases hs with
  | sendNext h =>
    cases h
    exact .inl ⟨rfl, rfl⟩
  | write hp h =>
    cases h
    exact .inl ⟨rfl, rfl⟩
  | serve hp h => exact .inr ⟨_, rfl, .datagram h⟩
  | receive h =>
    cases h
    exact .inl ⟨rfl, rfl⟩
  | tick h =>
    cases h
    exact .inr ⟨_, rfl, .tick⟩

/-- The server, on its own, has a run with the events that are for it. -/
theorem host_of_run (h : Run (Step N) (init C) es σ) :
    Run (ChatHost.Step N.extractVal) ChatHost.init (es.filterMap (Event.toHost? N)) σ.host := by
  refine h.invariant_events (I := fun es σ ↦ Run (ChatHost.Step N.extractVal) ChatHost.init
    (es.filterMap (Event.toHost? N)) σ.host) .nil ?_
  intro es σ e σ' hrun ih hs
  rw [List.filterMap_append]
  obtain ⟨hf, hhost⟩ | ⟨f, hf, hstep⟩ := hs.host
  · rw [hhost, List.filterMap_cons_none hf, List.filterMap_nil, List.append_nil]
    exact ih
  · rw [List.filterMap_cons_some hf]
    exact ih.snoc hstep

omit [DecidableEq C] [EnumStream DP_StoC] in
theorem handled_append_singleton (N : Surroundings C) (es : List (Event C)) (e : Event C) :
    handled N (es ++ [e]) = handled N es ++ ((e.toHost? N).bind (ChatHost.Event.dataPacket?
      (ChatHost.clients (es.filterMap (Event.toHost? N))))).toList := by
  rw [handled, List.filterMap_append]
  cases hf : e.toHost? N with
  | none =>
    rw [List.filterMap_cons_none hf, List.filterMap_nil, List.append_nil]
    exact (List.append_nil _).symm
  | some f =>
    rw [List.filterMap_cons_some hf, List.filterMap_nil, ChatHost.packets_append_singleton]
    rfl

/-! ## What the users get

Two things come together.  A packet that the server handles can be followed back, over the datagram
and the client that sent it, to a user who wrote it.  And a client never changes its manager, for
the only thing in the program that could make it is the answer to a sync request, which stops the
client instead. -/

/-- What the users write are bytes, and identifiers that are an `int`. -/
theorem fits_of_run (h : Run (Step N) (init C) es σ) {k : C} {p : DataPacket}
    (hp : .write k p ∈ es) : p.Fits := by
  obtain ⟨es₁, es₂, rfl⟩ := List.append_of_mem hp
  obtain ⟨σ₁, σ₂, -, hs⟩ := h.of_append_cons
  cases hs with
  | write hp h => exact hp

/-- Data on the way to the server are what a user has written, with an identifier in front. -/
theorem exists_write_of_sent (h : Run (Step N) (init C) es σ)
    (hv : System.ReadsBackSent N.deployment σ.system) {k : C} {dest : Address}
    {mArgs : List (Arg JsonTree)} (hp : (dest, .data, mArgs) ∈ (σ.system.client k).sent) :
    ∃ cid p, mArgs = .int cid :: p.mArgs ∧ p.Fits ∧ .write k p ∈ es := by
  obtain ⟨cid, mArgs', rfl, he⟩ := System.sentBy_of_run (confined_deployment N) (by decide)
    (fun _ _ _ ↦ rfl) (system_of_run h) hv k dest mArgs hp
  obtain ⟨e, hmem, heq⟩ := List.mem_map.1 he
  cases e with
  | write j p =>
    cases heq
    exact ⟨cid, p, rfl, fits_of_run h hmem, hmem⟩
  | _ => cases heq

/-- **Nothing is made up**: what the server handles has been written by a user, through some
client. -/
theorem exists_write_of_handled (h : Run (Step N) (init C) es σ)
    (hv : System.ReadsBackSent N.deployment σ.system) {p : DataPacket} (hp : p ∈ handled N es) :
    ∃ k, .write k p ∈ es := by
  revert hv p
  refine h.invariant_events (I := fun es σ ↦ System.ReadsBackSent N.deployment σ.system →
    ∀ {p}, p ∈ handled N es → ∃ k, .write k p ∈ es)
      (fun _ {p} hp ↦ by simp [handled, ChatHost.packets, ChatHost.packetsFrom] at hp) ?_
  intro es σ e σ' hrun ih hs hv p hp
  have hH := System.hostsInv_of_run (confined_deployment N) (system_of_run hrun)
  have hv' : System.ReadsBackSent N.deployment σ.system := fun q hq ↦
    hv q ((hs.system.isPrefix (confined_deployment N) hH).subset hq)
  rw [handled_append_singleton, List.mem_append, Option.mem_toList] at hp
  obtain hp | hp := hp
  · obtain ⟨k, hk⟩ := ih hv' hp
    exact ⟨k, List.mem_append_left _ hk⟩
  -- a new packet comes from a datagram with data
  · cases hs with
    | @serve k mType mArgs type₀ temp₀ dataType₀ id₀ c hsent h =>
      by_cases hty : mType = .data
      · subst hty
        obtain ⟨cid, q, rfl, hq, hk⟩ := exists_write_of_sent hrun hv' hsent
        simp only [Event.toHost?, Option.bind_some, ChatHost.Event.dataPacket?_mkPacket hq] at hp
        split at hp
        · cases hp
          exact ⟨k, List.mem_append_left _ hk⟩
        · cases hp
      · have hdata := (ChatHost.Event.isData_mkPacket N.putVal (N.addr k) mType mArgs type₀ temp₀
          dataType₀ id₀).not.2 hty
        simp only [Event.toHost?, Option.bind_some,
          ChatHost.Event.dataPacket?_of_not_isData hdata] at hp
        cases hp
    | _ => cases hp

/-- The users of the clients see nothing: the managers are as they were at the start. -/
theorem syncManager_of_run (h : Run (Step N) (init C) es σ)
    (hv : System.ReadsBackSent N.deployment σ.system) (k : C) :
    (σ.system.client k).syncManager = SyncManager.fresh Chat.types := by
  have hreaches := System.reaches_of_run (confined_deployment N) (by decide) (fun _ _ _ ↦ rfl)
    (system_of_run h) hv k
  have hops : System.opsOf k (es.map Event.toSystem) = [] := by
    rw [System.opsOf, List.filterMap_eq_nil_iff]
    intro e he
    obtain ⟨e, -, rfl⟩ := List.mem_map.1 he
    cases e <;> rfl
  rw [hops] at hreaches
  exact Run.unique SyncManager.Step.unique hreaches .nil

/-- What the session gets through the server of the chat gets through. -/
theorem exists_step_of_forward {k : C} {mType : CtoS} {mArgs : List (Arg JsonTree)} {type₀ : NType}
    {temp₀ : CID} {dataType₀ : Option DP_CtoS} {id₀ : ℤ} {s : ServerHost Chat.types}
    (hp : (N.server, mType, mArgs) ∈ (σ.system.client k).sent)
    (h : (ServerHost.forward N.extractVal
      (ChatHost.onServerData ⟨σ.lastID, dataType₀, none, id₀⟩) type₀ temp₀).run
        (σ.system.server.receive (N.addr k) (mkPacket N.putVal CtoS.castEnum mType mArgs)) =
          .ok () s) :
    ∃ c, Step N σ (.serve k mType mArgs type₀ temp₀ dataType₀ id₀) (σ.setHost c) ∧ c.host = s := by
  have hhost := ChatHost.mapState_run_forward N.extractVal { σ.host with
    host := σ.system.server.receive (N.addr k) (mkPacket N.putVal CtoS.castEnum mType mArgs) }
      type₀ temp₀ dataType₀ id₀
  obtain ⟨c, hc, hs⟩ := EStateM.Result.mapState_eq_ok.1 (hhost.trans h)
  exact ⟨c, .serve hp hc, hs⟩

/-- The server gets through what a user has written if the list takes it. -/
theorem exists_step_of_data (h : Run (Step N) (init C) es σ) {p : DataPacket} {l : Transcript}
    (hl : transcript (handled N es ++ [p]) = some l) {k : C} {mArgs : List (Arg JsonTree)}
    (type₀ : NType) (temp₀ : CID) (dataType₀ : Option DP_CtoS) (id₀ : ℤ)
    (hsent : (N.server, .data, mArgs) ∈ (σ.system.client k).sent)
    (hp : (ChatHost.Event.datagram (N.addr k) (mkPacket N.putVal CtoS.castEnum .data mArgs) type₀
      temp₀ dataType₀ id₀).dataPacket? (ChatHost.clients (es.filterMap (Event.toHost? N))) =
        some p) : ∃ c,
    Step N σ (.serve k .data mArgs type₀ temp₀ dataType₀ id₀) (σ.setHost c) ∧
      handled N (es ++ [.serve k .data mArgs type₀ temp₀ dataType₀ id₀]) = handled N es ++ [p] ∧
      ChatServer.Step σ.host.chat p c.chat ∧ c.host.sent = σ.system.server.sent := by
  have hhost := host_of_run h
  rw [transcript_append_singleton] at hl
  obtain ⟨l₀, hl₀, hl⟩ := Option.bind_eq_some_iff.1 hl
  obtain ⟨c, hc⟩ := (ChatHost.exists_step_iff hhost hl₀ hp).2 ⟨l, hl⟩
  obtain ⟨hstep, hkept⟩ := (ChatHost.step_of_dataPacket? hhost hp).1 c hc
  cases hc with
  | datagram hrun =>
    refine ⟨c, .serve hsent hrun, ?_, hstep, hkept⟩
    rw [handled_append_singleton, Event.toHost?, Option.bind_some, hp, Option.toList_some]

omit [DecidableEq C] [EnumStream DP_StoC] in
/-- What is no data adds nothing to what the server has handled. -/
theorem handled_append_of_not_data (es : List (Event C)) {e : Event C}
    (he : ∀ f, e.toHost? N = some f → ¬ f.IsData) : handled N (es ++ [e]) = handled N es := by
  rw [handled_append_singleton]
  cases hf : e.toHost? N with
  | none => exact List.append_nil _
  | some f =>
    rw [Option.bind_some, ChatHost.Event.dataPacket?_of_not_isData (he f hf)]
    exact List.append_nil _

end ChatSystem

namespace Chat

open ChatSystem (Step init)

/-- The enumeration of the other direction, as its integer in four bytes. -/
instance intStream' : EnumStream DP_StoC :=
  .ofInt (fun _ ↦ 0) (fun | 0 => some .displayMsg | _ => none) (fun _ ↦ by decide)
    (by rintro ⟨⟩; rfl)

/-- Two clients, with a JSON library that knows the values they need. -/
def twoUsers : Surroundings Bool where
  addr k := (if k then 2 else 1, 27016)
  server := (0, 27015)
  putVal := JsonTree.write
  extractVal := JsonTree.readKnown [noMessages, oneMessageDiff]

/-- What the client sends for a message, once it has the identifier `0`. -/
def messageArgs : List (Arg JsonTree) := .int 0 :: (DataPacket.sendMsg "ann" "hello").mArgs

/-- A client connects, its user writes a message, and its thread sends the pings that come before a
sync request. -/
def writtenMessage : List (ChatSystem.Event Bool) :=
  [.sendNext true, .serve true .connectionRequest [] 0 7 none 5,
    .receive true .connectionAccept (welcome 0) 0 7, .write true (.sendMsg "ann" "hello"),
    .sendNext true, .sendNext true, .sendNext true, .sendNext true]

/-- Then the message arrives, and nothing else does. -/
def arrivedMessage : List (ChatSystem.Event Bool) :=
  writtenMessage ++ [.serve true .data messageArgs 0 7 none 5]

/-- After that the thread asks to synchronize, and the request arrives and is answered. -/
def answeredRequest : List (ChatSystem.Event Bool) :=
  arrivedMessage ++ [.sendNext true] ++
    [.serve true .syncRequest [.int 0, .val noMessages] 0 7 none 5]

theorem exists_run_writtenMessage : ∃ σ, Run (Step twoUsers) (init Bool) writtenMessage σ ∧
    (twoUsers.server, .data, messageArgs) ∈ (σ.system.client true).sent ∧
    (σ.system.client true).own = 0 ∧
    (σ.system.client true).syncManager = SyncManager.fresh types ∧
    σ.system.thread true = .syncRequest ∧ σ.host.chat = ChatServer.init ∧
    σ.system.server.sent = [((2, 27016), .connectionAccept, welcome 0)] := by
  have h : Run (Step twoUsers) (init Bool) writtenMessage _ :=
    (((((((Run.single (.sendNext (.sendNext rfl))).snoc (.serve (.head _) rfl)).snoc
      (.receive (.receive ⟨0, none, none, 0⟩ (.head _) rfl))).snoc
      (.write (by decide) (.sendDataToServer rfl))).snoc (.sendNext (.sendNext rfl))).snoc
      (.sendNext (.sendNext rfl))).snoc (.sendNext (.sendNext rfl))).snoc
      (.sendNext (.sendNext rfl))
  exact ⟨_, h, .tail _ (.head _), rfl, rfl, rfl, rfl, rfl⟩

/-- After the message the server has the manager with that message. -/
theorem syncManager_of_step {s : ChatServer}
    (h : ChatServer.Step .init (.sendMsg "ann" "hello") s) : s.syncManager = oneMessageManager := by
  let j : Fin maxObjs := ⟨0, by decide⟩
  have hsent : ChatServer.Step .init (.sendMsg "ann" "hello")
      (ChatServer.init.sent j "ann" "hello") := .of_run (ChatServer.run_sendMsg rfl rfl)
  have hmanager : oneMessageManager = _ := congrArg EStateM.Result.state
    (SyncManager.run_serverCreate (t := messages) (m := SyncManager.fresh types) (j := j) rfl rfl
      (run_setFromJson_messageVal 0 "ann" "hello"))
  rw [ChatServer.Step.unique _ _ _ _ h hsent, hmanager]
  rfl

theorem mem_numbered_requesters : ((0 : CID), ((2, 27016) : Address)) ∈
    ServerHost.numbered (ServerHost.requesters ((arrivedMessage.filterMap
      (ChatSystem.Event.toHost? twoUsers)).map ChatHost.Event.toHost)) := by
  decide +kernel

theorem exists_run_arrivedMessage : ∃ σ, Run (Step twoUsers) (init Bool) arrivedMessage σ ∧
    ChatSystem.handled twoUsers arrivedMessage = [.sendMsg "ann" "hello"] ∧
    (σ.system.client true).own = 0 ∧
    (σ.system.client true).syncManager = SyncManager.fresh types ∧
    σ.system.thread true = .syncRequest ∧ σ.system.server.syncManager = oneMessageManager ∧
    σ.system.server.sent = [((2, 27016), .connectionAccept, welcome 0)] := by
  obtain ⟨σ, h, hp, hown, hclient, hthread, hchat, hsent⟩ := exists_run_writtenMessage
  have hfits : (DataPacket.sendMsg "ann" "hello").Fits := by decide
  obtain ⟨c, hserve, hhandled, hstep, hkept⟩ := ChatSystem.exists_step_of_data h
    (l := [("ann", "hello")]) rfl 0 7 none 5 hp
    ((ChatHost.Event.dataPacket?_mkPacket hfits ..).trans (if_pos (by decide)))
  exact ⟨_, h.snoc hserve, hhandled, hown, hclient, hthread, syncManager_of_step (hchat ▸ hstep),
    hkept.trans hsent⟩

/-- The server answers the request with the message, and sends the answer to the client that has
asked. -/
theorem exists_run_answeredRequest : ∃ σ, Run (Step twoUsers) (init Bool) answeredRequest σ ∧
    ChatSystem.handled twoUsers answeredRequest = [.sendMsg "ann" "hello"] ∧
    σ.system.server.sent = [((2, 27016), .connectionAccept, welcome 0),
      ((2, 27016), .syncRequestSatisfy, [.val oneMessageDiff])] := by
  obtain ⟨σ, h, hhandled, hown, hclient, hthread, hmanager, hsent⟩ := exists_run_arrivedMessage
  obtain ⟨snapshot, serverSnapshot, d, left, hsnap, hsnap', hd, hj, hj', hrem⟩ :=
    exists_oneMessageDiff
  have hsend : (ClientHost.sendNext twoUsers.server (σ.system.thread true)).run
      (σ.system.client true) = .ok () { σ.system.client true with
        sent := (σ.system.client true).sent ++ [(twoUsers.server, .syncRequest,
          [.int (σ.system.client true).own, .val noMessages])] } := by
    have hsnap₁ : (σ.system.client true).syncManager.getSnapshot = .ok snapshot := hclient ▸ hsnap
    have hne : (σ.system.client true).own ≠ nullCID := by
      rw [hown]
      decide
    rw [hthread, ClientHost.sendNext, ClientHost.run_sendSyncRequest_of_getSnapshot _ hsnap₁, hj,
      ClientHost.run_sendToServer, if_neg hne]
  obtain ⟨σ₁, h₁, hserver, hreq⟩ : ∃ σ₁,
      Run (Step twoUsers) (init Bool) (arrivedMessage ++ [.sendNext true]) σ₁ ∧
      σ₁.system.server = σ.system.server ∧
      (twoUsers.server, .syncRequest, [.int 0, .val noMessages]) ∈
        (σ₁.system.client true).sent := by
    refine ⟨_, h.snoc (.sendNext (.sendNext hsend)), rfl, ?_⟩
    rw [System.client_advance, System.client_setClient_self, hown]
    exact List.mem_append_right _ (List.mem_singleton_self _)
  have hI := ChatHost.inv_host (ChatSystem.host_of_run h)
  have hbind : ((0 : CID), ((2, 27016) : Address)) ∈ σ.system.server.own.bindings :=
    hI.bindings ▸ mem_numbered_requesters
  have hanswer := ServerHost.run_forward_syncRequest (s := σ₁.system.server)
    (ChatHost.onServerData ⟨σ₁.lastID, none, none, 5⟩) (2, 27016) 0 7 (hserver ▸ hI.manager)
    (hserver ▸ hbind) (by decide) (readsBack_noMessages (.inl hj))
    ((hserver ▸ hmanager) ▸ hsnap') hd
  rw [if_pos hrem, hj, hj'] at hanswer
  obtain ⟨c, hs, hhost⟩ := ChatSystem.exists_step_of_forward (N := twoUsers) hreq hanswer
  refine ⟨_, h₁.snoc hs, ?_, ?_⟩
  · rw [answeredRequest, ChatSystem.handled_append_of_not_data,
      ChatSystem.handled_append_of_not_data, hhandled]
    · rintro f ⟨⟩
    · rintro f ⟨⟩ hdata
      exact absurd ((ChatHost.Event.isData_mkPacket ..).1 hdata) (by decide)
  · show c.host.sent = _
    rw [hhost, hserver, hsent]
    rfl

end Chat

end AutoSync
