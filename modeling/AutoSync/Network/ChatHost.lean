import AutoSync.Network.Client
import AutoSync.Network.ServerRuns
import AutoSync.Transcript

/-!
# The chat server and its datagrams

The chat's handler for data works on the packet itself: it reads an enumerator, and then what
belongs to it, into variables of its own.  `DataPacket.read` is the reading, and `reads_mArgs` says
that it gets back what a client has written.

`ChatHost` is the whole server of the chat, the session together with the counter that the handler
has captured.  `transcript_of_run` says what it is, whatever it receives: a list of messages, to
which the data of the clients it has accepted are applied and nothing else is.
-/

set_option autoImplicit false

namespace AutoSync

open Transition

open EStateM (Result)

/-! ## Data packets

What a client writes into a packet for its user is an enumerator, which says what is to be done, and
then the strings and the identifier that belong to it.  The operators that write an enumerator and
read it again are not part of the repository.  They are a parameter, of which `EnumStream` says what
the chat relies on. -/

/-- What is relied on of the operators for the enumeration `E`: an enumerator is read back as the
one that was written, whatever the variable held before.  A variable may hold a value that is no
enumerator, which is `none`. -/
class EnumStream (E : Type) where
  put : E → List UInt8
  extract : Option E → Packet → Option E × Packet
  reads_put : ∀ x held, Packet.Reads (extract held) (put x) (some x)

/-- An enumeration over `int` that is written and read as its integers.  An integer that belongs to
no enumerator is read as none. -/
@[reducible] def EnumStream.ofInt {E : Type} (castEnum : E → ℤ) (toEnum : ℤ → Option E)
    (hfits : ∀ x, Packet.Fits 4 (castEnum x)) (hcast : ∀ x, toEnum (castEnum x) = some x) :
    EnumStream E where
  put x := Packet.ofInt 4 (castEnum x)
  extract held mP :=
    let (type, mP) := mP.extractInt 4 ((held.map castEnum).getD (-1))
    (toEnum type, mP)
  reads_put x held rest := by
    simp only [Packet.reads_ofInt (hfits x) _ rest, hcast]

/-- What a client wants of the server: that it adds a message, or that it edits one. -/
inductive DP_CtoS
  | sendMsg
  | editMsg

/-- What the server wants of a client, and never sends: that it shows a message. -/
inductive DP_StoC
  | displayMsg

namespace DataPacket

variable {Val : Type} {putVal : Val → List UInt8} [EnumStream DP_CtoS]

/-- What a client sends for it with `sendDataToServer`, in the order in which the server reads
it. -/
def mArgs : DataPacket → List (Arg Val)
  | .sendMsg author msg => [.raw (EnumStream.put DP_CtoS.sendMsg), .str author, .str msg]
  | .editMsg author id msg =>
    [.raw (EnumStream.put DP_CtoS.editMsg), .str author, .int id, .str msg]

/-- What the server reads.  The variables `type` and `id` have not been initialised, so that a read
that fails leaves them with values nobody has chosen. -/
def read (type₀ : Option DP_CtoS) (id₀ : ℤ) (mP : Packet) : Option DataPacket × Packet :=
  let (type, mP) := EnumStream.extract type₀ mP
  match type with
  | some .sendMsg =>
    let (author, mP) := mP.extractStr
    let (msg, mP) := mP.extractStr
    (some (.sendMsg author msg), mP)
  | some .editMsg =>
    let (author, mP) := mP.extractStr
    let (id, mP) := mP.extractInt 4 id₀
    let (msg, mP) := mP.extractStr
    (some (.editMsg author id msg), mP)
  | none => (none, mP)

/-- The strings are bytes, and the identifier is an `int`, as they are in every packet that a
program can make. -/
def Fits : DataPacket → Prop
  | .sendMsg author msg => Packet.IsBytes author ∧ Packet.IsBytes msg
  | .editMsg author id msg => Packet.IsBytes author ∧ Packet.Fits 4 id ∧ Packet.IsBytes msg

instance Fits.decidable : (p : DataPacket) → Decidable p.Fits
  | .sendMsg author msg => inferInstanceAs (Decidable (Packet.IsBytes author ∧ Packet.IsBytes msg))
  | .editMsg author id msg =>
    inferInstanceAs (Decidable (Packet.IsBytes author ∧ Packet.Fits 4 id ∧ Packet.IsBytes msg))

/-- **Reading what was written**: the server gets the packet of the client back, whatever its
variables held. -/
theorem reads_mArgs {p : DataPacket} (h : p.Fits) (type₀ : Option DP_CtoS) (id₀ : ℤ) :
    Packet.Reads (read type₀ id₀) (fillPacket putVal [] p.mArgs) (some p) := by
  intro rest
  cases p with
  | sendMsg author msg =>
    obtain ⟨hauthor, hmsg⟩ := h
    have htype := EnumStream.reads_put DP_CtoS.sendMsg type₀
    simp only [mArgs, fillPacket_cons, fillPacket, Arg.bytes, List.append_assoc, List.nil_append,
      read, htype _, Packet.reads_ofStr hauthor _, Packet.reads_ofStr hmsg _]
  | editMsg author id msg =>
    obtain ⟨hauthor, hid, hmsg⟩ := h
    have htype := EnumStream.reads_put DP_CtoS.editMsg type₀
    simp only [mArgs, fillPacket_cons, fillPacket, Arg.bytes, List.append_assoc, List.nil_append,
      read, htype _, Packet.reads_ofStr hauthor _, Packet.reads_ofInt hid id₀ _,
      Packet.reads_ofStr hmsg _]

end DataPacket

/-! ## The server of the chat

The handler for data is a closure: it has captured a counter, and writes to the manager of the
session it belongs to.  So the state of the server is the session together with the counter.
`ChatHost.forward` is the handling of a datagram in this state, and `mapState_run_forward` says that
the session sees in it the `forward` of `Host`, with some application for data. -/

theorem SessionHost.mapState_caught {σ τ : Type} (r : Result Error σ Unit) (f : σ → τ) :
    (caught r).mapState f = caught (r.mapState f) := by
  cases r with
  | ok a s => rfl
  | error e s => cases e <;> rfl

/-- Only data are for the application, and two servers that differ in it handle everything else
alike. -/
theorem ServerHost.handle_congr {Val : Type} {typeCount : ℕ} {TTypes : Fin typeCount → ObjType Val}
    [DecidableEq Val] [Json Val] {extractVal : Val → EStateM Error Packet Val} {temp₀ : CID}
    (f g : CID → EStateM Error (ServerHost TTypes) Unit) {mType : Option CtoS}
    (h : mType ≠ some .data) :
    handle extractVal f temp₀ mType = handle extractVal g temp₀ mType := by
  cases mType with
  | none => rfl
  | some mType =>
    cases mType with
    | data => exact absurd rfl h
    | _ => rfl

/-- What the handlers for data find in their variables: the counter of the server, and whatever is
in the ones that have not been initialised. -/
structure ChatVars where
  lastID : ℤ
  toServer : Option DP_CtoS
  toClient : Option DP_StoC
  id₀ : ℤ

/-- The session, and the counter that the handler for data has captured. -/
structure ChatHost where
  host : ServerHost Chat.types
  lastID : ℤ

namespace ChatHost

/-- What the handler for data works on: the counter, and the manager of the session. -/
def chat (c : ChatHost) : ChatServer := ⟨c.lastID, c.host.syncManager⟩

def setChat (c : ChatHost) (s : ChatServer) : ChatHost :=
  ⟨{ c.host with syncManager := s.syncManager }, s.lastID⟩

/-- The session with another packet, or with what is left of the one it had. -/
def setRecvBuffer (c : ChatHost) (recvBuffer : Packet) : ChatHost :=
  { c with host := { c.host with recvBuffer := recvBuffer } }

/-- An operation of the session, which leaves the counter alone. -/
def onHost {α : Type} (act : EStateM Error (ServerHost Chat.types) α) : EStateM Error ChatHost α :=
  EStateM.focus host (fun s c ↦ { c with host := s }) act

variable [EnumStream DP_CtoS]

/-- The handler for data.  The client it comes from is only logged, and what is read as no
enumerator is passed over. -/
def onDataReceived (dataType₀ : Option DP_CtoS) (id₀ : ℤ) (_mCID : CID) :
    EStateM Error ChatHost Unit := do
  let p ← modifyGet fun c ↦
    let (p, mP) := DataPacket.read dataType₀ id₀ c.host.recvBuffer
    (p, c.setRecvBuffer mP)
  match p with
  | none => return
  | some p => EStateM.focus chat (fun s c ↦ c.setChat s) (ChatServer.onDataReceived p)

/-- The handler for data as the session sees it, with the values it finds in its variables. -/
def onServerData (vars : ChatVars) (mCID : CID) : EStateM Error (ServerHost Chat.types) Unit :=
  fun s ↦ ((onDataReceived vars.toServer vars.id₀ mCID).run ⟨s, vars.lastID⟩).mapState host

section

variable (extractVal : JsonTree → EStateM Error Packet JsonTree)

/-- `SessionServer::handle`, when the application is the chat. -/
def handle (temp₀ : CID) (dataType₀ : Option DP_CtoS) (id₀ : ℤ) (mType : Option CtoS) :
    EStateM Error ChatHost Unit := do
  if mType = some .data then
    let cid ← onHost (SessionHost.popRecvCID temp₀)
    if !(← get).host.own.has cid then return
    onDataReceived dataType₀ id₀ cid
  else onHost (ServerHost.handle extractVal (fun _ ↦ pure ()) temp₀ mType)

def forward (type₀ : NType) (temp₀ : CID) (dataType₀ : Option DP_CtoS) (id₀ : ℤ) :
    EStateM Error ChatHost Unit :=
  fun c ↦
    let (type, recvBuffer) := c.host.recvBuffer.extractInt 1 type₀
    SessionHost.caught ((handle extractVal temp₀ dataType₀ id₀ (CtoS.toEnum type)).run
      (c.setRecvBuffer recvBuffer))

end

variable {c c' : ChatHost} {dataType₀ : Option DP_CtoS} {id₀ : ℤ} {mCID : CID}
  {extractVal : JsonTree → EStateM Error Packet JsonTree}

theorem run_onDataReceived (c : ChatHost) (dataType₀ : Option DP_CtoS) (id₀ : ℤ) (mCID : CID) :
    (onDataReceived dataType₀ id₀ mCID).run c =
      match DataPacket.read dataType₀ id₀ c.host.recvBuffer with
      | (none, mP) => .ok () (c.setRecvBuffer mP)
      | (some p, mP) =>
        ((ChatServer.onDataReceived p).run c.chat).mapState (c.setRecvBuffer mP).setChat := by
  rw [onDataReceived, EStateM.run_bind, EStateM.run_modifyGet]
  cases hread : DataPacket.read dataType₀ id₀ c.host.recvBuffer with
  | mk p mP =>
    cases p with
    | none => rfl
    | some p => exact EStateM.run_focus ..

/-- What the handler can do, whatever it finds in its variables: it sends nothing, and the list of
clients stays. -/
theorem confined_onServerData (vars : ChatVars) :
    ServerHost.Confined (onServerData vars) fun _ ↦ True := by
  intro cid s hown
  refine ⟨fun s' hs' ↦ ?_, fun _ _ _ ↦ trivial⟩
  obtain ⟨c', hc', rfl⟩ := hs'.of_mapState
  rw [run_onDataReceived] at hc'
  split at hc'
  · cases hc'
    exact ⟨rfl, [], (List.append_nil _).symm, by simp⟩
  · obtain ⟨t, ht, rfl⟩ := hc'.of_mapState
    exact ⟨rfl, [], (List.append_nil _).symm, by simp⟩

omit [EnumStream DP_CtoS] in
theorem mapState_run_onHost {α : Type} (act : EStateM Error (ServerHost Chat.types) α)
    (c : ChatHost) : ((onHost act).run c).mapState host = act.run c.host := by
  rw [onHost, EStateM.run_focus]
  cases act.run c.host <;> rfl

theorem mapState_run_handle (c : ChatHost) (temp₀ : CID) (dataType₀ : Option DP_CtoS) (id₀ : ℤ)
    (mType : Option CtoS) :
    ((handle extractVal temp₀ dataType₀ id₀ mType).run c).mapState host =
      (ServerHost.handle extractVal (onServerData ⟨c.lastID, dataType₀, none, id₀⟩) temp₀
        mType).run c.host := by
  by_cases hdata : mType = some .data
  · subst hdata
    obtain ⟨cid, t, hpop, -⟩ := SessionHost.exists_run_popRecvCID temp₀ c.host
    rw [handle, if_pos rfl, ServerHost.handle, if_neg (by simp), EStateM.run_bind, EStateM.run_bind,
      onHost, EStateM.run_focus, hpop]
    simp only [EStateM.Result.mapState_ok, EStateM.run_bind, EStateM.run_get]
    cases hhas : t.own.has cid with
    | false =>
      simp only [Bool.not_false, if_true]
      rfl
    | true =>
      simp only [Bool.not_true, Bool.false_eq_true, if_false]
      rfl
  · rw [handle, if_neg hdata, mapState_run_onHost,
      ServerHost.handle_congr _ (onServerData ⟨c.lastID, dataType₀, none, id₀⟩) hdata]

variable (extractVal) in
/-- The session sees the handler for data and nothing else of the application. -/
theorem mapState_run_forward (c : ChatHost) (type₀ : NType) (temp₀ : CID)
    (dataType₀ : Option DP_CtoS) (id₀ : ℤ) :
    ((forward extractVal type₀ temp₀ dataType₀ id₀).run c).mapState host =
      (ServerHost.forward extractVal (onServerData ⟨c.lastID, dataType₀, none, id₀⟩) type₀
        temp₀).run c.host := by
  show (SessionHost.caught _).mapState host = SessionHost.caught _
  rw [SessionHost.mapState_caught, mapState_run_handle]
  rfl

/-! ## Runs

A run of the server of the chat is driven by the datagrams that reach it, from whomever.
`Event.dataPacket?` says which of them the server takes for data, by their bytes and the number of
clients alone, and `packets` collects what is in them.  The main result is then an induction: these
packets are what the chat is given, and nothing else has an effect on it. -/

def init : ChatHost := ⟨ServerHost.init Chat.types, 0⟩

/-- What can happen to the server. -/
inductive Event
  /-- A datagram arrives; the variables that are read into hold these values, which nothing is known
  about. -/
  | datagram (sender : Address) (bytes : List UInt8) (type₀ : NType) (temp₀ : CID)
    (dataType₀ : Option DP_CtoS) (id₀ : ℤ)
  | tick

/-- The event for the session, which does not know of the variables of the application. -/
def Event.toHost : Event → ServerHost.Event Chat.types
  | .datagram sender bytes type₀ temp₀ _ _ => .datagram sender bytes type₀ temp₀
  | .tick => .tick

/-- The packet that is read from a datagram when there are `n` clients, if the datagram is taken for
data of one of them. -/
def Event.dataPacket? (n : ℕ) : Event → Option DataPacket
  | .datagram _ bytes type₀ temp₀ dataType₀ id₀ =>
    let (cid, mP) := Packet.extractInt 4 temp₀ ⟨bytes.tail, !bytes.isEmpty⟩
    if CtoS.toEnum (SessionHost.typeInEffect type₀ bytes) = some .data ∧ 0 ≤ cid ∧ cid < n then
      (DataPacket.read dataType₀ id₀ mP).1
    else none
  | .tick => none

/-- The event is the arrival of a datagram that the server takes for data, from a client or not. -/
def Event.IsData : Event → Prop
  | .datagram _ bytes type₀ _ _ _ => CtoS.toEnum (SessionHost.typeInEffect type₀ bytes) = some .data
  | .tick => False

instance Event.IsData.decidable : (e : Event) → Decidable e.IsData
  | .datagram _ bytes type₀ _ _ _ =>
    inferInstanceAs (Decidable (CtoS.toEnum (SessionHost.typeInEffect type₀ bytes) = some .data))
  | .tick => inferInstanceAs (Decidable False)

/-- The number of clients after the events, one for each request. -/
def clients (es : List Event) : ℕ := (ServerHost.requesters (es.map Event.toHost)).length

/-- The data packets, in the order in which they arrive, when there are `n` clients before. -/
def packetsFrom (n : ℕ) : List Event → List DataPacket
  | [] => []
  | e :: es => (e.dataPacket? n).toList ++ packetsFrom (n + clients [e]) es

/-- The data packets that the chat is sent, from the start on. -/
def packets (es : List Event) : List DataPacket := packetsFrom 0 es

/-- A step of the server, which takes place only if the server comes to the end of what it does. -/
inductive Step (extractVal : JsonTree → EStateM Error Packet JsonTree) (c : ChatHost) :
    Event → ChatHost → Prop
  | datagram {sender bytes type₀ temp₀ dataType₀ id₀ c'}
      (h : (forward extractVal type₀ temp₀ dataType₀ id₀).run
        { c with host := c.host.receive sender bytes } = .ok () c') :
      Step extractVal c (.datagram sender bytes type₀ temp₀ dataType₀ id₀) c'
  | tick : Step extractVal c .tick { c with host := { c.host with own := c.host.own.tick } }

theorem Event.dataPacket?_of_not_isData {e : Event} (h : ¬ e.IsData) (n : ℕ) :
    e.dataPacket? n = none := by
  cases e with
  | tick => rfl
  | datagram sender bytes type₀ temp₀ dataType₀ id₀ =>
    rw [dataPacket?]
    exact if_neg fun hcond ↦ h hcond.1

omit [EnumStream DP_CtoS] in
theorem clients_append (es fs : List Event) : clients (es ++ fs) = clients es + clients fs := by
  simp [clients, ServerHost.requesters]

theorem packetsFrom_append (n : ℕ) (es fs : List Event) :
    packetsFrom n (es ++ fs) = packetsFrom n es ++ packetsFrom (n + clients es) fs := by
  induction es generalizing n with
  | nil => rfl
  | cons e es ih =>
    rw [List.cons_append, packetsFrom, packetsFrom, ih, List.append_assoc, Nat.add_assoc,
      ← clients_append]
    rfl

theorem packets_append_singleton (es : List Event) (e : Event) :
    packets (es ++ [e]) = packets es ++ (e.dataPacket? (clients es)).toList := by
  rw [packets, packetsFrom_append, packetsFrom, packetsFrom, List.append_nil, Nat.zero_add]
  rfl

variable {e : Event} {es : List Event}

theorem Step.host (h : Step extractVal c e c') :
    ServerHost.Step extractVal onServerData c.host e.toHost c'.host := by
  cases h with
  | @datagram sender bytes type₀ temp₀ dataType₀ id₀ c' h =>
    have hhost := mapState_run_forward extractVal
      { c with host := c.host.receive sender bytes } type₀ temp₀ dataType₀ id₀
    rw [h] at hhost
    exact .datagram _ hhost.symm
  | tick => exact .tick

/-- The session of the chat is a session, and so satisfies the invariant of its runs. -/
theorem inv_host (h : Run (Step extractVal) init es c) :
    ServerHost.Inv (es.map Event.toHost) c.host :=
  ServerHost.inv_of_run confined_onServerData (h.map host Event.toHost fun _ _ _ ↦ Step.host)

/-- The clients are the first so many identifiers, as many as there have been requests. -/
theorem has_iff (h : Run (Step extractVal) init es c) (cid : CID) :
    c.host.own.has cid = true ↔ 0 ≤ cid ∧ cid < clients es := by
  have hI := inv_host h
  have hlen : c.host.own.clientHandlers.length = clients es :=
    Int.ofNat_inj.1 (hI.manager.nextCID.symm.trans hI.nextCID_eq)
  rw [ClientHandlerManager.has, Option.isSome_iff_exists, ← hlen]
  simp only [hI.manager.chMap]
  constructor
  · rintro ⟨ch, hch, rfl⟩
    exact ⟨Int.natCast_nonneg ch, Int.ofNat_lt.2 hch⟩
  · rintro ⟨h0, hlt⟩
    exact ⟨cid.toNat, (Int.toNat_lt h0).2 hlt, (Int.toNat_of_nonneg h0).symm⟩

theorem run_forward (c : ChatHost) (sender : Address) (bytes : List UInt8) (type₀ : NType)
    (temp₀ : CID) (dataType₀ : Option DP_CtoS) (id₀ : ℤ) :
    (forward extractVal type₀ temp₀ dataType₀ id₀).run
        { c with host := c.host.receive sender bytes } =
      SessionHost.caught ((handle extractVal temp₀ dataType₀ id₀
        (CtoS.toEnum (SessionHost.typeInEffect type₀ bytes))).run { c with
          host := { c.host with
            recvBuffer := ⟨bytes.tail, !bytes.isEmpty⟩, sender := sender } }) := by
  cases bytes <;> rfl

/-- **Data of a client** are handed to the chat, and what the chat makes of them is what becomes of
the server. -/
theorem run_forward_of_dataPacket? (h : Run (Step extractVal) init es c) {p : DataPacket}
    {sender : Address} {bytes : List UInt8} {type₀ : NType} {temp₀ : CID}
    (hp : (Event.datagram sender bytes type₀ temp₀ dataType₀ id₀).dataPacket? (clients es) =
      some p) : ∃ c₁ : ChatHost, c₁.host.sent = c.host.sent ∧
    (forward extractVal type₀ temp₀ dataType₀ id₀).run
        { c with host := c.host.receive sender bytes } =
      SessionHost.caught (((ChatServer.onDataReceived p).run c.chat).mapState c₁.setChat) := by
  rw [Event.dataPacket?] at hp
  generalize hint : Packet.extractInt 4 temp₀ ⟨bytes.tail, !bytes.isEmpty⟩ = r at hp
  obtain ⟨cid, mP⟩ := r
  simp only at hp
  split at hp
  · rename_i hcond
    obtain ⟨hty, hcid⟩ := hcond
    let c₁ : ChatHost := { c with host := { c.host with recvBuffer := mP, sender := sender } }
    have hpop : (SessionHost.popRecvCID temp₀).run { c.host with
        recvBuffer := ⟨bytes.tail, !bytes.isEmpty⟩, sender := sender } = .ok cid c₁.host := by
      rw [SessionHost.popRecvCID, EStateM.run_modifyGet, hint]
    refine ⟨c₁.setRecvBuffer (DataPacket.read dataType₀ id₀ mP).2, rfl, ?_⟩
    rw [run_forward, hty, handle, if_pos rfl, EStateM.run_bind, onHost, EStateM.run_focus, hpop]
    simp only [EStateM.Result.mapState_ok, EStateM.run_bind, EStateM.run_get,
      show c₁.host.own.has cid = true from (has_iff h cid).2 hcid, Bool.not_true,
      Bool.false_eq_true, if_false]
    refine congrArg _ ((run_onDataReceived c₁ dataType₀ id₀ cid).trans ?_)
    rw [show c₁.host.recvBuffer = mP from rfl]
    generalize DataPacket.read dataType₀ id₀ mP = r at hp
    obtain ⟨p', mP'⟩ := r
    obtain rfl : p' = some p := hp
    rfl
  · cases hp

/-- Whatever else arrives leaves the chat alone: neither its counter nor its manager changes. -/
theorem Step.chat_eq (h : Run (Step extractVal) init es c) (hs : Step extractVal c e c')
    (hp : e.dataPacket? (clients es) = none) : c'.chat = c.chat := by
  have hI := inv_host h
  cases hs with
  | tick => rfl
  | @datagram sender bytes type₀ temp₀ dataType₀ id₀ c' hs =>
    let c₁ : ChatHost := { c with
      host := { c.host with recvBuffer := ⟨bytes.tail, !bytes.isEmpty⟩, sender := sender } }
    have hsurvives : Survives ((handle extractVal temp₀ dataType₀ id₀
        (CtoS.toEnum (SessionHost.typeInEffect type₀ bytes))).run c₁) c' :=
      SessionHost.caught_eq_ok.1 (run_forward c .. ▸ hs)
    by_cases hty : CtoS.toEnum (SessionHost.typeInEffect type₀ bytes) = some .data
    · rw [Event.dataPacket?, hty] at hp
      generalize hint : Packet.extractInt 4 temp₀ ⟨bytes.tail, !bytes.isEmpty⟩ = r at hp
      obtain ⟨cid, mP⟩ := r
      have hpop : (SessionHost.popRecvCID temp₀).run c₁.host =
          .ok cid (c₁.setRecvBuffer mP).host := by
        rw [SessionHost.popRecvCID, EStateM.run_modifyGet, hint]
        rfl
      rw [hty, handle, if_pos rfl, EStateM.run_bind, onHost, EStateM.run_focus, hpop] at hsurvives
      simp only [EStateM.Result.mapState_ok, EStateM.run_bind, EStateM.run_get] at hsurvives
      cases hhas : c.host.own.has cid with
      | false =>
        rw [show (c₁.setRecvBuffer mP).host.own.has cid = false from hhas] at hsurvives
        cases hsurvives
        rfl
      | true =>
        rw [show (c₁.setRecvBuffer mP).host.own.has cid = true from hhas] at hsurvives
        simp only [true_and, if_pos ((has_iff h cid).1 hhas)] at hp
        simp only [Bool.not_true, Bool.false_eq_true, if_false, run_onDataReceived,
          show (c₁.setRecvBuffer mP).host.recvBuffer = mP from rfl] at hsurvives
        generalize DataPacket.read dataType₀ id₀ mP = r at hp hsurvives
        obtain ⟨p', mP'⟩ := r
        obtain rfl : p' = none := hp
        cases hsurvives
        rfl
    · rw [handle, if_neg hty, onHost, EStateM.run_focus] at hsurvives
      obtain ⟨t, ht, rfl⟩ := hsurvives.of_mapState
      have hkeeps := (ServerHost.copes_handle_of_ne_data (s := c₁.host) temp₀ hty
        hI.manager).survives t ht
      exact congrArg (ChatServer.mk c.lastID) hkeeps

/-- Data of a client are handled as the chat handles them, and not answered. -/
theorem step_of_dataPacket? (h : Run (Step extractVal) init es c) {p : DataPacket}
    (hp : e.dataPacket? (clients es) = some p) :
    (∀ c', Step extractVal c e c' →
      ChatServer.Step c.chat p c'.chat ∧ c'.host.sent = c.host.sent) ∧
      ∀ t, ChatServer.Step c.chat p t → ∃ c', Step extractVal c e c' := by
  cases e with
  | tick => cases hp
  | datagram sender bytes type₀ temp₀ dataType₀ id₀ =>
    obtain ⟨c₁, hsent, hrun⟩ := run_forward_of_dataPacket? h hp
    refine ⟨fun c' hs ↦ ?_, fun t ht ↦ ?_⟩
    · cases hs with
      | datagram hs =>
        obtain ⟨t, ht, rfl⟩ := (SessionHost.caught_eq_ok.1 (hrun ▸ hs)).of_mapState
        exact ⟨ht, hsent⟩
    · exact ⟨_, .datagram (hrun.trans (SessionHost.caught_eq_ok.2 (ht.mapState c₁.setChat)))⟩

/-- The chat goes through the data packets, and nothing else, so that it is as in a run of its
own. -/
theorem reaches_of_run (h : Run (Step extractVal) init es c) :
    ChatServer.Reaches (packets es) c.chat := by
  refine h.invariant_events (I := fun es c ↦ ChatServer.Reaches (packets es) c.chat) .nil ?_
  intro es c e c' hrun ih hs
  rw [packets_append_singleton]
  cases hp : e.dataPacket? (clients es) with
  | none =>
    rw [hs.chat_eq hrun hp, Option.toList_none, List.append_nil]
    exact ih
  | some p => exact ih.snoc ((step_of_dataPacket? hrun hp).1 c' hs).1

/-- Data stop the server exactly when the list does not take them, which is when they edit a message
that is not there. -/
theorem exists_step_iff (h : Run (Step extractVal) init es c) {l : Transcript}
    (hl : transcript (packets es) = some l) {p : DataPacket}
    (hp : e.dataPacket? (clients es) = some p) :
    (∃ c', Step extractVal c e c') ↔ ∃ l', l.handle p = some l' := by
  have hreaches := reaches_of_run h
  have hshows := ChatServer.shows_of_reaches hreaches hl
  have hstep := hshows.step (ChatServer.inv_of_reaches hreaches) p
  obtain ⟨hto, hof⟩ := step_of_dataPacket? h hp
  constructor
  · rintro ⟨c', hs⟩
    obtain ⟨l', hl', -⟩ := hstep.1 _ (hto c' hs).1
    exact ⟨l', hl'⟩
  · rintro ⟨l', hl'⟩
    obtain ⟨t, ht, -⟩ := hstep.2 l' hl'
    exact hof t ht

/-- **What the chat is**, whatever its server receives: a list of messages, to which the data of the
clients have been applied, one packet after the other.  And data stop the server exactly when the
list does not take them. -/
theorem transcript_of_run (h : Run (Step extractVal) init es c) :
    ∃ l, transcript (packets es) = some l ∧ ChatServer.Shows l c.chat ∧
      ∀ e p, e.dataPacket? (clients es) = some p →
        ((∃ c', Step extractVal c e c') ↔ ∃ l', l.handle p = some l') := by
  obtain ⟨l, hl, hshows⟩ := ChatServer.exists_transcript_of_reaches (reaches_of_run h)
  exact ⟨l, hl, hshows, fun e p hp ↦ exists_step_iff h hl hp⟩

/-! ## What the clients write

So far the datagrams were any bytes.  If the data among them have been written by clients, then
`reads_mArgs` tells what is read from them, and the list of messages is made of what the users
wrote. -/

section

variable {putVal : JsonTree → List UInt8}

/-- The event is the arrival of data that one of `n` clients has written, with any values in the
variables. -/
inductive Event.Delivers (putVal : JsonTree → List UInt8) (n : ℕ) : Event → DataPacket → Prop
  | mk {p : DataPacket} {k : ℕ} (hp : p.Fits) (hk : k < n) (sender : Address) (type₀ : NType)
      (temp₀ : CID) (dataType₀ : Option DP_CtoS) (id₀ : ℤ) :
      Delivers putVal n (.datagram sender
        (mkPacket putVal CtoS.castEnum .data (.int k :: p.mArgs)) type₀ temp₀ dataType₀ id₀) p

/-- What a client has written is read as that, if the server takes it for data of a client, which is
when it has the identifier in front. -/
theorem Event.dataPacket?_mkPacket {p : DataPacket} (hp : p.Fits) (sender : Address)
    (type₀ : NType) (temp₀ cid : CID) (dataType₀ : Option DP_CtoS) (id₀ : ℤ) (n : ℕ) :
    (Event.datagram sender (mkPacket putVal CtoS.castEnum .data (.int cid :: p.mArgs)) type₀ temp₀
      dataType₀ id₀).dataPacket? n =
        if 0 ≤ Packet.int 4 (Packet.ofInt 4 cid) ∧ Packet.int 4 (Packet.ofInt 4 cid) < n then some p
        else none := by
  obtain ⟨b, hb, hty⟩ := exists_mkPacket_eq CtoS.data.fits_castEnum putVal (.int cid :: p.mArgs)
  have heffect : CtoS.toEnum (SessionHost.typeInEffect type₀
      (b :: fillPacket putVal [] (.int cid :: p.mArgs))) = some .data := by
    rw [SessionHost.typeInEffect, hty]
    rfl
  have hint : Packet.extractInt 4 temp₀
      ⟨fillPacket putVal [] (.int cid :: p.mArgs), true⟩ =
        (Packet.int 4 (Packet.ofInt 4 cid), Packet.received (fillPacket putVal [] p.mArgs)) := by
    rw [fillPacket_cons]
    exact Packet.reads_extract (Packet.length_ofInt 4 cid) _
  have hreads : Packet.Reads (DataPacket.read dataType₀ id₀) (fillPacket putVal [] p.mArgs)
      (some p) := DataPacket.reads_mArgs hp dataType₀ id₀
  have hread := hreads []
  rw [List.append_nil] at hread
  rw [hb, dataPacket?, heffect, List.tail_cons, List.isEmpty_cons, Bool.not_false, hint]
  simp only [true_and, hread]

omit [EnumStream DP_CtoS] in
variable (putVal) in
theorem Event.isData_mkPacket (sender : Address) (mType : CtoS) (mArgs : List (Arg JsonTree))
    (type₀ : NType) (temp₀ : CID) (dataType₀ : Option DP_CtoS) (id₀ : ℤ) :
    (Event.datagram sender (mkPacket putVal CtoS.castEnum mType mArgs) type₀ temp₀ dataType₀
      id₀).IsData ↔ mType = .data := by
  rw [IsData, SessionHost.typeInEffect_mkPacket mType.fits_castEnum, CtoS.toEnum_castEnum,
    Option.some_inj]

/-- It is read as what was written, and adds no client. -/
theorem Event.Delivers.dataPacket? {n : ℕ} {p : DataPacket} (h : e.Delivers putVal n p)
    (hn : (n : ℤ) ≤ maxInt) : e.dataPacket? n = some p ∧ clients [e] = 0 := by
  cases h with
  | @mk p k hp hk sender type₀ temp₀ dataType₀ id₀ =>
    have hcid : Packet.Fits 4 k :=
      fits_of_le_maxInt (Int.natCast_nonneg k) ((Int.ofNat_lt.2 hk).le.trans hn)
    refine ⟨?_, ?_⟩
    · rw [Event.dataPacket?_mkPacket hp, Packet.int_ofInt hcid,
        if_pos ⟨Int.natCast_nonneg k, Int.ofNat_lt.2 hk⟩]
    · have hdata := (Event.isData_mkPacket putVal sender .data (.int k :: p.mArgs) type₀ temp₀
        dataType₀ id₀).2 rfl
      rw [Event.IsData] at hdata
      simp [clients, ServerHost.requesters, Event.toHost, ServerHost.Event.requester?, hdata]

/-- Every packet of `ps` has been written by a client, and its datagram has arrived; no other data
have.  Anything else may arrive in between. -/
inductive Delivered (putVal : JsonTree → List UInt8) : ℕ → List Event → List DataPacket → Prop
  | nil (n : ℕ) : Delivered putVal n [] []
  | data {n e p es ps} (he : e.Delivers putVal n p) (hes : Delivered putVal n es ps) :
      Delivered putVal n (e :: es) (p :: ps)
  | other {n e es ps} (he : ¬ e.IsData) (hes : Delivered putVal (n + clients [e]) es ps) :
      Delivered putVal n (e :: es) ps

theorem Delivered.packetsFrom_eq {n : ℕ} {ps : List DataPacket} (h : Delivered putVal n es ps)
    (hn : ((n + clients es : ℕ) : ℤ) ≤ maxInt) : packetsFrom n es = ps := by
  induction h with
  | nil n => rfl
  | @data n e p es ps he hes ih =>
    rw [← List.singleton_append, clients_append] at hn
    obtain ⟨hp, hclients⟩ := he.dataPacket? (by omega)
    rw [packetsFrom, hp, hclients, Nat.add_zero, ih (by omega)]
    rfl
  | @other n e es ps he hes ih =>
    rw [← List.singleton_append, clients_append, ← Nat.add_assoc] at hn
    rw [packetsFrom, e.dataPacket?_of_not_isData he, ih hn]
    rfl

/-- The server gets through what a client has written if the list takes it. -/
theorem exists_run_snoc (h : Run (Step extractVal) init es c) {l l' : Transcript}
    (hl : transcript (packets es) = some l) {p : DataPacket}
    (he : e.Delivers putVal (clients es) p) (hl' : l.handle p = some l') :
    ∃ c', Run (Step extractVal) init (es ++ [e]) c' ∧ clients (es ++ [e]) = clients es ∧
      transcript (packets (es ++ [e])) = some l' := by
  have hI := inv_host h
  obtain ⟨hp, hclients⟩ := he.dataPacket? (hI.nextCID_eq ▸ hI.nextCID)
  obtain ⟨c', hs⟩ := (exists_step_iff h hl hp).2 ⟨l', hl'⟩
  refine ⟨c', h.snoc hs, by rw [clients_append, hclients, Nat.add_zero], ?_⟩
  rw [packets_append_singleton, hp, Option.toList_some, transcript_append_singleton, hl]
  exact hl'

/-- **What the clients write is what the chat shows**: when all data are from clients, the list is
made of the packets that these have written. -/
theorem transcript_of_delivered {ps : List DataPacket} (h : Run (Step extractVal) init es c)
    (hes : Delivered putVal 0 es ps) :
    ∃ l, transcript ps = some l ∧ ChatServer.Shows l c.chat := by
  have hI := inv_host h
  have hle : (clients es : ℤ) ≤ maxInt := hI.nextCID_eq ▸ hI.nextCID
  have hpackets : packets es = ps := hes.packetsFrom_eq (by rw [Nat.zero_add]; exact hle)
  obtain ⟨l, hl, hshows⟩ := ChatServer.exists_transcript_of_reaches (reaches_of_run h)
  exact ⟨l, hpackets ▸ hl, hshows⟩

end

end ChatHost

namespace Chat

open ChatHost (Step clients packets Delivered)

/-- The enumerators as their integers in four bytes. -/
instance intStream : EnumStream DP_CtoS :=
  .ofInt (fun | .sendMsg => 0 | .editMsg => 1)
    (fun | 0 => some .sendMsg | 1 => some .editMsg | _ => none)
    (by rintro ⟨⟩ <;> decide) (by rintro ⟨⟩ <;> rfl)

/-- A packet that JSON is never written to. -/
def putNothing (_ : JsonTree) : List UInt8 := []

/-- The datagram with which the client `0` sends the data, and what the variables hold when it
arrives. -/
def delivery (p : DataPacket) : ChatHost.Event :=
  .datagram (1, 27016) (mkPacket putNothing CtoS.castEnum .data (.int 0 :: p.mArgs)) 3 7 none 5

/-- A client connects and writes a message, which it edits then; before that there are a datagram
from somebody else and a step of the client's timeout. -/
def editedMessage : List ChatHost.Event :=
  [.datagram (1, 27016) [0] 3 7 none 5, .datagram (9, 9) [77] 3 7 none 5, .tick,
    delivery (.sendMsg "ann" "hello"), delivery (.editMsg "ann" 0 "bye")]

theorem delivers_delivery {p : DataPacket} (hp : p.Fits) :
    (delivery p).Delivers putNothing 1 p :=
  .mk (k := 0) hp Nat.one_pos (1, 27016) 3 7 none 5

theorem delivered_editedMessage : Delivered putNothing 0 editedMessage
    [.sendMsg "ann" "hello", .editMsg "ann" 0 "bye"] :=
  .other (by decide) <| .other (by decide) <| .other (by decide) <|
    .data (delivers_delivery (by decide)) <| .data (delivers_delivery (by decide)) (.nil 1)

theorem exists_run_editedMessage : ∃ c, Run (Step pure) ChatHost.init editedMessage c := by
  obtain ⟨c₃, h₃⟩ : ∃ c, Run (Step pure) ChatHost.init (editedMessage.take 3) c :=
    ⟨_, ((Run.single (.datagram rfl)).snoc (.datagram rfl)).snoc .tick⟩
  obtain ⟨c₄, h₄, hclients, hl⟩ := ChatHost.exists_run_snoc h₃ (l := []) rfl
    (delivers_delivery (p := .sendMsg "ann" "hello") (by decide)) rfl
  have hedit := delivers_delivery (p := .editMsg "ann" 0 "bye") (by decide)
  rw [show 1 = clients (editedMessage.take 3) from rfl, ← hclients] at hedit
  obtain ⟨c₅, h₅, -⟩ := ChatHost.exists_run_snoc h₄ hl hedit rfl
  exact ⟨c₅, h₅⟩

theorem transcript_of_run_editedMessage : ∃ c l,
    Run (Step pure) ChatHost.init editedMessage c ∧
    transcript (packets editedMessage) = some l ∧ ChatServer.Shows l c.chat := by
  obtain ⟨c, h⟩ := exists_run_editedMessage
  obtain ⟨l, hl, hshows, -⟩ := ChatHost.transcript_of_run h
  exact ⟨c, l, h, hl, hshows⟩

theorem transcript_of_delivered_editedMessage : ∃ c,
    Run (Step pure) ChatHost.init editedMessage c ∧ ChatServer.Shows [("ann", "bye")] c.chat := by
  obtain ⟨c, h⟩ := exists_run_editedMessage
  obtain ⟨l, hl, hshows⟩ := ChatHost.transcript_of_delivered h delivered_editedMessage
  obtain rfl : [("ann", "bye")] = l := Option.some_inj.1 hl
  exact ⟨c, h, hshows⟩

end Chat

end AutoSync
