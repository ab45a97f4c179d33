import AutoSync.Codec
import AutoSync.Chat
import AutoSync.Network.Session
import AutoSync.Lib.Packet

/-!
# Datagrams

What a host does with a datagram, from the bytes on.  `tryForwardReceivedPacket` reads the type of
the packet and calls the handler of the derived class; a handler reads what else it needs, one item
after the other.  Nobody asks whether there was anything to read: a read that fails leaves its
target as it was, and the targets are local variables that have not been initialised.  Their values
are the arguments `type₀` and `temp₀` here.

Here are the two kinds of host as the source has them, with the lemmas that run the few steps all
results about datagrams share.  What becomes of a datagram that ends too early is in
`AutoSync.Network.Truncated`.  What becomes of one that has all that it should is in
`AutoSync.Network.Refinement`: it is served as the session model says.

The JSON library reads a value from a packet in a way the repository does not show, and the
application does with its data what it likes: `extractVal` and `onDataReceived` are parameters.
-/

set_option autoImplicit false

namespace AutoSync

/-! ## The types of packets

The two enumerations are over `signed char`, so that a type is one byte on the wire.  What comes in
is a number first, which need not be that of an enumerator; the `switch` of a handler then does
nothing. -/

/-- The type of a packet on the wire, a `signed char`, before it is taken for an enumerator. -/
abbrev NType : Type := ℤ

/-- From a client to the server, in the order of the source. -/
inductive CtoS
  | connectionRequest
  | ping
  | syncRequest
  | syncSatisfied
  | data
  deriving DecidableEq

/-- `ssvu::toEnum<CtoS>`; a value that is no enumerator matches none. -/
def CtoS.toEnum : NType → Option CtoS
  | 0 => some connectionRequest
  | 1 => some ping
  | 2 => some syncRequest
  | 3 => some syncSatisfied
  | 4 => some data
  | _ => none

/-- From the server to a client, in the order of the source. -/
inductive StoC
  | connectionAccept
  | connectionDecline
  | syncRequestSatisfy
  | syncRequestUnneeded
  | syncRequestDecline
  | data
  deriving DecidableEq

def StoC.toEnum : NType → Option StoC
  | 0 => some connectionAccept
  | 1 => some connectionDecline
  | 2 => some syncRequestSatisfy
  | 3 => some syncRequestUnneeded
  | 4 => some syncRequestDecline
  | 5 => some data
  | _ => none

/-- What follows the type in a packet that is sent: an identifier, a text, a value as JSON, or
bytes. -/
inductive Arg (Val : Type)
  | int (i : ℤ)
  | str (s : String)
  | val (v : Val)
  /-- What an operator that is not part of the repository appends. -/
  | raw (bytes : List UInt8)

variable {Val : Type} {typeCount : ℕ} {TTypes : Fin typeCount → ObjType Val}

/-! ## Hosts

What the server and a client have in common: the packet being read, its sender, the manager, and
what has been sent.  `popRecv` reads the next item out of the packet into a local variable, which
has not been initialised where the item is a number. -/

/-- A `SessionHost` that sends packets of the types `SPT`; `own` is what the derived class adds. -/
structure SessionHost (SPT Own : Type) (TTypes : Fin typeCount → ObjType Val) where
  recvBuffer : Packet
  /-- `senderIp` and `senderPort`, of the datagram received last. -/
  sender : Address
  syncManager : SyncManager TTypes
  /-- The packets sent so far, and where to, as a history of the host. -/
  sent : List (Address × SPT × List (Arg Val))
  own : Own

/-- The server has the list of its clients, besides what every host has. -/
abbrev ServerHost (TTypes : Fin typeCount → ObjType Val) : Type :=
  SessionHost StoC ClientHandlerManager TTypes

/-- A client has its identifier, besides what every host has. -/
abbrev ClientHost (TTypes : Fin typeCount → ObjType Val) : Type := SessionHost CtoS CID TTypes

namespace SessionHost

variable {SPT RPT Own : Type} {s s' : SessionHost SPT Own TTypes}

/-- A datagram arrives: it is the packet being read now, and its sender is noted. -/
def receive (sender : Address) (bytes : List UInt8) (s : SessionHost SPT Own TTypes) :
    SessionHost SPT Own TTypes :=
  { s with recvBuffer := Packet.received bytes, sender := sender }

/-- What the session makes of the end of a handler: exceptions are caught, and anything else is the
end of the program. -/
def caught {σ : Type} : EStateM.Result Error σ Unit → EStateM.Result Error σ Unit
  | .error (.raised _) s => .ok () s
  | r => r

/-- What the JSON library does on a value of the wrong kind is no exception, and is not caught. -/
theorem caught_misuse [Json Val] {σ : Type} (s : σ) :
    caught (.error (Json.misuse Val) s) = .error (Json.misuse Val) s := by
  cases h : Json.misuse Val with
  | raised ex => exact absurd h (Json.misuse_ne_raised ex)
  | _ => rfl

def tryForwardReceivedPacket (toEnum : NType → Option RPT)
    (handle : Option RPT → EStateM Error (SessionHost SPT Own TTypes) Unit) (type₀ : NType) :
    EStateM Error (SessionHost SPT Own TTypes) Unit := fun s ↦
  let (type, recvBuffer) := s.recvBuffer.extractInt 1 type₀
  caught ((handle (toEnum type)).run { s with recvBuffer := recvBuffer })

/-- `popRecv<CID>()`, with the value the variable had before. -/
def popRecvCID (temp₀ : CID) : EStateM Error (SessionHost SPT Own TTypes) CID :=
  modifyGet fun s ↦
    let (temp, recvBuffer) := s.recvBuffer.extractInt 4 temp₀
    (temp, { s with recvBuffer := recvBuffer })

/-- `popRecv<std::string>()`, whose variable starts empty. -/
def popRecvStr : EStateM Error (SessionHost SPT Own TTypes) String :=
  modifyGet fun s ↦
    let (temp, recvBuffer) := s.recvBuffer.extractStr
    (temp, { s with recvBuffer := recvBuffer })

variable [Json Val]

/-- `popRecv` for a snapshot or a diff, which start out as `temp₀` and are read from JSON. -/
def popRecvJson {α : Type} (extractVal : Val → EStateM Error Packet Val)
    (initFromJson : Val → EStateM Error α Unit) (temp₀ : α) :
    EStateM Error (SessionHost SPT Own TTypes) α := do
  let data ← EStateM.focus recvBuffer (fun b s ↦ { s with recvBuffer := b }) (extractVal Json.null)
  match (initFromJson data).run temp₀ with
  | .ok _ temp => return temp
  | .error e _ => throw e

end SessionHost

/-- A snapshot that has just been constructed, with nothing in it. -/
def Snapshot.empty : Snapshot typeCount Val := ⟨fun _ _ ↦ false, fun _ ↦ ⟨∅⟩⟩

/-- A diff that has just been constructed, with nothing in it. -/
def Diff.empty : Diff typeCount Val := ⟨fun _ ↦ DiffTypeData.empty⟩

/-! ## The server

The server looks at the type of a packet first.  A connection request is served for the address it
has come from; any other packet has an identifier, and is served if there is a client with that
identifier, wherever it has come from. -/

namespace ServerHost

variable {s : ServerHost TTypes} {cid : CID}

/-- `sendToClient<mType>(mCID, mArgs...)`, to the address the handler has, if there is a handler. -/
def sendToClient (mCID : CID) (mType : StoC) (mArgs : List (Arg Val)) :
    EStateM Error (ServerHost TTypes) Unit := do
  if !(← get).own.has mCID then return
  let ch ← ofExcept ((← get).own.at' mCID)
  modify fun s ↦
    { s with sent := s.sent ++ [(((s.own.handler ch).ip, (s.own.handler ch).port), mType, mArgs)] }

def sendConnectionAccept (mCID : CID) : EStateM Error (ServerHost TTypes) Unit :=
  sendToClient mCID .connectionAccept [.int mCID, .str "Welcome to the server."]

def handleConnectionRequest : EStateM Error (ServerHost TTypes) Unit := do
  let s ← get
  let (ch, cManager) ← ofExcept (s.own.acceptClient s.sender.1 s.sender.2)
  set { s with own := cManager }
  sendConnectionAccept (cManager.handler ch).cid

def handlePing (mCID : CID) : EStateM Error (ServerHost TTypes) Unit := do
  let cManager ← ofExcept ((← get).own.pingReceived mCID)
  modify fun s ↦ { s with own := cManager }

variable [DecidableEq Val] [Json Val] (extractVal : Val → EStateM Error Packet Val)
  (onDataReceived : CID → EStateM Error (ServerHost TTypes) Unit)

def handleSyncRequest (mCID : CID) : EStateM Error (ServerHost TTypes) Unit := do
  let clientSnapshot ← SessionHost.popRecvJson extractVal Snapshot.initFromJson Snapshot.empty
  let serverSnapshot ← ofExcept (← get).syncManager.getSnapshot
  let (result, _) ← ofExcept (serverSnapshot.getDiffWith clientSnapshot)
  let resultJson ← ofExcept result.toJson
  sendToClient mCID .syncRequestSatisfy [.val resultJson]

def handle (temp₀ : CID) (mType : Option CtoS) : EStateM Error (ServerHost TTypes) Unit := do
  if mType = some .connectionRequest then handleConnectionRequest
  else
    let cid ← SessionHost.popRecvCID temp₀
    if !(← get).own.has cid then return
    match mType with
    | some .connectionRequest => throw (.raised .runtimeError)
    | some .ping => handlePing cid
    | some .syncRequest => handleSyncRequest extractVal cid
    | some .data => onDataReceived cid
    | some .syncSatisfied => return
    | none => return

/-- The server handles the datagram it has received, with what is in the two variables before. -/
def forward (type₀ : NType) (temp₀ : CID) : EStateM Error (ServerHost TTypes) Unit :=
  SessionHost.tryForwardReceivedPacket CtoS.toEnum (handle extractVal onDataReceived temp₀) type₀

end ServerHost

/-! ## The client

The client does what the type of the packet says, without looking at where it has come from.  An
acceptance sets its identifier, and the answer to a sync request goes to the manager. -/

namespace ClientHost

variable {s : ClientHost TTypes}

def handleConnectionAccept (temp₀ : CID) : EStateM Error (ClientHost TTypes) Unit := do
  let id ← SessionHost.popRecvCID temp₀
  let _msg ← SessionHost.popRecvStr
  modify fun s ↦ { s with own := id }

variable [Json Val] (extractVal : Val → EStateM Error Packet Val)
  (onDataReceived : EStateM Error (ClientHost TTypes) Unit)

def handleSyncRequestSatisfy : EStateM Error (ClientHost TTypes) Unit := do
  let diff ← SessionHost.popRecvJson extractVal Diff.initFromJson Diff.empty
  let _diffJson ← ofExcept diff.toJson
  EStateM.focus SessionHost.syncManager (fun m s ↦ { s with syncManager := m })
    (SyncManager.applyDiff diff)

def handle (temp₀ : CID) (mType : Option StoC) : EStateM Error (ClientHost TTypes) Unit :=
  match mType with
  | some .connectionAccept => handleConnectionAccept temp₀
  | some .connectionDecline => return
  | some .syncRequestSatisfy => handleSyncRequestSatisfy extractVal
  | some .syncRequestUnneeded => return
  | some .syncRequestDecline => return
  | some .data => onDataReceived
  | none => return

/-- The client handles the datagram it has received, with what is in the two variables before. -/
def forward (type₀ : NType) (temp₀ : CID) : EStateM Error (ClientHost TTypes) Unit :=
  SessionHost.tryForwardReceivedPacket StoC.toEnum (handle extractVal onDataReceived temp₀) type₀

end ClientHost

/-! ## Handlers, run

What the session model keeps of a packet is its type, and of an acceptance the identifier.  The
lemmas after that run the few steps that the results about datagrams share. -/

/-- What the session model keeps of a packet to a client, if its arguments are as they should be. -/
def StoC.toClient : StoC → List (Arg Val) → Option ToClient
  | .connectionAccept, .int id :: _ => some (.connectionAccept id)
  | .connectionAccept, _ => none
  | .connectionDecline, _ => some .connectionDecline
  | .syncRequestSatisfy, _ => some .syncRequestSatisfy
  | .syncRequestUnneeded, _ => some .syncRequestUnneeded
  | .syncRequestDecline, _ => some .syncRequestDecline
  | .data, _ => some .data

/-- The identifier a datagram carries after its type, in four bytes. -/
def cidOf (rest : List UInt8) : CID := Packet.int 4 (rest.take 4)

namespace SessionHost

variable {SPT RPT Own : Type} {s : SessionHost SPT Own TTypes} {bytes : List UInt8}
  {sender : Address}

/-- The type a datagram is taken to have: its first byte, or what was in the variable. -/
def typeInEffect (type₀ : NType) : List UInt8 → NType
  | [] => type₀
  | b :: _ => Packet.int 1 [b]

theorem run_tryForwardReceivedPacket {toEnum : NType → Option RPT}
    {handle : Option RPT → EStateM Error (SessionHost SPT Own TTypes) Unit} {type₀ : NType} :
    (tryForwardReceivedPacket toEnum handle type₀).run (s.receive sender bytes) =
      caught ((handle (toEnum (typeInEffect type₀ bytes))).run
        { s with recvBuffer := ⟨bytes.tail, !bytes.isEmpty⟩, sender := sender }) := by
  cases bytes with
  | nil => rfl
  | cons b rest => rfl

theorem run_tryForwardReceivedPacket_cons {toEnum : NType → Option RPT}
    {handle : Option RPT → EStateM Error (SessionHost SPT Own TTypes) Unit} {type₀ : NType}
    (b : UInt8) (rest : List UInt8) :
    (tryForwardReceivedPacket toEnum handle type₀).run (s.receive sender (b :: rest)) =
      caught ((handle (toEnum (Packet.int 1 [b]))).run
        { s with recvBuffer := Packet.received rest, sender := sender }) := rfl

end SessionHost

namespace ServerHost

variable {s : ServerHost TTypes}

/-- What the session model keeps of the packets sent, with their addresses. -/
def toClient (s : ServerHost TTypes) : List (Address × ToClient) :=
  s.sent.filterMap fun p ↦ (StoC.toClient p.2.1 p.2.2).map (p.1, ·)

/-- Sending to a client sends to the address its handler has, or nothing when there is no handler
for the identifier. -/
theorem run_sendToClient (mCID : CID) (mType : StoC) (mArgs : List (Arg Val)) :
    (sendToClient mCID mType mArgs).run s = .ok () { s with
      sent := s.sent ++ match s.own.chMap[mCID]? with
        | none => []
        | some ch => [(((s.own.handler ch).ip, (s.own.handler ch).port), mType, mArgs)] } := by
  rw [sendToClient, EStateM.run_bind, EStateM.run_get]
  cases h : s.own.chMap[mCID]? with
  | none => simp [ClientHandlerManager.has, h]
  | some ch => simp [ClientHandlerManager.has, ClientHandlerManager.at', h]

end ServerHost

namespace ClientHost

variable {s : ClientHost TTypes}

/-- The identifier a datagram is taken to have: the four bytes after the type, or what was in the
variable if there are not so many. -/
def cidInEffect (temp₀ : CID) (bytes : List UInt8) : CID :=
  if 4 ≤ bytes.tail.length then cidOf bytes.tail else temp₀

theorem extractInt_cid (temp₀ : CID) (bytes : List UInt8) :
    (Packet.extractInt 4 temp₀ ⟨bytes.tail, !bytes.isEmpty⟩).1 = cidInEffect temp₀ bytes := by
  cases bytes with
  | nil => rfl
  | cons b rest =>
    by_cases h : 4 ≤ rest.length <;> simp [Packet.extractInt, Packet.extract, cidInEffect, cidOf, h]

/-- An acceptance is believed, whatever there was to read of it, and wherever it has come from. -/
theorem run_handleConnectionAccept (temp₀ : CID) : ∃ recvBuffer,
    (handleConnectionAccept temp₀).run s = .ok () { s with
      recvBuffer := recvBuffer, own := (s.recvBuffer.extractInt 4 temp₀).1 } :=
  ⟨_, rfl⟩

end ClientHost

end AutoSync
