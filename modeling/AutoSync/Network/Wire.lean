import AutoSync.Network.Truncated
import AutoSync.Outcome
import AutoSync.Sync

/-!
# Packets on the wire

The sending side of a host, down to the bytes.  `mkPacket` writes the type of a packet and then its
arguments, one after the other; the client puts its identifier first in every packet but one.

The two ends fit together.  `ServerHost.run_forward_mkPacket` and `ClientHost.run_forward_mkPacket`
say that what was sent is dispatched by its type, with the identifier that was written, whatever the
variables held that are read into, and that the handler finds exactly the other arguments in the
buffer.

`sync_over_wire` follows a synchronization through both hosts.  The server answers with the
difference between the two managers, unless there is something to remove, which it cannot write.
And the client, which has asked for the answer, cannot read it.

How the JSON library writes a value is a parameter, like how it reads one.
-/

set_option autoImplicit false

namespace AutoSync

variable {Val : Type} {typeCount : ℕ} {TTypes : Fin typeCount → ObjType Val}

/-! ## Writing a packet

A packet is its type in one byte, and then its arguments as they are written one after the other.
Since writing only appends, the packet can be taken apart again from the front, item by item. -/

/-- `ssvu::castEnum`, from an enumerator to its number. -/
def CtoS.castEnum : CtoS → NType
  | connectionRequest => 0
  | ping => 1
  | syncRequest => 2
  | syncSatisfied => 3
  | data => 4

def StoC.castEnum : StoC → NType
  | connectionAccept => 0
  | connectionDecline => 1
  | syncRequestSatisfy => 2
  | syncRequestUnneeded => 3
  | syncRequestDecline => 4
  | data => 5

@[simp] theorem CtoS.toEnum_castEnum (t : CtoS) : toEnum t.castEnum = some t := by
  cases t <;> rfl

@[simp] theorem StoC.toEnum_castEnum (t : StoC) : toEnum t.castEnum = some t := by
  cases t <;> rfl

/-- An identifier fits into its four bytes, as it is an `int`. -/
theorem fits_of_le_maxInt {id : ℤ} (h0 : 0 ≤ id) (hmax : id ≤ maxInt) : Packet.Fits 4 id := by
  have hle : id ≤ 2147483647 := hmax
  show -2 ^ (8 * 4) ≤ 2 * id ∧ 2 * id < 2 ^ (8 * 4)
  omega

theorem CtoS.fits_castEnum (t : CtoS) : Packet.Fits 1 t.castEnum := by
  cases t <;> decide

theorem StoC.fits_castEnum (t : StoC) : Packet.Fits 1 t.castEnum := by
  cases t <;> decide

section

variable (putVal : Val → List UInt8)

/-- The bytes `mP << mArg` appends, for each kind of argument. -/
def Arg.bytes : Arg Val → List UInt8
  | .int i => Packet.ofInt 4 i
  | .str s => Packet.ofStr s
  | .val v => putVal v
  | .raw bytes => bytes

def fillPacket (mP : List UInt8) : List (Arg Val) → List UInt8
  | [] => mP
  | mArg :: mArgs => fillPacket (mP ++ mArg.bytes putVal) mArgs

def mkPacket {SPT : Type} (castEnum : SPT → NType) (mType : SPT) (mArgs : List (Arg Val)) :
    List UInt8 :=
  fillPacket putVal (Packet.ofInt 1 (castEnum mType)) mArgs

end

variable {putVal : Val → List UInt8}

theorem fillPacket_eq (mP : List UInt8) (mArgs : List (Arg Val)) :
    fillPacket putVal mP mArgs = mP ++ fillPacket putVal [] mArgs := by
  induction mArgs generalizing mP with
  | nil => rw [fillPacket, fillPacket, List.append_nil]
  | cons mArg mArgs ih =>
    rw [fillPacket, fillPacket, ih, ih ([] ++ _), List.nil_append, List.append_assoc]

theorem fillPacket_cons (mArg : Arg Val) (mArgs : List (Arg Val)) :
    fillPacket putVal [] (mArg :: mArgs) = mArg.bytes putVal ++ fillPacket putVal [] mArgs := by
  rw [fillPacket, fillPacket_eq, List.nil_append]

/-- The first byte of a packet is its type, and is read as that. -/
theorem exists_mkPacket_eq {SPT : Type} {castEnum : SPT → NType} {mType : SPT}
    (h : Packet.Fits 1 (castEnum mType)) (putVal : Val → List UInt8) (mArgs : List (Arg Val)) : ∃ b,
      mkPacket putVal castEnum mType mArgs = b :: fillPacket putVal [] mArgs ∧
        Packet.int 1 [b] = castEnum mType := by
  obtain ⟨b, hb⟩ := List.length_eq_one_iff.1 (Packet.length_ofInt 1 (castEnum mType))
  refine ⟨b, ?_, by rw [← hb, Packet.int_ofInt h]⟩
  rw [mkPacket, fillPacket_eq, hb]
  rfl

/-- Whoever receives the packet takes it for one of its type, whatever the variable held. -/
theorem SessionHost.typeInEffect_mkPacket {SPT : Type} {castEnum : SPT → NType} {mType : SPT}
    (h : Packet.Fits 1 (castEnum mType)) (putVal : Val → List UInt8) (mArgs : List (Arg Val))
    (type₀ : NType) :
    typeInEffect type₀ (mkPacket putVal castEnum mType mArgs) = castEnum mType := by
  obtain ⟨b, hb, hty⟩ := exists_mkPacket_eq h putVal mArgs
  rw [hb, typeInEffect, hty]

/-! ## What a client sends

A client that has no identifier sends a connection request, and one that has an identifier
everything else, with the identifier in front.  Both are assertions in the source. -/

namespace ClientHost

variable {s : ClientHost TTypes} (server : Address)

/-- `sendToServerNoCID<mType>(mArgs...)`, when the server is at the address `server`. -/
def sendToServerNoCID (mType : CtoS) (mArgs : List (Arg Val)) :
    EStateM Error (ClientHost TTypes) Unit := do
  ssvuAssert (decide ((← get).own = nullCID))
  modify fun s ↦ { s with sent := s.sent ++ [(server, mType, mArgs)] }

/-- `sendToServer<mType>(mArgs...)`, with the identifier of the client in front. -/
def sendToServer (mType : CtoS) (mArgs : List (Arg Val)) :
    EStateM Error (ClientHost TTypes) Unit := do
  ssvuAssert (decide ((← get).own ≠ nullCID))
  modify fun s ↦ { s with sent := s.sent ++ [(server, mType, .int s.own :: mArgs)] }

def sendConnectionRequest : EStateM Error (ClientHost TTypes) Unit :=
  sendToServerNoCID server .connectionRequest []

def sendPing : EStateM Error (ClientHost TTypes) Unit := sendToServer server .ping []

def sendDataToServer (mArgs : List (Arg Val)) : EStateM Error (ClientHost TTypes) Unit :=
  sendToServer server .data mArgs

def sendSyncRequest [Json Val] : EStateM Error (ClientHost TTypes) Unit := do
  let snapshot ← ofExcept (← get).syncManager.getSnapshot
  let json ← ofExcept snapshot.toJson
  sendToServer server .syncRequest [.val json]

variable {server}

theorem run_sendToServerNoCID (mType : CtoS) (mArgs : List (Arg Val)) :
    (sendToServerNoCID server mType mArgs).run s =
      if s.own = nullCID then .ok () { s with sent := s.sent ++ [(server, mType, mArgs)] }
      else .error .assertFailed s := by
  rw [sendToServerNoCID, EStateM.run_bind, EStateM.run_get]
  by_cases h : s.own = nullCID <;> simp [ssvuAssert, h]

theorem run_sendToServer (mType : CtoS) (mArgs : List (Arg Val)) :
    (sendToServer server mType mArgs).run s =
      if s.own = nullCID then .error .assertFailed s
      else .ok () { s with sent := s.sent ++ [(server, mType, .int s.own :: mArgs)] } := by
  rw [sendToServer, EStateM.run_bind, EStateM.run_get]
  by_cases h : s.own = nullCID <;> simp [ssvuAssert, h]

/-- A sync request sends the manager, written out, if it can be written. -/
theorem run_sendSyncRequest_of_getSnapshot [Json Val] {snapshot : Snapshot typeCount Val}
    (server : Address) (hsnap : s.syncManager.getSnapshot = .ok snapshot) :
    (sendSyncRequest server).run s =
      (sendToServer server .syncRequest [.val snapshot.json]).run s := by
  rw [sendSyncRequest, EStateM.run_bind, EStateM.run_get]
  simp only [EStateM.run_bind, hsnap, EStateM.run_ofExcept_ok, Snapshot.toJson_ok]

/-- A sync request that is sent carries a snapshot, written as JSON, whatever else. -/
theorem exists_run_sendToServer_of_run_sendSyncRequest [Json Val] {s' : ClientHost TTypes}
    (h : (sendSyncRequest server).run s = .ok () s') : ∃ snapshot : Snapshot typeCount Val,
    (sendToServer server .syncRequest [.val snapshot.json]).run s = .ok () s' := by
  cases hsnap : s.syncManager.getSnapshot with
  | ok snapshot => exact ⟨snapshot, (run_sendSyncRequest_of_getSnapshot server hsnap) ▸ h⟩
  | error e =>
    rw [sendSyncRequest, EStateM.run_bind, EStateM.run_get] at h
    simp only [EStateM.run_bind, hsnap, EStateM.run_ofExcept_error] at h
    cases h

end ClientHost

/-! ## What becomes of it on the other side

The receiving side reads the type and, at the server, the identifier, and leaves the rest of the
arguments for the handler.  So a packet that was sent is handled as what it was meant to be, if the
identifier fits into its bytes. -/

theorem run_popRecvCID_ofInt {SPT Own : Type} {s : SessionHost SPT Own TTypes} {cid : CID}
    (hcid : Packet.Fits 4 cid) {rest : List UInt8}
    (hs : s.recvBuffer = Packet.received (Packet.ofInt 4 cid ++ rest)) (temp₀ : CID) :
    (SessionHost.popRecvCID temp₀).run s =
      .ok cid { s with recvBuffer := Packet.received rest } := by
  rw [SessionHost.popRecvCID, EStateM.run_modifyGet, hs, Packet.reads_ofInt hcid]

namespace ServerHost

variable [DecidableEq Val] [Json Val] (extractVal : Val → EStateM Error Packet Val)
  (onDataReceived : CID → EStateM Error (ServerHost TTypes) Unit)

/-- The part of `handle` that comes after the identifier has been read. -/
def serve (mType : CtoS) (cid : CID) : EStateM Error (ServerHost TTypes) Unit := do
  if !(← get).own.has cid then return
  match mType with
  | .connectionRequest => throw (.raised .runtimeError)
  | .ping => handlePing cid
  | .syncRequest => handleSyncRequest extractVal cid
  | .data => onDataReceived cid
  | .syncSatisfied => return

theorem handle_eq {mType : CtoS} (hne : mType ≠ .connectionRequest) (temp₀ : CID) :
    handle extractVal onDataReceived temp₀ (some mType) =
      SessionHost.popRecvCID temp₀ >>= serve extractVal onDataReceived mType := by
  rw [handle, if_neg fun h ↦ hne (Option.some_inj.1 h)]
  cases mType <;> rfl

variable {extractVal onDataReceived} {s : ServerHost TTypes} {sender : Address} {type₀ : NType}
  {temp₀ : CID}

/-- **What a client sends arrives**: the server handles it by its type, for the identifier the
client wrote, and finds in the buffer what else it wrote. -/
theorem run_forward_mkPacket {mType : CtoS} (hne : mType ≠ .connectionRequest) {cid : CID}
    (hcid : Packet.Fits 4 cid) (mArgs : List (Arg Val)) :
    (forward extractVal onDataReceived type₀ temp₀).run
        (s.receive sender (mkPacket putVal CtoS.castEnum mType (.int cid :: mArgs))) =
      SessionHost.caught ((serve extractVal onDataReceived mType cid).run { s with
        recvBuffer := Packet.received (fillPacket putVal [] mArgs), sender := sender }) := by
  obtain ⟨b, hb, hty⟩ := exists_mkPacket_eq mType.fits_castEnum putVal (.int cid :: mArgs)
  rw [hb, forward, SessionHost.run_tryForwardReceivedPacket_cons, hty, CtoS.toEnum_castEnum,
    handle_eq _ _ hne, EStateM.run_bind, run_popRecvCID_ofInt hcid (by rw [fillPacket_cons]; rfl)]

/-- A connection request arrives as one, and is served for the address of its sender. -/
theorem run_forward_mkPacket_connectionRequest (mArgs : List (Arg Val)) :
    (forward extractVal onDataReceived type₀ temp₀).run
        (s.receive sender (mkPacket putVal CtoS.castEnum .connectionRequest mArgs)) =
      SessionHost.caught (handleConnectionRequest.run { s with
        recvBuffer := Packet.received (fillPacket putVal [] mArgs), sender := sender }) := by
  obtain ⟨b, hb, hty⟩ := exists_mkPacket_eq CtoS.connectionRequest.fits_castEnum putVal mArgs
  rw [hb, forward, SessionHost.run_tryForwardReceivedPacket_cons, hty, CtoS.toEnum_castEnum, handle,
    if_pos rfl]

end ServerHost

namespace ClientHost

variable [Json Val] {extractVal : Val → EStateM Error Packet Val}
  {onDataReceived : EStateM Error (ClientHost TTypes) Unit} {s : ClientHost TTypes}
  {sender : Address} {type₀ : NType} {temp₀ : CID}

/-- **What the server sends arrives**: the client handles it by its type, and finds in the buffer
what else the server wrote. -/
theorem run_forward_mkPacket (mType : StoC) (mArgs : List (Arg Val)) :
    (forward extractVal onDataReceived type₀ temp₀).run
        (s.receive sender (mkPacket putVal StoC.castEnum mType mArgs)) =
      SessionHost.caught ((handle extractVal onDataReceived temp₀ (some mType)).run { s with
        recvBuffer := Packet.received (fillPacket putVal [] mArgs), sender := sender }) := by
  obtain ⟨b, hb, hty⟩ := exists_mkPacket_eq mType.fits_castEnum putVal mArgs
  rw [hb, forward, SessionHost.run_tryForwardReceivedPacket_cons, hty, StoC.toEnum_castEnum]

/-- An acceptance tells the client the identifier that was written, and changes nothing else. -/
theorem run_forward_mkPacket_connectionAccept {id : CID} (hid : Packet.Fits 4 id)
    (mArgs : List (Arg Val)) : ∃ recvBuffer,
    (forward extractVal onDataReceived type₀ temp₀).run
        (s.receive sender (mkPacket putVal StoC.castEnum .connectionAccept (.int id :: mArgs))) =
      .ok () { s with recvBuffer := recvBuffer, sender := sender, own := id } := by
  rw [run_forward_mkPacket, handle]
  let t : ClientHost TTypes := { s with
    recvBuffer := Packet.received (fillPacket putVal [] (.int id :: mArgs)), sender := sender }
  have hint : Packet.extractInt 4 temp₀ t.recvBuffer =
      (id, Packet.received (fillPacket putVal [] mArgs)) := by
    show Packet.extractInt 4 temp₀ (Packet.received (fillPacket putVal [] (.int id :: mArgs))) = _
    rw [fillPacket_cons]
    exact Packet.reads_ofInt hid temp₀ _
  obtain ⟨recvBuffer, hrun⟩ := run_handleConnectionAccept (s := t) temp₀
  rw [hint] at hrun
  exact ⟨recvBuffer, by rw [hrun]; rfl⟩

end ClientHost

/-! ## A synchronization, from one end to the other

The JSON library is a parameter, of which `ReadsBack` says what is needed: that it reads a value
from the text it has written.  The request goes through, and what fails is the answer: writing it
when something is to be removed, and reading it in any case. -/

/-- The JSON library reads back what it has written of the value. -/
def ReadsBack (putVal : Val → List UInt8) (extractVal : Val → EStateM Error Packet Val) (v : Val) :
    Prop :=
  ∀ data rest, (extractVal data).run (Packet.received (putVal v ++ rest)) =
    .ok v (Packet.received rest)

section

variable {n : ℕ} [Json Val] {extractVal : Val → EStateM Error Packet Val}

theorem run_popRecvJson_of_readsBack {SPT Own α : Type} {s : SessionHost SPT Own TTypes}
    {initFromJson : Val → EStateM Error α Unit} {temp₀ : α} {v : Val}
    (hv : ReadsBack putVal extractVal v)
    (hs : s.recvBuffer = Packet.received (fillPacket putVal [] [.val v])) :
    (SessionHost.popRecvJson extractVal initFromJson temp₀).run s =
      match (initFromJson v).run temp₀ with
      | .ok _ temp => .ok temp { s with recvBuffer := Packet.received [] }
      | .error e _ => .error e { s with recvBuffer := Packet.received [] } := by
  have hrun : (extractVal Json.null).run s.recvBuffer = .ok v (Packet.received []) := by
    rw [hs, fillPacket_cons]
    exact hv _ _
  rw [SessionHost.popRecvJson, EStateM.run_bind, EStateM.run_focus, hrun]
  simp only [EStateM.Result.mapState_ok]
  cases (initFromJson v).run temp₀ <;> rfl

/-- The JSON of a diff that removes nothing, which is the only kind that can be written. -/
def Diff.json (d : Diff typeCount Val) : Val :=
  Json.ofArr (List.ofFn fun t ↦ Json.ofArr
    [writeItems (d.typeDatas t).toCreate, Json.ofObj ∅, writeItems (d.typeDatas t).toUpdate])

/-- **When a diff can be written**: when it removes nothing, from no type. -/
theorem Diff.toJson_eq (d : Diff typeCount Val) : d.toJson =
    if ∀ t, (d.typeDatas t).toRemove = [] then .ok d.json else .error (Json.misuse Val) := by
  split
  · rename_i h
    exact emplaceEach_ok fun t ↦ by rw [DiffTypeData.toJson_eq, if_pos (h t)]
  · rename_i h
    cases hj : d.toJson with
    | ok j =>
      obtain ⟨x, hx, -⟩ := of_emplaceEach_ok hj
      refine absurd (fun t ↦ ?_) h
      have ht := hx t
      rw [DiffTypeData.toJson_eq] at ht
      by_contra hne
      rw [if_neg hne] at ht
      cases ht
    | error e => rw [Diff.error_toJson hj]

theorem Diff.eq_json {d : Diff typeCount Val} {j : Val} (h : d.toJson = .ok j) : j = d.json := by
  rw [toJson_eq] at h
  split at h
  · exact (Except.ok.inj h).symm
  · cases h

/-- No diff of a manager that has types can be read back: already its first type fails. -/
theorem Diff.run_initFromJson_json (d d₀ : Diff (n + 1) Val) :
    ∃ d', (initFromJson d.json).run d₀ = .error (Json.misuse Val) d' := by
  rw [initFromJson, json, List.finRange_succ, List.forM_cons, EStateM.run_bind, readTypeData,
    idx_ofArr_ofFn, EStateM.run_bind, EStateM.run_ofExcept_ok]
  simp only [EStateM.run_focus, DiffTypeData.run_initFromJson, EStateM.Result.mapState_error]
  exact ⟨_, rfl⟩

end

/-- Only the packet at hand is not the same in `s'` as in `s`. -/
structure SessionHost.Same {SPT Own : Type} (s s' : SessionHost SPT Own TTypes) : Prop where
  own : s'.own = s.own
  syncManager : s'.syncManager = s.syncManager
  sent : s'.sent = s.sent

/-- Nothing has to be removed from a manager that has no object the other has not. -/
theorem SyncManager.Between.toRemove_iff {s c : SyncManager TTypes} {d : Diff typeCount Val}
    [DecidableEq Val] [Json Val] (h : Between d s c) (hs : s.Inv) (hc : c.Inv) :
    (∀ t, (d.typeDatas t).toRemove = []) ↔ ∀ t id, (c t).Alive id → (s t).Alive id := by
  refine forall_congr' fun t ↦ ?_
  rw [List.eq_nil_iff_forall_not_mem]
  refine forall_congr' fun id ↦ ?_
  rw [(h t).toRemove, (hs t).obj?_eq_none, ← (hc t).alive_iff]
  exact ⟨fun hnot ha ↦ by_contra fun hs ↦ hnot ⟨hs, ha⟩,
    fun himp hboth ↦ hboth.1 (himp hboth.2)⟩

section

variable [DecidableEq Val] [Json Val] {extractVal : Val → EStateM Error Packet Val}
  {snapshot serverSnapshot left : Snapshot typeCount Val} {d : Diff typeCount Val}

/-- **Serving a sync request** ends as writing the diff does, and sends it if it could be
written. -/
theorem ServerHost.run_handleSyncRequest {s : ServerHost TTypes} {cid : CID} {a : Address}
    (hown : s.own.Inv) (hbind : (cid, a) ∈ s.own.bindings)
    (hbuf : s.recvBuffer = Packet.received (fillPacket putVal [] [.val snapshot.json]))
    (hv : ReadsBack putVal extractVal snapshot.json)
    (hserver : s.syncManager.getSnapshot = .ok serverSnapshot)
    (hd : serverSnapshot.getDiffWith snapshot = .ok (d, left)) :
    (handleSyncRequest extractVal cid).run s =
      if ∀ t, (d.typeDatas t).toRemove = [] then
        .ok () { s with
          recvBuffer := Packet.received []
          sent := s.sent ++ [(a, .syncRequestSatisfy, [.val d.json])] }
      else .error (Json.misuse Val) { s with recvBuffer := Packet.received [] } := by
  obtain ⟨ch, hch, -, haddr⟩ := hown.handler_of_mem_bindings hbind
  rw [handleSyncRequest, EStateM.run_bind, run_popRecvJson_of_readsBack hv hbuf,
    Snapshot.run_initFromJson_json]
  simp only [EStateM.run_bind, EStateM.run_get, hserver, hd, EStateM.run_ofExcept_ok,
    Diff.toJson_eq]
  by_cases hrem : ∀ t, (d.typeDatas t).toRemove = []
  · simp only [if_pos hrem, EStateM.run_ofExcept_ok, run_sendToClient, hch, haddr]
  · simp only [if_neg hrem, EStateM.run_ofExcept_error]

/-- A sync request arrives, and is answered if the answer can be written. -/
theorem ServerHost.run_forward_syncRequest {s : ServerHost TTypes} {cid : CID} {a : Address}
    (onDataReceived : CID → EStateM Error (ServerHost TTypes) Unit) (sender : Address)
    (type₀ : NType) (temp₀ : CID) (hown : s.own.Inv) (hbind : (cid, a) ∈ s.own.bindings)
    (hcid : Packet.Fits 4 cid) (hv : ReadsBack putVal extractVal snapshot.json)
    (hserver : s.syncManager.getSnapshot = .ok serverSnapshot)
    (hd : serverSnapshot.getDiffWith snapshot = .ok (d, left)) :
    (forward extractVal onDataReceived type₀ temp₀).run (s.receive sender
        (mkPacket putVal CtoS.castEnum .syncRequest [.int cid, .val snapshot.json])) =
      if ∀ t, (d.typeDatas t).toRemove = [] then
        .ok () { s with
          recvBuffer := Packet.received []
          sender := sender
          sent := s.sent ++ [(a, .syncRequestSatisfy, [.val d.json])] }
      else .error (Json.misuse Val)
        { s with recvBuffer := Packet.received [], sender := sender } := by
  obtain ⟨ch, hch, -⟩ := hown.handler_of_mem_bindings hbind
  have hhas : s.own.has cid = true := Option.isSome_iff_exists.2 ⟨ch, hch⟩
  have hanswer := run_handleSyncRequest (s := { s with
      recvBuffer := Packet.received (fillPacket putVal [] [.val snapshot.json]), sender := sender })
    hown hbind rfl hv hserver hd
  rw [run_forward_mkPacket (by simp) hcid, serve, EStateM.run_bind, EStateM.run_get]
  simp only [hhas, Bool.not_true, Bool.false_eq_true, if_false, hanswer]
  split
  · rfl
  · exact SessionHost.caught_misuse _

omit [DecidableEq Val] in
/-- The client cannot read the answer, and fails with its manager as it was. -/
theorem ClientHost.run_handleSyncRequestSatisfy {n : ℕ} {TTypes : Fin (n + 1) → ObjType Val}
    {c : ClientHost TTypes} {d : Diff (n + 1) Val}
    (hbuf : c.recvBuffer = Packet.received (fillPacket putVal [] [.val d.json]))
    (hv : ReadsBack putVal extractVal d.json) : (handleSyncRequestSatisfy extractVal).run c =
      .error (Json.misuse Val) { c with recvBuffer := Packet.received [] } := by
  obtain ⟨d', hd'⟩ := Diff.run_initFromJson_json d Diff.empty
  rw [handleSyncRequestSatisfy, EStateM.run_bind, run_popRecvJson_of_readsBack hv hbuf, hd']

/-- **A synchronization over the wire.**  The request goes out with the client's manager in it.  The
server sends the difference exactly when the client has no object that the server has not; otherwise
it cannot write what there is to remove.  And what the server has sent is more than the client can
read, as soon as there is a type of objects at all. -/
theorem sync_over_wire {s : ServerHost TTypes} {c : ClientHost TTypes} {a : Address}
    (server sender : Address) (onDataReceived : CID → EStateM Error (ServerHost TTypes) Unit)
    (onDataReceived' : EStateM Error (ClientHost TTypes) Unit) (type₀ : NType) (temp₀ : CID)
    (hown : s.own.Inv) (hsync : s.syncManager.Inv) (hc : c.syncManager.Inv)
    (hbind : (c.own, a) ∈ s.own.bindings) (hcid : Packet.Fits 4 c.own)
    (hsnap : c.syncManager.getSnapshot = .ok snapshot)
    (hserver : s.syncManager.getSnapshot = .ok serverSnapshot)
    (hd : serverSnapshot.getDiffWith snapshot = .ok (d, left))
    (hv : ReadsBack putVal extractVal snapshot.json) (hv' : ReadsBack putVal extractVal d.json) :
    (ClientHost.sendSyncRequest server).run c = .ok () { c with
        sent := c.sent ++ [(server, .syncRequest, [.int c.own, .val snapshot.json])] } ∧
      ((∀ t id, (c.syncManager t).Alive id → (s.syncManager t).Alive id) →
        ∃ s', (ServerHost.forward extractVal onDataReceived type₀ temp₀).run (s.receive sender
          (mkPacket putVal CtoS.castEnum .syncRequest [.int c.own, .val snapshot.json])) =
            .ok () s' ∧ s'.own = s.own ∧ s'.syncManager = s.syncManager ∧
              s'.sent = s.sent ++ [(a, .syncRequestSatisfy, [.val d.json])]) ∧
      ((¬∀ t id, (c.syncManager t).Alive id → (s.syncManager t).Alive id) →
        ∃ s', (ServerHost.forward extractVal onDataReceived type₀ temp₀).run (s.receive sender
          (mkPacket putVal CtoS.castEnum .syncRequest [.int c.own, .val snapshot.json])) =
            .error (Json.misuse Val) s' ∧ s.Same s') ∧
      (typeCount ≠ 0 → ∃ c', (ClientHost.forward extractVal onDataReceived' type₀ temp₀).run
        (c.receive server (mkPacket putVal StoC.castEnum .syncRequestSatisfy [.val d.json])) =
          .error (Json.misuse Val) c' ∧ c.Same c') := by
  have hbetween := (hsync.describes hserver).between (hc.describes hsnap) hsync hc hd
  have hne : c.own ≠ nullCID := by
    have h0 := hown.nonneg_of_mem_bindings hbind
    intro heq
    exact absurd (heq ▸ h0) (by decide)
  have hanswer := ServerHost.run_forward_syncRequest onDataReceived sender type₀ temp₀
    hown hbind hcid hv hserver hd
  rw [hanswer, ← hbetween.toRemove_iff hsync hc]
  refine ⟨?_, fun hrem ↦ ?_, fun hrem ↦ ?_, fun hcount ↦ ?_⟩
  · rw [ClientHost.run_sendSyncRequest_of_getSnapshot server hsnap, ClientHost.run_sendToServer,
      if_neg hne]
  · rw [if_pos hrem]
    exact ⟨_, rfl, rfl, rfl, rfl⟩
  · rw [if_neg hrem]
    exact ⟨_, rfl, rfl, rfl, rfl⟩
  · obtain ⟨n, rfl⟩ := Nat.exists_eq_succ_of_ne_zero hcount
    rw [ClientHost.run_forward_mkPacket, ClientHost.handle,
      ClientHost.run_handleSyncRequestSatisfy rfl hv', SessionHost.caught_misuse]
    exact ⟨_, rfl, rfl, rfl, rfl⟩

end

/-! ## The chat on the wire

The examples need JSON as bytes.  `JsonTree.write` writes a value as its text, and a reader that
knows the texts of two values is enough to read those back. -/

namespace JsonTree

mutual

/-- JSON as text, for strings without anything to escape. -/
def text : JsonTree → String
  | null => "null"
  | int i => Int.repr i
  | str s => "\"" ++ s ++ "\""
  | arr l => "[" ++ textArr l ++ "]"
  | obj l => "\x7b" ++ textObj l ++ "\x7d"

def textArr : List JsonTree → String
  | [] => ""
  | [x] => text x
  | x :: l => text x ++ "," ++ textArr l

def textObj : List (String × JsonTree) → String
  | [] => ""
  | [(k, x)] => "\"" ++ k ++ "\":" ++ text x
  | (k, x) :: l => "\"" ++ k ++ "\":" ++ text x ++ "," ++ textObj l

end

/-- A value is written as its text, which is a string like any other. -/
def write (v : JsonTree) : List UInt8 := Packet.ofStr v.text

/-- A reader that knows the texts of some values, and raises an exception for any other. -/
def readKnown (known : List JsonTree) (_ : JsonTree) : EStateM Error Packet JsonTree := fun p ↦
  let (s, p) := p.extractStr
  match known.find? fun v ↦ v.text == s with
  | some v => .ok v p
  | none => .error (.raised .runtimeError) p

theorem readsBack_readKnown {known : List JsonTree} {v : JsonTree} (hv : Packet.IsBytes v.text)
    (hknown : known.find? (fun w ↦ w.text == v.text) = some v) :
    ReadsBack write (readKnown known) v := by
  intro data rest
  have hstr := Packet.reads_ofStr hv rest
  rw [← write] at hstr
  simp only [EStateM.run, readKnown, hstr, hknown]

end JsonTree

namespace Chat

open SyncManager Transition

/-- The manager of a server that has one message, by `ann`, as it was created. -/
def oneMessageManager : SyncManager types :=
  ((SyncManager.serverCreate messages (messageVal 0 "ann" "hello")).run
    (SyncManager.fresh types)).state

theorem inv_oneMessageManager : oneMessageManager.Inv := by
  have h : Reaches [.serverCreate messages (messageVal 0 "ann" "hello")] oneMessageManager :=
    Run.single (.serverCreate rfl)
  exact inv_of_reaches h (lookupsAlive_of_isLookup (by simp [Op.isLookup]))

/-- A server with that manager, and one client that has been accepted. -/
def oneClientServer : ServerHost types :=
  { idleServer with
    syncManager := oneMessageManager
    own := ClientHandlerManager.init.accepted 1 27016 }

/-- That client, with its identifier and no messages. -/
def oneClient : ClientHost types where
  recvBuffer := Packet.received []
  sender := (0, 0)
  syncManager := SyncManager.fresh types
  sent := []
  own := 0

/-- The client's manager, written out: no identifier is alive. -/
def noMessages : JsonTree :=
  .arr [.arr [.str (Bitset.toStr fun _ : Fin maxObjs ↦ false)], .arr [.obj []]]

/-- What the client lacks: a diff that creates the message. -/
def oneMessageDiff : JsonTree :=
  .arr [.arr [.obj [("0", .obj [("0", .int 0), ("1", .str "ann"), ("2", .str "hello"),
    ("ff", .str "000")])], .obj [], .obj []]]

theorem exists_oneMessageDiff : ∃ snapshot serverSnapshot d left,
    oneClient.syncManager.getSnapshot = .ok snapshot ∧
    oneClientServer.syncManager.getSnapshot = .ok serverSnapshot ∧
    serverSnapshot.getDiffWith snapshot = .ok (d, left) ∧
    snapshot.json = noMessages ∧ d.json = oneMessageDiff ∧ ∀ t, (d.typeDatas t).toRemove = [] :=
  ⟨_, _, _, _, rfl, rfl, rfl, rfl, rfl, Fin.forall_fin_one.2 rfl⟩

set_option maxRecDepth 20000 in
theorem isBytes_noMessages : Packet.IsBytes noMessages.text ∧
    Packet.IsBytes oneMessageDiff.text := by
  decide +kernel

set_option maxRecDepth 20000 in
theorem find?_noMessages :
    [noMessages, oneMessageDiff].find? (fun w ↦ w.text == noMessages.text) = some noMessages ∧
    [noMessages, oneMessageDiff].find? (fun w ↦ w.text == oneMessageDiff.text) =
      some oneMessageDiff := by
  decide +kernel

/-- A reader that knows the two values reads them back. -/
theorem readsBack_noMessages {v : JsonTree} (hv : v = noMessages ∨ v = oneMessageDiff) :
    ReadsBack JsonTree.write (JsonTree.readKnown [noMessages, oneMessageDiff]) v := by
  rcases hv with rfl | rfl
  · exact JsonTree.readsBack_readKnown isBytes_noMessages.1 find?_noMessages.1
  · exact JsonTree.readsBack_readKnown isBytes_noMessages.2 find?_noMessages.2

/-- The server answers the client, which fails on the answer. -/
theorem sync_over_wire_oneMessage :
    ∃ (c : ClientHost types) (s : ServerHost types) (j j' : JsonTree),
    (ClientHost.sendSyncRequest (2, 27015)).run oneClient = .ok () c ∧
    c.sent = [((2, 27015), .syncRequest, [.int 0, .val j])] ∧
    (ServerHost.forward (JsonTree.readKnown [noMessages, oneMessageDiff]) (fun _ ↦ pure ()) 0 7).run
      (oneClientServer.receive (1, 27016)
        (mkPacket JsonTree.write CtoS.castEnum .syncRequest [.int 0, .val j])) = .ok () s ∧
    s.sent = [((1, 27016), .syncRequestSatisfy, [.val j'])] ∧
    ∃ c', (ClientHost.forward (JsonTree.readKnown [noMessages, oneMessageDiff]) (pure ()) 0 7).run
      (oneClient.receive (2, 27015)
        (mkPacket JsonTree.write StoC.castEnum .syncRequestSatisfy [.val j'])) =
          .error .badKind c' := by
  obtain ⟨snapshot, serverSnapshot, d, left, hsnap, hserver, hd, hj, hj', -⟩ :=
    exists_oneMessageDiff
  have hbind : (oneClient.own, ((1, 27016) : Address)) ∈ oneClientServer.own.bindings := by decide
  obtain ⟨hsend, hserve, -, hreceive⟩ := sync_over_wire (2, 27015) (1, 27016) (fun _ ↦ pure ())
    (pure ()) 0 7 ClientHandlerManager.inv_init.accepted inv_oneMessageManager SyncManager.inv_fresh
    hbind (by decide) hsnap hserver hd (readsBack_noMessages (.inl hj))
    (readsBack_noMessages (.inr hj'))
  obtain ⟨s, hs, -, -, hsent⟩ := hserve fun t id ha ↦ by
    obtain ⟨i, -, hi⟩ := ha.exists_objID
    exact absurd hi Bool.false_ne_true
  obtain ⟨c', hc', -⟩ := hreceive (by decide)
  exact ⟨_, s, snapshot.json, d.json, hsend, rfl, hs, hsent, c', hc'⟩

end Chat

end AutoSync
