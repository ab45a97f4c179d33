import AutoSync.Network.Host

/-!
# Truncated datagrams

A datagram may be empty, or end before the items that belong to its type.  Then the handler goes on
with what was in its variables, so that the datagram is taken for a packet that nobody has sent: the
packet that `type₀` and `temp₀` happen to describe.

`truncated_unaffected_iff` says when that has no effect, for both kinds of host.  A host is
`Unaffected` by a datagram if the program goes on, with everything the host has and has sent as it
was.  `Ignores` goes through the types of packets and says for which values of the two variables
that is so; on the server, for instance, a truncated ping is harmless unless `temp₀` is the
identifier of a client whose timeout would be reset.
-/

set_option autoImplicit false

namespace AutoSync

variable {Val : Type} {typeCount : ℕ} {TTypes : Fin typeCount → ObjType Val}

/-! ## Nothing left to read

Once a read has failed every other one fails as well, and leaves its target alone.  So an identifier
is what was in the variable, and JSON is a value that has just been constructed, from which nothing
can be read but a snapshot or a diff of no types. -/

namespace SessionHost

variable {SPT RPT Own : Type} {s s' : SessionHost SPT Own TTypes} {bytes : List UInt8}
  {sender : Address}

/-- The program goes on, and what the host has and has sent is as before. -/
def Unaffected (s : SessionHost SPT Own TTypes)
    (r : EStateM.Result Error (SessionHost SPT Own TTypes) Unit) : Prop :=
  ∃ s', r = .ok () s' ∧ s'.own = s.own ∧ s'.syncManager = s.syncManager ∧ s'.sent = s.sent

/-- A host with the rest of a datagram it has failed to read, after which no read succeeds. -/
def exhausted (sender : Address) (rest : List UInt8) (s : SessionHost SPT Own TTypes) :
    SessionHost SPT Own TTypes :=
  { s with recvBuffer := ⟨rest, false⟩, sender := sender }

theorem unaffected_ok (h : s'.own = s.own ∧ s'.syncManager = s.syncManager ∧ s'.sent = s.sent) :
    s.Unaffected (.ok () s') := ⟨s', rfl, h⟩

theorem run_popRecvCID_of_lt (h : s.recvBuffer.rest.length < 4) (temp₀ : CID) :
    (popRecvCID temp₀).run s = .ok temp₀ { s with recvBuffer := ⟨s.recvBuffer.rest, false⟩ } := by
  rw [popRecvCID, EStateM.run_modifyGet, Packet.extractInt, Packet.extract_of_lt h]

variable [Json Val] {extractVal : Val → EStateM Error Packet Val}

/-- Reading JSON when there is nothing left to read reads a value that has just been constructed. -/
theorem run_popRecvJson {α : Type} {initFromJson : Val → EStateM Error α Unit} {temp₀ : α}
    (hval : ∀ (p : Packet) (data : Val), p.isValid = false → (extractVal data).run p = .ok data p)
    (hs : s.recvBuffer.isValid = false) : (popRecvJson extractVal initFromJson temp₀).run s =
      match (initFromJson Json.null).run temp₀ with
      | .ok _ temp => .ok temp s
      | .error e _ => .error e s := by
  rw [popRecvJson, EStateM.run_bind, EStateM.run_focus, hval _ _ hs]
  simp only [EStateM.Result.mapState_ok]
  cases (initFromJson Json.null).run temp₀ <;> rfl

end SessionHost

section

variable [Json Val]

/-- A snapshot of no types can be read from anything, and no other from nothing. -/
theorem Snapshot.run_initFromJson_null (hnull : Json.arr? (Json.null : Val) = none) :
    ∀ {typeCount : ℕ} (s₀ : Snapshot typeCount Val), (initFromJson Json.null).run s₀ =
      if typeCount = 0 then .ok () s₀ else .error (Json.misuse Val) s₀
  | 0, _ => rfl
  | n + 1, s₀ => by
    have hidx : Json.idx (Json.null : Val) 0 = .error (Json.misuse Val) := by rw [Json.idx, hnull]
    rw [if_neg (Nat.succ_ne_zero n), initFromJson, List.finRange_succ, List.forM_cons]
    simp [readBitset, hidx]

theorem Diff.run_initFromJson_null (hnull : Json.arr? (Json.null : Val) = none) :
    ∀ {typeCount : ℕ} (d₀ : Diff typeCount Val), (initFromJson Json.null).run d₀ =
      if typeCount = 0 then .ok () d₀ else .error (Json.misuse Val) d₀
  | 0, _ => rfl
  | n + 1, d₀ => by
    have hidx : Json.idx (Json.null : Val) 0 = .error (Json.misuse Val) := by rw [Json.idx, hnull]
    rw [if_neg (Nat.succ_ne_zero n), initFromJson, List.finRange_succ, List.forM_cons]
    simp [readTypeData, hidx]

end

/-! ## The server

A truncated datagram of any type but one still lacks the identifier, so that `temp₀` decides whether
the server knows the client.  If it does not, nothing happens; if it does, the datagram is handled
as one of this client. -/

namespace ServerHost

variable [DecidableEq Val] [Json Val] {extractVal : Val → EStateM Error Packet Val}
  {onDataReceived : CID → EStateM Error (ServerHost TTypes) Unit} {s : ServerHost TTypes}

/-- Too short for the type, or for the identifier that follows all types but one. -/
def Truncated : List UInt8 → Prop
  | [] => True
  | b :: rest => CtoS.toEnum (Packet.int 1 [b]) ≠ some .connectionRequest ∧ rest.length < 4

/-- The packet that `type₀` and `temp₀` make of a truncated datagram has no effect. -/
def Ignores (onDataReceived : CID → EStateM Error (ServerHost TTypes) Unit) (s : ServerHost TTypes)
    (sender : Address) (bytes : List UInt8) (type₀ : NType) (temp₀ : CID) : Prop :=
  match CtoS.toEnum (SessionHost.typeInEffect type₀ bytes) with
  | some .connectionRequest => False
  | some .ping => ∀ ch h, s.own.chMap[temp₀]? = some ch → s.own.clientHandlers[ch]? = some h →
      h.secondsUntilTimeout = maxSecondsUntilTimeout
  | some .syncRequest => s.own.has temp₀ = false
  | some .data => s.own.has temp₀ = true → s.Unaffected
      (SessionHost.caught ((onDataReceived temp₀).run (s.exhausted sender bytes.tail)))
  | some .syncSatisfied => True
  | none => True

omit [DecidableEq Val] [Json Val] in
/-- A connection request always has an effect, whether it is granted or not. -/
theorem not_unaffected_handleConnectionRequest {s' : ServerHost TTypes} (hs : s'.own = s.own) :
    ¬s.Unaffected (SessionHost.caught (handleConnectionRequest.run s')) := by
  rintro ⟨s₁, h, hown, -⟩
  rw [handleConnectionRequest, EStateM.run_bind, EStateM.run_get] at h
  simp only [EStateM.run_bind, hs] at h
  cases hacc : s.own.acceptClient s'.sender.1 s'.sender.2 with
  | error e =>
    rw [hacc, EStateM.run_ofExcept_error] at h
    cases e with
    | raised ex => exact ClientHandlerManager.acceptClient_ne_raised ex hacc
    | _ => cases h
  | ok r =>
    obtain ⟨ch, m⟩ := r
    obtain ⟨-, hm⟩ := ClientHandlerManager.acceptClient_eq_ok hacc
    simp only [hacc, EStateM.run_ofExcept_ok, EStateM.run_set, sendConnectionAccept,
      run_sendToClient, SessionHost.caught] at h
    cases h
    -- the counter has moved on
    have hnext := congrArg ClientHandlerManager.nextCID (hm.symm.trans hown)
    exact absurd ((ClientHandlerManager.nextCID_readied s.own).symm.trans hnext) (Int.lt_succ _).ne'

omit [DecidableEq Val] [Json Val] in
/-- A ping has no effect when there is nothing to count again, as the countdown is where it
starts. -/
theorem unaffected_handlePing_iff {s' : ServerHost TTypes} {ch : HandlerPtr} {cid : CID}
    (hs : s'.own = s.own ∧ s'.syncManager = s.syncManager ∧ s'.sent = s.sent)
    (hch : s.own.chMap[cid]? = some ch) :
    s.Unaffected (SessionHost.caught ((handlePing cid).run s')) ↔
      ∀ h, s.own.clientHandlers[ch]? = some h →
        h.secondsUntilTimeout = maxSecondsUntilTimeout := by
  have hping : s'.own.pingReceived cid = .ok { s.own with
      clientHandlers := s.own.clientHandlers.modify ch ClientHandler.resetTimeout } := by
    rw [hs.1, ClientHandlerManager.pingReceived, ClientHandlerManager.at', hch]
    rfl
  have hrun : (handlePing cid).run s' = .ok () { s' with
      own := { s.own with
        clientHandlers := s.own.clientHandlers.modify ch ClientHandler.resetTimeout } } := by
    rw [handlePing, EStateM.run_bind, EStateM.run_get]
    simp only [EStateM.run_bind, hping, EStateM.run_ofExcept_ok, EStateM.run_modify]
  rw [hrun, ← ClientHandlerManager.modify_resetTimeout_eq_iff]
  constructor
  · rintro ⟨s₁, h, hown, -⟩
    cases h
    exact congrArg ClientHandlerManager.clientHandlers hown
  · intro heq
    exact SessionHost.unaffected_ok ⟨by rw [heq], hs.2⟩

/-- A request to synchronize that does not say with what has an effect: it is answered when there
are no types at all, and goes wrong when there are. -/
theorem not_unaffected_handleSyncRequest
    (hval : ∀ (p : Packet) (data : Val), p.isValid = false → (extractVal data).run p = .ok data p)
    (hnull : Json.arr? (Json.null : Val) = none) {s' : ServerHost TTypes} {cid : CID}
    (hs : s'.own = s.own ∧ s'.syncManager = s.syncManager ∧ s'.sent = s.sent)
    (hbuf : s'.recvBuffer.isValid = false) (hcid : s.own.has cid = true) :
    ¬s.Unaffected (SessionHost.caught ((handleSyncRequest extractVal cid).run s')) := by
  rintro ⟨s₁, h, -, -, hsent⟩
  rw [handleSyncRequest, EStateM.run_bind, SessionHost.run_popRecvJson hval hbuf,
    Snapshot.run_initFromJson_null hnull] at h
  obtain ⟨ch, hch⟩ := Option.isSome_iff_exists.1 hcid
  cases typeCount with
  | succ n =>
    simp only [if_neg (Nat.succ_ne_zero n), SessionHost.caught_misuse] at h
    cases h
  | zero =>
    have hsend : SessionHost.caught ((sendToClient cid .syncRequestSatisfy
        [.val (Json.ofArr [])]).run s') = .ok () s₁ := h
    rw [run_sendToClient, hs.1, hch] at hsend
    cases hsend
    -- one packet more has been sent
    have hlen := congrArg List.length hsent
    rw [hs.2.2, List.length_append] at hlen
    exact absurd hlen (Nat.lt_succ_self _).ne'

/-- A client that is not connected is not served, whatever the type of the packet. -/
theorem run_handle_of_not_has {mType : Option CtoS} {temp₀ : CID}
    (hne : mType ≠ some .connectionRequest) (hlt : s.recvBuffer.rest.length < 4)
    (hhas : s.own.has temp₀ = false) :
    (handle extractVal onDataReceived temp₀ mType).run s =
      .ok () { s with recvBuffer := ⟨s.recvBuffer.rest, false⟩ } := by
  rw [handle, if_neg hne, EStateM.run_bind, SessionHost.run_popRecvCID_of_lt hlt]
  simp [hhas]

omit [DecidableEq Val] [Json Val] in
/-- Nothing a client that is not connected is taken to send has an effect, unless it is a connection
request. -/
theorem ignores_of_not_has {sender : Address} {bytes : List UInt8} {type₀ : NType} {temp₀ : CID}
    (hne : CtoS.toEnum (SessionHost.typeInEffect type₀ bytes) ≠ some .connectionRequest)
    (hhas : s.own.has temp₀ = false) : Ignores onDataReceived s sender bytes type₀ temp₀ := by
  rw [Ignores]
  match hty : CtoS.toEnum (SessionHost.typeInEffect type₀ bytes) with
  | some .connectionRequest => exact absurd hty hne
  | some .ping =>
    intro ch _ hch
    exact absurd (Option.isSome_iff_exists.2 ⟨ch, hch⟩) (Bool.eq_false_iff.1 hhas)
  | some .syncRequest => exact hhas
  | some .data => exact fun htrue ↦ absurd htrue (Bool.eq_false_iff.1 hhas)
  | some .syncSatisfied => trivial
  | none => trivial

/-- **What a truncated datagram does to the server**, given what is in the two variables. -/
theorem unaffected_forward_iff
    (hval : ∀ (p : Packet) (data : Val), p.isValid = false → (extractVal data).run p = .ok data p)
    (hnull : Json.arr? (Json.null : Val) = none) {sender : Address} {bytes : List UInt8}
    {type₀ : NType} {temp₀ : CID} (h : Truncated bytes) :
    s.Unaffected ((forward extractVal onDataReceived type₀ temp₀).run (s.receive sender bytes)) ↔
      Ignores onDataReceived s sender bytes type₀ temp₀ := by
  rw [forward, SessionHost.run_tryForwardReceivedPacket]
  by_cases hne : CtoS.toEnum (SessionHost.typeInEffect type₀ bytes) = some .connectionRequest
  · rw [Ignores, hne, handle, if_pos rfl]
    exact iff_of_false (not_unaffected_handleConnectionRequest rfl) id
  -- whatever else it is taken for, there is no identifier to be read
  have hlt : bytes.tail.length < 4 := by
    cases bytes with
    | nil => exact Nat.zero_lt_succ 3
    | cons b rest => exact h.2
  have hsame : (s.exhausted sender bytes.tail).own = s.own ∧
      (s.exhausted sender bytes.tail).syncManager = s.syncManager ∧
      (s.exhausted sender bytes.tail).sent = s.sent := ⟨rfl, rfl, rfl⟩
  cases hhas : s.own.has temp₀ with
  | false =>
    rw [run_handle_of_not_has (s := { s with
      recvBuffer := ⟨bytes.tail, !bytes.isEmpty⟩, sender := sender }) hne hlt hhas]
    exact iff_of_true (SessionHost.unaffected_ok hsame) (ignores_of_not_has hne hhas)
  | true =>
    obtain ⟨ch, hch⟩ := Option.isSome_iff_exists.1 hhas
    rw [handle, if_neg hne, EStateM.run_bind, SessionHost.run_popRecvCID_of_lt hlt, Ignores]
    simp only [EStateM.run_bind, EStateM.run_get, hhas, Bool.not_true, Bool.false_eq_true, if_false]
    cases hty : CtoS.toEnum (SessionHost.typeInEffect type₀ bytes) with
    | none => exact iff_of_true (SessionHost.unaffected_ok hsame) trivial
    | some mType =>
      cases mType with
      | connectionRequest => exact absurd hty hne
      | ping =>
        refine (unaffected_handlePing_iff hsame hch).trans ⟨?_, fun hi h ↦ hi ch h hch⟩
        rintro hfull c h hc
        obtain rfl := Option.some_inj.1 (hch.symm.trans hc)
        exact hfull h
      | syncRequest =>
        exact iff_of_false (not_unaffected_handleSyncRequest hval hnull hsame rfl hhas) (by simp)
      | data => simp only [true_implies]; exact Iff.rfl
      | syncSatisfied => exact iff_of_true (SessionHost.unaffected_ok hsame) trivial

end ServerHost

/-! ## The client

Only an acceptance has an identifier in it, and `temp₀` becomes the client's own if it is missing.
Any other packet is truncated only if it is empty. -/

namespace ClientHost

variable [Json Val] {extractVal : Val → EStateM Error Packet Val}
  {onDataReceived : EStateM Error (ClientHost TTypes) Unit} {s : ClientHost TTypes}

/-- Too short for the type, or for the identifier and the message of an acceptance. -/
def Truncated : List UInt8 → Prop
  | [] => True
  | b :: rest => StoC.toEnum (Packet.int 1 [b]) = some .connectionAccept ∧
      rest.length < 8 + Packet.number ((rest.drop 4).take 4)

/-- The packet that `type₀` and `temp₀` make of a truncated datagram has no effect. -/
def Ignores (onDataReceived : EStateM Error (ClientHost TTypes) Unit) (s : ClientHost TTypes)
    (sender : Address) (bytes : List UInt8) (type₀ : NType) (temp₀ : CID) : Prop :=
  match StoC.toEnum (SessionHost.typeInEffect type₀ bytes) with
  | some .connectionAccept => cidInEffect temp₀ bytes = s.own
  | some .connectionDecline => True
  | some .syncRequestSatisfy => typeCount = 0
  | some .syncRequestUnneeded => True
  | some .syncRequestDecline => True
  | some .data => s.Unaffected
      (SessionHost.caught (onDataReceived.run (s.exhausted sender bytes.tail)))
  | none => True

/-- A diff that is not there is an empty one when there are no types, and goes wrong when there
are. -/
theorem unaffected_handleSyncRequestSatisfy_iff
    (hval : ∀ (p : Packet) (data : Val), p.isValid = false → (extractVal data).run p = .ok data p)
    (hnull : Json.arr? (Json.null : Val) = none) {s' : ClientHost TTypes}
    (hs : s'.own = s.own ∧ s'.syncManager = s.syncManager ∧ s'.sent = s.sent)
    (hbuf : s'.recvBuffer.isValid = false) :
    s.Unaffected (SessionHost.caught ((handleSyncRequestSatisfy extractVal).run s')) ↔
      typeCount = 0 := by
  rw [handleSyncRequestSatisfy, EStateM.run_bind, SessionHost.run_popRecvJson hval hbuf,
    Diff.run_initFromJson_null hnull]
  cases typeCount with
  | zero => exact iff_of_true (SessionHost.unaffected_ok hs) rfl
  | succ n =>
    simp only [if_neg (Nat.succ_ne_zero n), SessionHost.caught_misuse]
    exact iff_of_false (fun ⟨_, h, _⟩ ↦ by cases h) (Nat.succ_ne_zero n)

/-- **What a truncated datagram does to a client**, given what is in the two variables. -/
theorem unaffected_forward_iff
    (hval : ∀ (p : Packet) (data : Val), p.isValid = false → (extractVal data).run p = .ok data p)
    (hnull : Json.arr? (Json.null : Val) = none) {sender : Address} {bytes : List UInt8}
    {type₀ : NType} {temp₀ : CID} (h : Truncated bytes) :
    s.Unaffected ((forward extractVal onDataReceived type₀ temp₀).run (s.receive sender bytes)) ↔
      Ignores onDataReceived s sender bytes type₀ temp₀ := by
  rw [forward, SessionHost.run_tryForwardReceivedPacket, Ignores]
  generalize hty : StoC.toEnum (SessionHost.typeInEffect type₀ bytes) = mType
  have hempty : mType ≠ some .connectionAccept → bytes = [] := by
    intro hne
    cases bytes with
    | nil => rfl
    | cons b rest => exact absurd (hty.symm.trans h.1) hne
  match mType with
  | some .connectionAccept =>
    obtain ⟨recvBuffer, hrun⟩ := run_handleConnectionAccept (s := { s with
      recvBuffer := ⟨bytes.tail, !bytes.isEmpty⟩, sender := sender }) temp₀
    rw [handle, hrun, extractInt_cid]
    constructor
    · rintro ⟨s₁, heq, hown, -⟩
      cases heq
      exact hown
    · exact fun hown ↦ SessionHost.unaffected_ok ⟨hown, rfl, rfl⟩
  | some .syncRequestSatisfy =>
    obtain rfl := hempty (by simp)
    exact unaffected_handleSyncRequestSatisfy_iff hval hnull ⟨rfl, rfl, rfl⟩ rfl
  | some .data =>
    obtain rfl := hempty (by simp)
    exact Iff.rfl
  | some .connectionDecline => exact iff_of_true (SessionHost.unaffected_ok ⟨rfl, rfl, rfl⟩) trivial
  | some .syncRequestUnneeded =>
    exact iff_of_true (SessionHost.unaffected_ok ⟨rfl, rfl, rfl⟩) trivial
  | some .syncRequestDecline =>
    exact iff_of_true (SessionHost.unaffected_ok ⟨rfl, rfl, rfl⟩) trivial
  | none => exact iff_of_true (SessionHost.unaffected_ok ⟨rfl, rfl, rfl⟩) trivial

end ClientHost

/-- **When a truncated datagram has no effect**: exactly when the packet that the two variables
make of it has none, on the server as on a client. -/
theorem truncated_unaffected_iff [DecidableEq Val] [Json Val]
    {extractVal : Val → EStateM Error Packet Val}
    (hval : ∀ (p : Packet) (data : Val), p.isValid = false → (extractVal data).run p = .ok data p)
    (hnull : Json.arr? (Json.null : Val) = none) (type₀ : NType) (temp₀ : CID) :
    (∀ (onDataReceived : CID → EStateM Error (ServerHost TTypes) Unit) (s : ServerHost TTypes)
      (sender : Address) (bytes : List UInt8), ServerHost.Truncated bytes →
        (s.Unaffected ((ServerHost.forward extractVal onDataReceived type₀ temp₀).run
          (s.receive sender bytes)) ↔
            ServerHost.Ignores onDataReceived s sender bytes type₀ temp₀)) ∧
      ∀ (onDataReceived : EStateM Error (ClientHost TTypes) Unit) (s : ClientHost TTypes)
        (sender : Address) (bytes : List UInt8), ClientHost.Truncated bytes →
          (s.Unaffected ((ClientHost.forward extractVal onDataReceived type₀ temp₀).run
            (s.receive sender bytes)) ↔
              ClientHost.Ignores onDataReceived s sender bytes type₀ temp₀) :=
  ⟨fun _ _ _ _ h ↦ ServerHost.unaffected_forward_iff hval hnull h,
    fun _ _ _ _ h ↦ ClientHost.unaffected_forward_iff hval hnull h⟩

namespace Chat

/-- A server that has not heard of anyone, with no type of objects but the messages. -/
def idleServer : ServerHost types where
  recvBuffer := Packet.received []
  sender := (0, 0)
  syncManager := SyncManager.fresh types
  sent := []
  own := ClientHandlerManager.init

/-- A ping that ends before the identifier is ignored when `temp₀` is nobody's identifier. -/
theorem truncated_unaffected_iff_ping :
    idleServer.Unaffected ((ServerHost.forward pure (fun _ ↦ pure ()) 0 7).run
      (idleServer.receive (1, 27016) [1, 0, 0])) := by
  have hval : ∀ (p : Packet) (data : JsonTree), p.isValid = false →
      (pure data : EStateM Error Packet JsonTree).run p = .ok data p := fun _ _ _ ↦ rfl
  refine ((truncated_unaffected_iff hval rfl 0 7).1 (fun _ ↦ pure ()) idleServer (1, 27016)
    [1, 0, 0] ⟨by decide, by decide⟩).2 fun ch h hch ↦ ?_
  simp [idleServer, ClientHandlerManager.init] at hch

theorem run_forward_empty : ∃ s, (ServerHost.forward pure (fun _ ↦ pure ()) 0 7).run
    (idleServer.receive (1, 27016) []) = .ok () s ∧ s.own.has 0 = true ∧ s.sent.length = 1 :=
  ⟨_, rfl, rfl, rfl⟩

/-- **An empty datagram is a connection request** when `type₀` is zero: the server accepts its
sender, and answers. -/
theorem empty_datagram_accepted : ServerHost.Truncated [] ∧
    ¬idleServer.Unaffected ((ServerHost.forward pure (fun _ ↦ pure ()) 0 7).run
      (idleServer.receive (1, 27016) [])) := by
  refine ⟨trivial, ?_⟩
  rintro ⟨s', h', -, -, hsent⟩
  obtain ⟨s, h, -, hlen⟩ := run_forward_empty
  cases h'.symm.trans h
  rw [hsent] at hlen
  cases hlen

end Chat

end AutoSync
