import AutoSync.Network.Server

/-!
# A client and datagrams nobody has checked

The other side of `AutoSync.Network.Server` and `AutoSync.Network.ServerRuns`: a client that
receives arbitrary bytes from arbitrary addresses, while its thread sends what it sends and the
application works on the manager.

A client has nothing but its identifier, and believes every acceptance.  `ClientHost.told_of_run`
says who it is in consequence: whoever the last acceptance says it is.  It is also the reason why a
client cannot be made to speak to anybody but the server, or under an identifier nobody has told it.

`ClientHost.client_stops_of_run` is what can stop a client.  The answer to a sync request is a diff,
and carrying out a diff that does not go with the manager ends half way.  What it leaves is not the
manager the diff was made for, but its alive objects are still exactly those with a handle to an
object: that is `SyncManager.Live`, which no public operation can break and which holds in every
state of a run, provided that the application's handler for data does not break it either.
-/

set_option autoImplicit false

namespace AutoSync

open Transition

open EStateM (Result)

variable {Val A : Type} {typeCount : ℕ} {TTypes : Fin typeCount → ObjType Val}

/-! ## What a client does with a datagram

A datagram is either taken for an acceptance, and then tells the client an identifier, or it is not,
and then the identifier stays and what the client sends are data, to the server.  As at the server,
`forward_cases` is the distinction. -/

namespace ClientHost

variable {s s' : ClientHost TTypes} {server : Address} {P : Error → Prop}

/-- The packet is data of the client, for the server, and has the client's identifier in front. -/
def IsData (server : Address) (s : ClientHost TTypes) (p : Address × CtoS × List (Arg Val)) :
    Prop :=
  s.own ≠ nullCID ∧ ∃ mArgs, p = (server, .data, .int s.own :: mArgs)

/-- What the application's handler for data can do to a client: whatever it likes to the manager,
and send data to the server. -/
def Confined (server : Address) (onDataReceived : EStateM Error (ClientHost TTypes) Unit)
    (P : Error → Prop) : Prop :=
  ∀ s : ClientHost TTypes, (onDataReceived.run s).Ends
    (fun s' ↦ s'.own = s.own ∧
      ∃ out, s'.sent = s.sent ++ out ∧ ∀ p ∈ out, s.IsData server p) P

/-- The handler for data keeps what no public operation of the manager can break.  A handler that
works on the manager through these operations alone does. -/
def KeepsLive (onDataReceived : EStateM Error (ClientHost TTypes) Unit) : Prop :=
  ∀ s : ClientHost TTypes, s.syncManager.Live → (onDataReceived.run s).state.syncManager.Live

/-- **What a datagram that is no acceptance can do** to a client. -/
structure Serves (server : Address) (s s' : ClientHost TTypes) : Prop where
  own : s'.own = s.own
  sent : ∃ out, s'.sent = s.sent ++ out ∧ ∀ p ∈ out, s.IsData server p

theorem Serves.of_same (h : s.Same s') : Serves server s s' :=
  ⟨h.own, [], by rw [h.sent, List.append_nil], by simp⟩

/-- What handling a packet can fail with: only the answer to a sync request and data can fail. -/
def FailsWith (Val : Type) [Json Val] (P : Error → Prop) : Option StoC → Error → Prop
  | some .syncRequestSatisfy, e => e.OfDiff Val ∨ P e
  | some .data, e => P e
  | _, _ => False

variable [Json Val] {extractVal : Val → EStateM Error Packet Val}
  {onDataReceived : EStateM Error (ClientHost TTypes) Unit}

/-- The answer to a sync request changes the manager, and nothing else.  What is said of the manager
is what is known of `applyDiff`: that it keeps `Q` and fails with `E` only. -/
theorem ends_handleSyncRequestSatisfy {Q : SyncManager TTypes → Prop} {E : Error → Prop}
    (happly : ∀ m d, Q m → ((SyncManager.applyDiff d).run m).Ends Q E)
    (hjson : ∀ e : Error, e.OfJson Val → E e)
    (hval : ∀ v p, ((extractVal v).run p).Ends (fun _ ↦ True) P) (hQ : Q s.syncManager) :
    ((handleSyncRequestSatisfy extractVal).run s).Ends
      (fun s' ↦ s'.own = s.own ∧ Q s'.syncManager ∧ s'.sent = s.sent) fun e ↦ E e ∨ P e := by
  have hsame : ∀ {s'}, s.Same s' → s'.own = s.own ∧ Q s'.syncManager ∧ s'.sent = s.sent :=
    fun h ↦ ⟨h.own, h.syncManager ▸ hQ, h.sent⟩
  refine .trans ((SessionHost.ends_popRecvJson hval Diff.ends_initFromJson s).mono (fun _ h ↦ h)
    fun e h ↦ h.imp_left (hjson e)) (fun _ ↦ hsame) fun diff t _ ht ↦ ?_
  refine .trans (.ofExcept ht fun e he ↦ .inl (hjson e (Diff.error_toJson he ▸ .misuse)))
    (fun _ ↦ hsame) fun _ u _ hu ↦ ?_
  obtain ⟨hown, hQu, hsent⟩ := hsame hu
  rw [EStateM.run_focus]
  exact ((happly _ diff hQu).mono (fun _ h ↦ h) fun _ ↦ .inl).mapState
    fun m hm ↦ ⟨hown, hm, hsent⟩

variable (extractVal) in
/-- **A datagram that is no acceptance**, as far as the session goes: of the manager nothing is
known, and nothing is needed. -/
theorem ends_handle (temp₀ : CID) (hdata : Confined server onDataReceived P) {mType : Option StoC}
    (hne : mType ≠ some .connectionAccept) :
    ((handle extractVal onDataReceived temp₀ mType).run s).Ends (Serves server s)
      fun _ ↦ True := by
  have hrefl : Serves server s s := .of_same ⟨rfl, rfl, rfl⟩
  cases mType with
  | none => exact hrefl
  | some mType =>
    cases mType with
    | connectionAccept => exact absurd rfl hne
    | syncRequestSatisfy =>
      refine (ends_handleSyncRequestSatisfy (Q := fun _ ↦ True) (E := fun _ ↦ True)
        (P := fun _ ↦ True) (fun _ _ _ ↦ Result.ends_true _) (fun _ _ ↦ trivial)
        (fun _ _ ↦ Result.ends_true _) trivial).mono ?_ fun _ _ ↦ trivial
      rintro t ⟨hown, -, hsent⟩
      exact ⟨hown, [], by rw [hsent, List.append_nil], by simp⟩
    | data => exact (hdata s).mono (fun _ h ↦ ⟨h.1, h.2⟩) fun _ _ ↦ trivial
    | _ => exact hrefl

variable (extractVal) in
/-- **Any datagram**, as far as the manager goes: its alive objects are those with a handle wherever
the handler stops, and few things can stop it. -/
theorem ends_handle_of_live (temp₀ : CID)
    (hval : ∀ v p, ((extractVal v).run p).Ends (fun _ ↦ True) P)
    (hdata : Confined server onDataReceived P) (hkeep : KeepsLive onDataReceived)
    (hlive : s.syncManager.Live) (mType : Option StoC) :
    ((handle extractVal onDataReceived temp₀ mType).run s).Ends
      (fun s' ↦ s'.syncManager.Live) (FailsWith Val P mType) := by
  cases mType with
  | none => exact hlive
  | some mType =>
    cases mType with
    | connectionAccept =>
      obtain ⟨recvBuffer, hrun⟩ := run_handleConnectionAccept (s := s) temp₀
      rw [handle, hrun]
      exact hlive
    | syncRequestSatisfy =>
      exact (ends_handleSyncRequestSatisfy (fun m d hm ↦ hm.ends_applyDiff d) (fun _ ↦ .json) hval
        hlive).mono (fun _ h ↦ h.2.1) fun _ h ↦ h
    | data =>
      rw [handle]
      have hstate := hkeep s hlive
      have hends := hdata s
      cases hrun : onDataReceived.run s with
      | ok u t =>
        rw [hrun] at hstate
        exact hstate
      | error e t =>
        rw [hrun] at hstate hends
        exact ⟨hstate, hends.2⟩
    | _ => exact hlive

/-- **What a datagram can do to a client that handles it**: it is told an identifier, or may send
data. -/
theorem forward_cases (hdata : Confined server onDataReceived P) {sender : Address}
    {bytes : List UInt8} {type₀ : NType} {temp₀ : CID}
    (h : (forward extractVal onDataReceived type₀ temp₀).run (s.receive sender bytes) =
      .ok () s') :
    (StoC.toEnum (SessionHost.typeInEffect type₀ bytes) = some .connectionAccept ∧
      ∃ recvBuffer, s' = { s with
        recvBuffer := recvBuffer, sender := sender, own := cidInEffect temp₀ bytes }) ∨
    (StoC.toEnum (SessionHost.typeInEffect type₀ bytes) ≠ some .connectionAccept ∧
      Serves server s s') := by
  rw [forward, SessionHost.run_tryForwardReceivedPacket] at h
  let t : ClientHost TTypes :=
    { s with recvBuffer := ⟨bytes.tail, !bytes.isEmpty⟩, sender := sender }
  by_cases hty : StoC.toEnum (SessionHost.typeInEffect type₀ bytes) = some .connectionAccept
  · obtain ⟨recvBuffer, hrun⟩ := run_handleConnectionAccept (s := t) temp₀
    rw [hty, handle, hrun, extractInt_cid] at h
    cases h
    exact .inl ⟨hty, recvBuffer, rfl⟩
  · have hends := SessionHost.ends_caught (ends_handle extractVal (s := t) temp₀ hdata hty)
    rw [h] at hends
    exact .inr ⟨hty, hends.own, hends.sent⟩

/-- A client that handles a datagram sends data, if anything. -/
theorem sent_forward (hdata : Confined server onDataReceived P) {sender : Address}
    {bytes : List UInt8} {type₀ : NType} {temp₀ : CID}
    (h : (forward extractVal onDataReceived type₀ temp₀).run (s.receive sender bytes) =
      .ok () s') : ∃ out, s'.sent = s.sent ++ out ∧ ∀ p ∈ out, s.IsData server p := by
  obtain ⟨-, recvBuffer, rfl⟩ | ⟨-, hserves⟩ := forward_cases hdata h
  · exact ⟨[], (List.append_nil _).symm, by simp⟩
  · exact hserves.sent

end ClientHost

/-! ## Runs of a client

Here too the invariant looks at the events so far, through the list of the identifiers that the
datagrams taken for acceptances have told. -/

namespace ClientHost

/-- A client that has just been started, without an identifier and without objects. -/
def init (TTypes : Fin typeCount → ObjType Val) : ClientHost TTypes where
  recvBuffer := Packet.received []
  sender := (0, 0)
  syncManager := SyncManager.fresh TTypes
  sent := []
  own := nullCID

/-- What can happen to a client, from outside or by its own thread and application. -/
inductive Event (TTypes : Fin typeCount → ObjType Val)
  | sendConnectionRequest
  | sendPing
  | sendSyncRequest
  | sendDataToServer (mArgs : List (Arg Val))
  /-- A datagram arrives, and the variables that are read into hold these values. -/
  | datagram (sender : Address) (bytes : List UInt8) (type₀ : NType) (temp₀ : CID)
  /-- The application works on the manager, by one of its operations. -/
  | onManager (op : SyncManager.Op TTypes)

/-- The identifier a datagram tells the client, if it is taken for an acceptance. -/
def Event.told? : Event TTypes → Option CID
  | .datagram _ bytes type₀ temp₀ =>
    if StoC.toEnum (SessionHost.typeInEffect type₀ bytes) = some .connectionAccept then
      some (cidInEffect temp₀ bytes)
    else none
  | _ => none

/-- The identifiers the client has been told, in the order in which they came. -/
def told (es : List (Event TTypes)) : List CID := es.filterMap Event.told?

section

variable [Json Val] (server : Address) (extractVal : Val → EStateM Error Packet Val)
  (onDataReceived : A → EStateM Error (ClientHost TTypes) Unit)

/-- A step of a client.  A datagram may find the application in any state `a`. -/
inductive Step (s : ClientHost TTypes) : Event TTypes → ClientHost TTypes → Prop
  | sendConnectionRequest {s'} (h : (sendConnectionRequest server).run s = .ok () s') :
      Step s .sendConnectionRequest s'
  | sendPing {s'} (h : (sendPing server).run s = .ok () s') : Step s .sendPing s'
  | sendSyncRequest {s'} (h : (sendSyncRequest server).run s = .ok () s') :
      Step s .sendSyncRequest s'
  | sendDataToServer {mArgs s'} (h : (sendDataToServer server mArgs).run s = .ok () s') :
      Step s (.sendDataToServer mArgs) s'
  | datagram {sender bytes type₀ temp₀ s'} (a : A)
      (h : (forward extractVal (onDataReceived a) type₀ temp₀).run (s.receive sender bytes) =
        .ok () s') : Step s (.datagram sender bytes type₀ temp₀) s'
  | onManager {op m} (h : SyncManager.Step s.syncManager op m) :
      Step s (.onManager op) { s with syncManager := m }

end

/-- What a client may send when it has been told the identifiers `ids`: a connection request, or
another packet that starts with one of them. -/
def Sends (server : Address) (ids : List CID) (p : Address × CtoS × List (Arg Val)) : Prop :=
  p.1 = server ∧ ((p.2.1 = .connectionRequest ∧ p.2.2 = []) ∨
    p.2.1 ≠ .connectionRequest ∧ ∃ id mArgs, p.2.2 = .int id :: mArgs ∧ id ∈ ids)

/-- **The invariant of a client**, after the events `es`. -/
structure Inv (server : Address) (es : List (Event TTypes)) (s : ClientHost TTypes) : Prop where
  /-- The client has the identifier it was told last. -/
  own : s.own = (told es).getLastD nullCID
  sent : ∀ p ∈ s.sent, Sends server (told es) p

theorem inv_init (server : Address) : Inv server [] (init TTypes) where
  own := rfl
  sent p hp := by simp [init] at hp

variable {es : List (Event TTypes)} {s s' : ClientHost TTypes} {server : Address}

theorem told_append_singleton (es : List (Event TTypes)) (e : Event TTypes) :
    told (es ++ [e]) = told es ++ e.told?.toList := by
  rw [told, List.filterMap_append]
  cases h : e.told? <;> simp [told, h]

theorem Sends.mono {ids ids' : List CID} {p : Address × CtoS × List (Arg Val)}
    (h : Sends server ids p) (hsub : ids ⊆ ids') : Sends server ids' p := by
  obtain ⟨hp, hreq | ⟨hne, id, mArgs, hargs, hid⟩⟩ := h
  · exact ⟨hp, .inl hreq⟩
  · exact ⟨hp, .inr ⟨hne, id, mArgs, hargs, hsub hid⟩⟩

/-- An identifier the client holds is one it has been told. -/
theorem Inv.own_mem (hI : Inv server es s) (hne : s.own ≠ nullCID) : s.own ∈ told es := by
  rw [hI.own] at hne ⊢
  cases h : told es with
  | nil => rw [h] at hne; exact absurd rfl hne
  | cons id ids =>
    rw [List.getLastD_cons]
    exact List.getLastD_mem_cons

/-- A step in which the client is told nothing, and sends what it may. -/
theorem Inv.of_sent (hI : Inv server es s) {e : Event TTypes} (he : e.told? = none)
    (hown : s'.own = s.own) {out : List (Address × CtoS × List (Arg Val))}
    (hsent : s'.sent = s.sent ++ out) (hout : ∀ p ∈ out, Sends server (told es) p) :
    Inv server (es ++ [e]) s' := by
  have htold : told (es ++ [e]) = told es := by
    rw [told_append_singleton, he]
    exact List.append_nil _
  refine ⟨by rw [hown, htold, hI.own], fun p hp ↦ ?_⟩
  rw [hsent] at hp
  rw [htold]
  rcases List.mem_append.1 hp with hp | hp
  · exact hI.sent p hp
  · exact hout p hp

theorem Serves.inv (h : Serves server s s') (hI : Inv server es s) {e : Event TTypes}
    (he : e.told? = none) : Inv server (es ++ [e]) s' := by
  obtain ⟨out, hout, hto⟩ := h.sent
  refine hI.of_sent he h.own hout fun p hp ↦ ?_
  obtain ⟨hne, mArgs, rfl⟩ := hto p hp
  exact ⟨rfl, .inr ⟨by simp, s.own, mArgs, rfl, hI.own_mem hne⟩⟩

/-- A step in which the client sends a packet with its identifier. -/
theorem Inv.sendToServer (hI : Inv server es s) {e : Event TTypes} (he : e.told? = none)
    {mType : CtoS} {mArgs : List (Arg Val)} (hty : mType ≠ .connectionRequest)
    (h : (sendToServer server mType mArgs).run s = .ok () s') : Inv server (es ++ [e]) s' := by
  rw [run_sendToServer] at h
  split at h
  · cases h
  · rename_i hne
    cases h
    refine hI.of_sent he rfl rfl fun p hp ↦ ?_
    obtain rfl := List.mem_singleton.1 hp
    exact ⟨rfl, .inr ⟨hty, s.own, mArgs, rfl, hI.own_mem hne⟩⟩

/-- Sending, of whatever, leaves the manager alone and takes nothing from it. -/
theorem syncManager_of_run_sendToServer {mType : CtoS} {mArgs : List (Arg Val)}
    (h : (sendToServer server mType mArgs).run s = .ok () s') : s'.syncManager = s.syncManager := by
  rw [run_sendToServer] at h
  split at h <;> cases h
  rfl

variable {P : Error → Prop} [Json Val] {extractVal : Val → EStateM Error Packet Val}
  {onDataReceived : A → EStateM Error (ClientHost TTypes) Unit}

theorem Step.inv {e : Event TTypes} (hdata : ∀ a, Confined server (onDataReceived a) P)
    (hs : Step server extractVal onDataReceived s e s') (hI : Inv server es s) :
    Inv server (es ++ [e]) s' := by
  cases hs with
  | sendConnectionRequest h =>
    rw [ClientHost.sendConnectionRequest, run_sendToServerNoCID] at h
    split at h
    · cases h
      refine hI.of_sent rfl rfl rfl fun p hp ↦ ?_
      obtain rfl := List.mem_singleton.1 hp
      exact ⟨rfl, .inl ⟨rfl, rfl⟩⟩
    · cases h
  | sendPing h => exact hI.sendToServer rfl (by simp) h
  | sendSyncRequest h =>
    obtain ⟨snapshot, hrun⟩ := exists_run_sendToServer_of_run_sendSyncRequest h
    exact hI.sendToServer rfl (by simp) hrun
  | sendDataToServer h => exact hI.sendToServer rfl (by simp) h
  | @datagram sender bytes type₀ temp₀ s' a h =>
    obtain ⟨hty, recvBuffer, rfl⟩ | ⟨hty, hserves⟩ := forward_cases (hdata a) h
    · have htold : told (es ++ [.datagram sender bytes type₀ temp₀]) =
          told es ++ [cidInEffect temp₀ bytes] := by
        rw [told_append_singleton, Event.told?, if_pos hty]
        rfl
      refine ⟨?_, fun p hp ↦ ?_⟩
      · rw [htold]
        simp
      · rw [htold]
        exact (hI.sent p hp).mono (List.subset_append_left _ _)
    · exact hserves.inv (e := .datagram sender bytes type₀ temp₀) hI (if_neg hty)
  | @onManager op m h =>
    have hserves : Serves server s { s with syncManager := m } :=
      ⟨rfl, [], (List.append_nil _).symm, by simp⟩
    exact hserves.inv hI rfl

theorem inv_of_run (hdata : ∀ a, Confined server (onDataReceived a) P)
    (h : Run (Step server extractVal onDataReceived) (init TTypes) es s) : Inv server es s :=
  h.invariant_events (inv_init server) fun _ _ _ _ _ hI hs ↦ hs.inv hdata hI

/-- **Who a client is**, whatever it has received: it has the identifier it was told last, and sends
to the server only, with identifiers it has been told. -/
theorem told_of_run (hdata : ∀ a, Confined server (onDataReceived a) P)
    (h : Run (Step server extractVal onDataReceived) (init TTypes) es s) :
    s.own = (told es).getLastD nullCID ∧ ∀ p ∈ s.sent, Sends server (told es) p :=
  ⟨(inv_of_run hdata h).own, (inv_of_run hdata h).sent⟩

/-! ## What can stop a client

For this the manager matters, and with it what the application does to it.  Its operations keep
`Live` whatever they are called with, so that only the handler for data needs a hypothesis. -/

/-- A step keeps the alive objects of the manager those with a handle. -/
theorem Step.live {e : Event TTypes} (hdata : ∀ a, Confined server (onDataReceived a) P)
    (hkeep : ∀ a, KeepsLive (onDataReceived a))
    (hs : Step server extractVal onDataReceived s e s') (hlive : s.syncManager.Live) :
    s'.syncManager.Live := by
  cases hs with
  | sendConnectionRequest h =>
    rw [ClientHost.sendConnectionRequest, run_sendToServerNoCID] at h
    split at h <;> cases h
    exact hlive
  | sendPing h => exact syncManager_of_run_sendToServer h ▸ hlive
  | sendSyncRequest h =>
    obtain ⟨snapshot, hrun⟩ := exists_run_sendToServer_of_run_sendSyncRequest h
    exact syncManager_of_run_sendToServer hrun ▸ hlive
  | sendDataToServer h => exact syncManager_of_run_sendToServer h ▸ hlive
  | @datagram sender bytes type₀ temp₀ s' a h =>
    have hdata' : Confined server (onDataReceived a) fun _ ↦ True := fun s ↦
      (hdata a s).mono (fun _ h ↦ h) fun _ _ ↦ trivial
    rw [forward, SessionHost.run_tryForwardReceivedPacket] at h
    have hends := SessionHost.ends_caught (ends_handle_of_live extractVal (s := { s with
        recvBuffer := ⟨bytes.tail, !bytes.isEmpty⟩, sender := sender }) temp₀
      (fun _ _ ↦ Result.ends_true _) hdata' (hkeep a) hlive
      (StoC.toEnum (SessionHost.typeInEffect type₀ bytes)))
    rw [h] at hends
    exact hends
  | onManager h => exact h.live hlive

theorem live_of_run (hdata : ∀ a, Confined server (onDataReceived a) P)
    (hkeep : ∀ a, KeepsLive (onDataReceived a))
    (h : Run (Step server extractVal onDataReceived) (init TTypes) es s) : s.syncManager.Live :=
  h.invariant (I := fun s ↦ s.syncManager.Live) SyncManager.inv_fresh.live
    fun _ _ _ hlive hs ↦ hs.live hdata hkeep hlive

/-- What a packet can stop a client with: the answer to a sync request with JSON of the wrong kind
or a diff that does not go with the manager, and what the JSON library and the application fail
on. -/
def StopsWith (Val : Type) [Json Val] (P : Error → Prop) : Option StoC → Error → Prop
  | some .syncRequestSatisfy, e =>
    e = Json.misuse Val ∨ e = .assertFailed ∨ e = .badIndex ∨ P e
  | some .data, e => P e
  | _, _ => False

/-- Of the failures of a handler, the exceptions do not stop the client. -/
theorem FailsWith.stopsWith {mType : Option StoC} {e : Error}
    (h : FailsWith Val P mType e) (hne : ∀ ex, e ≠ .raised ex) :
    StopsWith Val P mType e := by
  cases mType with
  | none => exact h
  | some mType =>
    cases mType with
    | syncRequestSatisfy =>
      rcases h with hdiff | hP
      · cases hdiff with
        | assertFailed => exact .inr (.inl rfl)
        | badIndex => exact .inr (.inr (.inl rfl))
        | json hjson =>
          cases hjson with
          | misuse => exact .inl rfl
          | raised ex => exact absurd rfl (hne ex)
      · exact .inr (.inr (.inr hP))
    | _ => exact h

/-- **What can stop a client**, whatever it has received.  Wherever that leaves the manager, its
alive objects are those with a handle to an object. -/
theorem client_stops_of_run (hval : ∀ v p, ((extractVal v).run p).Ends (fun _ ↦ True) P)
    (hdata : ∀ a, Confined server (onDataReceived a) P) (hkeep : ∀ a, KeepsLive (onDataReceived a))
    (h : Run (Step server extractVal onDataReceived) (init TTypes) es s) {sender : Address}
    {bytes : List UInt8} {type₀ : NType} {temp₀ : CID} {a : A} {e : Error}
    (he : (forward extractVal (onDataReceived a) type₀ temp₀).run (s.receive sender bytes) =
      .error e s') :
    s'.syncManager.Live ∧
      StopsWith Val P (StoC.toEnum (SessionHost.typeInEffect type₀ bytes)) e := by
  have hlive := live_of_run hdata hkeep h
  rw [forward, SessionHost.run_tryForwardReceivedPacket] at he
  have hends := SessionHost.ends_caught (ends_handle_of_live extractVal (s := { s with
      recvBuffer := ⟨bytes.tail, !bytes.isEmpty⟩, sender := sender }) temp₀ hval (hdata a) (hkeep a)
    hlive (StoC.toEnum (SessionHost.typeInEffect type₀ bytes)))
  obtain ⟨hfails, hne⟩ := hends.error he
  have hstate := hends.state
  rw [he] at hstate
  exact ⟨hstate, hfails.stopsWith hne⟩

end ClientHost

namespace Chat

/-- An application that does not handle data, and so does nothing to the manager. -/
def ignoreData (_ : Unit) : EStateM Error (ClientHost types) Unit := pure ()

theorem confined_ignoreData (server : Address) (u : Unit) :
    ClientHost.Confined server (ignoreData u) fun _ ↦ False := fun s ↦
  ⟨rfl, [], (List.append_nil _).symm, by simp⟩

/-- A client is accepted, sends a ping, and is accepted again. -/
def twoAcceptances : List (ClientHost.Event types) :=
  [.sendConnectionRequest, .datagram (2, 27015) [0, 0, 0, 0, 5] 3 7, .sendPing,
    .datagram (2, 27015) [0, 0, 0, 0, 9] 3 7]

theorem told_of_run_twoAcceptances : ∃ s,
    Run (ClientHost.Step (2, 27015) pure ignoreData) (ClientHost.init types) twoAcceptances s ∧
    s.own = 9 ∧ ∀ p ∈ s.sent, ClientHost.Sends (2, 27015) [5, 9] p := by
  have h : Run (ClientHost.Step (2, 27015) pure ignoreData) (ClientHost.init types) twoAcceptances
      _ := (((Run.single (.sendConnectionRequest rfl)).snoc (.datagram () rfl)).snoc
    (.sendPing rfl)).snoc (.datagram () rfl)
  exact ⟨_, h, ClientHost.told_of_run (confined_ignoreData (2, 27015)) h⟩

/-- A client is accepted, and its application looks up a message that does not exist. -/
def acceptedAndLookedUp : List (ClientHost.Event types) :=
  [.sendConnectionRequest, .datagram (2, 27015) [0, 0, 0, 0, 5] 3 7,
    .onManager (.getHandleFor messages 7)]

/-- A library that reads every value as the one it starts from fails on nothing. -/
theorem ends_pure (v : JsonTree) (p : Packet) :
    ((pure v : EStateM Error Packet JsonTree).run p).Ends (fun _ ↦ True) fun _ ↦ False := trivial

/-- An answer without a diff stops the client, and leaves its manager as no operation can break
it. -/
theorem client_stops_of_run_answer : ∃ s e s',
    Run (ClientHost.Step (2, 27015) pure ignoreData) (ClientHost.init types) acceptedAndLookedUp
      s ∧
    (ClientHost.forward pure (ignoreData ()) 0 7).run (s.receive (2, 27015) [2]) = .error e s' ∧
    s'.syncManager.Live := by
  obtain ⟨s, h, s', hs'⟩ : ∃ s,
      Run (ClientHost.Step (2, 27015) pure ignoreData) (ClientHost.init types) acceptedAndLookedUp
        s ∧ ∃ s', (ClientHost.forward pure (ignoreData ()) 0 7).run
          (s.receive (2, 27015) [2]) = .error .badKind s' :=
    ⟨_, ((Run.single (.sendConnectionRequest rfl)).snoc (.datagram () rfl)).snoc
      (.onManager (.ok () _)), _, rfl⟩
  exact ⟨s, _, s', h, hs', (ClientHost.client_stops_of_run ends_pure
    (confined_ignoreData (2, 27015)) (fun _ _ hlive ↦ hlive) h hs').1⟩

end Chat

end AutoSync
