import AutoSync.Network.Wire

/-!
# The server and datagrams nobody has checked

Anyone can send a datagram to the server, with any bytes in it.  This file says what may come of
one: `ServerHost.forward_cases` distinguishes the datagrams that the server takes for connection
requests from all others, and says for either what the server has and has sent afterwards.  What may
come of a whole run of datagrams is in `AutoSync.Network.ServerRuns`.

The application's handler for data is a parameter.  It sees no more than the public members of the
session, which is what `Confined` says: it cannot touch the list of clients, and what it sends are
data, to clients.  What it does to the manager is its own business.
-/

set_option autoImplicit false

namespace AutoSync

open Transition

open EStateM (Result)

variable {Val A : Type} {typeCount : ℕ} {TTypes : Fin typeCount → ObjType Val}

/-! ## Reading from a datagram

What both kinds of host have in common: the session catches the exceptions of a handler, and reading
an identifier or a JSON value takes something from the packet and changes nothing else. -/

namespace SessionHost

variable {SPT RPT Own : Type} {s s' : SessionHost SPT Own TTypes}

theorem exists_run_popRecvCID (temp₀ : CID) (s : SessionHost SPT Own TTypes) :
    ∃ cid t, (popRecvCID temp₀).run s = .ok cid t ∧ Same s t :=
  ⟨_, _, rfl, rfl, rfl, rfl⟩

/-- The session goes on after a handler exactly when the program survives it: the handler returned,
or raised an exception. -/
theorem caught_eq_ok {σ : Type} {r : Result Error σ Unit} {s : σ} :
    caught r = .ok () s ↔ Survives r s := by
  constructor
  · intro h
    cases r with
    | ok a t => cases h; exact .ok () s
    | error e t =>
      cases e with
      | raised ex => cases h; exact .raised ex s
      | _ => cases h
  · intro h
    cases h <;> rfl

/-- An exception goes no further than the session, so that what is left of the failures of a handler
are those that are none. -/
theorem copes_caught {σ : Type} {r : Result Error σ Unit} {Q : σ → Prop} {P : Error → Prop}
    (h : Copes r Q P) : Copes (caught r) Q fun e ↦ P e ∧ ∀ ex, e ≠ .raised ex := by
  cases r with
  | ok a s => exact ⟨h.survives, fun e s he ↦ by cases he⟩
  | error e s =>
    cases e with
    | raised ex => exact ⟨fun t ht ↦ by cases ht; exact h.survives s (.raised ex s),
        fun e s he ↦ by cases he⟩
    | _ => exact ⟨h.survives, fun e s he ↦ ⟨h.error e s he, fun ex hex ↦ by cases hex; cases he⟩⟩

/-- The same for a handler of which the state is known however it ends. -/
theorem ends_caught {σ : Type} {r : Result Error σ Unit} {Q : σ → Prop} {P : Error → Prop}
    (h : r.Ends Q P) : (caught r).Ends Q fun e ↦ P e ∧ ∀ ex, e ≠ .raised ex := by
  cases r with
  | ok a s => exact h
  | error e s =>
    cases e with
    | raised ex => exact h.1
    | _ => exact ⟨h.1, h.2, fun ex he ↦ by cases he⟩

variable [Json Val] {extractVal : Val → EStateM Error Packet Val}

/-- Reading a snapshot or a diff takes a value out of the packet, and may fail on it or on its
JSON. -/
theorem ends_popRecvJson {α : Type} {initFromJson : Val → EStateM Error α Unit} {temp₀ : α}
    {P : Error → Prop} (hval : ∀ v p, ((extractVal v).run p).Ends (fun _ ↦ True) P)
    (hinit : ∀ v x, ((initFromJson v).run x).Ends (fun _ ↦ True) (Error.OfJson Val))
    (s : SessionHost SPT Own TTypes) :
    ((popRecvJson extractVal initFromJson temp₀).run s).Ends (Same s)
      fun e ↦ e.OfJson Val ∨ P e := by
  refine .bind (((hval _ _).mono (fun _ h ↦ h) fun _ ↦ .inr).mapState fun _ _ ↦ ⟨rfl, rfl, rfl⟩)
    fun data t _ ht ↦ ?_
  have hdata := hinit data temp₀
  cases hrun : (initFromJson data).run temp₀ with
  | ok _ temp =>
    simp only
    exact ht
  | error e temp =>
    rw [hrun] at hdata
    simp only
    exact ⟨ht, .inl hdata.2⟩

end SessionHost

/-! ## What the server does with a datagram

A datagram is either taken for a connection request, and then grants whoever has sent it an
identifier, or it is not, and then neither the list of clients nor the counter of identifiers
changes and what is sent are diffs and data, to clients the server has already.  `forward_cases` is
the distinction; everything about runs follows from it. -/

namespace ClientHandlerManager

variable {m : ClientHandlerManager}

theorem pingReceived_of_lookup {mCID : CID} {ch : HandlerPtr} (h : m.chMap[mCID]? = some ch) :
    m.pingReceived mCID =
      .ok { m with clientHandlers := m.clientHandlers.modify ch ClientHandler.resetTimeout } := by
  rw [pingReceived, at', h]
  rfl

end ClientHandlerManager

namespace ServerHost

variable {s s' : ServerHost TTypes}

/-- The address is that of a client the server has accepted, under whatever identifier. -/
def Connected (s : ServerHost TTypes) (a : Address) : Prop := ∃ cid, (cid, a) ∈ s.own.bindings

/-- Sending to a client sends to the address it was accepted from, or not at all. -/
theorem exists_run_sendToClient (hI : s.own.Inv) (mCID : CID) (mType : StoC)
    (mArgs : List (Arg Val)) : ∃ out,
      (sendToClient mCID mType mArgs).run s = .ok () { s with sent := s.sent ++ out } ∧
        ∀ p ∈ out, p.2 = (mType, mArgs) ∧ (mCID, p.1) ∈ s.own.bindings := by
  refine ⟨_, run_sendToClient mCID mType mArgs, fun p hp ↦ ?_⟩
  cases hch : s.own.chMap[mCID]? with
  | none => simp [hch] at hp
  | some ch =>
    obtain ⟨a, ha⟩ := hI.exists_binding hch
    obtain ⟨ch', hch', -, haddr⟩ := hI.handler_of_mem_bindings ha
    obtain rfl : ch = ch' := Option.some_inj.1 (hch.symm.trans hch')
    simp only [hch, haddr, List.mem_singleton] at hp
    subst hp
    exact ⟨rfl, ha⟩

/-- What the application's handler for data can do to the server: whatever it likes to the manager,
and send data to clients.  Its own failures are among `P`. -/
def Confined (onDataReceived : CID → EStateM Error (ServerHost TTypes) Unit)
    (P : Error → Prop) : Prop :=
  ∀ cid (s : ServerHost TTypes), s.own.Inv → Copes ((onDataReceived cid).run s)
    (fun s' ↦ s'.own = s.own ∧
      ∃ out, s'.sent = s.sent ++ out ∧ ∀ p ∈ out, p.2.1 = .data ∧ s.Connected p.1) P

variable [Json Val]

/-- **What a datagram that is no connection request can do**: no client is accepted or forgotten,
and what is sent are diffs and data, to clients. -/
structure Serves (s s' : ServerHost TTypes) : Prop where
  manager : s'.own.Inv
  bindings : s'.own.bindings = s.own.bindings
  nextCID : s'.own.nextCID = s.own.nextCID
  sent : ∃ out, s'.sent = s.sent ++ out ∧ ∀ p ∈ out,
    ((∃ d : Diff typeCount Val, p.2 = (.syncRequestSatisfy, [.val d.json])) ∨ p.2.1 = .data) ∧
      s.Connected p.1

theorem Serves.of_same (h : s.Same s') (hown : s.own.Inv) : Serves s s' :=
  ⟨h.own ▸ hown, congrArg _ h.own, congrArg _ h.own, [], by rw [h.sent, List.append_nil], by simp⟩

theorem Serves.trans {s'' : ServerHost TTypes} (h : Serves s s') (h' : Serves s' s'') :
    Serves s s'' := by
  obtain ⟨out, hout, hto⟩ := h.sent
  obtain ⟨out', hout', hto'⟩ := h'.sent
  refine ⟨h'.manager, h'.bindings.trans h.bindings, h'.nextCID.trans h.nextCID,
    out ++ out', by rw [hout', hout, List.append_assoc], fun p hp ↦ ?_⟩
  rcases List.mem_append.1 hp with hp | hp
  · exact hto p hp
  · obtain ⟨cid, hcid⟩ := (hto' p hp).2
    exact ⟨(hto' p hp).1, cid, h.bindings ▸ hcid⟩

omit [Json Val] in
/-- A ping of a client that is connected starts its countdown anew. -/
theorem run_handlePing {mCID : CID} {ch : HandlerPtr} (hch : s.own.chMap[mCID]? = some ch) :
    (handlePing mCID).run s = .ok () { s with
      own := { s.own with
        clientHandlers := s.own.clientHandlers.modify ch ClientHandler.resetTimeout } } := by
  rw [handlePing, EStateM.run_bind, EStateM.run_get]
  simp only [EStateM.run_bind, ClientHandlerManager.pingReceived_of_lookup hch,
    EStateM.run_ofExcept_ok, EStateM.run_modify]

theorem ends_handlePing (hown : s.own.Inv) {mCID : CID} (hcid : s.own.has mCID = true)
    {P : Error → Prop} : ((handlePing mCID).run s).Ends (Serves s) P := by
  obtain ⟨ch, hch⟩ := Option.isSome_iff_exists.1 hcid
  rw [run_handlePing hch]
  exact ⟨hown.resetTimeout ch, ClientHandlerManager.bindings_resetTimeout _ ch, rfl, [],
    (List.append_nil _).symm, by simp⟩

variable [DecidableEq Val] {extractVal : Val → EStateM Error Packet Val}
  {onDataReceived : CID → EStateM Error (ServerHost TTypes) Unit} {P : Error → Prop}

/-- What a sync request can do: the client it comes from may be sent a diff, and that is all. -/
structure Answers (mCID : CID) (s s' : ServerHost TTypes) : Prop where
  own : s'.own = s.own
  syncManager : s'.syncManager = s.syncManager
  sent : ∃ out, s'.sent = s.sent ++ out ∧ ∀ p ∈ out,
    (∃ d : Diff typeCount Val, p.2 = (.syncRequestSatisfy, [.val d.json])) ∧
      (mCID, p.1) ∈ s.own.bindings

omit [DecidableEq Val] in
theorem Answers.of_same {mCID : CID} (h : s.Same s') : Answers mCID s s' :=
  ⟨h.own, h.syncManager, [], by rw [h.sent, List.append_nil], by simp⟩

omit [DecidableEq Val] in
theorem Answers.serves {mCID : CID} (h : Answers mCID s s') (hown : s.own.Inv) : Serves s s' := by
  obtain ⟨out, hout, hto⟩ := h.sent
  refine ⟨h.own ▸ hown, by rw [h.own], by rw [h.own], out, hout, fun p hp ↦ ?_⟩
  obtain ⟨⟨d, hd⟩, ha⟩ := hto p hp
  exact ⟨.inl ⟨d, hd⟩, mCID, ha⟩

/-- What serving a sync request can fail with, at a server that has the manager `m`: what is wrong
with the JSON, what the library fails with on the packet, and a handle without an object in the
manager itself, which its snapshot runs into. -/
def FailsToAnswer (m : SyncManager TTypes) (P : Error → Prop) (e : Error) : Prop :=
  e.OfJson Val ∨ (e = .badHandle ∧ m.getSnapshot = .error .badHandle) ∨ P e

theorem ends_handleSyncRequest
    (hval : ∀ v p, ((extractVal v).run p).Ends (fun _ ↦ True) P) (hown : s.own.Inv) (mCID : CID) :
    ((handleSyncRequest extractVal mCID).run s).Ends (Answers mCID s)
      (FailsToAnswer s.syncManager P) := by
  refine .trans ((SessionHost.ends_popRecvJson hval Snapshot.ends_initFromJson s).mono
    (fun _ h ↦ h) fun _ h ↦ h.imp_right .inr) (fun _ ↦ .of_same) fun clientSnapshot t _ ht ↦ ?_
  have hsame : Answers mCID s t := .of_same ht
  rw [EStateM.run_bind, EStateM.run_get]
  simp only [EStateM.run_bind]
  cases hsnap : t.syncManager.getSnapshot with
  | error e =>
    obtain rfl := SyncManager.error_getSnapshot hsnap
    exact ⟨hsame, .inr (.inl ⟨rfl, ht.syncManager ▸ hsnap⟩)⟩
  | ok serverSnapshot =>
    simp only [EStateM.run_ofExcept_ok]
    cases hdiff : serverSnapshot.getDiffWith clientSnapshot with
    | error e => exact ⟨hsame, .inl (Snapshot.error_getDiffWith hdiff)⟩
    | ok r =>
      simp only [EStateM.run_ofExcept_ok]
      cases hjson : r.1.toJson with
      | error e => exact ⟨hsame, .inl (Diff.error_toJson hjson ▸ .misuse)⟩
      | ok resultJson =>
        obtain ⟨out, hrun, hout⟩ := exists_run_sendToClient (s := t) (ht.own ▸ hown) mCID
          .syncRequestSatisfy [.val resultJson]
        simp only [EStateM.run_ofExcept_ok, hrun]
        refine ⟨ht.own, ht.syncManager, out, by rw [ht.sent], fun p hp ↦ ?_⟩
        obtain ⟨hp2, ha⟩ := hout p hp
        exact ⟨⟨r.1, by rw [hp2, Diff.eq_json hjson]⟩, ht.own ▸ ha⟩

/-- What handling a packet can fail with, at a server that has the manager `m`: only a sync request
and data can fail at all. -/
def FailsWith (m : SyncManager TTypes) (P : Error → Prop) : Option CtoS → Error → Prop
  | some .syncRequest, e => FailsToAnswer m P e
  | some .data, e => P e
  | _, _ => False

/-- **A datagram that is no connection request** serves one of the clients, or does nothing, and
fails only with what it may fail with. -/
theorem copes_handle (temp₀ : CID) (hval : ∀ v p, ((extractVal v).run p).Ends (fun _ ↦ True) P)
    (hdata : Confined onDataReceived P) {mType : Option CtoS}
    (hne : mType ≠ some .connectionRequest) (hown : s.own.Inv) :
    Copes ((handle extractVal onDataReceived temp₀ mType).run s) (Serves s)
      (FailsWith s.syncManager P mType) := by
  obtain ⟨cid, t, hpop, ht⟩ := SessionHost.exists_run_popRecvCID temp₀ s
  have hserves := Serves.of_same ht hown
  have hquiet : Copes (.ok () t) (Serves s) (FailsWith s.syncManager P mType) := .of_ends hserves
  rw [handle, if_neg hne, EStateM.run_bind, hpop]
  simp only [EStateM.run_bind, EStateM.run_get]
  cases hhas : t.own.has cid with
  | false => exact hquiet
  | true =>
    simp only [Bool.not_true, Bool.false_eq_true, if_false]
    cases mType with
    | none => exact hquiet
    | some mType =>
      cases mType with
      | connectionRequest => exact absurd rfl hne
      | ping =>
        exact .of_ends ((ends_handlePing hserves.manager hhas).mono
          (fun _ ↦ hserves.trans) fun _ h ↦ h)
      | syncRequest =>
        exact .of_ends ((ends_handleSyncRequest hval hserves.manager cid).mono
          (fun _ h ↦ hserves.trans (h.serves hserves.manager)) fun _ h ↦ ht.syncManager ▸ h)
      | syncSatisfied => exact hquiet
      | data =>
        refine (hdata cid t hserves.manager).mono ?_ fun _ h ↦ h
        rintro u ⟨hu, out, hout, hto⟩
        exact hserves.trans ⟨hu ▸ hserves.manager, by rw [hu], by rw [hu], out, hout,
          fun p hp ↦ ⟨.inr (hto p hp).1, (hto p hp).2⟩⟩

omit [DecidableEq Val] [Json Val] in
/-- **A connection request** is granted as long as there are identifiers: the sender gets the next
one, and is told. -/
theorem run_handleConnectionRequest (hown : s.own.Inv) : handleConnectionRequest.run s =
    if s.own.nextCID = maxInt then .error .overflow s
    else .ok () { s with
      own := s.own.accepted s.sender.1 s.sender.2
      sent := s.sent ++ [(s.sender, .connectionAccept,
        [.int s.own.nextCID, .str "Welcome to the server."])] } := by
  have hmem : (s.own.nextCID, s.sender) ∈ (s.own.accepted s.sender.1 s.sender.2).bindings := by
    rw [ClientHandlerManager.bindings_accepted]
    exact List.mem_append_right _ (List.mem_singleton_self _)
  obtain ⟨ch, hch, hcid, haddr⟩ := hown.accepted.handler_of_mem_bindings hmem
  have hnew : ch = s.own.clientHandlers.length := by
    simpa [ClientHandlerManager.accepted] using hch.symm
  have hacc : s.own.acceptClient s.sender.1 s.sender.2 = _ := hown.acceptClient_eq
  rw [handleConnectionRequest, EStateM.run_bind, EStateM.run_get]
  by_cases hmax : s.own.nextCID = maxInt
  · rw [if_pos hmax] at hacc
    simp only [EStateM.run_bind, hacc, EStateM.run_ofExcept_error, if_pos hmax]
  · rw [if_neg hmax] at hacc
    simp only [EStateM.run_bind, hacc, EStateM.run_ofExcept_ok, EStateM.run_set,
      sendConnectionAccept, run_sendToClient, ← hnew, hcid, hch, haddr, if_neg hmax]

/-- Only data, which are for the application, change the manager. -/
theorem copes_handle_of_ne_data (temp₀ : CID) {mType : Option CtoS} (hne : mType ≠ some .data)
    (hown : s.own.Inv) : Copes ((handle extractVal onDataReceived temp₀ mType).run s)
      (fun s' ↦ s'.syncManager = s.syncManager) fun _ ↦ True := by
  by_cases hreq : mType = some .connectionRequest
  · rw [hreq, handle, if_pos rfl, run_handleConnectionRequest hown]
    split
    · exact .of_ends ⟨rfl, trivial⟩
    · exact .of_ends rfl
  obtain ⟨cid, t, hpop, ht⟩ := SessionHost.exists_run_popRecvCID temp₀ s
  have hquiet : Copes (.ok () t) (fun s' ↦ s'.syncManager = s.syncManager) fun _ ↦ True :=
    .of_ends ht.syncManager
  rw [handle, if_neg hreq, EStateM.run_bind, hpop]
  simp only [EStateM.run_bind, EStateM.run_get]
  cases hhas : t.own.has cid with
  | false => exact hquiet
  | true =>
    simp only [Bool.not_true, Bool.false_eq_true, if_false]
    cases mType with
    | none => exact hquiet
    | some mType =>
      cases mType with
      | connectionRequest => exact absurd rfl hreq
      | ping =>
        obtain ⟨ch, hch⟩ := Option.isSome_iff_exists.1 hhas
        exact (run_handlePing hch).symm ▸ .of_ends ht.syncManager
      | syncRequest =>
        have hval : ∀ v p, ((extractVal v).run p).Ends (fun _ ↦ True) fun _ ↦ True :=
          fun _ _ ↦ Result.ends_true _
        exact .of_ends ((ends_handleSyncRequest hval (ht.own ▸ hown) cid).mono
          (fun _ h ↦ h.syncManager.trans ht.syncManager) fun _ _ ↦ trivial)
      | syncSatisfied => exact hquiet
      | data => exact absurd rfl hne

omit [DecidableEq Val] in
theorem Serves.isPrefix (h : Serves s s') : s.sent <+: s'.sent := by
  obtain ⟨out, hout, -⟩ := h.sent
  exact ⟨out, hout.symm⟩

/-- **What a datagram can do to a server that handles it**: it is granted a request, or it serves a
client. -/
theorem forward_cases (hdata : Confined onDataReceived P) (hown : s.own.Inv) {sender : Address}
    {bytes : List UInt8} {type₀ : NType} {temp₀ : CID}
    (h : (forward extractVal onDataReceived type₀ temp₀).run (s.receive sender bytes) =
      .ok () s') :
    (CtoS.toEnum (SessionHost.typeInEffect type₀ bytes) = some .connectionRequest ∧
      s.own.nextCID ≠ maxInt ∧ ∃ recvBuffer, s' = { s with
        recvBuffer := recvBuffer
        sender := sender
        own := s.own.accepted sender.1 sender.2
        sent := s.sent ++ [(sender, .connectionAccept,
          [.int s.own.nextCID, .str "Welcome to the server."])] }) ∨
    (CtoS.toEnum (SessionHost.typeInEffect type₀ bytes) ≠ some .connectionRequest ∧
      Serves s s') := by
  rw [forward, SessionHost.run_tryForwardReceivedPacket] at h
  let t : ServerHost TTypes :=
    { s with recvBuffer := ⟨bytes.tail, !bytes.isEmpty⟩, sender := sender }
  have ht : s.Same t := ⟨rfl, rfl, rfl⟩
  by_cases hty : CtoS.toEnum (SessionHost.typeInEffect type₀ bytes) = some .connectionRequest
  · rw [hty, handle, if_pos rfl, run_handleConnectionRequest (s := t) hown] at h
    by_cases hmax : t.own.nextCID = maxInt
    · rw [if_pos hmax] at h
      cases h
    · rw [if_neg hmax] at h
      cases h
      exact .inl ⟨hty, hmax, _, rfl⟩
  · -- nothing is asked here about failures, so that reading JSON may fail with anything
    have hval : ∀ v p, ((extractVal v).run p).Ends (fun _ ↦ True) fun _ ↦ True :=
      fun _ _ ↦ Result.ends_true _
    have hdata' : Confined onDataReceived fun _ ↦ True := fun cid s hown ↦
      (hdata cid s hown).mono (fun _ h ↦ h) fun _ _ ↦ trivial
    have hcopes := SessionHost.copes_caught (copes_handle (s := t) temp₀ hval hdata' hty hown)
    rw [h] at hcopes
    exact .inr ⟨hty, (Serves.of_same ht hown).trans (hcopes.survives s' (.ok () s'))⟩

end ServerHost

end AutoSync
