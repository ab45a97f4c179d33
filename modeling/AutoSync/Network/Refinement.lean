import AutoSync.Network.System

/-!
# The system refines the session

Every run of the system is, as far as identities go, a run of the session: the types, the
identifiers and the addresses survive the way through the bytes, and what the packets carry besides
has no influence.  `refines_session` says so, and `identity_of_run` is what it says about the system
itself: no two clients have the same identifier, and what is sent to an identifier reaches whoever
has it.

The proof is a simulation.  `Refines` relates a system to a session, one lemma for each kind of
change keeps it, and `Step.simulated` puts these together, one case for each event of the system.
-/

set_option autoImplicit false

namespace AutoSync

open Transition

variable {Val C A : Type} {typeCount : ℕ} {TTypes : Fin typeCount → ObjType Val}

/-! ## The session, with the bytes left out

In one step of the system an application may send as many packets as it likes, or none.  The session
sends them one by one, so that a step of the system is matched by a run. -/

namespace Session

variable [DecidableEq C] {addr : C → Address} {τ : Session C}

/-- The server sends data to some of its clients, in the order of the list. -/
theorem exists_run_sendDataToClient (addr : C → Address) (hm : τ.cManager.Inv) (out : List Address)
    (hout : ∀ a ∈ out, ∃ cid, (cid, a) ∈ τ.cManager.bindings) : ∃ fs,
      Run (Step addr) τ fs { τ with toClient := τ.toClient ++ out.map (·, .data) } := by
  induction out using List.reverseRecOn with
  | nil => exact ⟨[], by simpa using Run.nil⟩
  | append_singleton out a ih =>
    obtain ⟨fs, hfs⟩ := ih fun b hb ↦ hout b (List.mem_append_left _ hb)
    obtain ⟨cid, hcid⟩ := hout a (by simp)
    have hrun := Run.snoc (e := Event.sendDataToClient cid) hfs .sendDataToClient
    rw [sendToClient_of_binding hm hcid] at hrun
    exact ⟨_, by simpa using hrun⟩

/-- A client sends data to the server, `n` times. -/
theorem exists_run_sendDataToServer (addr : C → Address) (τ : Session C) (k : C) (n : ℕ) :
    ∃ fs, Run (Step addr) τ fs { τ with
    toServer := τ.toServer ++ List.replicate n (addr k, .data (τ.client k).cid) } := by
  induction n with
  | zero => exact ⟨[], by simpa using Run.nil⟩
  | succ n ih =>
    obtain ⟨fs, hfs⟩ := ih
    have hstep := hfs.snoc (.sendDataToServer (k := k))
    rw [send, Function.update_eq_self] at hstep
    exact ⟨_, by simpa [List.replicate_succ'] using hstep⟩

end Session

/-! ## The refinement

`Refines` relates a system to a session that has the same identifiers.  It says nothing of the
contents of packets, of the managers, or of what the applications do: the session model leaves all
of it open, and the proof is that none of it has an influence on who is who.  The lemmas up to
`Refines.served` are about one kind of change each. -/

namespace System

/-- The session shows the system: the hosts have the same identifiers, the same threads and the same
list of clients, and the session has every packet that was sent. -/
structure Refines (D : Deployment C A TTypes) (σ : System C TTypes) (τ : Session C) : Prop where
  client : ∀ k, τ.client k = ⟨(σ.client k).own, σ.thread k⟩
  cManager : τ.cManager = σ.server.own
  toServer : ∀ k, ∀ p ∈ (σ.client k).sent, p.1 = D.server ∧
    ∃ q, CtoS.toServer p.2.1 p.2.2 = some q ∧ (D.addr k, q) ∈ τ.toServer
  toClient : ∀ p ∈ σ.server.sent, ∃ q, StoC.toClient p.2.1 p.2.2 = some q ∧
    (p.1, q) ∈ τ.toClient
  /-- The identifiers on their way to the server are the `nullCID`, or have been given out, so that
  they come through the four bytes unharmed. -/
  cids : ∀ a q cid, (a, q) ∈ τ.toServer → q.cid? = some cid → Packet.Fits 4 cid

theorem refines_init (D : Deployment C A TTypes) :
    Refines D (init C TTypes) (Session.init C) where
  client _ := rfl
  cManager := rfl
  toServer k p hp := by simp [init, ClientHost.init] at hp
  toClient p hp := by simp [init, ServerHost.init] at hp
  cids a q cid hq := by simp [Session.init] at hq

/-- An identifier that was given out fits into its four bytes, for the counter has never gone beyond
the largest `int`. -/
theorem fits_of_issued {addr : C → Address} {τ : Session C} (hI : Session.Inv addr τ)
    (hmax : τ.cManager.nextCID ≤ maxInt) {id : CID} {a : Address} (h : (id, a) ∈ τ.issued) :
    Packet.Fits 4 id := by
  obtain ⟨ch, hch, -⟩ := hI.manager.handler_of_mem_bindings (hI.issued ▸ h)
  obtain ⟨hlt, rfl⟩ := (hI.manager.chMap id ch).1 hch
  rw [hI.manager.nextCID] at hmax
  exact fits_of_le_maxInt (Int.natCast_nonneg ch) ((Int.ofNat_lt.2 hlt).le.trans hmax)

theorem Refines.fits_own {D : Deployment C A TTypes} {σ : System C TTypes} {τ : Session C}
    (hR : Refines D σ τ) (hI : Session.Inv D.addr τ) (hmax : σ.server.own.nextCID ≤ maxInt)
    (k : C) : Packet.Fits 4 (σ.client k).own := by
  have hk : (τ.client k).cid = (σ.client k).own := by rw [hR.client]
  by_cases hnull : (σ.client k).own = nullCID
  · rw [hnull]
    decide
  · exact fits_of_issued hI (hR.cManager ▸ hmax) (hk ▸ hI.held k (hk ▸ hnull))

variable [DecidableEq C] {D : Deployment C A TTypes} {σ σ' : System C TTypes} {τ : Session C}

/-- The thread of a client sends a packet, and the session notes its type and its identifier. -/
theorem Refines.send (hR : Refines D σ τ) {k : C} {c : ClientHost TTypes} {th : ClientThread}
    {mType : CtoS} {mArgs : List (Arg Val)} {q : ToServer} (hown : c.own = (σ.client k).own)
    (hsent : c.sent = (σ.client k).sent ++ [(D.server, mType, mArgs)])
    (hq : CtoS.toServer mType mArgs = some q)
    (hcid : ∀ cid, q.cid? = some cid → Packet.Fits 4 cid) :
    Refines D { σ with
      client := Function.update σ.client k c, thread := Function.update σ.thread k th }
      (τ.send D.addr k ⟨c.own, th⟩ q) := by
  refine ⟨fun j ↦ ?_, hR.cManager, fun j p hp ↦ ?_, hR.toClient, fun a r cid hr ↦ ?_⟩
  · by_cases hjk : j = k
    · subst hjk
      simp only [Session.send, Function.update_self]
    · simp only [Session.send, Function.update_of_ne hjk]
      exact hR.client j
  · have hold : ∀ {p}, p ∈ (σ.client j).sent → p.1 = D.server ∧ ∃ q', CtoS.toServer p.2.1 p.2.2 =
        some q' ∧ (D.addr j, q') ∈ τ.toServer ++ [(D.addr k, q)] := fun hp ↦ by
      obtain ⟨hserver, q', hq', hmem⟩ := hR.toServer j _ hp
      exact ⟨hserver, q', hq', List.mem_append_left _ hmem⟩
    by_cases hjk : j = k
    · subst hjk
      simp only [Function.update_self, hsent, List.mem_append, List.mem_singleton] at hp
      rcases hp with hp | rfl
      · exact hold hp
      · exact ⟨rfl, q, hq, List.mem_append_right _ (List.mem_singleton_self _)⟩
    · simp only [Function.update_of_ne hjk] at hp
      exact hold hp
  · rcases List.mem_append.1 hr with hr | hr
    · exact hR.cids a r cid hr
    · obtain ⟨-, rfl⟩ := Prod.mk.inj (List.mem_singleton.1 hr)
      exact hcid cid

/-- A client sends data, or nothing, and its manager may be another. -/
theorem Refines.sendDataToServer (hR : Refines D σ τ) {k : C} {c : ClientHost TTypes}
    {out : List (Address × CtoS × List (Arg Val))} (hfits : Packet.Fits 4 (σ.client k).own)
    (hown : c.own = (σ.client k).own) (hsent : c.sent = (σ.client k).sent ++ out)
    (hout : ∀ p ∈ out, (σ.client k).IsData D.server p) :
    ∃ fs τ', Run (Session.Step D.addr) τ fs τ' ∧ Refines D (σ.setClient k c) τ' := by
  obtain ⟨fs, hfs⟩ := Session.exists_run_sendDataToServer D.addr τ k out.length
  refine ⟨fs, _, hfs, fun j ↦ ?_, hR.cManager, fun j p hp ↦ ?_, hR.toClient, fun a r cid hr ↦ ?_⟩
  · rw [setClient]
    by_cases hjk : j = k
    · subst hjk
      simp only [Function.update_self, hown, hR.client]
    · simp only [Function.update_of_ne hjk, hR.client]
  · have hold : ∀ {p}, p ∈ (σ.client j).sent → p.1 = D.server ∧ ∃ q', CtoS.toServer p.2.1 p.2.2 =
        some q' ∧ (D.addr j, q') ∈ τ.toServer ++
          List.replicate out.length (D.addr k, .data (τ.client k).cid) := fun hp ↦ by
      obtain ⟨hserver, q', hq', hmem⟩ := hR.toServer j _ hp
      exact ⟨hserver, q', hq', List.mem_append_left _ hmem⟩
    rw [setClient] at hp
    by_cases hjk : j = k
    · subst hjk
      simp only [Function.update_self, hsent, List.mem_append] at hp
      rcases hp with hp | hp
      · exact hold hp
      · obtain ⟨-, mArgs, rfl⟩ := hout p hp
        refine ⟨rfl, .data (σ.client j).own, rfl, List.mem_append_right _ ?_⟩
        rw [hR.client, List.mem_replicate]
        exact ⟨(List.length_pos_of_mem hp).ne', rfl⟩
    · simp only [Function.update_of_ne hjk] at hp
      exact hold hp
  · rcases List.mem_append.1 hr with hr | hr
    · exact hR.cids a r cid hr
    · obtain ⟨-, rfl⟩ := Prod.mk.inj (List.mem_replicate.1 hr).2
      rw [hR.client]
      intro hcid
      exact Option.some_inj.1 hcid ▸ hfits

/-- A client is told its identifier, which it takes over whatever it had before. -/
theorem Refines.accept (hR : Refines D σ τ) {k : C} {c : ClientHost TTypes} {id : CID}
    (hown : c.own = id) (hsent : c.sent = (σ.client k).sent) : Refines D (σ.setClient k c) { τ with
      client := Function.update τ.client k ((τ.client k).handle (.connectionAccept id)) } := by
  refine ⟨fun j ↦ ?_, hR.cManager, fun j p hp ↦ ?_, hR.toClient, hR.cids⟩
  · rw [setClient]
    by_cases hjk : j = k
    · subst hjk
      simp only [Function.update_self, SessionClient.handle, hR.client, hown]
    · simp only [Function.update_of_ne hjk, hR.client]
  · rw [setClient] at hp
    by_cases hjk : j = k
    · subst hjk
      simp only [Function.update_self, hsent] at hp
      exact hR.toServer j p hp
    · simp only [Function.update_of_ne hjk] at hp
      exact hR.toServer j p hp

omit [DecidableEq C] in
/-- Something happens at the server: the clients stay as they are, and what is sent goes to
addresses the session knows. -/
theorem Refines.server (hR : Refines D σ τ) {τ' : Session C} {s : ServerHost TTypes}
    {out : List (Address × StoC × List (Arg Val))} (hclient : τ'.client = τ.client)
    (htoServer : τ'.toServer = τ.toServer) (hsub : τ.toClient ⊆ τ'.toClient)
    (hown : τ'.cManager = s.own) (hsent : s.sent = σ.server.sent ++ out)
    (hout : ∀ p ∈ out, ∃ q, StoC.toClient p.2.1 p.2.2 = some q ∧ (p.1, q) ∈ τ'.toClient) :
    Refines D { σ with server := s } τ' := by
  refine ⟨hclient ▸ hR.client, hown, htoServer ▸ hR.toServer, fun p hp ↦ ?_, htoServer ▸ hR.cids⟩
  rw [hsent] at hp
  rcases List.mem_append.1 hp with hp | hp
  · obtain ⟨q, hq, hmem⟩ := hR.toClient p hp
    exact ⟨q, hq, hsub hmem⟩
  · exact hout p hp

/-- The server sends data, or nothing, and its manager may be another. -/
theorem Refines.sendDataToClient (hR : Refines D σ τ) (hI : Session.Inv D.addr τ)
    {s : ServerHost TTypes} {out : List (Address × StoC × List (Arg Val))}
    (hown : s.own = σ.server.own) (hsent : s.sent = σ.server.sent ++ out)
    (hout : ∀ p ∈ out, p.2.1 = .data ∧ σ.server.Connected p.1) :
    ∃ fs τ', Run (Session.Step D.addr) τ fs τ' ∧ Refines D { σ with server := s } τ' := by
  obtain ⟨fs, hfs⟩ := Session.exists_run_sendDataToClient D.addr hI.manager (out.map Prod.fst)
    fun a ha ↦ by
      obtain ⟨p, hp, rfl⟩ := List.mem_map.1 ha
      rw [hR.cManager]
      exact (hout p hp).2
  refine ⟨fs, _, hfs, hR.server rfl rfl (List.subset_append_left _ _)
    (hR.cManager.trans hown.symm) hsent fun p hp ↦ ⟨.data, ?_, List.mem_append_right _ ?_⟩⟩
  · rw [(hout p hp).1]
    rfl
  · exact List.mem_map.2 ⟨p.1, List.mem_map.2 ⟨p, hp, rfl⟩, rfl⟩

/-- **A packet that arrives at the server** is served in the session as well, by the same handler
and with the same outcome. -/
theorem Refines.served (hR : Refines D σ τ) (hI : Session.Inv D.addr τ) {k : C} {q : ToServer}
    {s : ServerHost TTypes} [Json Val] (hq : (D.addr k, q) ∈ τ.toServer)
    (h : ServerHost.Served (D.addr k) σ.server s q) :
    ∃ fs τ', Run (Session.Step D.addr) τ fs τ' ∧ Refines D { σ with server := s } τ' := by
  cases h with
  | connectionRequest hne hown hsent =>
    rw [← hR.cManager] at hne
    refine ⟨_, _, .single (.serveConnectionRequest hq
      (Session.handleConnectionRequest_eq hI.manager (D.addr k) hne)),
      hR.server rfl rfl (List.subset_append_left _ _) (by rw [hown, hR.cManager]) hsent
      fun p hp ↦ ?_⟩
    obtain rfl := List.mem_singleton.1 hp
    refine ⟨.connectionAccept σ.server.own.nextCID, rfl, List.mem_append_right _ ?_⟩
    rw [hR.cManager]
    exact List.mem_singleton_self _
  | @ping cid ch hch hown hsent =>
    rw [← hR.cManager] at hch
    have hhandle : SessionServer.handle (.ping cid) cid τ.cManager = .ok ([], { τ.cManager with
        clientHandlers := τ.cManager.clientHandlers.modify ch ClientHandler.resetTimeout }) := by
      have hhas : τ.cManager.has cid = true := Option.isSome_iff_exists.2 ⟨ch, hch⟩
      rw [SessionServer.handle, hhas, ClientHandlerManager.pingReceived_of_lookup hch]
      rfl
    exact ⟨_, _, .single (.serve (.inl hq) rfl hhandle), hR.server rfl rfl
      (List.subset_append_left _ _) (by rw [hown, hR.cManager])
      (hsent.trans (List.append_nil _).symm) (by simp)⟩
  | @syncRequest cid h =>
    have hhandle : SessionServer.handle (.syncRequest cid) cid τ.cManager =
        .ok (SessionServer.sendToClient τ.cManager cid .syncRequestSatisfy, τ.cManager) := by
      rw [SessionServer.handle, ClientHandlerManager.has, SessionServer.sendToClient]
      cases τ.cManager.chMap[cid]? <;> rfl
    obtain ⟨out, hout, hto⟩ := h.sent
    refine ⟨_, _, .single (.serve (.inl hq) rfl hhandle), hR.server rfl rfl
      (List.subset_append_left _ _) (hR.cManager.trans h.own.symm) hout fun p hp ↦ ?_⟩
    obtain ⟨⟨d, hd⟩, ha⟩ := hto p hp
    refine ⟨.syncRequestSatisfy, by rw [hd]; rfl, List.mem_append_right _ ?_⟩
    rw [Session.sendToClient_of_binding hI.manager (hR.cManager ▸ ha)]
    exact List.mem_singleton_self _
  | other hown hsent hout => exact hR.sendDataToClient hI hown hsent hout

variable [DecidableEq Val] [Json Val]

omit [DecidableEq Val] in
/-- The thread of a client goes on, in the session as in the system. -/
theorem Refines.sendNext (hR : Refines D σ τ) (hI : Session.Inv D.addr τ) (hH : HostsInv D σ)
    {k : C} {c : ClientHost TTypes}
    (h : (ClientHost.sendNext D.server (σ.thread k)).run (σ.client k) = .ok () c) :
    ∃ fs τ', Run (Session.Step D.addr) τ fs τ' ∧ Refines D ((σ.setClient k c).advance k) τ' := by
  obtain ⟨es, hes⟩ := hH.server
  have hfits := hR.fits_own hI hes.nextCID k
  have hk := hR.client k
  have hthread : (τ.client k).thread = σ.thread k := by rw [hk]
  have hcid : (τ.client k).cid = (σ.client k).own := by rw [hk]
  have hnext : (τ.client k).advance = ⟨(σ.client k).own, SessionClient.next (σ.thread k)⟩ := by
    rw [hk]
    rfl
  cases hth : σ.thread k with
  | connect =>
    rw [hth, ClientHost.sendNext, ClientHost.sendConnectionRequest,
      ClientHost.run_sendToServerNoCID] at h
    split at h
    · cases h
      refine ⟨_, _, .single (.sendConnectionRequest (hthread.trans hth)), ?_⟩
      rw [hnext]
      exact hR.send rfl rfl rfl fun cid hq ↦ by cases hq
    · cases h
  | ping i =>
    rw [hth, ClientHost.sendNext, ClientHost.sendPing, ClientHost.run_sendToServer] at h
    split at h
    · cases h
    · cases h
      refine ⟨_, _, .single (.sendPing (hthread.trans hth)), ?_⟩
      rw [hnext, hcid]
      exact hR.send rfl rfl rfl fun cid hq ↦ Option.some_inj.1 hq ▸ hfits
  | syncRequest =>
    rw [hth, ClientHost.sendNext] at h
    obtain ⟨snapshot, hrun⟩ := ClientHost.exists_run_sendToServer_of_run_sendSyncRequest h
    rw [ClientHost.run_sendToServer] at hrun
    split at hrun
    · cases hrun
    · cases hrun
      refine ⟨_, _, .single (.sendSyncRequest (hthread.trans hth)), ?_⟩
      rw [hnext, hcid]
      exact hR.send rfl rfl rfl fun cid hq ↦ Option.some_inj.1 hq ▸ hfits

/-- **One step of the system** is some steps of the session, and afterwards the session shows the
system again. -/
theorem Step.simulated (hD : Confined D) {e : Event C TTypes} (hs : Step D σ e σ')
    (hH : HostsInv D σ) (hI : Session.Inv D.addr τ) (hR : Refines D σ τ) :
    ∃ fs τ', Run (Session.Step D.addr) τ fs τ' ∧ Refines D σ' τ' := by
  obtain ⟨es, hes⟩ := hH.server
  have hfits := hR.fits_own hI hes.nextCID
  cases hs with
  | sendNext h => exact hR.sendNext hI hH h
  | @sendDataToServer k mArgs c h =>
    rw [ClientHost.sendDataToServer, ClientHost.run_sendToServer] at h
    split at h
    · cases h
    · rename_i hne
      cases h
      exact hR.sendDataToServer (hfits k) rfl rfl fun p hp ↦ ⟨hne, mArgs, List.mem_singleton.1 hp⟩
  | @serve k mType mArgs type₀ temp₀ s a hp h =>
    obtain ⟨-, q, hq, hmem⟩ := hR.toServer k _ hp
    exact hR.served hI hmem (ServerHost.served_of_run hes.manager (hD.server a) hq
      (fun cid hcid ↦ hR.cids _ q cid hmem hcid) h)
  | @sendDataToClient mCID mArgs s h =>
    obtain ⟨out, hrun, hout⟩ := ServerHost.exists_run_sendToClient hes.manager mCID .data mArgs
    cases hrun.symm.trans h
    exact hR.sendDataToClient hI rfl rfl fun p hp ↦ ⟨by rw [(hout p hp).1], mCID, (hout p hp).2⟩
  | @receive k mType mArgs type₀ temp₀ c a hp h =>
    obtain ⟨q, hq, hmem⟩ := hR.toClient _ hp
    have hid : ∀ id, q = .connectionAccept id → Packet.Fits 4 id := by
      rintro id rfl
      exact fits_of_issued hI (hR.cManager ▸ hes.nextCID) (hI.inFlight _ id hmem)
    cases ClientHost.received_of_run (hD.client k a) hq hid h with
    | @connectionAccept id hown hsent =>
      exact ⟨_, _, .single (.receive hmem), hR.accept hown hsent⟩
    | other hown hsent hout => exact hR.sendDataToServer (hfits k) hown hsent hout
  | onServer h => exact hR.sendDataToClient hI rfl (List.append_nil _).symm (by simp)
  | @onClient k op m h =>
    exact hR.sendDataToServer (hfits k) rfl (List.append_nil _).symm (by simp)
  | tick =>
    exact ⟨_, _, .single .tick, hR.server rfl rfl (List.Subset.refl _)
      (congrArg ClientHandlerManager.tick hR.cManager) (List.append_nil _).symm (by simp)⟩

/-! ## Runs of the system

What is needed of the two systems to match a step is a relation between their states, `Shown`: the
hosts are as in runs of their own, the session satisfies its invariant, and it shows the system.
Every step keeps it, and so do runs. -/

/-- The session shows the system, and both are as their own runs leave them. -/
structure Shown (D : Deployment C A TTypes) (σ : System C TTypes) (τ : Session C) : Prop where
  hosts : HostsInv D σ
  session : Session.Inv D.addr τ
  refines : Refines D σ τ

omit [DecidableEq C] [DecidableEq Val] in
theorem shown_init (D : Deployment C A TTypes) : Shown D (init C TTypes) (Session.init C) where
  hosts := ⟨⟨[], ServerHost.inv_init⟩, fun _ ↦ ⟨[], ClientHost.inv_init D.server⟩⟩
  session := Session.inv_init
  refines := refines_init D

/-- **A step keeps the two systems together**: whatever the one does, the other can follow. -/
theorem Step.shown (hD : Confined D) {e : Event C TTypes} (hs : Step D σ e σ')
    (h : Shown D σ τ) : ∃ fs τ', Run (Session.Step D.addr) τ fs τ' ∧ Shown D σ' τ' := by
  obtain ⟨fs, τ', hrun, hR⟩ := hs.simulated hD h.hosts h.session h.refines
  exact ⟨fs, τ', hrun, hs.hostsInv hD h.hosts,
    hrun.invariant h.session fun _ _ _ hI hs ↦ hs.inv hI, hR⟩

/-- In every state of a run the system is shown by some session. -/
theorem exists_shown_of_run (hD : Confined D) {es : List (Event C TTypes)}
    (h : Run (Step D) (init C TTypes) es σ) : ∃ τ, Shown D σ τ := by
  refine h.invariant (I := fun σ ↦ ∃ τ, Shown D σ τ) ⟨_, shown_init D⟩ ?_
  rintro σ e σ' ⟨τ, hS⟩ hs
  obtain ⟨fs, τ', -, hS'⟩ := hs.shown hD hS
  exact ⟨τ', hS'⟩

/-- **The system refines the session**: to every run of the system there is a run of the session
with the same identifiers, the same threads and the same list of clients, in which every packet of
the system has been sent. -/
theorem refines_session (hD : Confined D) {es : List (Event C TTypes)}
    (h : Run (Step D) (init C TTypes) es σ) :
    ∃ fs τ, Run (Session.Step D.addr) (Session.init C) fs τ ∧ Refines D σ τ := by
  obtain ⟨fs, τ, hfs, hS⟩ := h.simulate (shown_init D) fun _ _ _ _ hS hs ↦ hs.shown hD hS
  exact ⟨fs, τ, hfs, hS.refines⟩

omit [DecidableEq C] [DecidableEq Val] [Json Val] in
/-- The identifier that a client has was given to it by the server, with the address of this client
beside it. -/
theorem Refines.issued_own {τ : Session C} (hR : Refines D σ τ) (hI : Session.Inv D.addr τ) {k : C}
    (hk : (σ.client k).own ≠ nullCID) : ((σ.client k).own, D.addr k) ∈ τ.issued := by
  have hcid : (τ.client k).cid = (σ.client k).own := by rw [hR.client]
  exact hcid ▸ hI.held k (hcid ▸ hk)

/-- The server has the clients that have an identifier, since it never takes one off its list. -/
theorem has_own_of_run (hD : Confined D) {es : List (Event C TTypes)}
    (h : Run (Step D) (init C TTypes) es σ) {k : C} (hk : (σ.client k).own ≠ nullCID) :
    σ.server.own.has (σ.client k).own = true := by
  obtain ⟨τ, -, hI, hR⟩ := exists_shown_of_run hD h
  obtain ⟨ch, hch, -, -⟩ := hI.manager.handler_of_mem_bindings (hI.issued ▸ hR.issued_own hI hk)
  exact Option.isSome_iff_exists.2 ⟨ch, hR.cManager ▸ hch⟩

/-- **Who is who**, in every run: no two clients have the same identifier, and what the server sends
to the identifier a client has goes to the address of that client. -/
theorem identity_of_run (hD : Confined D) (haddr : Function.Injective D.addr)
    {es : List (Event C TTypes)} (h : Run (Step D) (init C TTypes) es σ) :
    (∀ k k', (σ.client k).own = (σ.client k').own → (σ.client k).own ≠ nullCID → k = k') ∧
      ∀ k, (σ.client k).own ≠ nullCID → ∀ mType mArgs,
        (ServerHost.sendToClient (σ.client k).own mType mArgs).run σ.server =
          .ok () { σ.server with sent := σ.server.sent ++ [(D.addr k, mType, mArgs)] } := by
  obtain ⟨τ, -, hI, hR⟩ := exists_shown_of_run hD h
  refine ⟨fun k k' he hk ↦ ?_, fun k hk mType mArgs ↦ ?_⟩
  · exact haddr (hI.address_unique (hR.issued_own hI hk) (he ▸ hR.issued_own hI (he ▸ hk)))
  · have hbind : ((σ.client k).own, D.addr k) ∈ σ.server.own.bindings :=
      hR.cManager ▸ hI.issued ▸ hR.issued_own hI hk
    obtain ⟨ch, hch, -, ha⟩ := (hR.cManager ▸ hI.manager).handler_of_mem_bindings hbind
    rw [ServerHost.run_sendToClient, hch]
    simp only [ha]

end System

namespace Chat

/-- Two clients whose application does nothing with data, and a server whose application
acknowledges them. -/
def twoClients : Deployment Bool ℤ types where
  addr k := (if k then 2 else 1, 27016)
  server := (0, 27015)
  putVal := JsonTree.write
  extractVal := JsonTree.readKnown [noMessages, oneMessageDiff]
  onServerData := acknowledge
  onClientData _ _ := pure ()

theorem confined_twoClients : System.Confined twoClients where
  server n := ServerHost.confined_sendToClient [.int n] _
  client _ _ _ := ⟨rfl, [], (List.append_nil _).symm, by simp⟩

/-- What an acceptance says to the client: its identifier, and a text it does not look at. -/
def welcome (id : CID) : List (Arg JsonTree) := [.int id, .str "Welcome to the server."]

/-- Both clients connect, and the client `true` sends its pings, after which it is about to ask for
an update. -/
def fourPings : List (System.Event Bool types) :=
  [.sendNext true, .sendNext false, .serve true .connectionRequest [] 0 7,
    .serve false .connectionRequest [] 0 7, .receive true .connectionAccept (welcome 0) 0 7,
    .receive false .connectionAccept (welcome 1) 0 7, .sendNext true, .sendNext true,
    .sendNext true, .sendNext true]

/-- After that the server creates a message, and is asked for it and answers. -/
def oneAnswer : List (System.Event Bool types) :=
  fourPings ++ [.onServer (.serverCreate messages (messageVal 0 "ann" "hello"))] ++
    [.sendNext true] ++ [.serve true .syncRequest [.int 0, .val noMessages] 0 7]

theorem exists_run_fourPings : ∃ σ, Run (System.Step twoClients) (System.init Bool types)
    fourPings σ ∧ (σ.client true).own = 0 ∧ (σ.client false).own = 1 ∧
    (σ.client true).syncManager = SyncManager.fresh types ∧ σ.thread true = .syncRequest ∧
    σ.server.syncManager = SyncManager.fresh types ∧
    σ.server.own = (ClientHandlerManager.init.accepted 2 27016).accepted 1 27016 ∧
    σ.server.sent = [((2, 27016), .connectionAccept, welcome 0),
      ((1, 27016), .connectionAccept, welcome 1)] := by
  have h : Run (System.Step twoClients) (System.init Bool types) fourPings _ :=
    (((((((((Run.single (.sendNext rfl)).snoc (.sendNext rfl)).snoc (.serve 0 (.head _) rfl)).snoc
      (.serve 0 (.head _) rfl)).snoc (.receive 0 (.head _) rfl)).snoc
      (.receive 0 (.tail _ (.head _)) rfl)).snoc (.sendNext rfl)).snoc (.sendNext rfl)).snoc
      (.sendNext rfl)).snoc (.sendNext rfl)
  exact ⟨_, h, rfl, rfl, rfl, rfl, rfl, rfl, rfl⟩

theorem exists_run_oneAnswer : ∃ σ, Run (System.Step twoClients) (System.init Bool types)
    oneAnswer σ ∧ (σ.client true).own = 0 ∧ (σ.client false).own = 1 ∧
    σ.server.sent = [((2, 27016), .connectionAccept, welcome 0),
      ((1, 27016), .connectionAccept, welcome 1),
      ((2, 27016), .syncRequestSatisfy, [.val oneMessageDiff])] := by
  obtain ⟨σ, h, hown, hown', hclient, hthread, hserver, hmanager, hsent⟩ := exists_run_fourPings
  obtain ⟨snapshot, serverSnapshot, d, left, hsnap, hsnap', hd, hj, hj', hrem⟩ :=
    exists_oneMessageDiff
  have hcreate : SyncManager.Step σ.server.syncManager
      (.serverCreate messages (messageVal 0 "ann" "hello")) oneMessageManager := by
    rw [hserver]
    exact .serverCreate rfl
  have hsend : (ClientHost.sendNext twoClients.server (σ.thread true)).run (σ.client true) =
      .ok () { σ.client true with
        sent := (σ.client true).sent ++
          [(twoClients.server, .syncRequest, [.int (σ.client true).own, .val noMessages])] } := by
    have hsnap₁ : (σ.client true).syncManager.getSnapshot = .ok snapshot := hclient ▸ hsnap
    have hne : (σ.client true).own ≠ nullCID := by
      rw [hown]
      decide
    rw [hthread, ClientHost.sendNext, ClientHost.run_sendSyncRequest_of_getSnapshot _ hsnap₁, hj,
      ClientHost.run_sendToServer, if_neg hne]
  have hbind : ((0 : CID), ((2, 27016) : Address)) ∈ σ.server.own.bindings := by
    rw [hmanager]
    decide
  have hserve := ServerHost.run_forward_syncRequest (s := { σ.server with
    syncManager := oneMessageManager }) (twoClients.onServerData 0) (2, 27016) 0 7
    (hmanager ▸ ClientHandlerManager.inv_init.accepted.accepted) hbind (by decide)
    (readsBack_noMessages (.inl hj)) hsnap' hd
  rw [if_pos hrem, hj, hj'] at hserve
  have h₁ := (h.snoc (.onServer hcreate)).snoc (.sendNext hsend)
  refine ⟨_, h₁.snoc (.serve 0 ?_ hserve), ?_, ?_, ?_⟩
  · rw [System.client_advance, System.client_setClient_self, hown]
    exact List.mem_append_right _ (List.mem_singleton_self _)
  · exact hown
  · exact hown'
  · exact congrArg (· ++ _) hsent

theorem refines_session_oneAnswer : ∃ σ fs τ,
    Run (System.Step twoClients) (System.init Bool types) oneAnswer σ ∧
    σ.server.sent.length = 3 ∧ Run (Session.Step twoClients.addr) (Session.init Bool) fs τ ∧
    System.Refines twoClients σ τ := by
  obtain ⟨σ, h, -, -, hsent⟩ := exists_run_oneAnswer
  obtain ⟨fs, τ, hfs, hR⟩ := System.refines_session confined_twoClients h
  exact ⟨σ, fs, τ, h, by rw [hsent]; rfl, hfs, hR⟩

/-- What the server sends to the client `true` goes there, after it has been served. -/
theorem identity_of_run_oneAnswer : ∃ σ,
    Run (System.Step twoClients) (System.init Bool types) oneAnswer σ ∧
    (ServerHost.sendToClient 0 .data []).run σ.server =
      .ok () { σ.server with sent := σ.server.sent ++ [((2, 27016), .data, [])] } := by
  obtain ⟨σ, h, hown, -⟩ := exists_run_oneAnswer
  have haddr : Function.Injective twoClients.addr := by decide
  have hne : (σ.client true).own ≠ nullCID := by
    rw [hown]
    decide
  have hsend := (System.identity_of_run confined_twoClients haddr h).2 true hne .data []
  rw [hown] at hsend
  exact ⟨σ, h, hsend⟩

end Chat

end AutoSync
