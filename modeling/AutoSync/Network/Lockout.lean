import AutoSync.Network.ChatNet

/-!
# Who can still be heard

A client asks for its identifier once.  When the request or the answer is lost, when the server has
no identifiers left, or when one of the two hosts has stopped, nothing that can happen brings the
client back; and as long as none of that is so, its user can be the next one whose message the
server gets, provided that the list of messages takes it.  That is `heard_iff`.

One direction is an invariant read backwards: a step makes nothing possible that was impossible
before (`Step.connectable`).  The other one builds the run in which the client is heard, from
wherever it has got to.
-/

set_option autoImplicit false

namespace AutoSync

open Transition

namespace ChatNet

variable {C : Type} [DecidableEq C] [EnumStream DP_CtoS] [EnumStream DP_StoC]
  {N : Surroundings C} {σ σ' : ChatNet C} {e : Event C} {es fs : List (Event C)} {k : C}

/-! ## Who can be connected

A client is connected for good once it has its identifier.  Until then everything hangs on one
request and its answer: it is still to be sent, it is under way, or the answer is.  `Connectable` is
that, and it cannot be got back: if it holds after a step, then it has held before. -/

/-- The client has an identifier, or may still get one: the four ways in which that can be so. -/
inductive Connectable (N : Surroundings C) (σ : ChatNet C) (k : C) : Prop
  | connected (h : (σ.chat.system.client k).own ≠ nullCID)
  /-- An acceptance is on its way to the client, whatever is in it. -/
  | accepted {mArgs} (h : (N.addr k, .connectionAccept, mArgs) ∈ σ.toClient)
  /-- The client has asked for an identifier, and the server has one left to give. -/
  | requested {mArgs} (hnext : σ.chat.system.server.own.nextCID ≠ maxInt)
      (h : (N.server, .connectionRequest, mArgs) ∈ σ.toServer k)
  /-- The client is going to ask for one, and the server has one left. -/
  | starting (hnext : σ.chat.system.server.own.nextCID ≠ maxInt)
      (h : σ.chat.system.thread k = .connect)

omit [DecidableEq C] [EnumStream DP_CtoS] [EnumStream DP_StoC] in
theorem Connectable.of_less (h : Connectable N σ' k) (hless : Less σ σ') :
    Connectable N σ k := by
  have hchat := hless.chat
  cases h with
  | connected h => exact .connected (hchat ▸ h)
  | accepted h => exact .accepted (hless.toClient h)
  | requested hnext h => exact .requested (hchat ▸ hnext) (hless.toServer k h)
  | starting hnext h => exact .starting (hchat ▸ hnext) (hchat ▸ h)

/-- **Nothing connects a client that was beyond it**: one case for each of the four ways, in each of
which the step has either changed nothing or taken the client from one way to the next. -/
theorem Step.connectable (haddr : Function.Injective N.addr) (hs : Step N σ e σ')
    (hH : System.HostsInv N.deployment σ.chat.system) (h : Connectable N σ' k) :
    Connectable N σ k := by
  obtain hless | ⟨f, c, -, rfl, -, hway, hstep⟩ := hs.run_or_less
  · exact h.of_less hless
  have hclient := hstep.system.clientStep (ChatSystem.confined_deployment N) k
  have hserver := hstep.system.serverStep (ChatSystem.confined_deployment N) hH
  cases h with
  | connected h =>
    obtain hown | ⟨mArgs, type₀, temp₀, hf⟩ := hclient.own
    · exact .connected fun hnull ↦ h (hown.trans hnull)
    · cases f with
      | receive j mType mArgs' type₀' temp₀' =>
        cases hf
        exact .accepted hway
      | _ => cases hf
  | accepted h =>
    obtain ⟨out, hout, hto⟩ := hserver.sent
    rw [toClient_after hout] at h
    obtain h | h := List.mem_append.1 h
    · exact .accepted h
    · obtain ⟨hnext, j, mArgs, type₀, temp₀, hf, hj⟩ := hto _ h rfl
      obtain rfl := haddr hj
      cases f with
      | serve j mType mArgs' type₀' temp₀' dataType₀ id₀ =>
        cases hf
        exact .requested hnext hway
      | _ => cases hf
  | requested hnext h =>
    obtain ⟨out, hout, hto⟩ := hclient.sent
    rw [toServer_after hout] at h
    obtain h | h := List.mem_append.1 h
    · exact .requested (hserver.nextCID hnext) h
    · exact .starting (hserver.nextCID hnext) (hto _ h rfl)
  | starting hnext h => exact .starting (hserver.nextCID hnext) (hclient.thread h)

theorem connectable_of_run (haddr : Function.Injective N.addr) (h : Run (Step N) (init C) es σ)
    (hfs : Run (Step N) σ fs σ') (hk : Connectable N σ' k) : Connectable N σ k := by
  induction hfs with
  | nil => exact hk
  | snoc hfs hs ih => exact ih (hs.connectable haddr (hostsInv_of_run (h.append hfs)) hk)

/-! ## Who can be heard

The other way round, a client for which it is not too late is brought forward step by step: it asks
for its identifier, the server accepts it, and the acceptance arrives.  After that its user writes
the message, and the message arrives. -/

omit [DecidableEq C] [EnumStream DP_CtoS] [EnumStream DP_StoC] in
theorem ran_append (es fs : List (Event C)) : ran (es ++ fs) = ran es ++ ran fs :=
  List.filterMap_append

omit [DecidableEq C] [EnumStream DP_CtoS] [EnumStream DP_StoC] in
@[simp] theorem ran_run (e : ChatSystem.Event C) : ran [.run e] = [e] := rfl

/-- The network may go on so that the client gets an identifier, with no data handled before and no
host lost. -/
def Connects (N : Surroundings C) (es : List (Event C)) (σ : ChatNet C) (k : C) : Prop :=
  ∃ fs σ', Run (Step N) σ fs σ' ∧ σ'.up = σ.up ∧
    ChatSystem.handled N (ran (es ++ fs)) = ChatSystem.handled N (ran es) ∧
    (σ'.chat.system.client k).own ≠ nullCID

theorem Connects.of_step {e : ChatSystem.Event C} {c : ChatSystem C}
    (hs : Step N σ (.run e) (σ.after c)) (he : ∀ f, e.toHost? N = some f → ¬ f.IsData)
    (h : Connects N (es ++ [.run e]) (σ.after c) k) : Connects N es σ k := by
  obtain ⟨fs, σ', hfs, hup, hhandled, hown⟩ := h
  refine ⟨[.run e] ++ fs, σ', (Run.single hs).append hfs, hup, ?_, hown⟩
  rw [← List.append_assoc, hhandled, ran_append, ran_run,
    ChatSystem.handled_append_of_not_data _ he]

theorem connects_of_accepted (h : Run (Step N) (init C) es σ) (hk : σ.up (some k) = true)
    {mArgs : List (Arg JsonTree)} (hp : (N.addr k, .connectionAccept, mArgs) ∈ σ.toClient) :
    Connects N es σ k := by
  obtain ⟨τ, hH, hI, hR⟩ :=
    System.exists_shown_of_run (ChatSystem.confined_deployment N) (system_of_run h)
  have hsent := (inv_of_run h).toClient hp
  -- what is sent in an acceptance is an identifier that the server has given out
  obtain ⟨q, hq, hmem⟩ := hR.toClient _ hsent
  obtain ⟨id, rest, rfl, rfl⟩ := StoC.of_toClient_connectionAccept hq
  have hissued := hI.inFlight _ id hmem
  obtain ⟨gs, hgs⟩ := hH.server
  obtain ⟨ch, hch, -⟩ := hI.manager.handler_of_mem_bindings (hI.issued ▸ hissued)
  obtain ⟨-, hid⟩ := (hI.manager.chMap id ch).1 hch
  have hne : id ≠ nullCID := by
    rw [hid, nullCID]
    omega
  obtain ⟨recvBuffer, hrun⟩ : ∃ recvBuffer,
      (ClientHost.forward N.extractVal (ChatClient.onDataReceived ⟨0, none, none, 0⟩) 0 0).run
          ((σ.chat.system.client k).receive N.server
            (mkPacket N.putVal StoC.castEnum .connectionAccept (.int id :: rest))) =
        .ok () { σ.chat.system.client k with
          recvBuffer := recvBuffer, sender := N.server, own := id } :=
    ClientHost.run_forward_mkPacket_connectionAccept
      (System.fits_of_issued hI (hR.cManager ▸ hgs.nextCID) hissued) rest
  have hstep : Step N σ (.run (.receive k .connectionAccept (.int id :: rest) 0 0)) _ :=
    .run hk hp (.receive (.receive ⟨0, none, none, 0⟩ hsent hrun))
  refine .of_step hstep (by rintro f ⟨⟩) ⟨[], _, .nil, rfl, by rw [List.append_nil], ?_⟩
  show ((System.setClient _ k _).client k).own ≠ nullCID
  rwa [System.client_setClient_self]

theorem connects_of_requested (h : Run (Step N) (init C) es σ) (hserver : σ.up none = true)
    (hk : σ.up (some k) = true) (hnext : σ.chat.system.server.own.nextCID ≠ maxInt)
    {mArgs : List (Arg JsonTree)} (hp : (N.server, .connectionRequest, mArgs) ∈ σ.toServer k) :
    Connects N es σ k := by
  have hsent := (inv_of_run h).toServer k hp
  have hI := ChatHost.inv_host (ChatSystem.host_of_run (ran_of_run h))
  let s : ServerHost Chat.types := { σ.chat.system.server with
    recvBuffer := Packet.received (fillPacket N.putVal [] mArgs), sender := N.addr k }
  have hrun : (ServerHost.forward N.extractVal
      (ChatHost.onServerData ⟨σ.chat.lastID, none, none, 0⟩) 0 0).run
        (σ.chat.system.server.receive (N.addr k)
          (mkPacket N.putVal CtoS.castEnum .connectionRequest mArgs)) =
      .ok () { s with
        own := s.own.accepted s.sender.1 s.sender.2
        sent := s.sent ++ [(s.sender, .connectionAccept,
          [.int s.own.nextCID, .str "Welcome to the server."])] } := by
    rw [ServerHost.run_forward_mkPacket_connectionRequest,
      ServerHost.run_handleConnectionRequest (s := s) hI.manager, if_neg hnext]
    rfl
  obtain ⟨c, hc, hhost⟩ := ChatSystem.exists_step_of_forward hsent hrun
  have hstep : Step N σ (.run (.serve k .connectionRequest mArgs 0 0 none 0)) _ :=
    .run hserver hp hc
  have haccept : (N.addr k, .connectionAccept, [.int σ.chat.system.server.own.nextCID,
      .str "Welcome to the server."]) ∈ (σ.after (σ.chat.setHost c)).toClient := by
    rw [toClient_after (congrArg SessionHost.sent hhost)]
    exact List.mem_append_right _ (List.mem_singleton_self _)
  refine .of_step hstep ?_ (connects_of_accepted (h.snoc hstep) hk haccept)
  rintro f ⟨⟩ hdata
  exact absurd ((ChatHost.Event.isData_mkPacket ..).1 hdata) (by decide)

theorem connects_of_starting (h : Run (Step N) (init C) es σ) (hserver : σ.up none = true)
    (hk : σ.up (some k) = true) (hown : (σ.chat.system.client k).own = nullCID)
    (hnext : σ.chat.system.server.own.nextCID ≠ maxInt) (hth : σ.chat.system.thread k = .connect) :
    Connects N es σ k := by
  have hrun : (ClientHost.sendNext N.server (σ.chat.system.thread k)).run
      (σ.chat.system.client k) = .ok () { σ.chat.system.client k with
        sent := (σ.chat.system.client k).sent ++ [(N.server, .connectionRequest, [])] } := by
    rw [hth, ClientHost.sendNext, ClientHost.sendConnectionRequest,
      ClientHost.run_sendToServerNoCID, if_pos hown]
  obtain ⟨c, hstep, hserver', hsent⟩ : ∃ c, Step N σ (.run (.sendNext k)) (σ.after c) ∧
      c.system.server = σ.chat.system.server ∧ (c.system.client k).sent =
        (σ.chat.system.client k).sent ++ [(N.server, .connectionRequest, [])] := by
    refine ⟨_, .run hk trivial (.sendNext (.sendNext hrun)), rfl, ?_⟩
    rw [System.client_advance, System.client_setClient_self]
  have hrequest : (N.server, .connectionRequest, []) ∈ (σ.after c).toServer k := by
    rw [toServer_after hsent]
    exact List.mem_append_right _ (List.mem_singleton_self _)
  exact .of_step hstep (by rintro f ⟨⟩)
    (connects_of_requested (h.snoc hstep) hserver hk (hserver' ▸ hnext) hrequest)

/-- **A client for which it is not too late** can be connected while both hosts are up, in at most
three steps. -/
theorem connects_of_connectable (h : Run (Step N) (init C) es σ) (hserver : σ.up none = true)
    (hk : σ.up (some k) = true) (hc : Connectable N σ k) : Connects N es σ k := by
  by_cases hown : (σ.chat.system.client k).own = nullCID
  · cases hc with
    | connected hne => exact absurd hown hne
    | accepted hp => exact connects_of_accepted h hk hp
    | requested hnext hp => exact connects_of_requested h hserver hk hnext hp
    | starting hnext hth => exact connects_of_starting h hserver hk hown hnext hth
  · exact ⟨[], σ, .nil, rfl, by rw [List.append_nil], hown⟩

/-- In the course of `fs` the user of `k` writes `p`, and a packet with it arrives; and `p` is what
the server handles next, and all that it handles. -/
structure Hears (N : Surroundings C) (k : C) (p : DataPacket) (es fs : List (Event C)) : Prop where
  writes : .run (.write k p) ∈ fs
  arrives : ∃ cid type₀ temp₀ dataType₀ id₀,
    .run (.serve k .data (.int cid :: p.mArgs) type₀ temp₀ dataType₀ id₀) ∈ fs
  handled : ChatSystem.handled N (ran (es ++ fs)) = ChatSystem.handled N (ran es) ++ [p]

/-- A client with an identifier gets its message to the server, in two steps: its user writes it,
and it arrives. -/
theorem exists_run_of_connected (h : Run (Step N) (init C) es σ) (hserver : σ.up none = true)
    (hk : σ.up (some k) = true) (hown : (σ.chat.system.client k).own ≠ nullCID) {p : DataPacket}
    (hp : p.Fits) {l : Transcript}
    (hl : transcript (ChatSystem.handled N (ran es) ++ [p]) = some l) :
    ∃ fs σ', Run (Step N) σ fs σ' ∧ Hears N k p es fs := by
  have hhost := ChatSystem.host_of_run (ran_of_run h)
  have hI := ChatHost.inv_host hhost
  obtain ⟨h0, hlt⟩ := (ChatHost.has_iff hhost _).1
    (System.has_own_of_run (ChatSystem.confined_deployment N) (system_of_run h) hown)
  have hfits : Packet.Fits 4 (σ.chat.system.client k).own :=
    fits_of_le_maxInt h0 (hlt.le.trans (hI.nextCID_eq ▸ hI.nextCID))
  -- the user writes the message
  obtain ⟨c, hwrite, hsent⟩ : ∃ c, Step N σ (.run (.write k p)) (σ.after c) ∧
      (c.system.client k).sent = (σ.chat.system.client k).sent ++
        [(N.server, .data, .int (σ.chat.system.client k).own :: p.mArgs)] := by
    refine ⟨_, .run hk trivial (.write hp (.sendDataToServer
      ((ClientHost.run_sendToServer ..).trans (if_neg hown)))), ?_⟩
    exact congrArg SessionHost.sent (System.client_setClient_self ..)
  have hhosts : (ran (es ++ [.run (.write k p)])).filterMap (ChatSystem.Event.toHost? N) =
      (ran es).filterMap (ChatSystem.Event.toHost? N) := by
    rw [ran_append, List.filterMap_append]
    exact List.append_nil _
  have hhandled : ChatSystem.handled N (ran (es ++ [.run (.write k p)])) =
      ChatSystem.handled N (ran es) := congrArg ChatHost.packets hhosts
  -- and its datagram arrives
  have h₁ := h.snoc hwrite
  have hway : (N.server, .data, .int (σ.chat.system.client k).own :: p.mArgs) ∈
      (σ.after c).toServer k := by
    rw [toServer_after hsent]
    exact List.mem_append_right _ (List.mem_singleton_self _)
  obtain ⟨c', hserve, hhandled', -, -⟩ := ChatSystem.exists_step_of_data (ran_of_run h₁)
    (hhandled.symm ▸ hl) 0 0 none 0 ((inv_of_run h₁).toServer k hway) (by
      rw [hhosts, ChatHost.Event.dataPacket?_mkPacket hp, Packet.int_ofInt hfits,
        if_pos ⟨h0, hlt⟩])
  have harrive : Step N (σ.after c) (.run (.serve k .data
      (.int (σ.chat.system.client k).own :: p.mArgs) 0 0 none 0)) _ := .run hserver hway hserve
  refine ⟨_, _, (Run.single hwrite).snoc harrive, by simp, ⟨_, 0, 0, none, 0, by simp; rfl⟩, ?_⟩
  rw [← List.append_assoc, ran_append, ran_run, hhandled', hhandled]

/-- What happens in the chat in the course of a run happens in some state of it, at a host that has
been up from the start. -/
theorem exists_step_of_mem (h : Run (Step N) σ fs σ') {f : ChatSystem.Event C} (hf : .run f ∈ fs) :
    ∃ σ₁ c, (∃ gs, Run (Step N) σ gs σ₁) ∧ σ.up f.host? = true ∧ ChatSystem.Step N σ₁.chat f c := by
  obtain ⟨fs₁, fs₂, rfl⟩ := List.append_of_mem hf
  obtain ⟨σ₁, σ₂, hfs₁, hs⟩ := h.of_append_cons
  cases hs with
  | run hup hway hs => exact ⟨σ₁, _, ⟨fs₁, hfs₁⟩, up_of_run hfs₁ hup, hs⟩

/-- A user writes only through a client that has an identifier, which is an assertion. -/
theorem own_ne_nullCID_of_write {τ c : ChatSystem C} {p : DataPacket}
    (hs : ChatSystem.Step N τ (.write k p) c) : (τ.system.client k).own ≠ nullCID := by
  intro hnull
  cases hs with
  | write hp hs =>
    cases hs with
    | sendDataToServer hrun =>
      rw [ClientHost.sendDataToServer, ClientHost.run_sendToServer, if_pos hnull] at hrun
      cases hrun

end ChatNet

namespace Chat

open ChatNet (Step Hears init)

/-- A client asks for its identifier, and the request is lost. -/
def lostRequest : List (ChatNet.Event Bool) := [.run (.sendNext true), .loseToServer true 0]

theorem exists_run_lostRequest : ∃ σ, Run (Step twoUsers) (init Bool) lostRequest σ ∧
    (σ.chat.system.client true).own = nullCID ∧ σ.chat.system.thread true = .ping 0 ∧
    σ.toServer true = [] ∧ σ.toClient = [] ∧ σ.up = (fun _ ↦ true) ∧
    σ.chat.system.thread false = .connect ∧ σ.chat.system.server.own.nextCID = 0 :=
  ⟨_, (Run.single (.run rfl trivial (.sendNext (.sendNext rfl)))).snoc .loseToServer, rfl, rfl,
    rfl, rfl, rfl, rfl, rfl⟩

end Chat

end AutoSync
