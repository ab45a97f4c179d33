import AutoSync.Network.ChatSystem

/-!
# The chat and its network

`ChatSystem` is what the results about safety are about: there every packet that was ever sent may
still arrive, and an operation that fails is no step.  Whether somebody can still be *heard* is
another question, and depends on what is lost.  So this file looks at the chat together with the
network.  In `ChatNet` a packet is under way until it is lost, a host stops when one of its
operations fails, and its user may shut it down.

Every run of the chat with the network is a run of the chat (`ran_of_run`), so that what is known of
its safety holds here as well.  And a step is either one of the chat or a loss, `Less`, after which
there is less to build on than before: that is `Step.run_or_less`.  Who can be heard is in
`AutoSync.Network.Lockout`.
-/

set_option autoImplicit false

namespace AutoSync

open Transition

/-! ## What a step can do

Two lemmas about the system of hosts, whatever its application.  At a client a connection request
comes from a thread that is at its start, and an identifier from an acceptance; at the server an
acceptance comes from a connection request, and goes to the address of whoever has sent it. -/

namespace ClientThread

/-- A thread that has gone on does not start again, since its loop has no way back. -/
theorem next_ne_connect (th : ClientThread) : SessionClient.next th ≠ .connect := by
  cases th with
  | ping i =>
    rw [SessionClient.next]
    split <;> simp
  | _ => simp [SessionClient.next]

/-- It is at its start, and only there, that a thread asks for an identifier. -/
theorem eq_connect_of_packet {th : ClientThread} (h : th.packet = .connectionRequest) :
    th = .connect := by
  cases th with
  | connect => rfl
  | _ => cases h

end ClientThread

namespace System

variable {Val C A : Type} {typeCount : ℕ} {TTypes : Fin typeCount → ObjType Val} [DecidableEq C]
  [DecidableEq Val] [Json Val] {D : Deployment C A TTypes} {σ σ' : System C TTypes}

/-- What the event `e` makes of the client `k`, as far as it matters for its identifier. -/
structure ClientStep (e : Event C TTypes) (k : C) (σ σ' : System C TTypes) : Prop where
  /-- Its thread does not start again: if it is at its start, it was there before. -/
  thread : σ'.thread k = .connect → σ.thread k = .connect
  /-- Its identifier is the old one, or it has received an acceptance in this step. -/
  own : (σ'.client k).own = (σ.client k).own ∨
    ∃ mArgs type₀ temp₀, e = .receive k .connectionAccept mArgs type₀ temp₀
  sent : ∃ out, (σ'.client k).sent = (σ.client k).sent ++ out ∧
    ∀ p ∈ out, p.2.1 = .connectionRequest → σ.thread k = .connect

theorem Step.clientStep (hD : Confined D) {e : Event C TTypes} (hs : Step D σ e σ') (k : C) :
    ClientStep e k σ σ' := by
  by_cases hk : e.client? = some k
  · cases hs with
    | @sendNext j c h =>
      cases hk
      obtain ⟨mArgs, rfl⟩ := ClientHost.run_sendNext h
      refine ⟨fun hth ↦ ?_, .inl ?_, [(D.server, (σ.thread k).packet, mArgs)], ?_,
        fun p hp hty ↦ ?_⟩
      · rw [thread_advance_self] at hth
        exact absurd hth (ClientThread.next_ne_connect _)
      · rw [client_advance, client_setClient_self]
      · rw [client_advance, client_setClient_self]
      · obtain rfl := List.mem_singleton.1 hp
        exact ClientThread.eq_connect_of_packet hty
    | @sendDataToServer j mArgs c h =>
      cases hk
      rw [ClientHost.sendDataToServer, ClientHost.run_sendToServer] at h
      split at h
      · cases h
      · cases h
        refine ⟨id, .inl ?_, [(D.server, .data, .int (σ.client k).own :: mArgs)], ?_,
          fun p hp hty ↦ ?_⟩
        · rw [client_setClient_self]
        · rw [client_setClient_self]
        · obtain rfl := List.mem_singleton.1 hp
          cases hty
    | @receive j mType mArgs type₀ temp₀ c a hp h =>
      cases hk
      obtain ⟨out, hout, hto⟩ := ClientHost.sent_forward (hD.client k a) h
      refine ⟨id, ?_, out, by rw [client_setClient_self, hout], fun p hp hty ↦ ?_⟩
      · rw [client_setClient_self]
        obtain ⟨hty, -⟩ | ⟨-, hserves⟩ := ClientHost.forward_cases (hD.client k a) h
        · rw [SessionHost.typeInEffect_mkPacket mType.fits_castEnum, StoC.toEnum_castEnum,
            Option.some_inj] at hty
          subst hty
          exact .inr ⟨mArgs, type₀, temp₀, rfl⟩
        · exact .inl hserves.own
      · obtain ⟨-, mArgs', rfl⟩ := hto p hp
        cases hty
    | onClient h =>
      cases hk
      refine ⟨id, .inl ?_, [], ?_, by simp⟩ <;> rw [client_setClient_self]
      exact (List.append_nil _).symm
    | _ => cases hk
  · obtain ⟨hclient, hthread⟩ := hs.client_eq hk
    exact ⟨fun h ↦ hthread ▸ h, .inl (by rw [hclient]), [], by rw [hclient, List.append_nil],
      by simp⟩

/-- What the event `e` makes of the server, as far as it matters for the identifiers it gives. -/
structure ServerStep (D : Deployment C A TTypes) (e : Event C TTypes) (σ σ' : System C TTypes) :
    Prop where
  /-- Once there are no identifiers left there are none, for the counter does not go back. -/
  nextCID : σ'.server.own.nextCID ≠ maxInt → σ.server.own.nextCID ≠ maxInt
  sent : ∃ out, σ'.server.sent = σ.server.sent ++ out ∧
    ∀ p ∈ out, p.2.1 = .connectionAccept → σ.server.own.nextCID ≠ maxInt ∧
      ∃ k mArgs type₀ temp₀, e = .serve k .connectionRequest mArgs type₀ temp₀ ∧ p.1 = D.addr k

theorem Step.serverStep (hD : Confined D) {e : Event C TTypes} (hs : Step D σ e σ')
    (hH : HostsInv D σ) : ServerStep D e σ σ' := by
  obtain ⟨es, hes⟩ := hH.server
  cases hs with
  | @serve k mType mArgs type₀ temp₀ s a hp h =>
    obtain ⟨hty, hmax, recvBuffer, rfl⟩ | ⟨-, hserves⟩ :=
      ServerHost.forward_cases (hD.server a) hes.manager h
    · rw [SessionHost.typeInEffect_mkPacket mType.fits_castEnum, CtoS.toEnum_castEnum,
        Option.some_inj] at hty
      subst hty
      refine ⟨fun _ ↦ hmax, _, rfl, fun p hp _ ↦ ⟨hmax, k, mArgs, type₀, temp₀, rfl, ?_⟩⟩
      rw [List.mem_singleton.1 hp]
    · obtain ⟨out, hout, hto⟩ := hserves.sent
      refine ⟨fun hne ↦ hserves.nextCID ▸ hne, out, hout, fun p hp hty ↦ ?_⟩
      rcases (hto p hp).1 with ⟨d, hd⟩ | hdata
      · rw [hd] at hty
        cases hty
      · rw [hdata] at hty
        cases hty
  | @sendDataToClient mCID mArgs s h =>
    obtain ⟨out, hrun, hout⟩ := ServerHost.exists_run_sendToClient hes.manager mCID .data mArgs
    cases hrun.symm.trans h
    refine ⟨id, out, rfl, fun p hp hty ↦ ?_⟩
    rw [(hout p hp).1] at hty
    cases hty
  | tick =>
    refine ⟨fun hne ↦ ?_, [], (List.append_nil _).symm, by simp⟩
    rw [hes.manager.tick_eq] at hne
    exact hne
  | _ => exact ⟨id, [], (List.append_nil _).symm, by simp⟩

end System

/-! ## The chat and its network

The events of the network are those of the chat, and what goes wrong besides.  An operation may
fail, which stops the host it belongs to; a user may shut a host down; and packets that are under
way may be lost.  A packet that has arrived stays under way: a network may deliver it again. -/

/-- The host at which something happens: a client, or the server, which is `none`. -/
def ChatSystem.Event.host? {C : Type} : ChatSystem.Event C → Option C
  | .sendNext k | .write k _ | .receive k .. => some k
  | .serve .. | .tick => none

/-- The operation that belongs to an event of the chat fails in this state, by an assertion, by an
exception that nobody catches, or by an access that is undefined. -/
inductive ChatSystem.Fails {C : Type} [EnumStream DP_CtoS] [EnumStream DP_StoC]
    (N : Surroundings C) (σ : ChatSystem C) : ChatSystem.Event C → Prop
  | sendNext {k err c}
      (h : (ClientHost.sendNext N.server (σ.system.thread k)).run (σ.system.client k) =
        .error err c) : Fails N σ (.sendNext k)
  | write {k p err c} (hp : p.Fits)
      (h : (ClientHost.sendDataToServer N.server p.mArgs).run (σ.system.client k) =
        .error err c) : Fails N σ (.write k p)
  | serve {k mType mArgs type₀ temp₀ dataType₀ id₀ err c}
      (h : (ChatHost.forward N.extractVal type₀ temp₀ dataType₀ id₀).run { σ.host with
        host := σ.system.server.receive (N.addr k) (mkPacket N.putVal CtoS.castEnum mType mArgs) } =
          .error err c) : Fails N σ (.serve k mType mArgs type₀ temp₀ dataType₀ id₀)
  | receive {k mType mArgs type₀ temp₀ err c} (vars : ChatVars)
      (h : (ClientHost.forward N.extractVal (ChatClient.onDataReceived vars) type₀ temp₀).run
        ((σ.system.client k).receive N.server (mkPacket N.putVal StoC.castEnum mType mArgs)) =
          .error err c) : Fails N σ (.receive k mType mArgs type₀ temp₀)

/-- The chat, what of its packets the network still has, and which hosts are up. -/
structure ChatNet (C : Type) where
  chat : ChatSystem C
  /-- The packets of a client that are under way to the server, as often as the network has them. -/
  toServer : C → List (Address × CtoS × List (Arg JsonTree))
  /-- The packets that are under way to the clients, each with its destination. -/
  toClient : List (Address × StoC × List (Arg JsonTree))
  up : Option C → Bool

namespace ChatNet

variable {C : Type}

def init (C : Type) : ChatNet C where
  chat := ChatSystem.init C
  toServer _ := []
  toClient := []
  up _ := true

/-- What can happen to the chat and to its network. -/
inductive Event (C : Type)
  /-- Something that happens in the chat, at a host that is up. -/
  | run (e : ChatSystem.Event C)
  /-- The same operation, but it fails, and the host is not up any more. -/
  | fail (e : ChatSystem.Event C)
  /-- The user of a host shuts it down, which the network does not notice. -/
  | shutDown (host : Option C)
  /-- A packet on its way from a client is lost: the one at this place among them. -/
  | loseToServer (k : C) (i : ℕ)
  /-- A packet on its way from the server is lost: the one at this place among them. -/
  | loseToClient (i : ℕ)

def Event.ran? : Event C → Option (ChatSystem.Event C)
  | .run e => some e
  | _ => none

/-- What has happened in the chat, without what went wrong. -/
def ran (es : List (Event C)) : List (ChatSystem.Event C) := es.filterMap Event.ran?

/-- If the event is the arrival of a packet, the packet is under way. -/
def UnderWay (N : Surroundings C) (σ : ChatNet C) : ChatSystem.Event C → Prop
  | .serve k mType mArgs _ _ _ _ => (N.server, mType, mArgs) ∈ σ.toServer k
  | .receive k mType mArgs _ _ => (N.addr k, mType, mArgs) ∈ σ.toClient
  | _ => True

/-- The chat goes on, and what is new among the packets sent is under way as well. -/
def after (σ : ChatNet C) (c : ChatSystem C) : ChatNet C where
  chat := c
  toServer k :=
    σ.toServer k ++ (c.system.client k).sent.drop (σ.chat.system.client k).sent.length
  toClient := σ.toClient ++ c.system.server.sent.drop σ.chat.system.server.sent.length
  up := σ.up

variable [DecidableEq C]

def stop (σ : ChatNet C) (host : Option C) : ChatNet C :=
  { σ with up := Function.update σ.up host false }

variable [EnumStream DP_CtoS] [EnumStream DP_StoC]

/-- A step of the chat and its network.  Only a host that is up takes part, and only what is under
way arrives. -/
inductive Step (N : Surroundings C) (σ : ChatNet C) : Event C → ChatNet C → Prop
  | run {e c} (hup : σ.up e.host? = true) (hway : UnderWay N σ e)
      (h : ChatSystem.Step N σ.chat e c) : Step N σ (.run e) (σ.after c)
  | fail {e} (hup : σ.up e.host? = true) (hway : UnderWay N σ e)
      (h : ChatSystem.Fails N σ.chat e) : Step N σ (.fail e) (σ.stop e.host?)
  | shutDown {host} : Step N σ (.shutDown host) (σ.stop host)
  | loseToServer {k i} : Step N σ (.loseToServer k i)
      { σ with toServer := Function.update σ.toServer k ((σ.toServer k).eraseIdx i) }
  | loseToClient {i} : Step N σ (.loseToClient i) { σ with toClient := σ.toClient.eraseIdx i }

variable {N : Surroundings C} {σ σ' : ChatNet C} {e : Event C} {es fs : List (Event C)} {k : C}

/-- **A run of the network is a run of the chat**: the chat is never in a state in which it could
not be without the network. -/
theorem ran_of_run (h : Run (Step N) (init C) es σ) :
    Run (ChatSystem.Step N) (ChatSystem.init C) (ran es) σ.chat := by
  refine h.invariant_events (I := fun es σ ↦
    Run (ChatSystem.Step N) (ChatSystem.init C) (ran es) σ.chat) .nil ?_
  intro es σ e σ' _ ih hs
  rw [ran, List.filterMap_append]
  cases hs with
  | run hup hway h => exact ih.snoc h
  | _ =>
    rw [List.filterMap_cons_none rfl, List.filterMap_nil, List.append_nil]
    exact ih

theorem system_of_run (h : Run (Step N) (init C) es σ) :
    Run (System.Step N.deployment) (System.init C Chat.types)
      ((ran es).map ChatSystem.Event.toSystem) σ.chat.system :=
  ChatSystem.system_of_run (ran_of_run h)

theorem hostsInv_of_run (h : Run (Step N) (init C) es σ) :
    System.HostsInv N.deployment σ.chat.system :=
  System.hostsInv_of_run (ChatSystem.confined_deployment N) (system_of_run h)

/-- What is under way has been sent, though not all that has been sent is under way. -/
structure Inv (σ : ChatNet C) : Prop where
  toServer : ∀ k, σ.toServer k ⊆ (σ.chat.system.client k).sent
  toClient : σ.toClient ⊆ σ.chat.system.server.sent

/-- The network has lost something: packets, or hosts.  The chat has not changed. -/
structure Less (σ σ' : ChatNet C) : Prop where
  chat : σ'.chat = σ.chat
  toServer : ∀ k, σ'.toServer k ⊆ σ.toServer k
  toClient : σ'.toClient ⊆ σ.toClient
  up : ∀ host, σ'.up host = true → σ.up host = true

omit [EnumStream DP_CtoS] [EnumStream DP_StoC] in
theorem less_stop (σ : ChatNet C) (host : Option C) : Less σ (σ.stop host) where
  chat := rfl
  toServer _ := List.Subset.refl _
  toClient := List.Subset.refl _
  up other hup := by
    by_cases hne : other = host
    · simp [stop, hne] at hup
    · simpa [stop, Function.update_of_ne hne] using hup

/-- **A step of the chat, or a loss**: there is nothing else that can happen. -/
theorem Step.run_or_less (hs : Step N σ e σ') : Less σ σ' ∨ ∃ f c, e = .run f ∧ σ' = σ.after c ∧
    σ.up f.host? = true ∧ UnderWay N σ f ∧ ChatSystem.Step N σ.chat f c := by
  cases hs with
  | run hup hway h => exact .inr ⟨_, _, rfl, rfl, hup, hway, h⟩
  | fail => exact .inl (less_stop ..)
  | shutDown => exact .inl (less_stop ..)
  | @loseToServer j i =>
    refine .inl ⟨rfl, fun k ↦ ?_, List.Subset.refl _, fun _ ↦ id⟩
    by_cases hk : k = j
    · subst hk
      simp only [Function.update_self]
      exact List.eraseIdx_subset
    · simp only [Function.update_of_ne hk]
      exact List.Subset.refl _
  | loseToClient =>
    exact .inl ⟨rfl, fun _ ↦ List.Subset.refl _, List.eraseIdx_subset, fun _ ↦ id⟩

omit [DecidableEq C] [EnumStream DP_CtoS] [EnumStream DP_StoC] in
theorem toServer_after {c : ChatSystem C} {out : List (Address × CtoS × List (Arg JsonTree))}
    (h : (c.system.client k).sent = (σ.chat.system.client k).sent ++ out) :
    (σ.after c).toServer k = σ.toServer k ++ out := by
  simp only [after, h, List.drop_left]

omit [DecidableEq C] [EnumStream DP_CtoS] [EnumStream DP_StoC] in
theorem toClient_after {c : ChatSystem C} {out : List (Address × StoC × List (Arg JsonTree))}
    (h : c.system.server.sent = σ.chat.system.server.sent ++ out) :
    (σ.after c).toClient = σ.toClient ++ out := by
  simp only [after, h, List.drop_left]

theorem Step.inv (hs : Step N σ e σ') (hH : System.HostsInv N.deployment σ.chat.system)
    (hI : Inv σ) : Inv σ' := by
  obtain hless | ⟨f, c, -, rfl, -, -, h⟩ := hs.run_or_less
  · exact ⟨fun k ↦ hless.chat ▸ List.Subset.trans (hless.toServer k) (hI.toServer k),
      hless.chat ▸ List.Subset.trans hless.toClient hI.toClient⟩
  · refine ⟨fun k ↦ ?_, ?_⟩
    · obtain ⟨out, hout, -⟩ := (h.system.clientStep (ChatSystem.confined_deployment N) k).sent
      rw [toServer_after hout]
      exact hout ▸ List.append_subset.2 ⟨List.subset_append_of_subset_left _ (hI.toServer k),
        List.subset_append_right ..⟩
    · obtain ⟨out, hout, -⟩ := (h.system.serverStep (ChatSystem.confined_deployment N) hH).sent
      rw [toClient_after hout]
      exact hout ▸ List.append_subset.2 ⟨List.subset_append_of_subset_left _ hI.toClient,
        List.subset_append_right ..⟩

theorem inv_of_run (h : Run (Step N) (init C) es σ) : Inv σ := by
  refine h.invariant_events (I := fun _ σ ↦ Inv σ) ⟨fun _ ↦ by simp [init], by simp [init]⟩ ?_
  exact fun es σ e σ' hrun hI hs ↦ hs.inv (hostsInv_of_run hrun) hI

/-- A host that is up has always been up, for none is started again. -/
theorem up_of_run {host : Option C} (h : Run (Step N) σ fs σ') (hup : σ'.up host = true) :
    σ.up host = true := by
  revert hup
  refine h.invariant (I := fun σ' ↦ σ'.up host = true → σ.up host = true) id ?_
  intro σ₁ e σ₂ ih hs hup
  obtain hless | ⟨f, c, -, rfl, -, -, -⟩ := hs.run_or_less
  · exact ih (hless.up host hup)
  · exact ih hup

end ChatNet

end AutoSync
