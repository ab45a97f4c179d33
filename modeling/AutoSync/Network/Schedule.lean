import AutoSync.Network.Refinement

/-!
# Synchronization in the whole system

What the clients do to have their managers synchronized, and what comes of it.  `schedule_of_run`
says when a client asks: after its connection request it sends pings, and every fifth packet is a
sync request.  `no_sync_of_run` says that it asks in vain.  The server answers with a diff, which no
client can read, so that no run takes anything from the server's manager into that of a client.
-/

set_option autoImplicit false

namespace AutoSync

open Transition

variable {Val C A : Type} {typeCount : ℕ} {TTypes : Fin typeCount → ObjType Val}

/-! ## When a client asks to synchronize

The sending thread of `SessionClient` sends a connection request and then goes round a loop of four
pings and a sync request, which `after` and `schedule` spell out.  The loop does not look at what
was received, and the only other packets of a client are those of the application, which are
data. -/

namespace ClientThread

/-- The packet the thread sends next, of which the place in the loop decides. -/
def packet : ClientThread → CtoS
  | .connect => .connectionRequest
  | .ping _ => .ping
  | .syncRequest => .syncRequest

/-- What the thread sends after `n` other packets: a connection request, and then sync requests at
every fifth place, with pings between them. -/
def schedule : ℕ → CtoS
  | 0 => .connectionRequest
  | n + 1 => if n % 5 = 4 then .syncRequest else .ping

/-- Where the thread is after it has sent `n` packets. -/
def after : ℕ → ClientThread
  | 0 => .connect
  | n + 1 => if n % 5 = 4 then .syncRequest else .ping (n % 5)

theorem packet_ne_data (th : ClientThread) : th.packet ≠ .data := by
  cases th <;> simp [packet]

theorem packet_after (n : ℕ) : (after n).packet = schedule n := by
  cases n with
  | zero => rfl
  | succ n =>
    rw [after, schedule]
    split <;> rfl

theorem next_after (n : ℕ) : SessionClient.next (after n) = after (n + 1) := by
  cases n with
  | zero => rfl
  | succ n =>
    have hlt := Nat.mod_lt n (Nat.succ_pos 4)
    have hsucc : (n + 1) % 5 = (n % 5 + 1) % 5 := (Nat.mod_add_mod n 5 1).symm
    rw [after, after, hsucc]
    by_cases h4 : n % 5 = 4
    · rw [if_pos h4, h4]
      rfl
    · rw [if_neg h4, SessionClient.next, Nat.mod_eq_of_lt (by omega : n % 5 + 1 < 5)]

end ClientThread

namespace ClientHost

variable {c c' : ClientHost TTypes} {server : Address}

/-- The types of the packets the client has sent by itself, which are those other than data. -/
def sentTypes (c : ClientHost TTypes) : List CtoS := (c.sent.map fun p ↦ p.2.1).filter (· ≠ .data)

theorem sentTypes_of_data {out : List (Address × CtoS × List (Arg Val))}
    (hsent : c'.sent = c.sent ++ out) (hout : ∀ p ∈ out, p.2.1 = .data) :
    c'.sentTypes = c.sentTypes := by
  rw [sentTypes, hsent, List.map_append, List.filter_append, ← sentTypes]
  refine (congrArg _ (List.filter_eq_nil_iff.2 fun t ht ↦ ?_)).trans (List.append_nil _)
  obtain ⟨p, hp, rfl⟩ := List.mem_map.1 ht
  simp [hout p hp]

theorem sentTypes_append {a : Address} {mType : CtoS} {mArgs : List (Arg Val)}
    (hsent : c'.sent = c.sent ++ [(a, mType, mArgs)]) (hty : mType ≠ .data) :
    c'.sentTypes = c.sentTypes ++ [mType] := by
  rw [sentTypes, hsent, List.map_append, List.filter_append, ← sentTypes]
  simp [hty]

/-- The thread sends what it is about to send, and leaves the identifier and the manager alone. -/
theorem run_sendNext [Json Val] {th : ClientThread}
    (h : (sendNext server th).run c = .ok () c') :
    ∃ mArgs, c' = { c with sent := c.sent ++ [(server, th.packet, mArgs)] } := by
  have hsend : ∀ {mArgs}, (sendToServer server th.packet mArgs).run c = .ok () c' →
      ∃ mArgs, c' = { c with sent := c.sent ++ [(server, th.packet, mArgs)] } := by
    intro mArgs h
    rw [run_sendToServer] at h
    split at h
    · cases h
    · cases h
      exact ⟨_, rfl⟩
  cases th with
  | connect =>
    rw [sendNext, sendConnectionRequest, run_sendToServerNoCID] at h
    split at h
    · cases h
      exact ⟨_, rfl⟩
    · cases h
  | ping i => exact hsend h
  | syncRequest =>
    obtain ⟨snapshot, hrun⟩ := exists_run_sendToServer_of_run_sendSyncRequest h
    exact hsend hrun

end ClientHost

namespace System

variable [DecidableEq C] [DecidableEq Val] [Json Val] {D : Deployment C A TTypes}
  {σ σ' : System C TTypes}

/-- It is the turn of the thread of the client `k`, and not of another one. -/
def Event.isTurn (k : C) : Event C TTypes → Bool
  | .sendNext j => j = k
  | _ => false

omit [DecidableEq Val] [Json Val] in
theorem Event.client?_of_isTurn {e : Event C TTypes} {k : C} (h : e.isTurn k = true) :
    e.client? = some k := by
  cases e with
  | sendNext j => exact congrArg some (of_decide_eq_true h)
  | _ => cases h

/-- How many packets the thread of a client has sent in the events. -/
def turns (k : C) (es : List (Event C TTypes)) : ℕ := es.countP (Event.isTurn k)

/-- A turn of a client adds the packet it is about to send.  Nothing else that happens does. -/
theorem Step.sentTypes (hD : Confined D) {e : Event C TTypes} (hs : Step D σ e σ') (k : C) :
    if e.isTurn k then
      (σ'.client k).sentTypes = (σ.client k).sentTypes ++ [(σ.thread k).packet] ∧
        σ'.thread k = SessionClient.next (σ.thread k)
    else (σ'.client k).sentTypes = (σ.client k).sentTypes ∧ σ'.thread k = σ.thread k := by
  by_cases hk : e.client? = some k
  · cases hs with
    | @sendNext j c h =>
      cases hk
      obtain ⟨mArgs, rfl⟩ := ClientHost.run_sendNext h
      rw [if_pos (by simp [Event.isTurn]), client_advance, client_setClient_self,
        thread_advance_self]
      exact ⟨ClientHost.sentTypes_append rfl (ClientThread.packet_ne_data _), rfl⟩
    | @sendDataToServer j mArgs c h =>
      cases hk
      rw [if_neg (by simp [Event.isTurn]), client_setClient_self]
      rw [ClientHost.sendDataToServer, ClientHost.run_sendToServer] at h
      split at h
      · cases h
      · cases h
        exact ⟨ClientHost.sentTypes_of_data rfl (by simp), rfl⟩
    | @receive j mType mArgs type₀ temp₀ c a hp h =>
      cases hk
      rw [if_neg (by simp [Event.isTurn]), client_setClient_self]
      obtain ⟨out, hout, hto⟩ := ClientHost.sent_forward (hD.client k a) h
      refine ⟨ClientHost.sentTypes_of_data hout fun p hp ↦ ?_, rfl⟩
      obtain ⟨-, mArgs, rfl⟩ := hto p hp
      rfl
    | onClient h =>
      cases hk
      rw [if_neg (by simp [Event.isTurn]), client_setClient_self]
      exact ⟨rfl, rfl⟩
    | _ => cases hk
  · obtain ⟨hclient, hthread⟩ := hs.client_eq hk
    rw [if_neg fun hturn ↦ hk (Event.client?_of_isTurn hturn), hclient, hthread]
    exact ⟨rfl, rfl⟩

/-- **When a client asks to synchronize**: the packets it sends by itself are a connection request
and then pings, of which every fifth is a sync request instead, whatever it receives meanwhile. -/
theorem schedule_of_run (hD : Confined D) {es : List (Event C TTypes)}
    (h : Run (Step D) (init C TTypes) es σ) (k : C) :
    (σ.client k).sentTypes = (List.range (turns k es)).map ClientThread.schedule ∧
      σ.thread k = ClientThread.after (turns k es) := by
  refine h.invariant_events (I := fun es σ ↦ (σ.client k).sentTypes =
    (List.range (turns k es)).map ClientThread.schedule ∧
      σ.thread k = ClientThread.after (turns k es)) ⟨rfl, rfl⟩ ?_
  rintro es σ e σ' - ⟨hsent, hthread⟩ hs
  have hstep := hs.sentTypes hD k
  have hturns : turns k (es ++ [e]) = turns k es + if e.isTurn k then 1 else 0 := by
    simp [turns, List.countP_append, List.countP_singleton]
  by_cases he : e.isTurn k
  · rw [if_pos he] at hstep hturns
    rw [hturns, List.range_succ, List.map_append, hstep.1, hstep.2, hsent, hthread,
      ClientThread.packet_after, ClientThread.next_after]
    exact ⟨rfl, rfl⟩
  · rw [if_neg he] at hstep hturns
    rw [hturns, Nat.add_zero, hstep.1, hstep.2]
    exact ⟨hsent, hthread⟩

end System

/-! ## What comes of it

The answer to a sync request is a diff, which the client does not take apart as it was put together:
`run_handleSyncRequestSatisfy` has it end in an error of the JSON library.  An application of a
client that writes to the manager when data arrive could hide that, so `KeepsManager` rules it
out. -/

namespace ClientHost

variable [Json Val] {putVal : Val → List UInt8} {extractVal : Val → EStateM Error Packet Val}
  {onDataReceived : EStateM Error (ClientHost TTypes) Unit} {server : Address} {type₀ : NType}
  {temp₀ : CID} {c c' : ClientHost TTypes}

/-- The application does not write to the manager when data arrive, whatever else it does. -/
def KeepsManager (onDataReceived : EStateM Error (ClientHost TTypes) Unit) : Prop :=
  ∀ c, (onDataReceived.run c).state.syncManager = c.syncManager

/-- Apart from the answer to a sync request, a packet of the server changes the identifier of the
client, and what the application changes. -/
theorem keeps_forward {β : Type} {f : ClientHost TTypes → β}
    (hf : ∀ c recvBuffer sender own,
      f { c with recvBuffer := recvBuffer, sender := sender, own := own } = f c)
    (hkeep : ∀ c, f (onDataReceived.run c).state = f c) {mType : StoC}
    (hty : mType ≠ .syncRequestSatisfy) {mArgs : List (Arg Val)}
    (h : (forward extractVal onDataReceived type₀ temp₀).run
      (c.receive server (mkPacket putVal StoC.castEnum mType mArgs)) = .ok () c') :
    f c' = f c := by
  rw [run_forward_mkPacket] at h
  let t : ClientHost TTypes := { c with
    recvBuffer := Packet.received (fillPacket putVal [] mArgs), sender := server }
  have ht : f t = f c := hf c _ server c.own
  cases mType with
  | connectionAccept =>
    obtain ⟨recvBuffer, hrun⟩ := run_handleConnectionAccept (s := t) temp₀
    rw [handle, hrun] at h
    cases h
    exact (hf t recvBuffer _ _).trans ht
  | syncRequestSatisfy => exact absurd rfl hty
  | data =>
    rw [handle] at h
    rw [← (SessionHost.caught_eq_ok.1 h).state]
    exact (hkeep t).trans ht
  | _ =>
    cases h
    exact ht

/-- Only the answer to a sync request could change the manager, where the application does not. -/
theorem syncManager_forward (hkeep : KeepsManager onDataReceived) {mType : StoC}
    (hty : mType ≠ .syncRequestSatisfy) {mArgs : List (Arg Val)}
    (h : (forward extractVal onDataReceived type₀ temp₀).run
      (c.receive server (mkPacket putVal StoC.castEnum mType mArgs)) = .ok () c') :
    c'.syncManager = c.syncManager :=
  keeps_forward (fun _ _ _ _ ↦ rfl) hkeep hty h

/-- An answer stops the client, which has the manager, the identifier and the packets it had. -/
theorem run_forward_syncRequestSatisfy (hcount : typeCount ≠ 0) {d : Diff typeCount Val}
    (hv : ReadsBack putVal extractVal d.json) : ∃ c',
    (forward extractVal onDataReceived type₀ temp₀).run
      (c.receive server (mkPacket putVal StoC.castEnum .syncRequestSatisfy [.val d.json])) =
        .error (Json.misuse Val) c' ∧ c.Same c' := by
  obtain ⟨n, rfl⟩ := Nat.exists_eq_succ_of_ne_zero hcount
  rw [run_forward_mkPacket, handle, run_handleSyncRequestSatisfy rfl hv, SessionHost.caught_misuse]
  exact ⟨_, rfl, rfl, rfl, rfl⟩

theorem forward_syncRequestSatisfy_ne_ok (hcount : typeCount ≠ 0) {d : Diff typeCount Val}
    (hv : ReadsBack putVal extractVal d.json) : (forward extractVal onDataReceived type₀ temp₀).run
      (c.receive server (mkPacket putVal StoC.castEnum .syncRequestSatisfy [.val d.json])) ≠
        .ok () c' := by
  obtain ⟨c₁, h, -⟩ := run_forward_syncRequestSatisfy hcount hv
  rw [h]
  exact fun h ↦ by cases h

end ClientHost

namespace System

open SyncManager (Reaches)

variable [DecidableEq C] [DecidableEq Val] [Json Val] {D : Deployment C A TTypes}
  {σ σ' : System C TTypes}

/-- What the application of the client does to its manager, if that is what happens. -/
def Event.op? (k : C) : Event C TTypes → Option (SyncManager.Op TTypes)
  | .onClient j op => if j = k then some op else none
  | _ => none

omit [DecidableEq Val] [Json Val] in
theorem Event.op?_eq_none {e : Event C TTypes} {k : C} (hk : e.client? ≠ some k) :
    e.op? k = none := by
  cases e with
  | onClient j op => exact if_neg fun hjk ↦ hk (congrArg some hjk)
  | _ => rfl

def opsOf (k : C) (es : List (Event C TTypes)) : List (SyncManager.Op TTypes) :=
  es.filterMap (Event.op? k)

/-- The JSON library reads back what the server has written so far, wherever it has been put into a
packet. -/
def ReadsBackSent (D : Deployment C A TTypes) (σ : System C TTypes) : Prop :=
  ∀ p ∈ σ.server.sent, ∀ v, .val v ∈ p.2.2 → ReadsBack D.putVal D.extractVal v

theorem Step.isPrefix (hD : Confined D) {e : Event C TTypes} (hs : Step D σ e σ')
    (hH : HostsInv D σ) : σ.server.sent <+: σ'.server.sent := by
  obtain ⟨es, hes⟩ := hH.server
  obtain heq | ⟨f, hf⟩ := hs.server
  · rw [heq]
  · exact hf.isPrefix hD.server hes

/-- A step changes the manager of a client only if the application of the client does. -/
theorem Step.syncManager (hcount : typeCount ≠ 0)
    (hkeep : ∀ k a, ClientHost.KeepsManager (D.onClientData k a)) {e : Event C TTypes}
    (hs : Step D σ e σ') (hH : HostsInv D σ) (hv : ReadsBackSent D σ) (k : C) :
    match e.op? k with
    | some op => SyncManager.Step (σ.client k).syncManager op (σ'.client k).syncManager
    | none => (σ'.client k).syncManager = (σ.client k).syncManager := by
  by_cases hk : e.client? = some k
  · obtain ⟨es, hes⟩ := hH.server
    cases hs with
    | @sendNext j c h =>
      cases hk
      obtain ⟨mArgs, rfl⟩ := ClientHost.run_sendNext h
      rw [client_advance, client_setClient_self]
      rfl
    | @sendDataToServer j mArgs c h =>
      cases hk
      rw [client_setClient_self]
      rw [ClientHost.sendDataToServer, ClientHost.run_sendToServer] at h
      split at h
      · cases h
      · cases h
        rfl
    | @receive j mType mArgs type₀ temp₀ c a hp h =>
      cases hk
      rw [client_setClient_self]
      by_cases hty : mType = .syncRequestSatisfy
      · subst hty
        obtain ⟨d, rfl⟩ := hes.answers _ hp rfl
        exact absurd h (ClientHost.forward_syncRequestSatisfy_ne_ok hcount
          (hv _ hp d.json (List.mem_singleton_self _)))
      · exact ClientHost.syncManager_forward (hkeep k a) hty h
    | onClient h =>
      cases hk
      rw [Event.op?, if_pos rfl, client_setClient_self]
      exact h
    | _ => cases hk
  · rw [Event.op?_eq_none hk, (hs.client_eq hk).1]

/-- What the JSON library reads back at the end of a run it has read back before, so that an
induction over the run may assume it of every state on the way. -/
theorem invariant_of_readsBack (hD : Confined D)
    {I : List (Event C TTypes) → System C TTypes → Prop} (h0 : I [] (init C TTypes))
    (hstep : ∀ es σ e σ', HostsInv D σ → ReadsBackSent D σ → I es σ → Step D σ e σ' →
      I (es ++ [e]) σ')
    {es : List (Event C TTypes)} (h : Run (Step D) (init C TTypes) es σ)
    (hv : ReadsBackSent D σ) : I es σ := by
  refine h.invariant_events (I := fun es σ ↦ ReadsBackSent D σ → I es σ) (fun _ ↦ h0) ?_ hv
  intro es σ e σ' hrun ih hs hv
  have hH := hostsInv_of_run hD hrun
  have hv' : ReadsBackSent D σ := fun p hp ↦ hv p ((hs.isPrefix hD hH).subset hp)
  exact hstep es σ e σ' hH hv' (ih hv') hs

/-- The manager of a client is what the client's own application has made of it, in the order in
which that was done. -/
theorem reaches_of_run (hD : Confined D) (hcount : typeCount ≠ 0)
    (hkeep : ∀ k a, ClientHost.KeepsManager (D.onClientData k a)) {es : List (Event C TTypes)}
    (h : Run (Step D) (init C TTypes) es σ) (hv : ReadsBackSent D σ) (k : C) :
    Reaches (opsOf k es) (σ.client k).syncManager := by
  refine invariant_of_readsBack (I := fun es σ ↦ Reaches (opsOf k es) (σ.client k).syncManager)
    hD .nil ?_ h hv
  intro es σ e σ' hH hv ih hs
  have hstep := hs.syncManager hcount hkeep hH hv k
  rw [opsOf, List.filterMap_append, ← opsOf]
  cases hop : e.op? k with
  | none =>
    rw [hop] at hstep
    rw [hstep, List.filterMap_cons_none hop, List.filterMap_nil, List.append_nil]
    exact ih
  | some op =>
    rw [hop] at hstep
    rw [List.filterMap_cons_some hop]
    exact ih.snoc hstep

end System

namespace Chat

open SyncManager (Reaches)

theorem schedule_of_run_oneAnswer : ∃ σ,
    Run (System.Step twoClients) (System.init Bool types) oneAnswer σ ∧
    (σ.client true).sentTypes =
      [.connectionRequest, .ping, .ping, .ping, .ping, .syncRequest] ∧
    (σ.client false).sentTypes = [.connectionRequest] := by
  obtain ⟨σ, h, -⟩ := exists_run_oneAnswer
  exact ⟨σ, h, (System.schedule_of_run confined_twoClients h true).1,
    (System.schedule_of_run confined_twoClients h false).1⟩

end Chat

end AutoSync
