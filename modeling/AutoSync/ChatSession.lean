import AutoSync.Convergence
import AutoSync.Transcript

/-!
# What the users of the chat see

The server of the chat handles the data of its clients, and between the packets the clients
synchronize with it, each at its own pace.  `ChatSession.Step` is that system: the managers and the
exchanges are those of `SyncSession`, and the server's manager belongs to a `ChatServer`.

As in `SyncSession`, a client has one exchange going on at most, and snapshots and diffs are handed
over as the objects they are, which is what the example in the README does.  The session sends them
as JSON instead, and what a diff loses on that way is another matter: `Codec` says what it is, and
`ChatSystem` what becomes of the chat.  Here it is about what the managers do for the users.

`shows_of_run` says what everybody sees.  The server has all messages, and a client those there were
when the server gave the answer that the client has carried out last: never half of an answer, and
never less than before.
-/

set_option autoImplicit false

namespace AutoSync

open Transition

namespace ChatServer

variable {ps : List DataPacket} {s : ChatServer} {m m' : SyncManager Chat.types}

/-- The manager has the messages there are after the packets `ps`, and no others. -/
def ShowsAfter (ps : List DataPacket) (m : SyncManager Chat.types) : Prop :=
  ∃ l, transcript ps = some l ∧ Shows l ⟨0, m⟩

theorem Reaches.showsAfter (h : Reaches ps s) : ShowsAfter ps s.syncManager := by
  obtain ⟨l, hl, halive, hmessage⟩ := exists_transcript_of_reaches h
  exact ⟨l, hl, halive, hmessage⟩

/-- The flags do not matter: a manager with the same identifiers and values has the same
messages. -/
theorem ShowsAfter.of_values_eq (h : ShowsAfter ps m)
    (hbits : ∀ t, (m' t).bitsetIDs = (m t).bitsetIDs) (hvalues : m'.values = m.values) :
    ShowsAfter ps m' := by
  obtain ⟨l, hl, halive, hmessage⟩ := h
  refine ⟨l, hl, fun id ↦ ?_, fun k p hk ↦ ?_⟩
  · rw [← halive, TypeStore.Alive, TypeStore.Alive]
    exact hbits Chat.messages ▸ Iff.rfl
  · obtain ⟨o, ho, hfields⟩ := hmessage k p hk
    obtain ⟨z, hz, hzo⟩ := SyncManager.exists_obj_of_values_eq hvalues ho
    exact ⟨z, hz, hzo ▸ hfields⟩

end ChatServer

variable {C : Type} [DecidableEq C]

/-- The managers, with the exchanges between them, and the server's counter. -/
structure ChatSession (C : Type) where
  session : SyncSession C Chat.types
  lastID : ℤ

namespace ChatSession

def init (C : Type) : ChatSession C := ⟨SyncSession.init C Chat.types, 0⟩

/-- What the server's handler for data works on, which is its manager and its counter. -/
def chat (σ : ChatSession C) : ChatServer := ⟨σ.lastID, σ.session.server⟩

def setChat (σ : ChatSession C) (s : ChatServer) : ChatSession C :=
  ⟨{ σ.session with server := s.syncManager }, s.lastID⟩

/-- What can happen: data arrive, or a part of an exchange takes place, or something is lost. -/
inductive Event (C : Type)
  | data (p : DataPacket)
  | sendSyncRequest (c : C)
  | handleSyncRequest (c : C)
  | handleSyncRequestSatisfy (c : C)
  | lose (c : C)

/-- The part of an exchange that takes place, if one does. -/
def Event.exchange? : Event C → Option (SyncSession.Event C Chat.types)
  | .data _ => none
  | .sendSyncRequest c => some (.sendSyncRequest c)
  | .handleSyncRequest c => some (.handleSyncRequest c)
  | .handleSyncRequestSatisfy c => some (.handleSyncRequestSatisfy c)
  | .lose c => some (.lose c)

/-- A step of the system, of the server by itself or of an exchange. -/
inductive Step (σ : ChatSession C) : Event C → ChatSession C → Prop
  | data {p s} (h : ChatServer.Step σ.chat p s) : Step σ (.data p) (σ.setChat s)
  | exchange {e f τ} (he : e.exchange? = some f) (h : SyncSession.Step σ.session f τ) :
      Step σ e { σ with session := τ }

/-! ## What everybody should see

The events alone say what everybody should see, as they say which packets the server had handled at
which moment.  `Views` keeps a list of packets for the server, one for each answer and one for each
client, and looks at no manager. -/

/-- The packets that the server has handled, those it had handled when it answered a client last,
and those it had handled when it gave the answer that a client has carried out last. -/
structure Views (C : Type) where
  handled : List DataPacket
  answered : C → List DataPacket
  shown : C → List DataPacket

namespace Views

def init (C : Type) : Views C := ⟨[], fun _ ↦ [], fun _ ↦ []⟩

def step (v : Views C) : Event C → Views C
  | .data p => { v with handled := v.handled ++ [p] }
  | .handleSyncRequest c => { v with answered := Function.update v.answered c v.handled }
  | .handleSyncRequestSatisfy c => { v with shown := Function.update v.shown c (v.answered c) }
  | .sendSyncRequest _ | .lose _ => v

/-- The views after the events, from the start on. -/
def after (es : List (Event C)) : Views C := es.foldl step (init C)

theorem after_append_singleton (es : List (Event C)) (e : Event C) :
    after (es ++ [e]) = (after es).step e := by
  rw [after, List.foldl_append]
  rfl

/-- No answer is ahead of the server, and no client is ahead of the answers. -/
structure Inv (v : Views C) : Prop where
  answered : ∀ c, v.answered c <+: v.handled
  shown : ∀ c, v.shown c <+: v.answered c

theorem Inv.step {v : Views C} (hI : v.Inv) (e : Event C) : (v.step e).Inv := by
  cases e with
  | data p => exact ⟨fun c ↦ (hI.answered c).trans (List.prefix_append ..), hI.shown⟩
  | handleSyncRequest c =>
    refine ⟨?_, fun d ↦ (hI.shown d).trans ?_⟩
    · exact (Function.forall_update_iff v.answered fun _ ps ↦ ps <+: v.handled).2
        ⟨List.prefix_rfl, fun d _ ↦ hI.answered d⟩
    · exact (Function.forall_update_iff v.answered fun d ps ↦ v.answered d <+: ps).2
        ⟨hI.answered c, fun d _ ↦ List.prefix_rfl⟩ d
  | handleSyncRequestSatisfy c =>
    refine ⟨hI.answered, ?_⟩
    exact (Function.forall_update_iff v.shown fun d ps ↦ ps <+: v.answered d).2
      ⟨List.prefix_rfl, fun d _ ↦ hI.shown d⟩
  | sendSyncRequest c => exact hI
  | lose c => exact hI

/-- What a client has been shown it keeps, whatever happens next. -/
theorem Inv.prefix_step {v : Views C} (hI : v.Inv) (e : Event C) (d : C) :
    v.shown d <+: (v.step e).shown d := by
  cases e with
  | handleSyncRequestSatisfy c =>
    exact (Function.forall_update_iff v.shown fun d ps ↦ v.shown d <+: ps).2
      ⟨hI.shown c, fun d _ ↦ List.prefix_rfl⟩ d
  | _ => exact List.prefix_rfl

theorem inv_after (es : List (Event C)) : (after es).Inv := by
  induction es using List.reverseRecOn with
  | nil => exact ⟨fun _ ↦ List.prefix_rfl, fun _ ↦ List.prefix_rfl⟩
  | append_singleton es e ih =>
    rw [after_append_singleton]
    exact ih.step e

theorem shown_prefix_append (es fs : List (Event C)) (c : C) :
    (after es).shown c <+: (after (es ++ fs)).shown c := by
  induction fs using List.reverseRecOn with
  | nil => rw [List.append_nil]
  | append_singleton fs e ih =>
    rw [← List.append_assoc, after_append_singleton]
    exact ih.trans ((inv_after (es ++ fs)).prefix_step e c)

end Views

/-! ## What everybody sees

The managers follow the views: the server has the messages of what it has handled, an answer under
way is about what was handled when it was given, and a client has what its last answer was about.
That such an answer can be carried out is known of exchanges in general. -/

variable {σ σ' : ChatSession C} {e : Event C} {es : List (Event C)}

/-- A packet that is handled is an operation of the server's manager. -/
theorem Step.session (hs : Step σ e σ') : ∃ f, SyncSession.Step σ.session f σ'.session := by
  cases hs with
  | @data p s h =>
    cases p with
    | sendMsg author msg =>
      obtain ⟨j, hj, hbit, rfl⟩ := ChatServer.Step.sendMsg_cases h
      have hrun := SyncManager.run_serverCreate (m := σ.session.server) hj hbit
        (Chat.run_setFromJson_messageVal σ.lastID author msg)
      refine ⟨.serverCreate Chat.messages (Chat.messageVal σ.lastID author msg), .serverCreate ?_⟩
      rw [hrun]
      exact .ok _ _
    | editMsg author id msg =>
      rw [ChatServer.Step, ChatServer.onDataReceived, ChatServer.onMessages, ChatServer.onManager,
        EStateM.run_focus] at h
      obtain ⟨m, hm, rfl⟩ := h.of_mapState
      exact ⟨_, .edit hm⟩
  | exchange he h => exact ⟨_, h⟩

theorem session_of_run (h : Run Step (init C) es σ) :
    ∃ fs, Run SyncSession.Step (SyncSession.init C Chat.types) fs σ.session := by
  refine h.invariant (I := fun σ ↦ ∃ fs, Run SyncSession.Step (SyncSession.init C Chat.types) fs
    σ.session) ⟨[], .nil⟩ ?_
  rintro σ e σ' ⟨fs, hfs⟩ hs
  obtain ⟨f, hf⟩ := hs.session
  exact ⟨fs ++ [f], hfs.snoc hf⟩

/-- **The invariant**, which relates the views to the managers. -/
structure Inv (v : Views C) (σ : ChatSession C) : Prop where
  server : ChatServer.Reaches v.handled σ.chat
  answer : ∀ c d server, σ.session.exchange c = .satisfied d server →
    ChatServer.ShowsAfter (v.answered c) server
  client : ∀ c, ChatServer.ShowsAfter (v.shown c) (σ.session.client c)

omit [DecidableEq C] in
theorem inv_init : Inv (Views.init C) (init C) where
  server := .nil
  answer c d server h := by cases h
  client c := ⟨[], rfl, ChatServer.shows_init⟩

/-- What is under way with one client does not matter to the others. -/
theorem Inv.update_exchange {v : Views C} (hI : Inv v σ) {c : C} {x : SyncExchange Chat.types}
    {ps : List DataPacket}
    (hx : ∀ d server, x = .satisfied d server → ChatServer.ShowsAfter ps server) :
    Inv { v with answered := Function.update v.answered c ps } { σ with session := { σ.session with
      exchange := Function.update σ.session.exchange c x } } := by
  refine ⟨hI.server, fun k ↦ ?_, hI.client⟩
  by_cases hk : k = c
  · subst hk
    simpa using hx
  · simpa [hk] using hI.answer k

/-- Nothing is under way, or a request, so that there is no answer to say anything of. -/
theorem Inv.update_exchange_of_ne {v : Views C} (hI : Inv v σ) {c : C}
    {x : SyncExchange Chat.types} (hx : ∀ d server, x ≠ .satisfied d server) :
    Inv v { σ with session := { σ.session with
      exchange := Function.update σ.session.exchange c x } } := by
  have hnone : ∀ d server, x = .satisfied d server →
      ChatServer.ShowsAfter (v.answered c) server := fun d server hd ↦ absurd hd (hx d server)
  have h := hI.update_exchange (c := c) hnone
  rwa [Function.update_eq_self] at h

theorem Inv.update_client {v : Views C} (hI : Inv v σ) {c : C} {m : SyncManager Chat.types}
    {ps : List DataPacket} (hm : ChatServer.ShowsAfter ps m) :
    Inv { v with shown := Function.update v.shown c ps } { σ with session := { σ.session with
      client := Function.update σ.session.client c m } } := by
  refine ⟨hI.server, hI.answer, fun k ↦ ?_⟩
  by_cases hk : k = c
  · subst hk
    simpa using hm
  · simpa [hk] using hI.client k

section

variable {fs : List (SyncSession.Event C Chat.types)}
  (h : Run SyncSession.Step (SyncSession.init C Chat.types) fs σ.session) {v : Views C}
  (hI : Inv v σ)

include h hI

/-- **An answer that arrives** shows the client the messages there were when it was given. -/
theorem Inv.exists_applied {c : C} {d : Diff 1 JsonTree} {server : SyncManager Chat.types}
    (hd : σ.session.exchange c = .satisfied d server) :
    ∃ m, (SyncManager.applyDiff d).run (σ.session.client c) = .ok () m ∧
      ChatServer.ShowsAfter (v.answered c) m := by
  obtain ⟨m, hm, hbits, hvalues⟩ := SyncSession.exists_applied Chat.fieldCount_le h hd
  exact ⟨m, hm, (hI.answer c d server hd).of_values_eq hbits hvalues⟩

theorem Inv.step (hs : Step σ e σ') : Inv (v.step e) σ' := by
  cases hs with
  | data hs => exact ⟨hI.server.snoc hs, hI.answer, hI.client⟩
  | exchange he hs =>
    cases e with
    | data p => cases he
    | sendSyncRequest c =>
      cases he
      cases hs
      exact hI.update_exchange_of_ne fun d server hd ↦ by cases hd
    | handleSyncRequest c =>
      cases he
      cases hs
      refine hI.update_exchange fun d server hd ↦ ?_
      cases hd
      exact hI.server.showsAfter
    | handleSyncRequestSatisfy c =>
      cases he
      cases hs with
      | handleSyncRequestSatisfy hsat hrun =>
        obtain ⟨m, hm, hshows⟩ := hI.exists_applied h hsat
        rw [hm] at hrun
        cases hrun
        exact (hI.update_exchange_of_ne (x := .idle) fun d server hd ↦ by cases hd).update_client
          hshows
    | lose c =>
      cases he
      cases hs
      exact hI.update_exchange_of_ne fun d server hd ↦ by cases hd

end

theorem inv_of_run (h : Run Step (init C) es σ) : Inv (Views.after es) σ := by
  refine h.invariant_events (I := fun es σ ↦ Inv (Views.after es) σ) inv_init ?_
  intro es σ e σ' hrun hI hs
  obtain ⟨fs, hfs⟩ := session_of_run hrun
  rw [Views.after_append_singleton]
  exact hI.step hfs hs

/-- A client with nothing under way can ask, and is answered, in a run of two events. -/
theorem exists_run_answer (h : Run Step (init C) es σ) {c : C}
    (hidle : σ.session.exchange c = .idle) : ∃ σ' d server,
    Run Step (init C) (es ++ [.sendSyncRequest c] ++ [.handleSyncRequest c]) σ' ∧
      σ'.session.exchange c = .satisfied d server ∧ σ'.chat = σ.chat := by
  obtain ⟨fs, hfs⟩ := session_of_run h
  obtain ⟨snap, hsnap⟩ := SyncSession.exists_request (c := c) Chat.fieldCount_le hfs
  have hask : SyncSession.Step σ.session (.sendSyncRequest c) _ := .sendSyncRequest hidle hsnap
  have hasked := Function.update_self c (.requested snap) σ.session.exchange
  obtain ⟨serverSnap, d, left, hserver, hd⟩ :=
    SyncSession.exists_answer Chat.fieldCount_le (hfs.snoc hask) hasked
  have hanswer : SyncSession.Step _ (.handleSyncRequest c) _ :=
    .handleSyncRequest hasked hserver hd
  exact ⟨_, d, _, (h.snoc (.exchange rfl hask)).snoc (.exchange rfl hanswer),
    Function.update_self .., rfl⟩

/-- **What everybody sees**, in every run.  The server has the messages of all packets it has
handled.  A client has those of the packets that the server had handled when it gave the answer
that the client has carried out last, and will never have fewer.  An answer that is on its way can
be carried out, and then the client has the messages there were when the answer was given. -/
theorem shows_of_run (h : Run Step (init C) es σ) :
    ChatServer.ShowsAfter (Views.after es).handled σ.session.server ∧
    ∀ c, (Views.after es).shown c <+: (Views.after es).handled ∧
      ChatServer.ShowsAfter ((Views.after es).shown c) (σ.session.client c) ∧
      (∀ fs, (Views.after es).shown c <+: (Views.after (es ++ fs)).shown c) ∧
      ∀ d server, σ.session.exchange c = .satisfied d server →
        ∃ m, (SyncManager.applyDiff d).run (σ.session.client c) = .ok () m ∧
          ChatServer.ShowsAfter ((Views.after es).answered c) m := by
  have hI := inv_of_run h
  have hviews := Views.inv_after es
  obtain ⟨fs, hfs⟩ := session_of_run h
  refine ⟨hI.server.showsAfter, fun c ↦ ⟨(hviews.shown c).trans (hviews.answered c), hI.client c,
    fun gs ↦ Views.shown_prefix_append es gs c, fun d server hd ↦ hI.exists_applied hfs hd⟩⟩

end ChatSession

namespace Chat

open ChatSession (Step Views)

/-- A client is answered before a message is edited, and gets the answer afterwards. -/
def outdatedAnswer : List (ChatSession.Event Bool) :=
  [.data (.sendMsg "ann" "hello"), .sendSyncRequest true, .handleSyncRequest true,
    .data (.editMsg "ann" 0 "bye"), .handleSyncRequestSatisfy true]

theorem exists_run_outdatedAnswer : ∃ σ,
    Run Step (ChatSession.init Bool) outdatedAnswer σ := by
  obtain ⟨σ₁, h₁, hidle, hl⟩ : ∃ σ, Run Step (ChatSession.init Bool)
      [.data (.sendMsg "ann" "hello")] σ ∧ σ.session.exchange true = .idle ∧
      ChatServer.Reaches [.sendMsg "ann" "hello"] σ.chat :=
    ⟨_, .single (.data (.ok _ _)), rfl, .single (.ok _ _)⟩
  obtain ⟨σ₃, d, server, h₃, hd, hchat⟩ := ChatSession.exists_run_answer h₁ hidle
  have hstep := (ChatServer.shows_of_reaches hl rfl).step (ChatServer.inv_of_reaches hl)
    (.editMsg "ann" 0 "bye")
  obtain ⟨s, hs, -⟩ := hstep.2 [("ann", "bye")] rfl
  rw [← hchat] at hs
  obtain ⟨fs, hfs⟩ := ChatSession.session_of_run h₃
  obtain ⟨m, hm, -⟩ := SyncSession.exists_applied fieldCount_le hfs hd
  have happlied : Survives ((SyncManager.applyDiff d).run (σ₃.session.client true)) m := by
    rw [hm]
    exact .ok () m
  exact ⟨_, (h₃.snoc (.data hs)).snoc (.exchange rfl (.handleSyncRequestSatisfy hd happlied))⟩

theorem shows_of_run_outdatedAnswer : ∃ σ,
    Run Step (ChatSession.init Bool) outdatedAnswer σ ∧
    ChatServer.ShowsAfter [.sendMsg "ann" "hello", .editMsg "ann" 0 "bye"] σ.session.server ∧
    ChatServer.ShowsAfter [.sendMsg "ann" "hello"] (σ.session.client true) := by
  obtain ⟨σ, h⟩ := exists_run_outdatedAnswer
  obtain ⟨hserver, hclient⟩ := ChatSession.shows_of_run h
  exact ⟨σ, h, hserver, (hclient true).2.1⟩

end Chat

end AutoSync
