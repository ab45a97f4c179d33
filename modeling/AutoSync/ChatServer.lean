import AutoSync.Allocation

/-!
# The chat server

The server of the chat keeps a manager of messages and a counter of its own.  A client sends two
kinds of data: a new message, which the server creates with the value of its counter for the
message's identifier, and an edit, which names a message by the identifier the manager knows it by.

The two counters stay in step, so that both identifiers of a message are the number of messages
sent before it.  But an edit is trusted to name a message there is.  `faithful_iff` says that the
server does what it is meant to exactly when all edits do.
-/

set_option autoImplicit false

namespace AutoSync

open Transition

/-- What the server's handler for data works on: its own counter, and the manager. -/
structure ChatServer where
  lastID : ℤ
  syncManager : SyncManager Chat.types

/-- Data from a client: what its user wants the server to do. -/
inductive DataPacket
  | sendMsg (author msg : String)
  | editMsg (author : String) (id : ℤ) (msg : String)

namespace TypeStore

variable {T : ObjType JsonTree} {s : TypeStore T} {j : Fin maxObjs} {o : SyncObj T}

/-- Looking at an object that has just been created, as the server does to print it. -/
theorem run_withObj_created : (withObj (some s.lfManager.newAddr) (pure ())).run (s.created j o) =
    .ok () (s.created j o) := by
  have hderef : (s.created j o).deref (some s.lfManager.newAddr) = some o := by
    simp [deref, created]
  rw [run_withObj hderef]
  simp [store, created, OrdMap.insert_insert_self]

end TypeStore

namespace ChatServer

def init : ChatServer := ⟨0, SyncManager.fresh Chat.types⟩

/-- The part of the manager that belongs to the messages, which is all of it. -/
def messages (s : ChatServer) : TypeStore (Message JsonTree) := s.syncManager Chat.messages

/-- The server with other messages, and its own counter as it was. -/
def setMessages (s : ChatServer) (t : TypeStore (Message JsonTree)) : ChatServer :=
  { s with syncManager := Function.update s.syncManager Chat.messages t }

@[simp] theorem messages_setMessages (s : ChatServer) (t : TypeStore (Message JsonTree)) :
    (s.setMessages t).messages = t :=
  Function.update_self (β := fun u ↦ TypeStore (Chat.types u)) Chat.messages t s.syncManager

@[simp] theorem setMessages_messages (s : ChatServer) : s.setMessages s.messages = s :=
  congrArg (ChatServer.mk s.lastID) (Function.update_eq_self Chat.messages s.syncManager)

/-- An operation of the manager, which leaves the server's counter alone. -/
def onManager {α : Type} (act : EStateM Error (SyncManager Chat.types) α) :
    EStateM Error ChatServer α :=
  EStateM.focus syncManager (fun m s ↦ { s with syncManager := m }) act

/-- An operation of the manager on the messages, the only type there is. -/
def onMessages {α : Type} (act : EStateM Error (TypeStore (Message JsonTree)) α) :
    EStateM Error ChatServer α :=
  onManager (SyncManager.onType Chat.messages act)

/-- Handles the data in a packet, as the function does that the application has registered. -/
def onDataReceived : DataPacket → EStateM Error ChatServer Unit
  | .sendMsg author msg => do
    let id := (← get).lastID
    modify fun s ↦ { s with lastID := s.lastID + 1 }
    let temp := Chat.messageVal id author msg
    let handle ← onManager (SyncManager.serverCreate Chat.messages temp)
    -- the author and the contents of the new message are logged
    onMessages (TypeStore.withObj handle (pure ()))
  | .editMsg _ id msg =>
    onMessages (TypeStore.edit id Message.contents msg)

variable {s s' : ChatServer} {ps : List DataPacket} {author msg : String} {id : ℤ}

/-- The packet takes the server from `s` to `s'`, and the program goes on from there. -/
def Step (s : ChatServer) (p : DataPacket) (s' : ChatServer) : Prop :=
  Survives ((onDataReceived p).run s) s'

/-- The state after the packets `ps`, from the start of the server. -/
abbrev Reaches (ps : List DataPacket) (s : ChatServer) : Prop := Run Step init ps s

theorem run_onMessages {α : Type} (act : EStateM Error (TypeStore (Message JsonTree)) α)
    (s : ChatServer) : (onMessages act).run s = (act.run s.messages).mapState s.setMessages := by
  show EStateM.Result.mapState _ (EStateM.Result.mapState _ (act.run s.messages)) = _
  cases act.run s.messages <;> rfl

theorem Step.of_run {p : DataPacket} (h : (onDataReceived p).run s = .ok () s') : Step s p s' := by
  rw [Step, h]
  exact .ok () s'

theorem Step.unique (s : ChatServer) (p : DataPacket) (s₁ s₂ : ChatServer) (h₁ : Step s p s₁)
    (h₂ : Step s p s₂) : s₁ = s₂ := h₁.state.symm.trans h₂.state

/-! ## The two handlers

What each of the two does in a state in which it can do what it should, and that it is the end of
the program in any other.  A new message needs an identifier, and an edit a message. -/

/-- The server after a new message, with both counters one higher. -/
def sent (s : ChatServer) (j : Fin maxObjs) (author msg : String) : ChatServer :=
  { s.setMessages (s.messages.counted.created j (Chat.message s.lastID author msg)) with
    lastID := s.lastID + 1 }

theorem messages_sent (s : ChatServer) (j : Fin maxObjs) (author msg : String) :
    (s.sent j author msg).messages =
      s.messages.counted.created j (Chat.message s.lastID author msg) := messages_setMessages s _

/-- A new message, when the identifier in the manager's counter is free, is created as it was
sent. -/
theorem run_sendMsg {j : Fin maxObjs} (hj : s.messages.lastID = objID j)
    (hbit : s.messages.bitsetIDs j = false) :
    (onDataReceived (.sendMsg author msg)).run s = .ok () (s.sent j author msg) := by
  have hcreate : (onManager (SyncManager.serverCreate Chat.messages
      (Chat.messageVal s.lastID author msg))).run { s with lastID := s.lastID + 1 } =
        .ok (some s.messages.lfManager.newAddr) (s.sent j author msg) := by
    rw [onManager, EStateM.run_focus, SyncManager.run_serverCreate hj hbit
      (Chat.run_setFromJson_messageVal s.lastID author msg)]
    rfl
  -- the message that is logged is the one just created
  have hlog : (TypeStore.withObj (some s.messages.lfManager.newAddr) (pure ())).run
      (s.sent j author msg).messages = .ok () (s.sent j author msg).messages := by
    rw [messages_sent]
    exact TypeStore.run_withObj_created
  rw [onDataReceived, EStateM.run_bind, EStateM.run_get]
  simp only [EStateM.run_bind, EStateM.run_modify, hcreate]
  rw [run_onMessages, hlog, EStateM.Result.mapState_ok, setMessages_messages]

theorem run_editMsg {a : Addr} {o : SyncObj (Message JsonTree)}
    (hh : s.messages.handleMap[id]? = some (some a))
    (ho : s.messages.lfManager.storage[a]? = some o) :
    (onDataReceived (.editMsg author id msg)).run s =
      .ok () (s.setMessages (s.messages.store (some a) (o.edit Message.contents msg))) := by
  rw [onDataReceived, run_onMessages]
  exact congrArg (EStateM.Result.mapState s.setMessages)
    (TypeStore.run_edit (i := Message.contents) (x := msg) hh ho)

/-- An edit of a message that does not exist is the end of the program: a null handle is
dereferenced. -/
theorem editMsg_not_step (hI : s.messages.Inv) (ha : ¬s.messages.Alive id) :
    ¬Step s (.editMsg author id msg) s' := by
  rw [Step, onDataReceived, run_onMessages]
  intro h
  obtain ⟨t, ht, -⟩ := h.of_mapState
  exact TypeStore.edit_not_survives (hI.live.ne_some_of_not_alive ha) ht

/-- A new message that is handled was given a free identifier, and the state is the one above. -/
theorem Step.sendMsg_cases (h : Step s (.sendMsg author msg) s') : ∃ j,
    s.messages.lastID = objID j ∧ s.messages.bitsetIDs j = false ∧ s' = s.sent j author msg := by
  have hcreate : (onManager (SyncManager.serverCreate Chat.messages
      (Chat.messageVal s.lastID author msg))).run { s with lastID := s.lastID + 1 } =
        ((TypeStore.serverCreate (Chat.messageVal s.lastID author msg)).run s.messages).mapState
          (setMessages { s with lastID := s.lastID + 1 }) :=
    run_onMessages _ { s with lastID := s.lastID + 1 }
  obtain hr | ⟨j, hj, hbit⟩ := TypeStore.serverCreate_cases (Chat.messageVal s.lastID author msg)
    s.messages
  · rw [Step, onDataReceived, EStateM.run_bind, EStateM.run_get] at h
    simp only [EStateM.run_bind, EStateM.run_modify, hcreate] at h
    rcases hr with hr | hr <;> rw [hr] at h <;> cases h
  · exact ⟨j, hj, hbit, Step.unique s _ s' _ h (.of_run (run_sendMsg hj hbit))⟩

/-! ## What is always true

The history of packets says how many messages there are and who wrote them; the contents it does not
say, as edits change them.  The invariant relates the two counters and the objects to the
history. -/

/-- The authors of the messages sent, in the order in which they were sent. -/
def authors (ps : List DataPacket) : List String :=
  ps.filterMap fun
    | .sendMsg author _ => some author
    | .editMsg _ _ _ => none

/-- The number of messages sent, which is what both counters count. -/
def sends (ps : List DataPacket) : ℕ := (authors ps).length

theorem authors_append (ps qs : List DataPacket) : authors (ps ++ qs) = authors ps ++ authors qs :=
  List.filterMap_append

theorem sends_append (ps qs : List DataPacket) : sends (ps ++ qs) = sends ps + sends qs := by
  rw [sends, authors_append, List.length_append]
  rfl

/-- The messages there are meant to be after the packets `ps`: those sent, each under its number. -/
structure HasMessages (ps : List DataPacket) (s : ChatServer) : Prop where
  alive : ∀ id, s.messages.Alive id ↔ 0 ≤ id ∧ id < sends ps
  /-- A message keeps its identifier and its author. -/
  message : ∀ (k : ℕ) (author : String), (authors ps)[k]? = some author →
    ∃ o, s.messages.obj? (k : ℤ) = some o ∧ o.fields Message.messageID = (k : ℤ) ∧
      o.fields Message.author = author

/-- **The invariant.**  Both counters have the number of messages sent, and these are the messages
there are. -/
structure Inv (ps : List DataPacket) (s : ChatServer) : Prop extends HasMessages ps s where
  manager : s.messages.Inv
  lastID : s.lastID = (sends ps : ℤ)
  lastID_messages : s.messages.lastID = (sends ps : ℤ)

theorem inv_init : Inv [] init where
  alive id := by
    constructor
    · intro h
      obtain ⟨j, -, hj⟩ := h.exists_objID
      exact absurd hj (by simp [init, messages, SyncManager.fresh, TypeStore.fresh])
    · rintro ⟨h0, hlt⟩
      exact absurd (h0.trans_lt hlt) (lt_irrefl 0)
  message k author h := by simp [authors] at h
  manager := TypeStore.inv_fresh
  lastID := rfl
  lastID_messages := rfl

/-- The manager's counter is at the number of messages, all alive. -/
theorem Inv.counts (hI : Inv ps s) : s.messages.Counts (sends ps) :=
  ⟨hI.lastID_messages, fun id ha ↦ ((hI.alive id).1 ha).2⟩

/-- The identifiers after a new message: one more is alive, the next one. -/
theorem Inv.alive_sent (hI : Inv ps s) {j : Fin maxObjs} (hj : objID j = (sends ps : ℤ)) (id : ID) :
    (s.sent j author msg).messages.Alive id ↔ 0 ≤ id ∧ id < ((sends ps + 1 : ℕ) : ℤ) := by
  rw [messages_sent, TypeStore.alive_created, hj, Int.natCast_succ, Int.lt_add_one_iff]
  change id = (sends ps : ℤ) ∨ s.messages.Alive id ↔ _
  rw [hI.alive, le_iff_eq_or_lt (a := id)]
  constructor
  · rintro (rfl | ⟨h0, hlt⟩)
    · exact ⟨Int.natCast_nonneg _, .inl rfl⟩
    · exact ⟨h0, .inr hlt⟩
  · rintro ⟨h0, rfl | hlt⟩
    · exact .inl rfl
    · exact .inr ⟨h0, hlt⟩

/-- The objects after a new message: the new one, and the others as they were. -/
theorem Inv.obj?_sent (hI : Inv ps s) {j : Fin maxObjs} (hj : objID j = (sends ps : ℤ)) (id : ID) :
    (s.sent j author msg).messages.obj? id =
      if id = (sends ps : ℤ) then some (Chat.message s.lastID author msg)
      else s.messages.obj? id := by
  rw [messages_sent, ← hj]
  exact hI.manager.counted.obj?_created id

/-- The new message has the next identifier, and the others keep theirs. -/
theorem Inv.message_sent (hI : Inv ps s) {j : Fin maxObjs} (hj : objID j = (sends ps : ℤ)) {k : ℕ}
    {a : String} (hk : (authors ps ++ [author])[k]? = some a) :
    ∃ o, (s.sent j author msg).messages.obj? (k : ℤ) = some o ∧
      o.fields Message.messageID = (k : ℤ) ∧ o.fields Message.author = a := by
  rw [hI.obj?_sent hj]
  rcases lt_or_ge k (sends ps) with hlt | hge
  · rw [List.getElem?_append_left hlt] at hk
    rw [if_neg (Int.ofNat_lt.2 hlt).ne]
    exact hI.message k a hk
  · rw [List.getElem?_append_right hge, List.getElem?_singleton] at hk
    split at hk
    · rename_i hzero
      obtain rfl : k = sends ps := Nat.le_antisymm (Nat.le_of_sub_eq_zero hzero) hge
      rw [if_pos rfl]
      exact ⟨_, rfl, hI.lastID, Option.some_inj.1 hk⟩
    · cases hk

/-- **A new message** is handled while there are identifiers left, and keeps the invariant. -/
theorem Inv.sendMsg (hI : Inv ps s) (hn : sends ps < maxObjs) (author msg : String) :
    ∃ s', (onDataReceived (.sendMsg author msg)).run s = .ok () s' ∧
      Inv (ps ++ [.sendMsg author msg]) s' := by
  obtain ⟨j, hj, hbit⟩ := hI.counts.exists_objID hn
  have hobjID : objID j = (sends ps : ℤ) := hj.symm.trans hI.lastID_messages
  have hauthors : authors (ps ++ [.sendMsg author msg]) = authors ps ++ [author] :=
    authors_append ps _
  have hsends : sends (ps ++ [.sendMsg author msg]) = sends ps + 1 := sends_append ps _
  refine ⟨_, run_sendMsg hj hbit, ⟨fun id ↦ ?_, fun k a hk ↦ ?_⟩, ?_, ?_, ?_⟩
  · rw [hsends]
    exact hI.alive_sent hobjID id
  · rw [hauthors] at hk
    exact hI.message_sent hobjID hk
  · rw [messages_sent]
    exact hI.manager.counted.created hbit
  · rw [hsends, Int.natCast_succ, ← hI.lastID]
    rfl
  · rw [hsends, Int.natCast_succ, ← hI.lastID_messages, messages_sent]
    rfl

/-- From `s` to `s'` only the contents of one message have changed, and the flag of that field. -/
structure EditsOnly (s : ChatServer) (id : ID) (msg : String) (s' : ChatServer) : Prop where
  lastID : s'.lastID = s.lastID ∧ s'.messages.lastID = s.messages.lastID
  bitsetIDs : s'.messages.bitsetIDs = s.messages.bitsetIDs
  handleMap : s'.messages.handleMap = s.messages.handleMap
  edited : ∃ o o', s.messages.obj? id = some o ∧ s'.messages.obj? id = some o' ∧
    o'.fields Message.contents = msg ∧ o'.fieldFlags Message.contents = true ∧
      ∀ i, i ≠ Message.contents → o'.fields i = o.fields i ∧ o'.fieldFlags i = o.fieldFlags i
  others : ∀ id', id' ≠ id → s'.messages.obj? id' = s.messages.obj? id'

/-- The invariant does not look at contents, so that an edit keeps it. -/
theorem Inv.editsOnly (hI : Inv ps s) (h : EditsOnly s id msg s') (hm : s'.messages.Inv)
    (author : String) : Inv (ps ++ [.editMsg author id msg]) s' := by
  have hauthors : authors (ps ++ [.editMsg author id msg]) = authors ps := by
    rw [authors_append]
    exact List.append_nil _
  have hsends : sends (ps ++ [.editMsg author id msg]) = sends ps := congrArg List.length hauthors
  refine ⟨⟨fun id' ↦ ?_, fun k a hk ↦ ?_⟩, hm, ?_, ?_⟩
  · rw [hsends, TypeStore.Alive, h.bitsetIDs]
    exact hI.alive id'
  · rw [hauthors] at hk
    obtain ⟨o₁, ho₁, hid, hauthor⟩ := hI.message k a hk
    by_cases hkid : (k : ℤ) = id
    · obtain ⟨o, o', ho, ho', -, -, hkept⟩ := h.edited
      obtain rfl : o = o₁ := Option.some_inj.1 (ho.symm.trans (hkid ▸ ho₁))
      refine ⟨o', hkid ▸ ho', ?_, ?_⟩
      · rw [(hkept Message.messageID (by decide)).1]
        exact hid
      · rw [(hkept Message.author (by decide)).1]
        exact hauthor
    · exact ⟨o₁, (h.others k hkid).trans ho₁, hid, hauthor⟩
  · rw [hsends, h.lastID.1]
    exact hI.lastID
  · rw [hsends, h.lastID.2]
    exact hI.lastID_messages

/-- **An edit of a message there is** is handled, and changes its contents and nothing else. -/
theorem Inv.editMsg (hI : Inv ps s) (ha : s.messages.Alive id) (author msg : String) :
    ∃ s', (onDataReceived (.editMsg author id msg)).run s = .ok () s' ∧
      Inv (ps ++ [.editMsg author id msg]) s' ∧ EditsOnly s id msg s' := by
  obtain ⟨a, o, hh, ho⟩ := hI.manager.exists_obj ha
  have hobj : ∀ id', (s.messages.store (some a) (o.edit Message.contents msg)).obj? id' =
      if id' = id then some (o.edit Message.contents msg) else s.messages.obj? id' :=
    hI.manager.obj?_store hh
  have hedit : EditsOnly s id msg
      (s.setMessages (s.messages.store (some a) (o.edit Message.contents msg))) := by
    refine ⟨⟨rfl, by rw [messages_setMessages]; rfl⟩, by rw [messages_setMessages]; rfl,
      by rw [messages_setMessages]; rfl, ?_, fun id' hne ↦ ?_⟩
    · refine ⟨o, o.edit Message.contents msg, (TypeStore.obj?_of_lookup hh).trans ho, ?_,
        SyncObj.edit_spec o Message.contents msg⟩
      rw [messages_setMessages, hobj, if_pos rfl]
    · rw [messages_setMessages, hobj, if_neg hne]
  refine ⟨_, run_editMsg hh ho, hI.editsOnly hedit ?_ author, hedit⟩
  rw [messages_setMessages]
  exact hI.manager.store hh

/-- Beyond `maxObjs` messages there is no identifier left, and the server does not go on. -/
theorem Inv.sends_lt (hI : Inv ps s) (h : Step s (.sendMsg author msg) s') :
    sends ps < maxObjs := by
  have hcreate : (onManager (SyncManager.serverCreate Chat.messages
      (Chat.messageVal s.lastID author msg))).run { s with lastID := s.lastID + 1 } =
        ((TypeStore.serverCreate (Chat.messageVal s.lastID author msg)).run s.messages).mapState
          (setMessages { s with lastID := s.lastID + 1 }) :=
    run_onMessages _ { s with lastID := s.lastID + 1 }
  rw [Step, onDataReceived, EStateM.run_bind, EStateM.run_get] at h
  simp only [EStateM.run_bind, EStateM.run_modify, hcreate] at h
  obtain hr | ⟨j, hj, -⟩ := TypeStore.serverCreate_cases (Chat.messageVal s.lastID author msg)
    s.messages
  · rcases hr with hr | hr <;> rw [hr] at h <;> cases h
  · rw [hI.lastID_messages] at hj
    exact Int.ofNat_inj.1 hj ▸ j.isLt

/-- **A packet that is handled keeps the invariant**, with the packet added to the history. -/
theorem Step.inv {p : DataPacket} (hs : Step s p s') (hI : Inv ps s) : Inv (ps ++ [p]) s' := by
  cases p with
  | sendMsg author msg =>
    obtain ⟨s₁, hrun, hI₁⟩ := hI.sendMsg (hI.sends_lt hs) author msg
    exact Step.unique s _ s₁ s' (.of_run hrun) hs ▸ hI₁
  | editMsg author id msg =>
    by_cases ha : s.messages.Alive id
    · obtain ⟨s₁, hrun, hI₁, -⟩ := hI.editMsg ha author msg
      exact Step.unique s _ s₁ s' (.of_run hrun) hs ▸ hI₁
    · exact absurd hs (editMsg_not_step hI.manager ha)

theorem inv_of_reaches (h : Reaches ps s) : Inv ps s :=
  h.invariant_events inv_init fun _ _ _ _ _ hI hs ↦ hs.inv hI

/-! ## Edits of messages there are

Nothing keeps a client from naming a message that was never sent, and then the server does not go
on.  `NamesExisting` is the condition on the history under which this does not happen, and it turns
out to be all that is needed. -/

/-- Every edit names a message that has been sent before it, by its number. -/
def NamesExisting (ps : List DataPacket) : Prop :=
  ∀ pre author (id : ℤ) msg, pre ++ [.editMsg author id msg] <+: ps → 0 ≤ id ∧ id < sends pre

theorem NamesExisting.mono {qs : List DataPacket} (h : NamesExisting ps) (hqs : qs <+: ps) :
    NamesExisting qs := fun pre author id msg hpre ↦ h pre author id msg (hpre.trans hqs)

theorem namesExisting_concat (ps : List DataPacket) (p : DataPacket) :
    NamesExisting (ps ++ [p]) ↔ NamesExisting ps ∧
      ∀ author id msg, p = .editMsg author id msg → 0 ≤ id ∧ id < sends ps := by
  constructor
  · intro h
    refine ⟨h.mono (List.prefix_append ps [p]), ?_⟩
    rintro author id msg rfl
    exact h ps author id msg List.prefix_rfl
  · rintro ⟨hps, hp⟩ pre author id msg hpre
    rcases List.prefix_concat_iff.1 hpre with heq | hpre
    · obtain ⟨rfl, hedit⟩ := List.append_inj' heq rfl
      exact hp author id msg (List.cons.inj hedit).1.symm
    · exact hps pre author id msg hpre

theorem sends_mono {qs : List DataPacket} (h : qs <+: ps) : sends qs ≤ sends ps := by
  obtain ⟨post, rfl⟩ := h
  rw [sends_append]
  exact Nat.le_add_right _ _

/-- A packet that names an existing message, or none at all, is handled. -/
theorem Inv.exists_step {p : DataPacket} (hI : Inv ps s) (hps : NamesExisting (ps ++ [p]))
    (hn : sends (ps ++ [p]) ≤ maxObjs) : ∃ s', Step s p s' := by
  cases p with
  | sendMsg author msg =>
    obtain ⟨s', hrun, -⟩ := hI.sendMsg ((sends_append ps _).symm.trans_le hn) author msg
    exact ⟨s', .of_run hrun⟩
  | editMsg author id msg =>
    have ha := (hI.alive id).2 (hps ps author id msg List.prefix_rfl)
    obtain ⟨s', hrun, -⟩ := hI.editMsg ha author msg
    exact ⟨s', .of_run hrun⟩

/-- The server gets through packets whose edits all name existing messages, if there are not too
many messages. -/
theorem exists_reaches (hps : NamesExisting ps) (hn : sends ps ≤ maxObjs) :
    ∃ s, Reaches ps s := by
  induction ps using List.reverseRecOn with
  | nil => exact ⟨init, .nil⟩
  | append_singleton ps p ih =>
    have hpre := List.prefix_append ps [p]
    obtain ⟨s, h⟩ := ih (hps.mono hpre) ((sends_mono hpre).trans hn)
    obtain ⟨s', hs⟩ := (inv_of_reaches h).exists_step hps hn
    exact ⟨s', h.snoc hs⟩

/-- What the server is meant to do with a packet: to create the message, or to change the contents
of the one that is named and leave everything alone when there is none. -/
def Handles (s : ChatServer) : DataPacket → Prop
  | .sendMsg author msg => ∃ s', Step s (.sendMsg author msg) s'
  | .editMsg author id msg => ∃ s', Step s (.editMsg author id msg) s' ∧
      (s.messages.Alive id → EditsOnly s id msg s') ∧
        (¬s.messages.Alive id → s'.syncManager = s.syncManager)

/-- What the server is meant to do with packets: in every state it reaches it has the messages sent
so far, and handles the next packet. -/
def Faithful (ps : List DataPacket) : Prop :=
  ∀ pre s, pre <+: ps → Reaches pre s →
    HasMessages pre s ∧ ∀ p, pre ++ [p] <+: ps → Handles s p

/-- A server that handles the packets has not met an edit of a message that does not exist, at any
point of the history. -/
theorem Faithful.namesExisting (hf : Faithful ps) (hn : sends ps ≤ maxObjs) {pre : List DataPacket}
    (hpre : pre <+: ps) : NamesExisting pre := by
  induction pre using List.reverseRecOn with
  | nil =>
    intro pre' author id msg h
    exact absurd (List.prefix_nil.1 h) (by simp)
  | append_singleton pre p ih =>
    have hpre' := (List.prefix_append pre [p]).trans hpre
    have hps := ih hpre'
    obtain ⟨s, h⟩ := exists_reaches hps ((sends_mono hpre').trans hn)
    have hI := inv_of_reaches h
    refine (namesExisting_concat pre _).2 ⟨hps, ?_⟩
    rintro author id msg rfl
    obtain ⟨s', hs, -⟩ := (hf pre s hpre' h).2 _ hpre
    by_contra hid
    exact editMsg_not_step hI.manager (fun ha ↦ hid ((hI.alive id).1 ha)) hs

/-- **When the server does what it is meant to**: when every edit names an existing message. -/
theorem faithful_iff (hn : sends ps ≤ maxObjs) : Faithful ps ↔ NamesExisting ps := by
  constructor
  · exact fun hf ↦ hf.namesExisting hn List.prefix_rfl
  · intro hps pre s hpre h
    have hI := inv_of_reaches h
    refine ⟨hI.toHasMessages, fun p hp ↦ ?_⟩
    cases p with
    | sendMsg author msg =>
      exact hI.exists_step (hps.mono hp) ((sends_mono hp).trans hn)
    | editMsg author id msg =>
      have ha := (hI.alive id).2 (hps pre author id msg hp)
      obtain ⟨s', hrun, -, hedit⟩ := hI.editMsg ha author msg
      exact ⟨s', .of_run hrun, fun _ ↦ hedit, fun hnot ↦ absurd ha hnot⟩

/-- A message, and a correction of its text by an edit. -/
def conversation : List DataPacket := [.sendMsg "ann" "hello", .editMsg "ann" 0 "hi"]

theorem namesExisting_conversation : NamesExisting conversation := by
  have hnil : NamesExisting [] := fun pre author id msg h ↦
    absurd (List.prefix_nil.1 h) (by simp)
  have hsend : NamesExisting [.sendMsg "ann" "hello"] :=
    (namesExisting_concat [] _).2 ⟨hnil, fun _ _ _ h ↦ by cases h⟩
  refine (namesExisting_concat [_] _).2 ⟨hsend, ?_⟩
  rintro author id msg h
  cases h
  exact ⟨le_rfl, by decide⟩

theorem faithful_iff_conversation : Faithful conversation :=
  (faithful_iff (by decide)).2 namesExisting_conversation

/-- **An edit of a message that does not exist** stops the server, even if it is the first packet it
gets. -/
theorem edit_of_nothing : sends [.editMsg "bob" 7 "hi"] ≤ maxObjs ∧
    ¬Faithful [.editMsg "bob" 7 "hi"] := by
  refine ⟨by decide, fun hf ↦ ?_⟩
  obtain ⟨s', hs, -⟩ := (hf [] init List.nil_prefix .nil).2 _ List.prefix_rfl
  refine editMsg_not_step inv_init.manager (fun ha ↦ ?_) hs
  exact absurd ((inv_init.alive 7).1 ha).2 (by decide)

end ChatServer

end AutoSync
