import AutoSync.ChatServer

/-!
# The chat as a list of messages

For its users the chat is a list of messages, each with an author and a text.  A new message goes to
the end of the list, and an edit writes another text over the one at its position.
`Transcript.handle` says no more than that, and that the list has `maxObjs` places.

`transcript_of_reaches` is the refinement.  The server gets through exactly those packets that the
list takes, and then its manager holds the messages of the list, under their positions.
-/

set_option autoImplicit false

namespace AutoSync

/-- The messages, with authors and texts, in the order in which they were sent. -/
abbrev Transcript : Type := List (String × String)

/-- What a packet is meant to do to the messages, if it can be done. -/
def Transcript.handle (l : Transcript) : DataPacket → Option Transcript
  | .sendMsg author msg => if l.length < maxObjs then some (l ++ [(author, msg)]) else none
  | .editMsg _ id msg =>
    if 0 ≤ id ∧ id < l.length then some (l.modify id.toNat fun p ↦ (p.1, msg)) else none

/-- The messages after the packets `ps`, if all of these can be handled one after the other. -/
def transcript (ps : List DataPacket) : Option Transcript := ps.foldlM Transcript.handle []

theorem transcript_append_singleton (ps : List DataPacket) (p : DataPacket) :
    transcript (ps ++ [p]) = (transcript ps).bind fun l ↦ l.handle p := by
  rw [transcript, List.foldlM_append, ← transcript]
  cases transcript ps <;> simp

namespace ChatServer

variable {s s' : ChatServer} {ps : List DataPacket} {l : Transcript} {author msg : String} {id : ℤ}

/-- The message in the manager is the one in the list, with its position for an identifier. -/
def ShowsAt (s : ChatServer) (k : ℕ) (p : String × String) : Prop :=
  ∃ o, s.messages.obj? (k : ℤ) = some o ∧ o.fields Message.messageID = (k : ℤ) ∧
    o.fields Message.author = p.1 ∧ o.fields Message.contents = p.2

/-- The server has the messages of the list, each under its position, and no others. -/
structure Shows (l : Transcript) (s : ChatServer) : Prop where
  alive : ∀ id, s.messages.Alive id ↔ 0 ≤ id ∧ id < l.length
  message : ∀ k p, l[k]? = some p → s.ShowsAt k p

theorem shows_init : Shows [] init where
  alive := inv_init.alive
  message k p h := by simp at h

/-- The list is as long as there are messages, since the alive identifiers are its positions. -/
theorem Shows.length_eq (h : Shows l s) (hI : Inv ps s) : l.length = sends ps := by
  have hiff : ∀ k : ℕ, k < l.length ↔ k < sends ps := by
    intro k
    have hk : 0 ≤ (k : ℤ) ∧ (k : ℤ) < l.length ↔ 0 ≤ (k : ℤ) ∧ (k : ℤ) < sends ps :=
      (h.alive k).symm.trans (hI.alive k)
    omega
  have hl := hiff l.length
  have hs := hiff (sends ps)
  omega

/-- A new message is at the end, under the identifier that is the length of the list. -/
theorem Shows.sent (h : Shows l s) (hI : Inv ps s) {j : Fin maxObjs}
    (hj : objID j = (l.length : ℤ)) : Shows (l ++ [(author, msg)]) (s.sent j author msg) := by
  have hlen := h.length_eq hI
  refine ⟨fun id ↦ ?_, fun k p hk ↦ ?_⟩
  · rw [hI.alive_sent (hlen ▸ hj), List.length_append, hlen]
    rfl
  · rw [ShowsAt, hI.obj?_sent (hlen ▸ hj), ← hlen]
    rcases lt_or_ge k l.length with hlt | hge
    · rw [List.getElem?_append_left hlt] at hk
      rw [if_neg (Int.ofNat_lt.2 hlt).ne]
      exact h.message k p hk
    · rw [List.getElem?_append_right hge, List.getElem?_singleton] at hk
      split at hk
      · rename_i hzero
        obtain rfl : k = l.length := Nat.le_antisymm (Nat.le_of_sub_eq_zero hzero) hge
        obtain rfl := Option.some_inj.1 hk
        rw [if_pos rfl]
        exact ⟨_, rfl, hI.lastID.trans (congrArg Nat.cast hlen.symm), rfl, rfl⟩
      · cases hk

/-- An edit changes one text, at the position it names, and leaves the others alone. -/
theorem Shows.editsOnly (h : Shows l s) {k : ℕ} (he : EditsOnly s (k : ℤ) msg s') :
    Shows (l.modify k fun p ↦ (p.1, msg)) s' := by
  refine ⟨fun id ↦ ?_, fun i p hi ↦ ?_⟩
  · rw [List.length_modify, TypeStore.Alive, he.bitsetIDs]
    exact h.alive id
  · rw [List.getElem?_modify] at hi
    obtain ⟨q, hq, rfl⟩ := Option.map_eq_some_iff.1 hi
    obtain ⟨o, ho, hid, hauthor, hcontents⟩ := h.message i q hq
    by_cases hki : k = i
    · subst hki
      obtain ⟨o₁, o', ho₁, ho', htext, -, hkept⟩ := he.edited
      obtain rfl : o = o₁ := Option.some_inj.1 (ho.symm.trans ho₁)
      rw [if_pos rfl]
      exact ⟨o', ho', (hkept Message.messageID (by decide)).1.trans hid,
        (hkept Message.author (by decide)).1.trans hauthor, htext⟩
    · rw [if_neg hki]
      exact ⟨o, (he.others i fun hik ↦ hki (Int.ofNat_inj.1 hik.symm)).trans ho, hid, hauthor,
        hcontents⟩

/-- **One packet**: the server handles it if the list takes it, and goes the same way as the
list. -/
theorem Shows.step (h : Shows l s) (hI : Inv ps s) (p : DataPacket) :
    (∀ s', Step s p s' → ∃ l', l.handle p = some l' ∧ Shows l' s') ∧
      ∀ l', l.handle p = some l' → ∃ s', Step s p s' ∧ Shows l' s' := by
  have hlen := h.length_eq hI
  cases p with
  | sendMsg author msg =>
    have hsent : l.length < maxObjs → ∃ s', Step s (.sendMsg author msg) s' ∧
        Shows (l ++ [(author, msg)]) s' := by
      intro hlt
      obtain ⟨j, hj, hbit⟩ := hI.counts.exists_objID (hlen ▸ hlt)
      have hobjID : objID j = (l.length : ℤ) := by rw [← hj, hI.lastID_messages, hlen]
      exact ⟨_, .of_run (run_sendMsg hj hbit), h.sent hI hobjID⟩
    constructor
    · intro s' hs
      have hlt : l.length < maxObjs := hlen ▸ hI.sends_lt hs
      obtain ⟨s₁, hs₁, hshows⟩ := hsent hlt
      exact ⟨_, if_pos hlt, Step.unique s _ s₁ s' hs₁ hs ▸ hshows⟩
    · intro l' hl'
      rw [Transcript.handle] at hl'
      split at hl'
      · rename_i hlt
        cases hl'
        exact hsent hlt
      · cases hl'
  | editMsg author id msg =>
    have hedit : 0 ≤ id ∧ id < l.length → ∃ s', Step s (.editMsg author id msg) s' ∧
        Shows (l.modify id.toNat fun p ↦ (p.1, msg)) s' := by
      intro hid
      obtain ⟨s', hrun, -, he⟩ := hI.editMsg ((h.alive id).2 hid) author msg
      rw [← Int.toNat_of_nonneg hid.1] at he
      exact ⟨s', .of_run hrun, h.editsOnly he⟩
    constructor
    · intro s' hs
      by_cases hid : 0 ≤ id ∧ id < l.length
      · obtain ⟨s₁, hs₁, hshows⟩ := hedit hid
        exact ⟨_, if_pos hid, Step.unique s _ s₁ s' hs₁ hs ▸ hshows⟩
      · exact absurd hs (editMsg_not_step hI.manager fun ha ↦ hid ((h.alive id).1 ha))
    · intro l' hl'
      rw [Transcript.handle] at hl'
      split at hl'
      · rename_i hid
        cases hl'
        exact hedit hid
      · cases hl'

theorem exists_transcript_of_reaches (h : Reaches ps s) :
    ∃ l, transcript ps = some l ∧ Shows l s := by
  refine h.invariant_events (I := fun ps s ↦ ∃ l, transcript ps = some l ∧ Shows l s)
    ⟨[], rfl, shows_init⟩ ?_
  rintro ps s p s' hr ⟨l, hl, hshows⟩ hs
  obtain ⟨l', hl', hshows'⟩ := (hshows.step (inv_of_reaches hr) p).1 s' hs
  exact ⟨l', by rw [transcript_append_singleton, hl]; exact hl', hshows'⟩

theorem shows_of_reaches (h : Reaches ps s) (hl : transcript ps = some l) : Shows l s := by
  obtain ⟨l', hl', hshows⟩ := exists_transcript_of_reaches h
  obtain rfl := Option.some_inj.1 (hl.symm.trans hl')
  exact hshows

/-- **The server is a list of messages.**  It gets through the packets that the list takes, and
through no others, and has the messages of the list then. -/
theorem transcript_of_reaches (ps : List DataPacket) :
    (∀ s, Reaches ps s → ∃ l, transcript ps = some l ∧ Shows l s) ∧
      ∀ l, transcript ps = some l → ∃ s, Reaches ps s ∧ Shows l s := by
  refine ⟨fun s h ↦ exists_transcript_of_reaches h, ?_⟩
  induction ps using List.reverseRecOn with
  | nil =>
    intro l hl
    cases hl
    exact ⟨init, .nil, shows_init⟩
  | append_singleton ps p ih =>
    intro l' hl'
    rw [transcript_append_singleton] at hl'
    obtain ⟨l, hl, hl'⟩ := Option.bind_eq_some_iff.1 hl'
    obtain ⟨s, hr, hshows⟩ := ih l hl
    obtain ⟨s', hs, hshows'⟩ := (hshows.step (inv_of_reaches hr) p).2 l' hl'
    exact ⟨s', hr.snoc hs, hshows'⟩

example : transcript [.sendMsg "ann" "hello", .sendMsg "bob" "hi", .editMsg "bob" 0 "bye"] =
    some [("ann", "bye"), ("bob", "hi")] := rfl

end ChatServer

end AutoSync
