import AutoSync.Network.ClientHandlerManager

/-!
# Taking back the handlers of silent clients

`acceptClient` never enters a handler into `chBusy`, so the part of it that takes handlers back is
never put to use.  This file asks whether it would work.  A `Pool` is a manager whose three
collections are as they are meant to be; the seconds pass and the clients ping, and then another
client is accepted.

`reclaimed_iff` says that this goes well exactly when nothing has to be taken back.  A tick that
unbinds a handler overwrites its identifier, and `acceptClient` looks there for the entry of the
map that it is to erase.
-/

set_option autoImplicit false

namespace AutoSync

open Transition

/-! ## One handler between two acceptances

As long as nobody is accepted, a handler is changed by ticks and by the pings of its own client
only.  So it can be followed on its own: the seconds its client has left are a function of the
events, and it is unbound once they have run out. -/

namespace ClientHandler

variable {h : ClientHandler} {cid : CID} {es : List ClientHandlerManager.Event}

/-- What an event does to a handler in `chBusy` that the map finds for `cid`. -/
def see (cid : CID) (h : ClientHandler) : ClientHandlerManager.Event → ClientHandler
  | .acceptClient _ _ => h
  | .pingReceived mCID => if mCID = cid then h.resetTimeout else h
  | .tick => h.tick

/-- The handler after some events, one after the other. -/
def after (cid : CID) (es : List ClientHandlerManager.Event) (h : ClientHandler) : ClientHandler :=
  es.foldl (see cid) h

theorem after_concat (e : ClientHandlerManager.Event) :
    h.after cid (es ++ [e]) = (h.after cid es).see cid e := by
  rw [after, List.foldl_append]
  rfl

/-- What an event does to the seconds left: a tick takes one, a ping gives all of them back. -/
def countdown (cid : CID) (k : ℤ) : ClientHandlerManager.Event → ℤ
  | .acceptClient _ _ => k
  | .pingReceived mCID => if mCID = cid then (maxSecondsUntilTimeout : ℤ) else k
  | .tick => k - 1

/-- The seconds left after some events, of `k` before them, which may go below zero. -/
def remaining (cid : CID) (k : ℤ) (es : List ClientHandlerManager.Event) : ℤ :=
  es.foldl (countdown cid) k

theorem remaining_concat {k : ℤ} (e : ClientHandlerManager.Event) :
    remaining cid k (es ++ [e]) = countdown cid (remaining cid k es) e := by
  rw [remaining, List.foldl_append]
  rfl

/-- The client's time is up at some moment in the course of the events. -/
def RunsOut (h : ClientHandler) (es : List ClientHandlerManager.Event) : Prop :=
  ∃ pre, pre <+: es ∧ remaining h.cid h.secondsUntilTimeout pre = 0

theorem runsOut_concat {e : ClientHandlerManager.Event} : h.RunsOut (es ++ [e]) ↔
    h.RunsOut es ∨ remaining h.cid h.secondsUntilTimeout (es ++ [e]) = 0 := by
  constructor
  · rintro ⟨pre, hpre, hzero⟩
    rcases List.prefix_concat_iff.1 hpre with rfl | hpre
    · exact .inr hzero
    · exact .inl ⟨pre, hpre, hzero⟩
  · rintro (⟨pre, hpre, hzero⟩ | hzero)
    · exact ⟨pre, hpre.trans (List.prefix_append es [e]), hzero⟩
    · exact ⟨_, List.prefix_rfl, hzero⟩

theorem secondsUntilTimeout_see (e : ClientHandlerManager.Event) :
    (h.see cid e).secondsUntilTimeout = countdown cid h.secondsUntilTimeout e := by
  cases e with
  | acceptClient mIp mPort => rfl
  | pingReceived mCID =>
    rw [see, countdown]
    split <;> rfl
  | tick =>
    simp only [see, tick, countdown]
    split <;> rfl

theorem secondsUntilTimeout_after :
    (h.after cid es).secondsUntilTimeout = remaining cid h.secondsUntilTimeout es := by
  induction es using List.reverseRecOn with
  | nil => rfl
  | append_singleton es e ih => rw [after_concat, secondsUntilTimeout_see, ih, remaining_concat]

/-- The handler is bound to no client, and has no identifier. -/
def Unbound (h : ClientHandler) : Prop := h.busy = false ∧ h.cid = nullCID

/-- Nothing but `acceptClient` binds a handler, so that an unbound one stays unbound. -/
theorem Unbound.see (hu : h.Unbound) (e : ClientHandlerManager.Event) : (h.see cid e).Unbound := by
  cases e with
  | acceptClient mIp mPort => exact hu
  | pingReceived mCID =>
    rw [ClientHandler.see]
    split
    · exact hu
    · exact hu
  | tick =>
    simp only [ClientHandler.see, tick]
    split
    · exact ⟨rfl, rfl⟩
    · exact hu

/-- A step of a handler whose client's time is not up: it is unbound if that makes it up, and else
keeps its client. -/
theorem see_bound (cid : CID) (hk : h.secondsUntilTimeout ≠ 0)
    (e : ClientHandlerManager.Event) :
    ((h.see cid e).secondsUntilTimeout = 0 → (h.see cid e).Unbound) ∧
      ((h.see cid e).secondsUntilTimeout ≠ 0 →
        (h.see cid e).busy = h.busy ∧ (h.see cid e).cid = h.cid) := by
  cases e with
  | acceptClient mIp mPort => exact ⟨fun h0 ↦ absurd h0 hk, fun _ ↦ ⟨rfl, rfl⟩⟩
  | pingReceived mCID =>
    have hmax : (maxSecondsUntilTimeout : ℤ) ≠ 0 := by decide
    rw [see]
    split
    · exact ⟨fun h0 ↦ absurd h0 hmax, fun _ ↦ ⟨rfl, rfl⟩⟩
    · exact ⟨fun h0 ↦ absurd h0 hk, fun _ ↦ ⟨rfl, rfl⟩⟩
  | tick =>
    simp only [see, tick]
    split
    · rename_i h0
      exact ⟨fun _ ↦ ⟨rfl, rfl⟩, fun hne ↦ absurd h0 hne⟩
    · rename_i hne
      exact ⟨fun h0 ↦ absurd h0 hne, fun _ ↦ ⟨rfl, rfl⟩⟩

/-- **One handler**: it is unbound once its client's time has been up, and keeps its client until
then. -/
theorem after_bound (hk : 0 < h.secondsUntilTimeout) (es : List ClientHandlerManager.Event) :
    (h.RunsOut es → (h.after h.cid es).Unbound) ∧
      (¬h.RunsOut es → (h.after h.cid es).busy = h.busy ∧ (h.after h.cid es).cid = h.cid) := by
  induction es using List.reverseRecOn with
  | nil =>
    refine ⟨?_, fun _ ↦ ⟨rfl, rfl⟩⟩
    rintro ⟨pre, hpre, hzero⟩
    rw [List.prefix_nil.1 hpre] at hzero
    exact absurd hzero hk.ne'
  | append_singleton es e ih =>
    rw [runsOut_concat, after_concat]
    by_cases hout : h.RunsOut es
    · exact ⟨fun _ ↦ (ih.1 hout).see e, fun hnot ↦ absurd (.inl hout) hnot⟩
    · obtain ⟨hbusy, hcid⟩ := ih.2 hout
      -- the time was not up before the event
      have hne : (h.after h.cid es).secondsUntilTimeout ≠ 0 := by
        rw [secondsUntilTimeout_after]
        exact fun hzero ↦ hout ⟨es, List.prefix_rfl, hzero⟩
      obtain ⟨hzero, hpos⟩ := see_bound h.cid hne e
      rw [← after_concat, secondsUntilTimeout_after, after_concat] at hzero hpos
      rw [hbusy, hcid] at hpos
      exact ⟨fun hor ↦ hzero (hor.resolve_left hout), fun hnot ↦ hpos fun h0 ↦ hnot (.inr h0)⟩

end ClientHandler

namespace ClientHandlerManager

variable {m m₁ m' : ClientHandlerManager} {es : List Event} {mIp : IpAddress} {mPort : Port}

/-! ## The manager between two acceptances

All busy handlers are changed at once, each as it is by itself, and the collections stay as they
are: it is only with the next acceptance that handlers are moved and the map is changed. -/

/-- The three collections are as they are meant to be, which the program itself never brings
about. -/
structure Pool (m : ClientHandlerManager) : Prop where
  valid : ∀ c ∈ m.chAvailable ++ m.chBusy, c < m.clientHandlers.length
  nodup : (m.chAvailable ++ m.chBusy).Nodup
  /-- The busy handlers are bound, and their clients have time left. -/
  bound : ∀ c ∈ m.chBusy, (m.handler c).busy = true ∧ (m.handler c).cid ≠ nullCID ∧
    0 < (m.handler c).secondsUntilTimeout
  /-- The map has the identifiers of the busy handlers, and no others. -/
  chMap : ∀ (cid : CID) (c : HandlerPtr), m.chMap[cid]? = some c ↔
    c ∈ m.chBusy ∧ (m.handler c).cid = cid
  /-- All of them have been given out. -/
  issued : ∀ c ∈ m.chBusy, (m.handler c).cid < m.nextCID

/-- What a run without acceptances has done to the manager: to its handlers, and to nothing else. -/
structure Elapsed (m : ClientHandlerManager) (es : List Event) (m₁ : ClientHandlerManager) :
    Prop where
  nextCID : m₁.nextCID = m.nextCID
  length : m₁.clientHandlers.length = m.clientHandlers.length
  chAvailable : m₁.chAvailable = m.chAvailable
  chBusy : m₁.chBusy = m.chBusy
  chMap : m₁.chMap = m.chMap
  handler : ∀ c ∈ m.chBusy, m₁.handler c = (m.handler c).after (m.handler c).cid es

theorem handler_modify (m : ClientHandlerManager) (f : ClientHandler → ClientHandler)
    {c i : HandlerPtr} (hi : i < m.clientHandlers.length) :
    handler { m with clientHandlers := m.clientHandlers.modify c f } i =
      if c = i then f (m.handler i) else m.handler i := by
  simp only [handler, List.getD_eq_getElem?_getD, List.getElem?_modify,
    List.getElem?_eq_getElem hi]
  split <;> rfl

theorem getElem?_foldl_modify (f : ClientHandler → ClientHandler) (i : HandlerPtr) :
    ∀ {l : List HandlerPtr} (hs : List ClientHandler), l.Nodup →
      (l.foldl (fun hs c ↦ hs.modify c f) hs)[i]? = if i ∈ l then hs[i]?.map f else hs[i]?
  | [], _, _ => rfl
  | c :: l, hs, hl => by
    obtain ⟨hc, hl⟩ := List.nodup_cons.1 hl
    rw [List.foldl_cons, getElem?_foldl_modify f i _ hl, List.getElem?_modify]
    by_cases hci : c = i
    · subst hci
      simp [hc]
    · simp [hci, Ne.symm hci]

/-- A tick reaches every busy handler once, as none of them is there twice. -/
theorem handler_tick (hm : m.chBusy.Nodup) {c : HandlerPtr} (hc : c ∈ m.chBusy)
    (hlt : c < m.clientHandlers.length) : m.tick.handler c = (m.handler c).tick := by
  simp only [handler, tick, List.getD_eq_getElem?_getD]
  rw [getElem?_foldl_modify _ c _ hm, if_pos hc, List.getElem?_eq_getElem hlt]
  rfl

theorem length_tick (m : ClientHandlerManager) :
    m.tick.clientHandlers.length = m.clientHandlers.length := by
  have hfold : ∀ (l : List HandlerPtr) (hs : List ClientHandler),
      (l.foldl (fun hs c ↦ hs.modify c ClientHandler.tick) hs).length = hs.length := by
    intro l
    induction l with
    | nil => exact fun _ ↦ rfl
    | cons c l ih => exact fun hs ↦ (ih _).trans (List.length_modify ..)
  exact hfold _ _

theorem Pool.nodup_chBusy (hp : m.Pool) : m.chBusy.Nodup := (List.nodup_append.1 hp.nodup).2.1

theorem Pool.valid_chBusy (hp : m.Pool) {c : HandlerPtr} (hc : c ∈ m.chBusy) :
    c < m.clientHandlers.length := hp.valid c (List.mem_append_right _ hc)

/-- **One event** changes every handler as it would change it by itself. -/
theorem Elapsed.step (hp : m.Pool) (hE : Elapsed m es m₁) {e : Event} (he : e.isAccept = false)
    (hs : Step m₁ e m') : Elapsed m (es ++ [e]) m' := by
  cases hs with
  | acceptClient h => cases he
  | tick =>
    refine ⟨hE.nextCID, (length_tick m₁).trans hE.length, hE.chAvailable, hE.chBusy, hE.chMap, ?_⟩
    intro c hc
    rw [handler_tick (by rw [hE.chBusy]; exact hp.nodup_chBusy) (by rwa [hE.chBusy])
      (by rw [hE.length]; exact hp.valid_chBusy hc), hE.handler c hc, ClientHandler.after_concat]
    rfl
  | @pingReceived mCID m' h =>
    obtain ⟨ch, hch, rfl⟩ := pingReceived_eq_ok h
    rw [hE.chMap] at hch
    refine ⟨hE.nextCID, (List.length_modify ..).trans hE.length, hE.chAvailable, hE.chBusy,
      hE.chMap, ?_⟩
    intro c hc
    rw [handler_modify _ _ (by rw [hE.length]; exact hp.valid_chBusy hc), hE.handler c hc,
      ClientHandler.after_concat, ClientHandler.see]
    -- the handler found for the identifier is the one that has it
    have hiff : ch = c ↔ mCID = (m.handler c).cid := by
      constructor
      · rintro rfl
        exact ((hp.chMap mCID ch).1 hch).2.symm
      · rintro rfl
        exact Option.some_inj.1 (hch.symm.trans ((hp.chMap _ c).2 ⟨hc, rfl⟩))
    simp only [hiff]

/-- **The run** changes every handler as it would change it by itself, and none of the
collections. -/
theorem elapsed_of_run (hp : m.Pool) (h : Run Step m es m₁)
    (hes : ∀ e ∈ es, e.isAccept = false) : Elapsed m es m₁ := by
  refine h.invariant_events (I := fun es m₁ ↦ (∀ e ∈ es, e.isAccept = false) → Elapsed m es m₁)
    (fun _ ↦ ⟨rfl, rfl, rfl, rfl, rfl, fun _ _ ↦ rfl⟩) ?_ hes
  intro es m₁ e m₂ _ ih hs hes
  exact (ih fun e he ↦ hes e (List.mem_append_left _ he)).step hp
    (hes e (List.mem_append_right _ (List.mem_singleton_self e))) hs

/-! ## The next acceptance

Handlers whose clients' time was up are taken back, and their identifiers should go from the map.
They are erased by the identifier that the handler has, but the tick has already taken that away.
So the entry stays, and the next client gets the handler that it leads to. -/

theorem handler_readied {c : HandlerPtr} (hc : c < m.clientHandlers.length) :
    m.readied.handler c = m.handler c := by
  rw [readied]
  split
  · simp [createClientHandler, reclaim, handler, List.getElem?_append_left hc]
  · rfl

theorem length_le_readied (m : ClientHandlerManager) :
    m.clientHandlers.length ≤ m.readied.clientHandlers.length := by
  rw [readied]
  split
  · simp [createClientHandler, reclaim]
  · exact le_rfl

/-- A handler that `acceptClient` may bind was free, or has been taken back, or is new. -/
theorem mem_chAvailable_readied {c : HandlerPtr} (hc : c ∈ m.readied.chAvailable) :
    (c ∈ m.chAvailable ∨ (c ∈ m.chBusy ∧ (m.handler c).busy = false)) ∨
      (c = m.clientHandlers.length ∧ c < m.readied.clientHandlers.length) := by
  have hreclaim : c ∈ m.reclaim.chAvailable →
      c ∈ m.chAvailable ∨ (c ∈ m.chBusy ∧ (m.handler c).busy = false) := by
    intro h
    rcases List.mem_append.1 h with h | h
    · exact .inl h
    · obtain ⟨hbusy, hfree⟩ := List.mem_filter.1 h
      exact .inr ⟨hbusy, by simpa using hfree⟩
  rw [readied] at hc ⊢
  split at hc
  · rename_i hempty
    rcases List.mem_append.1 hc with h | h
    · exact .inl (hreclaim h)
    · refine .inr ⟨List.mem_singleton.1 h, ?_⟩
      rw [if_pos hempty, List.mem_singleton.1 h]
      simp [createClientHandler]
  · exact .inl (hreclaim hc)

theorem chMap_readied (m : ClientHandlerManager) (cid : CID) : m.readied.chMap[cid]? =
    if ∃ c ∈ m.chBusy, (m.handler c).busy = false ∧ (m.handler c).cid = cid then none
    else m.chMap[cid]? := by
  have hmap : m.readied.chMap = m.reclaim.chMap := by
    rw [readied]
    split <;> rfl
  rw [hmap]
  simp only [reclaim, OrdMap.lookup_foldl_erase, List.mem_map, List.mem_filter,
    Bool.not_eq_eq_eq_not, Bool.not_true, and_assoc]

/-- What the manager is meant to be like after the acceptance, as to those who were busy before. -/
structure Reclaimed (m m₁ m' : ClientHandlerManager) : Prop where
  /-- The map finds for an identifier the handler that has it. -/
  current : ∀ (cid : CID) (c : HandlerPtr), m'.chMap[cid]? = some c → (m'.handler c).cid = cid
  unshared : ∀ (cid₁ cid₂ : CID) (c : HandlerPtr), m'.chMap[cid₁]? = some c →
    m'.chMap[cid₂]? = some c → cid₁ = cid₂
  /-- It has not got the identifiers of the handlers unbound by a tick. -/
  gone : ∀ c ∈ m.chBusy, (m₁.handler c).busy = false → m'.has (m.handler c).cid = false

/-- The handlers taken back have no identifier left to erase from the map. -/
theorem Elapsed.chMap_readied (hp : m.Pool) (hE : Elapsed m es m₁) (cid : CID) :
    m₁.readied.chMap[cid]? = m.chMap[cid]? := by
  rw [ClientHandlerManager.chMap_readied, hE.chMap, ite_eq_right_iff]
  rintro ⟨c, hc, hfree, rfl⟩
  rw [hE.chBusy] at hc
  obtain ⟨hbusy, hne, hpos⟩ := hp.bound c hc
  rw [hE.handler c hc] at hfree ⊢
  obtain ⟨hout, hin⟩ := ClientHandler.after_bound hpos es
  by_cases h : (m.handler c).RunsOut es
  · -- no busy handler had the null identifier
    rw [(hout h).2, eq_comm, Option.eq_none_iff_forall_ne_some]
    intro c' hc'
    obtain ⟨hb, hnull⟩ := (hp.chMap _ c').1 hc'
    exact (hp.bound c' hb).2.1 hnull
  · rw [(hin h).1, hbusy] at hfree
    cases hfree

/-- A busy handler whose client's time has not been up is as it was. -/
theorem Elapsed.bound (hp : m.Pool) (hE : Elapsed m es m₁) {c : HandlerPtr} (hc : c ∈ m.chBusy)
    (hin : ¬(m.handler c).RunsOut es) :
    (m₁.handler c).busy = true ∧ (m₁.handler c).cid = (m.handler c).cid := by
  obtain ⟨hbusy, hcid⟩ := (ClientHandler.after_bound (hp.bound c hc).2.2 es).2 hin
  rw [hE.handler c hc]
  exact ⟨hbusy.trans (hp.bound c hc).1, hcid⟩

/-- When no client's time has been up, the handler for the next client is none of the busy ones. -/
theorem Elapsed.not_mem_chBusy (hp : m.Pool) (hE : Elapsed m es m₁)
    (hin : ∀ c ∈ m.chBusy, ¬(m.handler c).RunsOut es) {ch : HandlerPtr}
    (hch : ch ∈ m₁.readied.chAvailable) :
    ch ∉ m.chBusy ∧ ch < m₁.readied.clientHandlers.length := by
  rcases mem_chAvailable_readied hch with (h | ⟨h, hfree⟩) | ⟨h, hlt⟩
  · rw [hE.chAvailable] at h
    refine ⟨fun hb ↦ (List.nodup_append.1 hp.nodup).2.2 ch h ch hb rfl, ?_⟩
    refine lt_of_lt_of_le ?_ (length_le_readied m₁)
    rw [hE.length]
    exact hp.valid ch (List.mem_append_left _ h)
  · rw [hE.chBusy] at h
    rw [(hE.bound hp h (hin ch h)).1] at hfree
    cases hfree
  · refine ⟨fun hb ↦ ?_, hlt⟩
    have hvalid := hp.valid_chBusy hb
    rw [h, hE.length] at hvalid
    exact lt_irrefl _ hvalid

/-- **When taking back handlers works**: when there is none to take back, as the time of no client
has been up. -/
theorem reclaimed_iff {ch : HandlerPtr} (hp : m.Pool) (hes : ∀ e ∈ es, e.isAccept = false)
    (h : Run Step m es m₁) (ha : m₁.acceptClient mIp mPort = .ok (ch, m')) :
    Reclaimed m m₁ m' ↔ ∀ c ∈ m.chBusy, ¬(m.handler c).RunsOut es := by
  have hE := elapsed_of_run hp h hes
  obtain ⟨hlast, rfl⟩ := acceptClient_eq_ok ha
  have hchMap : ∀ cid, (m₁.readied.bindTo ch m₁.nextCID mIp mPort).chMap[cid]? =
      if cid = m.nextCID then some ch else m.chMap[cid]? := by
    intro cid
    rw [bindTo, OrdMap.lookup_insert, hE.chMap_readied hp, hE.nextCID]
  constructor
  · intro hR c hc hout
    have hbound := ClientHandler.after_bound (hp.bound c hc).2.2 es
    have hgone := hR.gone c hc (by rw [hE.handler c hc]; exact (hbound.1 hout).1)
    rw [has, hchMap, if_neg (hp.issued c hc).ne, (hp.chMap _ c).2 ⟨hc, rfl⟩] at hgone
    cases hgone
  · intro hin
    obtain ⟨hch, hlt⟩ := hE.not_mem_chBusy hp hin (List.mem_of_getLast? hlast)
    have hcurrent : ∀ (cid : CID) (c : HandlerPtr),
        (m₁.readied.bindTo ch m₁.nextCID mIp mPort).chMap[cid]? = some c →
          ((m₁.readied.bindTo ch m₁.nextCID mIp mPort).handler c).cid = cid := by
      intro cid c hc
      rw [hchMap] at hc
      split at hc
      · rename_i hnew
        obtain rfl := Option.some_inj.1 hc
        have hbind := handler_modify m₁.readied
          (ClientHandler.bindToClient m₁.nextCID mIp mPort) (c := ch) hlt
        rw [if_pos rfl] at hbind
        exact (congrArg ClientHandler.cid hbind).trans (hE.nextCID.trans hnew.symm)
      · obtain ⟨hb, hcid⟩ := (hp.chMap cid c).1 hc
        have hold := handler_modify m₁.readied (ClientHandler.bindToClient m₁.nextCID mIp mPort)
          (c := ch) ((hE.length ▸ hp.valid_chBusy hb).trans_le (length_le_readied m₁))
        rw [if_neg fun heq : ch = c ↦ hch (heq ▸ hb),
          handler_readied (hE.length ▸ hp.valid_chBusy hb)] at hold
        exact (congrArg ClientHandler.cid hold).trans ((hE.bound hp hb (hin c hb)).2.trans hcid)
    refine ⟨hcurrent, fun cid₁ cid₂ c h₁ h₂ ↦ ?_, fun c hc hfree ↦ ?_⟩
    · rw [← hcurrent cid₁ c h₁, hcurrent cid₂ c h₂]
    · rw [(hE.bound hp hc (hin c hc)).1] at hfree
      cases hfree

/-- One client, who has `k` seconds left, and nobody else. -/
def oneBusy (k : ℤ) : ClientHandlerManager where
  nextCID := 1
  clientHandlers := [{ ClientHandler.fresh.bindToClient 0 1 27016 with secondsUntilTimeout := k }]
  chAvailable := []
  chBusy := [0]
  chMap := (∅ : OrdMap CID HandlerPtr).insert 0 0
  toDisconnect := []

theorem pool_oneBusy {k : ℤ} (hk : 0 < k) : (oneBusy k).Pool where
  valid c hc := by
    rw [List.mem_singleton.1 hc]
    exact Nat.zero_lt_one
  nodup := List.nodup_singleton 0
  bound c hc := by
    rw [List.mem_singleton.1 hc]
    have hcid : (0 : ℤ) ≠ -1 := by decide
    exact ⟨rfl, hcid, hk⟩
  chMap cid c := by
    have hlookup : (oneBusy k).chMap[cid]? = if cid = 0 then some 0 else none := by
      simp [oneBusy, OrdMap.lookup_insert]
    have hcid : ((oneBusy k).handler 0).cid = 0 := rfl
    rw [hlookup]
    constructor
    · intro h
      split at h
      · rename_i h0
        cases h
        exact ⟨List.mem_singleton_self 0, hcid.trans h0.symm⟩
      · cases h
    · rintro ⟨hc, rfl⟩
      rw [List.mem_singleton.1 hc, hcid, if_pos rfl]
  issued c hc := by
    rw [List.mem_singleton.1 hc]
    exact Int.zero_lt_one

/-- The client pings in time, so that a tick does not end its time. -/
theorem reclaimed_iff_ping : ∃ m₁ ch m', Run Step (oneBusy 1) [.pingReceived 0, .tick] m₁ ∧
    m₁.acceptClient 2 27016 = .ok (ch, m') ∧ Reclaimed (oneBusy 1) m₁ m' := by
  have h : Run Step (oneBusy 1) [.pingReceived 0, .tick] _ :=
    (Run.single (.pingReceived rfl)).snoc .tick
  refine ⟨_, _, _, h, rfl, (reclaimed_iff (pool_oneBusy Int.zero_lt_one) (by decide) h rfl).2 ?_⟩
  rintro c hc ⟨pre, hpre, hzero⟩
  obtain rfl := List.mem_singleton.1 hc
  have hleft : ∀ pre ∈ List.inits [Event.pingReceived 0, .tick],
      ClientHandler.remaining 0 1 pre ≠ 0 := by decide
  exact hleft pre ((List.mem_inits pre _).2 hpre) hzero

/-- **A client whose time is up keeps its entry in the map**, which leads to the next client. -/
theorem expired_client_kept : ∃ m₁ ch m', (oneBusy 1).Pool ∧ Run Step (oneBusy 1) [.tick] m₁ ∧
    m₁.acceptClient 2 27016 = .ok (ch, m') ∧ m'.chMap[(0 : CID)]? = some ch ∧
      (m'.handler ch).cid = 1 ∧ ¬Reclaimed (oneBusy 1) m₁ m' := by
  refine ⟨_, _, _, pool_oneBusy Int.zero_lt_one, .single .tick, rfl, rfl, rfl, fun hR ↦ ?_⟩
  exact absurd (hR.current 0 0 rfl) (by decide)

end ClientHandlerManager

end AutoSync
