import AutoSync.Common
import AutoSync.Lib.OrdMap
import AutoSync.Lib.Transition

/-!
# The server's list of clients

A `ClientHandler` is the server's record of one client: its identifier and address, and a countdown
that every tick lowers and every ping resets.  The `ClientHandlerManager` owns the handlers, and
keeps pointers to them in three collections: `chAvailable` has the free ones, `chBusy` those bound
to a client, `chMap` finds a handler by its client's identifier.  A pointer is a position in the
list of all handlers ever created, which only grows.

`acceptClient` is meant to take back the handlers that have timed out, drop their clients from the
map, and bind a free handler to the new client.  But it never enters the handler it binds into
`chBusy`.  `Inv` is what follows: `chBusy` and `chAvailable` are empty in every state, no tick ever
counts anything down, no handler is ever free again, and the map has every client ever accepted.
`conserved_iff` and `disconnects_iff` say when the manager nevertheless does what it is meant to.
-/

set_option autoImplicit false

namespace AutoSync

open Transition

/-- An address on the network, as a number of four bytes. -/
abbrev IpAddress : Type := BitVec 32

/-- A port, as a number of two bytes. -/
abbrev Port : Type := BitVec 16

/-- The number of ticks after which a client has timed out. -/
def maxSecondsUntilTimeout : ℕ := 5

/-- The server's record of one client, or of none if it is free. -/
structure ClientHandler where
  cid : CID
  ip : IpAddress
  port : Port
  secondsUntilTimeout : ℤ
  busy : Bool

namespace ClientHandler

/-- A new handler.  The source leaves the port and the countdown uninitialised; nothing reads them
before the handler is bound. -/
def fresh : ClientHandler where
  cid := nullCID
  ip := 0
  port := 0
  secondsUntilTimeout := 0
  busy := false

def bindToClient (mCID : CID) (mIp : IpAddress) (mPort : Port) (_ : ClientHandler) :
    ClientHandler where
  cid := mCID
  ip := mIp
  port := mPort
  secondsUntilTimeout := maxSecondsUntilTimeout
  busy := true

def unbindFromClient (c : ClientHandler) : ClientHandler :=
  { c with cid := nullCID, busy := false }

/-- One second passes: the body of the loop over `chBusy` in `runTimeout`. -/
def tick (c : ClientHandler) : ClientHandler :=
  let c := { c with secondsUntilTimeout := c.secondsUntilTimeout - 1 }
  if c.secondsUntilTimeout = 0 then c.unbindFromClient else c

/-- The countdown starts again, as every ping makes it do. -/
def resetTimeout (c : ClientHandler) : ClientHandler :=
  { c with secondsUntilTimeout := maxSecondsUntilTimeout }

end ClientHandler

/-- A pointer to a handler, as its position among all handlers there are. -/
abbrev HandlerPtr : Type := ℕ

structure ClientHandlerManager where
  nextCID : CID
  clientHandlers : List ClientHandler
  chAvailable : List HandlerPtr
  chBusy : List HandlerPtr
  chMap : OrdMap CID HandlerPtr
  toDisconnect : List CID

namespace ClientHandlerManager

variable {m m' : ClientHandlerManager} {mIp : IpAddress} {mPort : Port}

/-- No client yet, and no handler: the state of a new manager. -/
def init : ClientHandlerManager where
  nextCID := 0
  clientHandlers := []
  chAvailable := []
  chBusy := []
  chMap := ∅
  toDisconnect := []

/-- The handler a pointer refers to, for pointers that refer to one. -/
def handler (m : ClientHandlerManager) (c : HandlerPtr) : ClientHandler :=
  m.clientHandlers.getD c ClientHandler.fresh

def createClientHandler (m : ClientHandlerManager) : ClientHandlerManager :=
  { m with
    clientHandlers := m.clientHandlers ++ [ClientHandler.fresh]
    chAvailable := m.chAvailable ++ [m.clientHandlers.length] }

/-- One pass of the loop of `runTimeout`, over all the handlers in `chBusy`. -/
def tick (m : ClientHandlerManager) : ClientHandlerManager :=
  { m with
    clientHandlers := m.chBusy.foldl (fun hs c ↦ hs.modify c ClientHandler.tick) m.clientHandlers }

/-- The part of `acceptClient` that takes back the handlers that have timed out. -/
def reclaim (m : ClientHandlerManager) : ClientHandlerManager :=
  let freed := m.chBusy.filter fun c ↦ !(m.handler c).busy
  let toDisconnect := freed.map fun c ↦ (m.handler c).cid
  { m with
    chAvailable := m.chAvailable ++ freed
    toDisconnect := toDisconnect
    chBusy := m.chBusy.filter fun c ↦ (m.handler c).busy
    chMap := toDisconnect.foldl (fun chMap iId ↦ chMap.erase iId) m.chMap }

/-- Accepts a client, and returns the handler bound to it. -/
def acceptClient (mIp : IpAddress) (mPort : Port) (m : ClientHandlerManager) :
    Except Error (HandlerPtr × ClientHandlerManager) := do
  if m.nextCID = maxInt then throw .overflow
  let cidToUse := m.nextCID
  let m := { m with nextCID := m.nextCID + 1 }.reclaim
  let m := if m.chAvailable.isEmpty then m.createClientHandler else m
  match m.chAvailable.getLast? with
  | none => throw .badIndex
  | some ch =>
    return (ch,
      { m with
        chAvailable := m.chAvailable.dropLast
        clientHandlers := m.clientHandlers.modify ch
          (ClientHandler.bindToClient cidToUse mIp mPort)
        chMap := m.chMap.insert cidToUse ch })

def has (m : ClientHandlerManager) (mCID : CID) : Bool := m.chMap[mCID]?.isSome

/-- `operator[]`, which raises an exception for an identifier that is not in the map. -/
def at' (m : ClientHandlerManager) (mCID : CID) : Except Error HandlerPtr :=
  match m.chMap[mCID]? with
  | none => .error .assertFailed
  | some ch => .ok ch

def pingReceived (mCID : CID) (m : ClientHandlerManager) : Except Error ClientHandlerManager := do
  let ch ← m.at' mCID
  return { m with clientHandlers := m.clientHandlers.modify ch ClientHandler.resetTimeout }

/-- A ping changes nothing when the countdown is where it starts. -/
theorem modify_resetTimeout_eq_iff (hs : List ClientHandler) (ch : HandlerPtr) :
    hs.modify ch ClientHandler.resetTimeout = hs ↔
      ∀ h, hs[ch]? = some h → h.secondsUntilTimeout = maxSecondsUntilTimeout := by
  constructor
  · intro heq h hh
    have := congrArg (fun l ↦ l[ch]?) heq
    rw [List.getElem?_modify_eq, hh] at this
    exact congrArg ClientHandler.secondsUntilTimeout (Option.some_inj.1 this).symm
  · intro hfull
    refine List.ext_getElem? fun c ↦ ?_
    rw [List.getElem?_modify]
    split
    · rename_i hc
      subst hc
      cases hh : hs[ch]? with
      | none => rfl
      | some h =>
        rw [Option.map_eq_map, Option.map_some, ClientHandler.resetTimeout, ← hfull h hh]
    · simp

/-! ## Accepting a client

`acceptClient` first takes back the handlers that have timed out, then makes sure that there is a
free one, and binds it.  The lemmas split the function at these points, so that what is known of
each part can be used by itself. -/

/-- The manager when `acceptClient` has made sure that there is a free handler. -/
def readied (m : ClientHandlerManager) : ClientHandlerManager :=
  let m := { m with nextCID := m.nextCID + 1 }.reclaim
  if m.chAvailable.isEmpty then m.createClientHandler else m

/-- The manager with a free handler bound to a client. -/
def bindTo (ch : HandlerPtr) (mCID : CID) (mIp : IpAddress) (mPort : Port)
    (m : ClientHandlerManager) : ClientHandlerManager :=
  { m with
    chAvailable := m.chAvailable.dropLast
    clientHandlers := m.clientHandlers.modify ch (ClientHandler.bindToClient mCID mIp mPort)
    chMap := m.chMap.insert mCID ch }

theorem acceptClient_eq (m : ClientHandlerManager) : m.acceptClient mIp mPort =
    if m.nextCID = maxInt then .error .overflow
    else match m.readied.chAvailable.getLast? with
      | none => .error .badIndex
      | some ch => .ok (ch, m.readied.bindTo ch m.nextCID mIp mPort) := by
  rw [acceptClient]
  split
  · rfl
  · show (match m.readied.chAvailable.getLast? with
      | none => throw .badIndex
      | some ch => return (ch, m.readied.bindTo ch m.nextCID mIp mPort) : Except Error _) = _
    cases m.readied.chAvailable.getLast? <;> rfl

theorem nextCID_readied (m : ClientHandlerManager) : m.readied.nextCID = m.nextCID + 1 := by
  rw [readied]
  split <;> rfl

/-- An acceptance that goes through binds a free handler to the next identifier. -/
theorem acceptClient_eq_ok {ch : HandlerPtr} (h : m.acceptClient mIp mPort = .ok (ch, m')) :
    m.readied.chAvailable.getLast? = some ch ∧ m' = m.readied.bindTo ch m.nextCID mIp mPort := by
  rw [acceptClient_eq] at h
  split at h
  · cases h
  · cases hlast : m.readied.chAvailable.getLast? with
    | none => rw [hlast] at h; cases h
    | some c => rw [hlast] at h; cases h; exact ⟨rfl, rfl⟩

/-- Accepting a client raises no exception: what can go wrong is undefined. -/
theorem acceptClient_ne_raised (ex : Exception) :
    m.acceptClient mIp mPort ≠ .error (.raised ex) := by
  rw [acceptClient_eq]
  split
  · exact fun h ↦ by cases h
  · cases m.readied.chAvailable.getLast? <;> exact fun h ↦ by cases h

/-! ## Runs

The operations of the manager in the order in which the threads of the server call them.  A tick is
a pass of the thread for timeouts, and all the others come from packets. -/

/-- The operations of the manager, as the server calls them. -/
inductive Event
  | acceptClient (mIp : IpAddress) (mPort : Port)
  | pingReceived (mCID : CID)
  | tick
  deriving DecidableEq

/-- A step of the manager, for operations that go through. -/
inductive Step (m : ClientHandlerManager) : Event → ClientHandlerManager → Prop
  | acceptClient {mIp mPort ch m'} (h : m.acceptClient mIp mPort = .ok (ch, m')) :
      Step m (.acceptClient mIp mPort) m'
  | pingReceived {mCID m'} (h : m.pingReceived mCID = .ok m') : Step m (.pingReceived mCID) m'
  | tick : Step m .tick m.tick

/-! ## What is always true

A handler that is bound is not put into `chBusy`, so that no tick ever reaches one and no handler is
taken back.  What looks like a pool is a list that only grows, and the invariant says just that. -/

/-- **The invariant**: no handler is ever entered into `chBusy`, so that every handler stays bound
to the one client it was created for. -/
structure Inv (m : ClientHandlerManager) : Prop where
  chAvailable : m.chAvailable = []
  chBusy : m.chBusy = []
  nextCID : m.nextCID = (m.clientHandlers.length : ℤ)
  bound : ∀ (c : HandlerPtr) (h : ClientHandler), m.clientHandlers[c]? = some h →
    h.cid = ((c : ℕ) : ℤ) ∧ h.busy = true
  chMap : ∀ (cid : CID) (c : HandlerPtr), m.chMap[cid]? = some c ↔
    c < m.clientHandlers.length ∧ cid = ((c : ℕ) : ℤ)

theorem inv_init : init.Inv where
  chAvailable := rfl
  chBusy := rfl
  nextCID := rfl
  bound c h hc := by simp [init] at hc
  chMap cid c := by simp [init]

/-- The manager after it has accepted a client: one more handler, under the next identifier. -/
def accepted (mIp : IpAddress) (mPort : Port) (m : ClientHandlerManager) :
    ClientHandlerManager where
  nextCID := m.nextCID + 1
  clientHandlers := m.clientHandlers ++
    [ClientHandler.fresh.bindToClient m.nextCID mIp mPort]
  chAvailable := []
  chBusy := []
  chMap := m.chMap.insert m.nextCID m.clientHandlers.length
  toDisconnect := []

/-- **Every accepted client gets a handler of its own.** -/
theorem Inv.acceptClient_eq (hI : m.Inv) : m.acceptClient mIp mPort =
    if m.nextCID = maxInt then .error .overflow
    else .ok (m.clientHandlers.length, m.accepted mIp mPort) := by
  have hmodify : (m.clientHandlers ++ [ClientHandler.fresh]).modify m.clientHandlers.length
      (ClientHandler.bindToClient m.nextCID mIp mPort) =
      m.clientHandlers ++ [ClientHandler.fresh.bindToClient m.nextCID mIp mPort] := by
    rw [List.modify_eq_take_cons_drop (by simp)]
    simp
  rw [acceptClient]
  split
  · rfl
  · simp [reclaim, hI.chBusy, hI.chAvailable, createClientHandler, accepted, hmodify, pure,
      Except.pure]

theorem Inv.accepted (hI : m.Inv) : (m.accepted mIp mPort).Inv where
  chAvailable := rfl
  chBusy := rfl
  nextCID := by
    simp [ClientHandlerManager.accepted, hI.nextCID]
  bound c h hc := by
    simp only [ClientHandlerManager.accepted, List.getElem?_append, List.getElem?_singleton] at hc
    split at hc
    · exact hI.bound c h hc
    · rename_i hlt
      split at hc
      · rename_i hzero
        rw [Option.some_inj] at hc
        have hlen : c = m.clientHandlers.length :=
          Nat.le_antisymm (Nat.le_of_sub_eq_zero hzero) (Nat.not_lt.1 hlt)
        rw [← hc, hlen]
        exact ⟨hI.nextCID, rfl⟩
      · exact absurd hc (by simp)
  chMap cid c := by
    simp only [ClientHandlerManager.accepted, OrdMap.lookup_insert, List.length_append,
      List.length_singleton, hI.nextCID]
    split
    · rename_i hcid
      rw [Option.some_inj, hcid, Int.ofNat_inj]
      constructor
      · rintro rfl; exact ⟨Nat.lt_succ_self _, rfl⟩
      · exact fun h ↦ h.2
    · rename_i hcid
      rw [hI.chMap]
      constructor
      · exact fun h ↦ ⟨Nat.lt_succ_of_lt h.1, h.2⟩
      · rintro ⟨hlt, rfl⟩
        refine ⟨lt_of_le_of_ne (Nat.lt_succ_iff.1 hlt) ?_, rfl⟩
        rintro rfl
        exact hcid rfl

/-- With `chBusy` empty a tick does nothing, as there is nothing to count down. -/
theorem Inv.tick_eq (hI : m.Inv) : m.tick = m := by
  have hfold : m.chBusy.foldl (fun hs c ↦ hs.modify c ClientHandler.tick) m.clientHandlers =
      m.clientHandlers := by
    rw [hI.chBusy]; rfl
  rw [tick, hfold]

theorem pingReceived_eq_ok {mCID : CID} (h : m.pingReceived mCID = .ok m') :
    ∃ ch, m.chMap[mCID]? = some ch ∧
      m' = { m with clientHandlers := m.clientHandlers.modify ch ClientHandler.resetTimeout } := by
  rw [pingReceived, at'] at h
  cases hch : m.chMap[mCID]? with
  | none => rw [hch] at h; cases h
  | some ch => rw [hch] at h; cases h; exact ⟨ch, rfl, rfl⟩

/-- Starting a countdown again is none of the invariant's business. -/
theorem Inv.resetTimeout (hI : m.Inv) (ch : HandlerPtr) :
    Inv { m with clientHandlers := m.clientHandlers.modify ch ClientHandler.resetTimeout } where
  chAvailable := hI.chAvailable
  chBusy := hI.chBusy
  nextCID := by rw [List.length_modify]; exact hI.nextCID
  bound c h hc := by
    rw [List.getElem?_modify, Option.map_eq_map, Option.map_eq_some_iff] at hc
    obtain ⟨h', hc', rfl⟩ := hc
    split
    · exact hI.bound c h' hc'
    · exact hI.bound c h' hc'
  chMap cid c := by rw [List.length_modify]; exact hI.chMap cid c

theorem Step.inv {e : Event} (hs : Step m e m') (hI : m.Inv) : m'.Inv := by
  cases hs with
  | acceptClient h =>
    rw [hI.acceptClient_eq] at h
    split at h
    · cases h
    · cases h; exact hI.accepted
  | pingReceived h =>
    obtain ⟨ch, -, rfl⟩ := pingReceived_eq_ok h
    exact hI.resetTimeout ch
  | tick => rwa [hI.tick_eq]

theorem inv_of_run {es : List Event} (h : Run Step init es m) : m.Inv :=
  h.invariant inv_init fun _ _ _ hI hs ↦ hs.inv hI

/-- The clients the handlers are bound to, in the order of their identifiers. -/
def bindings (m : ClientHandlerManager) : List (CID × IpAddress × Port) :=
  m.clientHandlers.map fun h ↦ (h.cid, h.ip, h.port)

theorem bindings_accepted :
    (m.accepted mIp mPort).bindings = m.bindings ++ [(m.nextCID, mIp, mPort)] := by
  simp [bindings, accepted, ClientHandler.bindToClient]

theorem bindings_resetTimeout (m : ClientHandlerManager) (ch : HandlerPtr) :
    bindings { m with clientHandlers := m.clientHandlers.modify ch ClientHandler.resetTimeout } =
      m.bindings := by
  refine List.ext_getElem? fun c ↦ ?_
  simp only [bindings, List.getElem?_map, List.getElem?_modify, Option.map_eq_map, Option.map_map]
  congr 1
  funext x
  simp only [Function.comp_apply]
  split <;> rfl

/-- The identifiers of the handlers are their positions, so no two are the same. -/
theorem Inv.nodup_bindings (hI : m.Inv) : (m.bindings.map Prod.fst).Nodup := by
  have hmap : m.bindings.map Prod.fst =
      (List.range m.clientHandlers.length).map fun c : ℕ ↦ (c : CID) := by
    refine List.ext_getElem? fun c ↦ ?_
    simp only [bindings, List.map_map, List.getElem?_map]
    cases hc : m.clientHandlers[c]? with
    | none =>
      rw [List.getElem?_eq_none_iff] at hc
      simp [hc]
    | some h =>
      obtain ⟨hlt, -⟩ := List.getElem?_eq_some_iff.1 hc
      simp [hlt, (hI.bound c h hc).1]
  rw [hmap]
  exact List.nodup_range.map fun a b h ↦ Int.ofNat_inj.1 h

/-- **What the map finds**: the handler bound to the client the identifier was given to. -/
theorem Inv.handler_of_mem_bindings (hI : m.Inv) {cid : CID} {a : IpAddress × Port}
    (h : (cid, a) ∈ m.bindings) : ∃ ch, m.chMap[cid]? = some ch ∧ (m.handler ch).cid = cid ∧
      ((m.handler ch).ip, (m.handler ch).port) = a := by
  obtain ⟨x, hx, he⟩ := List.mem_map.1 h
  obtain ⟨c, hc⟩ := List.getElem?_of_mem hx
  obtain ⟨hcid, ha⟩ := Prod.mk.inj he
  have hhandler : m.handler c = x := by rw [handler, List.getD, hc]; rfl
  obtain ⟨hlt, -⟩ := List.getElem?_eq_some_iff.1 hc
  refine ⟨c, (hI.chMap cid c).2 ⟨hlt, ?_⟩, by rw [hhandler, hcid], by rw [hhandler, ha]⟩
  rw [← hcid, (hI.bound c x hc).1]

theorem Inv.nonneg_of_mem_bindings (hI : m.Inv) {cid : CID} {a : IpAddress × Port}
    (h : (cid, a) ∈ m.bindings) : 0 ≤ cid := by
  obtain ⟨ch, hch, -⟩ := hI.handler_of_mem_bindings h
  obtain ⟨-, rfl⟩ := (hI.chMap cid ch).1 hch
  exact Int.natCast_nonneg ch

/-- Every identifier in the map was given to a client, with the handler that the map has for it. -/
theorem Inv.exists_binding (hI : m.Inv) {cid : CID} {ch : HandlerPtr}
    (h : m.chMap[cid]? = some ch) : ∃ a, (cid, a) ∈ m.bindings := by
  obtain ⟨hlt, rfl⟩ := (hI.chMap cid ch).1 h
  have hget := List.getElem?_eq_getElem hlt
  exact ⟨_, List.mem_map.2 ⟨_, List.getElem_mem hlt, by rw [(hI.bound ch _ hget).1]⟩⟩

/-- Is it the acceptance of a client, rather than a tick or a ping? -/
def Event.isAccept : Event → Bool
  | .acceptClient _ _ => true
  | _ => false

/-- The number of clients accepted by the events, which is the next identifier. -/
def accepts (es : List Event) : ℕ := es.countP Event.isAccept

theorem accepts_append (es fs : List Event) : accepts (es ++ fs) = accepts es + accepts fs :=
  List.countP_append

theorem length_of_run {es : List Event} (h : Run Step init es m) :
    m.clientHandlers.length = accepts es := by
  refine h.invariant_events (I := fun es m ↦ m.clientHandlers.length = accepts es) rfl ?_
  intro es m e m' hr ih hs
  have hI := inv_of_run hr
  rw [accepts_append, ← ih]
  cases hs with
  | acceptClient ha =>
    rw [hI.acceptClient_eq] at ha
    split at ha
    · cases ha
    · cases ha; simp [accepted, accepts, Event.isAccept]
  | pingReceived hp =>
    obtain ⟨ch, -, rfl⟩ := pingReceived_eq_ok hp
    simp [accepts, Event.isAccept]
  | tick => rw [hI.tick_eq]; simp [accepts, Event.isAccept]

/-! ## Conservation of handlers

What the collections are meant for: a free handler is in `chAvailable`, a bound one in `chBusy`, and
no handler in both or in neither.  It is lost with the first client. -/

/-- What the pool of handlers is meant to satisfy: every handler is in one of the two lists, once;
a free handler is not bound, and a bound one is busy. -/
structure Conserved (m : ClientHandlerManager) : Prop where
  once : ∀ c < m.clientHandlers.length, (m.chAvailable ++ m.chBusy).count c = 1
  available : ∀ c ∈ m.chAvailable, (m.handler c).busy = false
  busy : ∀ c < m.clientHandlers.length, (m.handler c).busy = true → c ∈ m.chBusy

/-- **When the pool is conserved**: as long as there is no handler at all. -/
theorem conserved_iff {es : List Event} (h : Run Step init es m) :
    m.Conserved ↔ ∀ mIp mPort, .acceptClient mIp mPort ∉ es := by
  have hI := inv_of_run h
  have hlen : m.clientHandlers.length = 0 ↔ ∀ mIp mPort, .acceptClient mIp mPort ∉ es := by
    rw [length_of_run h, accepts, List.countP_eq_zero]
    constructor
    · exact fun hnot mIp mPort hmem ↦ hnot _ hmem rfl
    · intro hnot e he
      cases e with
      | acceptClient mIp mPort => exact absurd he (hnot mIp mPort)
      | _ => exact Bool.false_ne_true
  rw [← hlen]
  constructor
  · intro hc
    by_contra hne
    have := hc.once 0 (Nat.pos_of_ne_zero hne)
    rw [hI.chAvailable, hI.chBusy] at this
    exact absurd this (by simp)
  · intro hzero
    refine ⟨fun c hc ↦ absurd hc (by omega), fun c hc ↦ ?_, fun c hc ↦ absurd hc (by omega)⟩
    rw [hI.chAvailable] at hc
    exact absurd hc (by simp)

/-- One client is accepted, and its handler is in neither list: it has been taken from the one and
not entered into the other. -/
theorem accept_loses_handler : ∃ m, Run Step init [.acceptClient 1 27016] m ∧ ¬m.Conserved := by
  refine ⟨_, .single (.acceptClient rfl), fun hc ↦ ?_⟩
  exact absurd (hc.once 0 (by decide)) (by decide)

theorem conserved_iff_ticks : ∃ m, Run Step init [.tick, .tick] m ∧ m.Conserved := by
  have h : Run Step init [.tick, .tick] _ := (Run.single .tick).snoc .tick
  exact ⟨_, h, (conserved_iff h).2 (by simp)⟩

/-! ## Timeouts

Whether a client is overdue can be told from the events, by the ticks since its last ping.  The
manager is meant to disconnect such a client when it accepts the next one, and never does. -/

/-- The identifier has been given to a client in the course of the events. -/
def Issued (cid : CID) (es : List Event) : Prop := 0 ≤ cid ∧ cid < (accepts es : ℤ)

theorem Issued.append {cid : CID} {es : List Event} (h : Issued cid es) (fs : List Event) :
    Issued cid (es ++ fs) := by
  refine ⟨h.1, h.2.trans_le (Int.ofNat_le.2 ?_)⟩
  rw [accepts_append]
  exact Nat.le_add_right _ _

/-- Every identifier ever given out stays connected, and no other is. -/
theorem has_iff {es : List Event} (h : Run Step init es m) {cid : CID} :
    m.has cid = true ↔ Issued cid es := by
  have hI := inv_of_run h
  rw [has, Option.isSome_iff_exists, Issued, ← length_of_run h]
  simp only [hI.chMap]
  constructor
  · rintro ⟨c, hc, rfl⟩
    exact ⟨Int.natCast_nonneg c, Int.ofNat_lt.2 hc⟩
  · rintro ⟨h0, hlt⟩
    exact ⟨cid.toNat, (Int.toNat_lt h0).2 hlt, (Int.toNat_of_nonneg h0).symm⟩

/-- The client has been silent for `maxSecondsUntilTimeout` ticks at the end of the events. -/
def Overdue (cid : CID) (es : List Event) : Prop :=
  ∃ pre post, es = pre ++ post ∧ Issued cid pre ∧ .pingReceived cid ∉ post ∧
    maxSecondsUntilTimeout ≤ post.count .tick

/-- The client has been silent for `maxSecondsUntilTimeout` ticks at some time. -/
def Lapsed (cid : CID) (es : List Event) : Prop :=
  ∃ pre mid post, es = pre ++ mid ++ post ∧ Issued cid pre ∧ .pingReceived cid ∉ mid ∧
    maxSecondsUntilTimeout ≤ mid.count .tick

/-- What the manager is meant to have done when it has just accepted a client as `new`: the clients
that are overdue are disconnected, and those that never were are not. -/
structure DisconnectsOverdue (es : List Event) (new : CID) (m : ClientHandlerManager) : Prop where
  overdue : ∀ cid, cid ≠ new → Overdue cid es → m.has cid = false
  punctual : ∀ cid, Issued cid es → ¬Lapsed cid es → m.has cid = true

/-- **When the timeouts work**: as long as nobody but the client just accepted is overdue. -/
theorem disconnects_iff {es : List Event} {ch : HandlerPtr} (h : Run Step init es m)
    (ha : m.acceptClient mIp mPort = .ok (ch, m')) :
    DisconnectsOverdue (es ++ [.acceptClient mIp mPort]) (m'.handler ch).cid m' ↔
      ∀ cid, cid ≠ (m'.handler ch).cid → ¬Overdue cid (es ++ [.acceptClient mIp mPort]) := by
  have h' := h.snoc (.acceptClient ha)
  constructor
  · rintro hd cid hne hover
    have hfalse := hd.overdue cid hne hover
    -- an overdue client was accepted, so it is still there
    obtain ⟨pre, post, he, hissued, -⟩ := hover
    rw [(has_iff h').2 (he ▸ hissued.append post)] at hfalse
    exact absurd hfalse (by simp)
  · exact fun hnone ↦ ⟨fun cid hne hover ↦ absurd hover (hnone cid hne),
      fun cid hissued _ ↦ (has_iff h').2 hissued⟩

/-- Two clients accepted within a second, so that neither is overdue when the other is accepted. -/
theorem disconnects_iff_prompt : ∃ m ch m', Run Step init [.acceptClient 1 27016, .tick] m ∧
    m.acceptClient 2 27016 = .ok (ch, m') ∧ DisconnectsOverdue
      ([.acceptClient 1 27016, .tick] ++ [.acceptClient 2 27016]) (m'.handler ch).cid m' := by
  have h : Run Step init [.acceptClient 1 27016, .tick] _ :=
    (Run.single (.acceptClient rfl)).snoc .tick
  refine ⟨_, _, _, h, rfl, (disconnects_iff h rfl).2 ?_⟩
  rintro cid - ⟨pre, post, he, -, -, hticks⟩
  -- there is only one tick in the whole run
  have hle : post.count .tick ≤ 1 := by
    refine (List.Sublist.count_le .tick (List.sublist_append_right pre post)).trans ?_
    rw [← he]
    decide
  exact absurd (hticks.trans hle) (by decide)

/-- A client falls silent, and another one is accepted after that. -/
def silentEvents : List Event :=
  .acceptClient 1 27016 :: List.replicate maxSecondsUntilTimeout .tick ++ [.acceptClient 2 27016]

theorem run_silentEvents : ∃ m, Run Step init silentEvents m ∧ m.has 0 = true :=
  ⟨_, (((((Run.single (.acceptClient rfl)).snoc .tick).snoc .tick).snoc .tick).snoc .tick).snoc
    .tick |>.snoc (.acceptClient rfl), rfl⟩

theorem overdue_silentEvents : Overdue 0 silentEvents :=
  ⟨[.acceptClient 1 27016], List.replicate maxSecondsUntilTimeout .tick ++ [.acceptClient 2 27016],
    rfl, ⟨by decide, by decide⟩, by decide, by decide⟩

/-- **A client that has timed out stays connected**, though another one has been accepted. -/
theorem silent_client_stays : ∃ m, Run Step init silentEvents m ∧ Overdue 0 silentEvents ∧
    m.has 0 = true := by
  obtain ⟨m, h, hhas⟩ := run_silentEvents
  exact ⟨m, h, overdue_silentEvents, hhas⟩

end ClientHandlerManager

end AutoSync
