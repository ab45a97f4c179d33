import AutoSync.Convergence

/-!
# One client, many rounds

A client does not synchronize once.  It asks again every few seconds, whatever the server has done
in between, and this file says what the repetition amounts to.

If the server has done nothing, the next diff is empty and carrying it out leaves the client's
manager untouched, handles and all (`syncWith_again`).  If the server has gone on, the rounds that
came before make no difference: `values_of_rounds` is that a client ends a round with the objects it
would have if it had sat out all rounds but the last.  Nothing is assumed about what the client
holds in the beginning, except that its identifiers are ones the server has already used; where the
flags do not tell the truth about it, it stays wrong in the same places.

The second result is `PullSync.Later.pull_pull` at the manager: a step of the server takes its
records to later ones (`later_of_step`).
-/

set_option autoImplicit false

namespace AutoSync

open Transition
open SerializationHelper (patch)
open Snapshot (sentFields sentEntries)
open SyncSession (usedKeys usedKeys_succ usedKeys_update)

variable {Val : Type} [DecidableEq Val] [Json Val]

/-! ## Nothing to do

After a round the client has what the left side has to offer, so that the next diff has no entry of
any kind.  That the flags on the left are still raised does not matter, as a field is sent only if
it differs. -/

section

variable {T : ObjType Val}

omit [Json Val] in
theorem sentEntries_eq_empty_iff {x y : SyncObj T} : sentEntries x y = ∅ ↔ sentFields x y = [] := by
  rw [OrdMap.eq_empty_iff, List.eq_nil_iff_forall_not_mem]
  constructor
  · intro h i hi
    have hi' := h (fieldKey i)
    rw [Snapshot.sentEntries_fieldKey, if_pos hi] at hi'
    exact absurd hi' (by simp)
  · intro h key
    rw [Option.eq_none_iff_forall_ne_some]
    intro v hv
    obtain ⟨i, hi, -⟩ := Snapshot.sentEntries_eq_some.1 hv
    exact h i hi

omit [Json Val] in
/-- Of an object that has just received what there was to send, nothing is left to send. -/
theorem sentEntries_synced {x z : SyncObj T} {y : Option (SyncObj T)}
    (h : synced (some x) y = some z) : sentEntries x z = ∅ := by
  rw [sentEntries_eq_empty_iff, List.eq_nil_iff_forall_not_mem]
  intro i hi
  obtain ⟨hlt, hflag, hne⟩ := Snapshot.mem_sentFields.1 hi
  cases y with
  | none =>
    obtain rfl := Option.some_inj.1 h
    exact hne rfl
  | some y =>
    obtain rfl := Option.some_inj.1 h
    by_cases hxy : x.fields i = y.fields i
    · have hnot : i ∉ sentFields x y := fun hm ↦ (Snapshot.mem_sentFields.1 hm).2.2 hxy
      refine hne ?_
      simp [patch, Snapshot.sentEntries_fieldKey, hnot, hxy]
    · have hmem : i ∈ sentFields x y := Snapshot.mem_sentFields.2 ⟨hlt, hflag, hxy⟩
      refine hne ?_
      simp [patch, Snapshot.sentEntries_fieldKey, hmem]

omit [DecidableEq Val] [Json Val] in
theorem DiffTypeData.eq_empty_of_isEmpty {d : DiffTypeData Val} (h : d.isEmpty = true) :
    d = DiffTypeData.empty := by
  rw [isEmpty, Bool.and_eq_true, Bool.and_eq_true, Std.ExtTreeMap.isEmpty_iff,
    Std.ExtTreeMap.isEmpty_iff, List.isEmpty_iff] at h
  exact DiffTypeData.ext h.1.1 h.1.2 h.2

/-- The diff to a store that holds what the left side has to offer is empty, in all of its three
parts. -/
theorem DiffTypeData.Between.isEmpty_of_synced {d : DiffTypeData Val} {s r c : TypeStore T}
    (h : d.Between s c) (hc : ∀ id, c.obj? id = synced (s.obj? id) (r.obj? id)) :
    d.isEmpty = true := by
  have hnone : ∀ {id : ID}, c.obj? id = none → s.obj? id = none := by
    intro id hid
    cases hx : s.obj? id with
    | none => rfl
    | some x =>
      rw [hc, hx] at hid
      cases hy : r.obj? id <;> rw [hy] at hid <;> exact absurd hid (by simp [synced])
  have hcreate : d.toCreate = ∅ := OrdMap.eq_empty_iff.2 fun id ↦ by
    rw [OrdMap.lookup_eq_none, h.mem_toCreate]
    rintro ⟨hid, x, hx⟩
    rw [hnone hid] at hx
    exact absurd hx (by simp)
  have hupdate : d.toUpdate = ∅ := OrdMap.eq_empty_iff.2 fun id ↦ by
    rw [OrdMap.lookup_eq_none, h.mem_toUpdate]
    rintro ⟨x, z, hx, hz, hne⟩
    rw [hc, hx] at hz
    exact hne (sentEntries_synced hz)
  have hremove : d.toRemove = [] := List.eq_nil_iff_forall_not_mem.2 fun id hid ↦ by
    obtain ⟨hx, z, hz⟩ := (h.toRemove id).1 hid
    rw [hc, hx] at hz
    exact absurd hz (by simp [synced])
  rw [isEmpty, hcreate, hupdate, hremove]
  rfl

omit [DecidableEq Val] in
theorem TypeStore.run_applyTypeDiff_empty (s : TypeStore T) :
    (applyTypeDiff DiffTypeData.empty).run s = .ok () s := rfl

end

variable {typeCount : ℕ} {TTypes : Fin typeCount → ObjType Val}

namespace SyncManager

variable {s s' c c' : SyncManager TTypes}

omit [DecidableEq Val] in
/-- Carrying out an empty diff does nothing at all, to any manager. -/
theorem run_applyDiff_of_isEmpty {d : Diff typeCount Val} (h : d.isEmpty = true)
    (m : SyncManager TTypes) : (applyDiff d).run m = .ok () m := by
  rw [Diff.isEmpty, List.all_eq_true] at h
  refine run_forM_onType.2 fun t ↦ ?_
  rw [DiffTypeData.eq_empty_of_isEmpty (h t (List.mem_finRange t))]
  exact TypeStore.run_applyTypeDiff_empty (m t)

/-- **The second round has nothing to do**: the diff is empty, and the client's manager stays as it
is, whatever the number of fields. -/
theorem syncWith_again (hs : s.Inv) (hc : c.Inv) (h : (syncWith s).run c = .ok () c') :
    (∃ mX mY d, s.getSnapshot = .ok mX ∧ c'.getSnapshot = .ok mY ∧
      mX.getDiffWith mY = .ok (d, mX) ∧ d.isEmpty = true) ∧ (syncWith s).run c' = .ok () c' := by
  obtain ⟨c₁, h₁, hI', hobj⟩ := run_syncWith hs hc
  rw [h] at h₁
  cases h₁
  obtain ⟨mX, hmX, hX⟩ := getSnapshot_ok hs
  obtain ⟨mY, hmY, hY⟩ := getSnapshot_ok hI'
  obtain ⟨d, hd, hbetween⟩ := getDiffWith_ok hs hI' hX hY
  have hempty : d.isEmpty = true := by
    rw [Diff.isEmpty, List.all_eq_true]
    exact fun t _ ↦ (hbetween t).isEmpty_of_synced (hobj t)
  refine ⟨⟨mX, mY, d, hmX, hmY, hd, hempty⟩, ?_⟩
  rw [syncWith]
  simp only [EStateM.run_bind, EStateM.run_get, hmX, hmY, hd, EStateM.run_ofExcept_ok]
  exact run_applyDiff_of_isEmpty hempty c'

/-! ## The server goes on

Whatever the server does to its objects, its records become later ones in the sense of the library:
identifiers are not used again, flags stay up, and what is not flagged has not changed. -/

omit [DecidableEq Val] [Json Val] in
theorem records_eq_none_of_bit (hs : s.Inv) {t : Fin typeCount} {j : Fin maxObjs}
    (hbit : (s t).bitsetIDs j = false) : s.records (t, objID j) = none := by
  rw [records, (hs t).bit_eq_false_iff.1 hbit]
  rfl

omit [DecidableEq Val] in
/-- **A step of the server** takes its records to later ones, and uses keys up. -/
theorem later_of_step {op : Op TTypes} (h : Step s op s') (hop : op.isServerOp = true)
    (hs : s.Inv) :
    PullSync.Later (usedKeys s) s.records s'.records ∧ s'.Inv ∧ usedKeys s ⊆ usedKeys s' ∧
      ((∀ k, s.records k ≠ none → k ∈ usedKeys s) →
        ∀ k, s'.records k ≠ none → k ∈ usedKeys s') := by
  cases op with
  | serverCreate t mVal =>
    obtain ⟨q, hq, rfl⟩ := survives_onType (Survives.of_ignored h)
    obtain ⟨j, o, hj, hbit, rfl⟩ := TypeStore.serverCreate_survives hq
    have hI := (hs t).counted
    have hused := usedKeys_succ (m := s) (s := (s t).counted.created j o) rfl
    have hrecords := records_update (s := s) (hI.obj?_created (o := o) (j := j))
    refine ⟨?_, hs.update (hI.created hbit), hused ▸ Set.subset_insert _ _, fun hk k hne ↦ ?_⟩
    · rw [hrecords]
      refine .create ?_ (records_eq_none_of_bit hs hbit)
      show ¬objID j < (s t).lastID
      rw [hj]
      exact lt_irrefl _
    · rw [hused, hj]
      rw [hrecords] at hne
      by_cases he : k = (t, objID j)
      · exact Set.mem_insert_iff.2 (.inl he)
      · rw [Function.update_of_ne he] at hne
        exact Set.mem_insert_of_mem _ (hk k hne)
  | edit t mID i x =>
    obtain ⟨q, hq, rfl⟩ := survives_onType h
    obtain ⟨a, o, ha, ho, rfl⟩ := TypeStore.edit_survives (hs t).live hq
    have hused := usedKeys_update (m := s) (s := (s t).store (some a) (o.edit i x)) rfl
    have hrecords := records_update (s := s) ((hs t).obj?_store (o := o.edit i x) ha)
    have ho' : s.records (t, mID) = some o.record := by simp [records, ho]
    refine ⟨?_, hs.update ((hs t).store ha), hused.ge, fun hk k hne ↦ ?_⟩
    · rw [hrecords]
      exact .edit ho' i x
    · rw [hused]
      rw [hrecords] at hne
      by_cases he : k = (t, mID)
      · subst he
        exact hk _ (by simp [ho'])
      · rw [Function.update_of_ne he] at hne
        exact hk k hne
  | onReceivedPacketRemove t mID =>
    obtain ⟨q, hq, rfl⟩ := survives_onType h
    obtain ⟨j, a, rfl, ha, rfl⟩ := TypeStore.removeImpl_survives (hs t).live hq
    have hused := usedKeys_update (m := s) (s := (s t).removed j a) rfl
    have hrecords := records_update (s := s) (o := none) ((hs t).obj?_removed ha)
    refine ⟨?_, hs.update ((hs t).removed ha), hused.ge, fun hk k hne ↦ ?_⟩
    · rw [hrecords]
      exact .remove
    · rw [hused]
      rw [hrecords] at hne
      by_cases he : k = (t, objID j)
      · subst he
        exact absurd (Function.update_self ..) hne
      · rw [Function.update_of_ne he] at hne
        exact hk k hne
  | onReceivedPacketCreate t mID mVal => cases hop
  | onReceivedPacketUpdate t mID mVal => cases hop
  | applyDiff mX => cases hop
  | getHandleFor t mID => cases hop
  | getSnapshot => cases hop

/-- The objects of `c` are under identifiers that `s` has used, so that none of them will be created
anew. -/
def UsesKeysOf (c s : SyncManager TTypes) : Prop := ∀ t id, (c t).Alive id → id < (s t).lastID

omit [DecidableEq Val] [Json Val] in
theorem UsesKeysOf.values (h : UsesKeysOf c s) (hc : c.Inv) (k : Fin typeCount × ID)
    (hk : c.values k ≠ none) : k ∈ usedKeys s := by
  obtain ⟨p, hp⟩ := Option.ne_none_iff_exists'.1 hk
  rw [values_eq] at hp
  obtain ⟨o, ho, -⟩ := Option.map_eq_some_iff.1 hp
  exact h k.1 k.2 ((hc k.1).alive_iff.2 ⟨o, ho⟩)

end SyncManager

/-! ## Rounds

A run of rounds is one of the server, with rounds of the client in between.  Its invariant compares
the client with what it was in the beginning: the next round would make the same of both. -/

/-- A server and one of its clients, as their managers. -/
structure Rounds (TTypes : Fin typeCount → ObjType Val) where
  server : SyncManager TTypes
  client : SyncManager TTypes

namespace Rounds

open SyncManager hiding Step

/-- What can happen, to the one or between the two. -/
inductive Event (TTypes : Fin typeCount → ObjType Val)
  /-- The server changes its objects by one of its operations. -/
  | server (op : Op TTypes)
  /-- The client goes through a round, from its request to the answer carried out. -/
  | sync

inductive Step (σ : Rounds TTypes) : Event TTypes → Rounds TTypes → Prop
  | server {op s} (h : SyncManager.Step σ.server op s) (hop : op.isServerOp = true) :
      Step σ (.server op) { σ with server := s }
  | sync {c} (h : (syncWith σ.server).run σ.client = .ok () c) :
      Step σ .sync { σ with client := c }

/-- What a run keeps true, when the client held `c₀` in the beginning of the run. -/
structure Inv (c₀ : SyncManager TTypes) (σ : Rounds TTypes) : Prop where
  server : σ.server.Inv
  client : σ.client.Inv
  used_server : ∀ k, σ.server.records k ≠ none → k ∈ usedKeys σ.server
  used_client : ∀ k, σ.client.values k ≠ none → k ∈ usedKeys σ.server
  used₀ : ∀ k, c₀.values k ≠ none → k ∈ usedKeys σ.server
  /-- The next round gives the client what it would have given it in the beginning. -/
  pull : PullSync.pull σ.server.records σ.client.values = PullSync.pull σ.server.records c₀.values

variable {s₀ c₀ c' c'' : SyncManager TTypes} {σ σ' : Rounds TTypes}

omit [DecidableEq Val] [Json Val] in
theorem inv_init (hs : s₀.Inv) (hown : UsesKeysOf s₀ s₀) (hc : c₀.Inv) (hused : UsesKeysOf c₀ s₀) :
    Inv c₀ ⟨s₀, c₀⟩ where
  server := hs
  client := hc
  used_server k hk :=
    hown.values hs k fun h ↦ hk (by simpa [values, PullSync.Origin.values] using h)
  used_client := hused.values hc
  used₀ := hused.values hc
  pull := rfl

theorem Step.inv (hn : ∀ t, (TTypes t).fieldCount ≤ maxObjs) {e : Event TTypes} (hs : Step σ e σ')
    (hI : Inv c₀ σ) : Inv c₀ σ' := by
  cases hs with
  | @server op s h hop =>
    obtain ⟨hlater, hs, hused, hkeys⟩ := later_of_step h hop hI.server
    refine ⟨hs, hI.client, hkeys hI.used_server, fun k hk ↦ hused (hI.used_client k hk),
      fun k hk ↦ hused (hI.used₀ k hk), ?_⟩
    rw [← hlater.pull_pull hI.used_client, hI.pull, hlater.pull_pull hI.used₀]
  | @sync c h =>
    obtain ⟨c₁, h₁, hI', hobj⟩ := run_syncWith hI.server hI.client
    rw [h] at h₁
    cases h₁
    have hvalues := values_of_synced hn hobj
    refine ⟨hI.server, hI', hI.used_server, fun k hk ↦ hI.used_server k fun hnone ↦ hk ?_,
      hI.used₀, ?_⟩
    · rw [hvalues]
      simp only [PullSync.pull, hnone]
    · rw [hvalues, PullSync.pull_pull_self, hI.pull]

/-- **The rounds before the last make no difference.**  After any number of rounds, with the server
going on in between, one more leaves the client with the objects it would have had if it had sat
out all the others. -/
theorem values_of_rounds (hn : ∀ t, (TTypes t).fieldCount ≤ maxObjs) (hs : s₀.Inv)
    (hown : UsesKeysOf s₀ s₀) (hc : c₀.Inv) (hused : UsesKeysOf c₀ s₀) {es : List (Event TTypes)}
    (h : Run Step ⟨s₀, c₀⟩ es σ) :
    ∃ c' c'', (syncWith σ.server).run σ.client = .ok () c' ∧
      (syncWith σ.server).run c₀ = .ok () c'' ∧
      (∀ t, (c' t).bitsetIDs = (σ.server t).bitsetIDs ∧
        (c'' t).bitsetIDs = (σ.server t).bitsetIDs) ∧
      ∀ t id z, (c' t).obj? id = some z → ∃ z', (c'' t).obj? id = some z' ∧
        z'.fields = z.fields := by
  have hI : Inv c₀ σ := h.invariant (inv_init hs hown hc hused) fun _ _ _ hI hstep ↦ hstep.inv hn hI
  obtain ⟨c', h', hI', hobj'⟩ := run_syncWith hI.server hI.client
  obtain ⟨c'', h'', hI'', hobj''⟩ := run_syncWith hI.server hc
  have hvalues : c''.values = c'.values := by
    rw [values_of_synced hn hobj', values_of_synced hn hobj'', hI.pull]
  exact ⟨c', c'', h', h'', fun t ↦ ⟨bitsetIDs_of_synced hI.server hI' hobj' t,
    bitsetIDs_of_synced hI.server hI'' hobj'' t⟩,
    fun t id z hz ↦ exists_obj_of_values_eq hvalues hz⟩

end Rounds

namespace Chat

open SyncManager hiding Step

theorem syncWith_again_relayOps : ∃ s c c', Reaches relayOps s ∧ Reaches staleOps c ∧
    (syncWith s).run c = .ok () c' ∧ (syncWith s).run c' = .ok () c' := by
  obtain ⟨s, hs, -⟩ := reaches_relayOps
  obtain ⟨c, hc, -⟩ := reaches_staleOps
  have hIs := inv_of_reaches hs lookupsAlive_relayOps
  have hIc := inv_of_reaches hc lookupsAlive_staleOps
  obtain ⟨c', h, -⟩ := run_syncWith hIs hIc
  exact ⟨s, c, c', hs, hc, h, (syncWith_again hIs hIc h).2⟩

/-- The server creates a message and edits it; the client has gone through a round. -/
def editedRounds : List (Rounds.Event types) :=
  [.server (.serverCreate messages (messageVal 0 "ann" "hello")),
    .server (.edit messages 0 Message.contents "hi"), .sync]

theorem values_of_rounds_editedRounds : ∃ σ c' c'',
    Run Rounds.Step ⟨fresh types, fresh types⟩ editedRounds σ ∧
    (syncWith σ.server).run σ.client = .ok () c' ∧
    (syncWith σ.server).run (fresh types) = .ok () c'' ∧
    ∀ t, (c' t).bitsetIDs = (c'' t).bitsetIDs := by
  have h₁ : Run Rounds.Step ⟨fresh types, fresh types⟩
      [.server (.serverCreate messages (messageVal 0 "ann" "hello"))] _ :=
    .single (.server (.ok () _) rfl)
  have h₂ := h₁.snoc (e := .server (.edit messages 0 Message.contents "hi"))
    (.server (.of_isOk (by decide +kernel)) rfl)
  have hused : UsesKeysOf (fresh types) (fresh types) := by
    intro t id h
    obtain ⟨o, ho⟩ := TypeStore.inv_fresh.alive_iff.1 h
    rw [TypeStore.obj?_fresh] at ho
    exact absurd ho (by simp)
  -- the client's round goes through
  obtain ⟨c₁, hc₁, -⟩ := run_syncWith
    (h₂.invariant (Rounds.inv_init inv_fresh hused inv_fresh hused)
      fun _ _ _ hI hs ↦ hs.inv fieldCount_le hI).server inv_fresh
  have h₃ := h₂.snoc (.sync hc₁)
  obtain ⟨c', c'', h', h'', hbits, -⟩ :=
    Rounds.values_of_rounds fieldCount_le inv_fresh hused inv_fresh hused h₃
  exact ⟨_, c', c'', h₃, h', h'', fun t ↦ (hbits t).1.trans (hbits t).2.symm⟩

end Chat

end AutoSync
