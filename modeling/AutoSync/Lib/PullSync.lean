import AutoSync.Lib.Transition
import Mathlib.Data.Set.Insert

/-!
# Pulling from an origin that flags its changes

An *origin* holds records under keys `K`.  A record has the fields `ι k`, and every field carries a
dirty flag.  A *client* holds a copy without flags.  Now and then the client pulls: keys the origin
does not have are dropped, records the client does not have are copied whole, and of a record both
sides have only the fields flagged dirty are copied (`PullSync.pull`).

The saving is correct exactly when the flags tell the truth about the client at hand, and that is a
relation, not a function of the origin: `PullSync.Covers s c` says that a field whose flag is clear
holds the same value on both sides.  `pull_eq_values_iff` is the law — the pull leaves the client
with the origin's records *if and only if* the origin covers it.

Pulling is meant to be done again and again.  `Later.pull_pull` says that it does not matter how
often: a pull leaves the client with what it would have left without the pulls before it.

The rest of the file is the protocol around the pull.  The origin creates records under keys never
used before, edits fields (raising their flags) and removes records; it never lowers a flag.  Any
number of clients each go through exchanges: ask, be answered, apply the answer, where the exchange
may also be lost at any point.  `PullSync.Inv` is the invariant of the whole system, and
`pull_eq_values_of_run` the conclusion: in every run a client that applies an answer holds exactly
the records the origin had when it gave the answer.
-/

set_option autoImplicit false

namespace PullSync

open Transition

variable {K C : Type} {ι : K → Type} {V : ∀ k, ι k → Type}

/-- A record with a dirty flag for every field, as the origin holds it. -/
structure Flagged {J : Type} (W : J → Type) where
  /-- The values of the fields, each of the type that belongs to its field. -/
  val : ∀ i, W i
  /-- Which fields have been edited since the record was made. -/
  dirty : J → Bool

/-- The records a client holds, under their keys, and without flags. -/
abbrev Store (V : ∀ k, ι k → Type) : Type := ∀ k, Option (∀ i, V k i)

/-- The records the origin holds, under their keys, with a flag for every field. -/
abbrev Origin (V : ∀ k, ι k → Type) : Type := ∀ k, Option (Flagged (V k))

/-- The origin's records without their flags, as a client that is level with it holds them. -/
def Origin.values (s : Origin V) : Store V := fun k ↦ (s k).map Flagged.val

theorem Origin.values_ne_none {s : Origin V} {k : K} (h : s.values k ≠ none) : s k ≠ none := by
  intro hk
  exact h (by simp [Origin.values, hk])

theorem Origin.values_eq_some {s : Origin V} {k : K} {p : ∀ i, V k i} :
    s.values k = some p ↔ ∃ o, s k = some o ∧ o.val = p := by
  simp [Origin.values]

/-! ## The pull

What a pull leaves is a function of the two sides.  It need not bring them level, as a field that
differs and is not flagged stays as it is; `Covers` is the condition under which it does, and
`pull_eq_values_iff` says that nothing weaker would do. -/

/-- The client's record with the dirty fields of the origin's record copied over it. -/
def merge {J : Type} {W : J → Type} (o : Flagged W) (p : ∀ i, W i) : ∀ i, W i :=
  fun i ↦ if o.dirty i then o.val i else p i

/-- What a client holds after a pull: the origin's records, with the client's values in the clean
fields of those it had before. -/
def pull (s : Origin V) (c : Store V) : Store V := fun k ↦
  match s k, c k with
  | none, _ => none
  | some o, none => some o.val
  | some o, some p => some (merge o p)

/-- A field whose flag is clear holds the same value on both sides, for every record they both
have. -/
def Covers (s : Origin V) (c : Store V) : Prop :=
  ∀ k o p, s k = some o → c k = some p → ∀ i, o.dirty i = false → o.val i = p i

theorem merge_eq_val_iff {J : Type} {W : J → Type} {o : Flagged W} {p : ∀ i, W i} :
    merge o p = o.val ↔ ∀ i, o.dirty i = false → o.val i = p i := by
  constructor
  · intro h i hi
    have := congrFun h i
    rw [merge, hi] at this
    exact this.symm
  · intro h
    funext i
    rw [merge]
    split
    · rfl
    · rename_i hi
      exact (h i (by simpa using hi)).symm

/-- **The law of the pull**: it brings the client level with the origin exactly when every field
that differs is flagged. -/
theorem pull_eq_values_iff {s : Origin V} {c : Store V} :
    pull s c = s.values ↔ Covers s c := by
  constructor
  · intro h k o p ho hp
    have hk := congrFun h k
    simp only [pull, Origin.values, ho, hp, Option.map_some, Option.some_inj] at hk
    exact merge_eq_val_iff.1 hk
  · intro h
    funext k
    cases ho : s k with
    | none => simp [pull, Origin.values, ho]
    | some o =>
      cases hp : c k with
      | none => simp [pull, Origin.values, ho, hp]
      | some p =>
        simp only [pull, Origin.values, ho, hp, Option.map_some, Option.some_inj]
        exact merge_eq_val_iff.2 (h k o p ho hp)

/-! ## Changes of the origin

What the origin does to its records keeps every client covered.  A new record is of no concern to a
client that has none under its key, which is why keys must not be used twice. -/

section Changes

variable [DecidableEq K] {s : Origin V} {c : Store V} {k : K}

/-- The record with one field assigned and its flag raised. -/
def Flagged.edit {J : Type} [DecidableEq J] {W : J → Type} (o : Flagged W) (i : J) (x : W i) :
    Flagged W where
  val := Function.update o.val i x
  dirty := Function.update o.dirty i true

/-- A record under a key the client does not have is no concern of the client, whose pull will copy
it whole. -/
theorem Covers.create {o : Flagged (V k)} (h : Covers s c) (hk : c k = none) :
    Covers (Function.update s k (some o)) c := by
  intro k' o' p ho hp
  have hne : k' ≠ k := by rintro rfl; rw [hk] at hp; exact absurd hp (by simp)
  rw [Function.update_of_ne hne] at ho
  exact h k' o' p ho hp

/-- A record the origin has dropped is covered, since the pull will drop the client's. -/
theorem Covers.remove (h : Covers s c) : Covers (Function.update s k none) c := by
  intro k' o p ho hp
  by_cases hk : k' = k
  · subst hk; rw [Function.update_self] at ho; exact absurd ho (by simp)
  · rw [Function.update_of_ne hk] at ho
    exact h k' o p ho hp

/-- An edit raises the flag of the one field it changes, so that the others may stay as they are. -/
theorem Covers.edit [∀ k, DecidableEq (ι k)] {o : Flagged (V k)} (h : Covers s c)
    (ho : s k = some o) (i : ι k) (x : V k i) :
    Covers (Function.update s k (some (o.edit i x))) c := by
  intro k' o' p ho' hp j hj
  by_cases hk : k' = k
  · subst hk
    rw [Function.update_self, Option.some_inj] at ho'
    subst ho'
    have hji : j ≠ i := by rintro rfl; simp [Flagged.edit] at hj
    simp only [Flagged.edit, Function.update_of_ne hji] at hj ⊢
    exact h k' o p ho hp j hj
  · rw [Function.update_of_ne hk] at ho'
    exact h k' o' p ho' hp j hj

end Changes

/-! ## Pulling again

`Later used s s'` says that `s'` is what an origin that held `s` may hold some time later, when
`used` are the keys it had used by then.  The flags of a record the origin still has are at least
those it had before, and a field whose flag is clear has not changed.  Under this relation an
earlier pull is absorbed by a later one. -/

/-- The origin has gone on from `s` to `s'`, without using a key of `used` again. -/
structure Later (used : Set K) (s s' : Origin V) : Prop where
  /-- A key that is used and free stays free: nothing is created under it again. -/
  dropped : ∀ k ∈ used, s k = none → s' k = none
  /-- A flag once raised stays up, as long as the record is there. -/
  dirty : ∀ k o o', s k = some o → s' k = some o' → ∀ i, o.dirty i = true → o'.dirty i = true
  /-- A field that is not flagged is as it was, since only an edit changes it. -/
  clean : ∀ k o o', s k = some o → s' k = some o' → ∀ i, o'.dirty i = false → o'.val i = o.val i

section Later

variable {used : Set K} {s s' : Origin V} {c : Store V}

theorem Later.refl (used : Set K) (s : Origin V) : Later used s s where
  dropped _ _ h := h
  dirty k o o' ho ho' i hi := by
    rw [ho, Option.some_inj] at ho'
    rwa [← ho']
  clean k o o' ho ho' i _ := by
    rw [ho, Option.some_inj] at ho'
    rw [ho']

theorem merge_merge {J : Type} {W : J → Type} {o o' : Flagged W} {p : ∀ i, W i}
    (h : ∀ i, o.dirty i = true → o'.dirty i = true) : merge o' (merge o p) = merge o' p := by
  funext i
  by_cases hi : o'.dirty i = true
  · simp only [merge, hi, if_true]
  · have ho : ¬o.dirty i = true := fun ho ↦ hi (h i ho)
    simp only [merge, hi, ho, Bool.false_eq_true, if_false]

/-- **An earlier pull makes no difference** to what a later one leaves, if the client held nothing
but records under used keys. -/
theorem Later.pull_pull (h : Later used s s') (hc : ∀ k, c k ≠ none → k ∈ used) :
    pull s' (pull s c) = pull s' c := by
  funext k
  cases ho' : s' k with
  | none => simp only [pull, ho']
  | some o' =>
    cases ho : s k with
    | none =>
      -- the key is new, so that the client cannot have it
      have hk : c k = none := by
        by_contra hne
        rw [h.dropped k (hc k hne) ho] at ho'
        exact absurd ho' (by simp)
      simp only [pull, ho', ho, hk]
    | some o =>
      cases hp : c k with
      | none =>
        simp only [pull, ho', ho, hp, Option.some_inj]
        exact merge_eq_val_iff.2 fun i hi ↦ h.clean k o o' ho ho' i hi
      | some p =>
        simp only [pull, ho', ho, hp, Option.some_inj]
        exact merge_merge (h.dirty k o o' ho ho')

/-- A second pull from the same origin changes nothing, whatever the flags are. -/
theorem pull_pull_self (s : Origin V) (c : Store V) : pull s (pull s c) = pull s c := by
  funext k
  cases ho : s k with
  | none => simp only [pull, ho]
  | some o =>
    cases hp : c k with
    | none =>
      simp only [pull, ho, hp, Option.some_inj]
      exact merge_eq_val_iff.2 fun _ _ ↦ rfl
    | some p =>
      simp only [pull, ho, hp, Option.some_inj]
      exact merge_merge fun _ h ↦ h

theorem Later.create [DecidableEq K] {k : K} {o : Flagged (V k)} (hk : k ∉ used) (hs : s k = none) :
    Later used s (Function.update s k (some o)) := by
  have hne : ∀ {k'}, s k' ≠ none → k' ≠ k := by
    rintro k' h rfl
    exact h hs
  refine ⟨fun k' hk' h ↦ ?_, fun k' p p' hp hp' ↦ ?_, fun k' p p' hp hp' ↦ ?_⟩
  · rw [Function.update_of_ne (by rintro rfl; exact hk hk')]
    exact h
  · rw [Function.update_of_ne (hne (by simp [hp]))] at hp'
    exact (Later.refl used s).dirty k' p p' hp hp'
  · rw [Function.update_of_ne (hne (by simp [hp]))] at hp'
    exact (Later.refl used s).clean k' p p' hp hp'

theorem Later.remove [DecidableEq K] {k : K} : Later used s (Function.update s k none) := by
  have hsame : ∀ {k' : K} {p : Flagged (V k')}, Function.update s k none k' = some p →
      s k' = some p := by
    intro k' p h
    by_cases hk : k' = k
    · subst hk; rw [Function.update_self] at h; exact absurd h (by simp)
    · rwa [Function.update_of_ne hk] at h
  refine ⟨fun k' _ h ↦ ?_, fun k' p p' hp hp' ↦ (Later.refl used s).dirty k' p p' hp (hsame hp'),
    fun k' p p' hp hp' ↦ (Later.refl used s).clean k' p p' hp (hsame hp')⟩
  by_contra hne
  obtain ⟨p, hp⟩ := Option.ne_none_iff_exists'.1 hne
  rw [hsame hp] at h
  exact absurd h (by simp)

theorem Later.edit [DecidableEq K] [∀ k, DecidableEq (ι k)] {k : K} {o : Flagged (V k)}
    (hs : s k = some o) (i : ι k) (x : V k i) :
    Later used s (Function.update s k (some (o.edit i x))) := by
  refine ⟨fun k' hk' h ↦ ?_, fun k' p p' hp hp' j hj ↦ ?_, fun k' p p' hp hp' j hj ↦ ?_⟩
  · rw [Function.update_of_ne (by rintro rfl; rw [hs] at h; exact absurd h (by simp))]
    exact h
  all_goals by_cases hk : k' = k
  · subst hk
    rw [hs, Option.some_inj] at hp
    rw [Function.update_self, Option.some_inj] at hp'
    subst hp hp'
    by_cases hji : j = i
    · subst hji; simp [Flagged.edit]
    · simpa [Flagged.edit, Function.update_of_ne hji] using hj
  · rw [Function.update_of_ne hk] at hp'
    exact (Later.refl used s).dirty k' p p' hp hp' j hj
  · subst hk
    rw [hs, Option.some_inj] at hp
    rw [Function.update_self, Option.some_inj] at hp'
    subst hp hp'
    have hji : j ≠ i := by rintro rfl; simp [Flagged.edit] at hj
    simp [Flagged.edit, Function.update_of_ne hji]
  · rw [Function.update_of_ne hk] at hp'
    exact (Later.refl used s).clean k' p p' hp hp' j hj

end Later

/-! ## The protocol

One origin and any number of clients, each with an exchange of its own.  A client describes what it
holds, the origin answers with what it holds itself, and the client pulls from the answer; the
origin goes on in between.  The answer is kept as the records it was made from, which is all a pull
needs to know. -/

/-- How far a client's exchange has got.  Descriptions and answers may be lost at any time. -/
inductive Exchange (V : ∀ k, ι k → Type)
  /-- No exchange is going on. -/
  | idle
  /-- The client has described its records to the origin, which has not answered yet. -/
  | asked
  /-- The origin has answered, holding the records `src` at that moment. -/
  | answered (src : Origin V)

/-- The origin, the clients, and the exchanges between them, of which each client has one. -/
structure System (C : Type) (V : ∀ k, ι k → Type) where
  /-- The records of the origin, with their flags. -/
  origin : Origin V
  /-- The keys that have ever been used, and will not be used again. -/
  used : Set K
  /-- The records of each client, as its last pull has left them. -/
  client : C → Store V
  /-- The exchange each client is in, if it is in one. -/
  exchange : C → Exchange V

/-- Everything is empty at first; `used` may already exclude some keys from being used. -/
def System.init (C : Type) (V : ∀ k, ι k → Type) (used : Set K) : System C V where
  origin _ := none
  used := used
  client _ _ := none
  exchange _ := .idle

/-- The invariant of the protocol: the flags are truthful, about clients and answers alike. -/
structure Inv (σ : System C V) : Prop where
  /-- Records live under keys that have been used. -/
  origin_used : ∀ k, σ.origin k ≠ none → k ∈ σ.used
  /-- So do the copies of the clients. -/
  client_used : ∀ c k, σ.client c k ≠ none → k ∈ σ.used
  /-- The flags are truthful about every client: what is not flagged is the same on both sides. -/
  covers : ∀ c, Covers σ.origin (σ.client c)
  /-- An answer concerns used keys, as the records it was made from did. -/
  answer_used : ∀ c src, σ.exchange c = .answered src → ∀ k, src k ≠ none → k ∈ σ.used
  /-- An answer is good for the client it was made for. -/
  answer_covers : ∀ c src, σ.exchange c = .answered src → Covers src (σ.client c)
  /-- The flags will still be truthful once the answer has been applied. -/
  covers_answer : ∀ c src, σ.exchange c = .answered src → Covers σ.origin src.values

theorem inv_init (used : Set K) : Inv (System.init C V used) where
  origin_used _ h := absurd rfl h
  client_used _ _ h := absurd rfl h
  covers _ _ _ _ h := absurd h (by simp [System.init])
  answer_used _ _ h := absurd h (by simp [System.init])
  answer_covers _ _ h := absurd h (by simp [System.init])
  covers_answer _ _ h := absurd h (by simp [System.init])

variable [DecidableEq K] [∀ k, DecidableEq (ι k)]

/-- The changes the origin makes to its records: it creates one under a fresh key, removes one, or
edits a field of one. -/
inductive OriginStep (σ : System C V) : System C V → Prop
  | create (k : K) (o : Flagged (V k)) (hk : k ∉ σ.used) : OriginStep σ
      { σ with origin := Function.update σ.origin k (some o), used := insert k σ.used }
  | edit (k : K) (o : Flagged (V k)) (ho : σ.origin k = some o) (i : ι k) (x : V k i) :
      OriginStep σ { σ with origin := Function.update σ.origin k (some (o.edit i x)) }
  | remove (k : K) : OriginStep σ { σ with origin := Function.update σ.origin k none }

/-- Changes of the origin keep the invariant: what every client holds, and what every answer will
make it hold, stays covered. -/
theorem OriginStep.inv {σ σ' : System C V} (h : OriginStep σ σ') (hI : Inv σ) : Inv σ' := by
  cases h with
  | create k o hk =>
    have fresh : ∀ {c : Store V}, (∀ k', c k' ≠ none → k' ∈ σ.used) → c k = none := by
      intro c hc
      by_contra hne
      exact hk (hc k hne)
    refine ⟨?_, ?_, ?_, ?_, hI.answer_covers, ?_⟩
    · intro k' h'
      by_cases he : k' = k
      · exact Set.mem_insert_iff.2 (.inl he)
      · exact Set.mem_insert_of_mem _
          (hI.origin_used k' (by simpa [Function.update_of_ne he] using h'))
    · exact fun c k' h' ↦ Set.mem_insert_of_mem _ (hI.client_used c k' h')
    · exact fun c ↦ (hI.covers c).create (fresh (hI.client_used c))
    · exact fun c src hs k' h' ↦ Set.mem_insert_of_mem _ (hI.answer_used c src hs k' h')
    · exact fun c src hs ↦ (hI.covers_answer c src hs).create
        (fresh fun k' h' ↦ hI.answer_used c src hs k' (Origin.values_ne_none h'))
  | edit k o ho i x =>
    refine ⟨?_, hI.client_used, fun c ↦ (hI.covers c).edit ho i x, hI.answer_used,
      hI.answer_covers, fun c src hs ↦ (hI.covers_answer c src hs).edit ho i x⟩
    intro k' h'
    by_cases he : k' = k
    · subst he; exact hI.origin_used k' (by simp [ho])
    · exact hI.origin_used k' (by simpa [Function.update_of_ne he] using h')
  | remove k =>
    refine ⟨?_, hI.client_used, fun c ↦ (hI.covers c).remove, hI.answer_used,
      hI.answer_covers, fun c src hs ↦ (hI.covers_answer c src hs).remove⟩
    intro k' h'
    by_cases he : k' = k
    · subst he; exact absurd (Function.update_self ..) h'
    · exact hI.origin_used k' (by simpa [Function.update_of_ne he] using h')

variable [DecidableEq C]

/-- The steps of an exchange: the client asks, the origin answers, the client pulls, or something is
lost. -/
inductive ExchangeStep (σ : System C V) (c : C) : System C V → Prop
  | ask (h : σ.exchange c = .idle) :
      ExchangeStep σ c { σ with exchange := Function.update σ.exchange c .asked }
  | answer (h : σ.exchange c = .asked) : ExchangeStep σ c
      { σ with exchange := Function.update σ.exchange c (.answered σ.origin) }
  | apply (src : Origin V) (h : σ.exchange c = .answered src) : ExchangeStep σ c
      { σ with
        client := Function.update σ.client c (pull src (σ.client c))
        exchange := Function.update σ.exchange c .idle }
  | lose : ExchangeStep σ c { σ with exchange := Function.update σ.exchange c .idle }

/-- A step of the system: `none` is the origin's turn, `some c` that of an exchange of `c`. -/
def Step (σ : System C V) : Option C → System C V → Prop
  | none, σ' => OriginStep σ σ'
  | some c, σ' => ExchangeStep σ c σ'

omit [DecidableEq K] [∀ k, DecidableEq (ι k)] in
/-- The origin covers its own records, which is why a fresh answer is a good one. -/
theorem covers_values (s : Origin V) : Covers s s.values := by
  intro k o p ho hp i _
  obtain ⟨o', ho', rfl⟩ := Origin.values_eq_some.1 hp
  rw [ho, Option.some_inj] at ho'
  rw [ho']

omit [DecidableEq K] [∀ k, DecidableEq (ι k)] in
/-- An exchange moves on; if that is to an answer, the answer has to be a good one. -/
theorem Inv.update_exchange {σ : System C V} (hI : Inv σ) {c : C} {x : Exchange V}
    (hx : ∀ src, x = .answered src →
      (∀ k, src k ≠ none → k ∈ σ.used) ∧ Covers src (σ.client c) ∧ Covers σ.origin src.values) :
    Inv { σ with exchange := Function.update σ.exchange c x } := by
  -- an answer under way is the new one, or was under way before
  have answers : ∀ {d : C} {src : Origin V}, Function.update σ.exchange c x d = .answered src →
      (d = c ∧ x = .answered src) ∨ σ.exchange d = .answered src := by
    intro d src hd
    by_cases he : d = c
    · subst he
      rw [Function.update_self] at hd
      exact .inl ⟨rfl, hd⟩
    · rw [Function.update_of_ne he] at hd
      exact .inr hd
  refine ⟨hI.origin_used, hI.client_used, hI.covers, ?_, ?_, ?_⟩ <;> intro d src hd <;>
    rcases answers hd with ⟨rfl, hsrc⟩ | hd
  · exact (hx src hsrc).1
  · exact hI.answer_used d src hd
  · exact (hx src hsrc).2.1
  · exact hI.answer_covers d src hd
  · exact (hx src hsrc).2.2
  · exact hI.covers_answer d src hd

omit [DecidableEq K] [∀ k, DecidableEq (ι k)] in
/-- The records of a client change that is not being answered: it has to be covered afterwards as
well. -/
theorem Inv.update_client {σ : System C V} (hI : Inv σ) {c : C} {p : Store V}
    (hc : ∀ src, σ.exchange c ≠ .answered src) (hused : ∀ k, p k ≠ none → k ∈ σ.used)
    (hp : Covers σ.origin p) : Inv { σ with client := Function.update σ.client c p } := by
  refine ⟨hI.origin_used, ?_, ?_, hI.answer_used, ?_, hI.covers_answer⟩
  · intro d k hk
    by_cases he : d = c
    · subst he
      exact hused k (by simpa using hk)
    · exact hI.client_used d k (by simpa [Function.update_of_ne he] using hk)
  · intro d
    by_cases he : d = c
    · subst he
      simpa using hp
    · simpa [Function.update_of_ne he] using hI.covers d
  · intro d src hd
    have he : d ≠ c := by
      rintro rfl
      exact hc src hd
    simpa [Function.update_of_ne he] using hI.answer_covers d src hd

omit [DecidableEq K] [∀ k, DecidableEq (ι k)] in
/-- Steps of an exchange keep the invariant.  Applying an answer is where the law of the pull is
used: the client then holds the records of the answer, which the origin still covers. -/
theorem ExchangeStep.inv {σ σ' : System C V} {c : C} (h : ExchangeStep σ c σ') (hI : Inv σ) :
    Inv σ' := by
  cases h with
  | ask hc => exact hI.update_exchange fun src h ↦ by cases h
  | answer hc =>
    refine hI.update_exchange fun src h ↦ ?_
    obtain rfl := Exchange.answered.inj h
    exact ⟨hI.origin_used, hI.covers c, covers_values σ.origin⟩
  | apply src hc =>
    rw [pull_eq_values_iff.2 (hI.answer_covers c src hc)]
    have hidle : Inv { σ with exchange := Function.update σ.exchange c .idle } :=
      hI.update_exchange fun src h ↦ by cases h
    refine hidle.update_client (fun src h ↦ ?_)
      (fun k hk ↦ hI.answer_used c src hc k (Origin.values_ne_none hk)) (hI.covers_answer c src hc)
    cases (Function.update_self c Exchange.idle σ.exchange).symm.trans h
  | lose => exact hI.update_exchange fun src h ↦ by cases h

theorem inv_of_run {used : Set K} {es : List (Option C)} {σ : System C V}
    (h : Run Step (System.init C V used) es σ) : Inv σ := by
  refine h.invariant (inv_init used) ?_
  rintro σ (_ | c) σ' hI hs
  · exact OriginStep.inv hs hI
  · exact ExchangeStep.inv hs hI

/-- **Convergence.**  In every run, applying an answer gives the client exactly the records the
origin had when it answered. -/
theorem pull_eq_values_of_run {used : Set K} {es : List (Option C)} {σ : System C V}
    (h : Run Step (System.init C V used) es σ) {c : C} {src : Origin V}
    (hc : σ.exchange c = .answered src) : pull src (σ.client c) = src.values :=
  pull_eq_values_iff.2 ((inv_of_run h).answer_covers c src hc)

end PullSync
