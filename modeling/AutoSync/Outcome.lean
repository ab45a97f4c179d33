import AutoSync.Codec
import AutoSync.Operations

/-!
# What can go wrong

A snapshot or a diff comes off the network as JSON, and nobody has checked it.  This file bounds
what may come of that, for values of any shape.

Reading JSON, comparing two snapshots and writing a diff fail in two ways only: with an exception,
or with whatever the JSON library does on a value of the wrong kind (`Error.OfJson`).  Carrying out
a diff can in addition fail an assertion or leave the range of the alive bitset (`Error.OfDiff`),
but it never follows a handle that refers to nothing, and wherever it stops the alive objects are
exactly those with a handle to an object (`Live.ends_applyDiff`).  That holds also of a manager on
which somebody has looked up an identifier that is not there.  Writing such a manager out is the one
operation that follows a null handle (`error_getSnapshot`).

Each operation has one lemma, in the form of `EStateM.Result.Ends` when it has a state.
-/

set_option autoImplicit false

namespace AutoSync

open EStateM (Result)

variable {Val : Type} [Json Val]

variable (Val) in
/-- What reading and writing JSON can fail with: an exception, or what the library does on a value
of the wrong kind. -/
inductive Error.OfJson : Error → Prop
  | misuse : OfJson (Json.misuse Val)
  | raised (ex : Exception) : OfJson (.raised ex)

variable (Val) in
/-- What carrying out a diff can fail with: reading the JSON of an object, or an object that is
there already, or is not there, or is out of range. -/
inductive Error.OfDiff : Error → Prop
  | assertFailed : OfDiff .assertFailed
  | badIndex : OfDiff .badIndex
  | json {e : Error} (h : e.OfJson Val) : OfDiff e

/-- The operation satisfies `Q` wherever it ends and the program goes on, and can only fail with
`P`. -/
structure Copes {σ α : Type} (r : Result Error σ α) (Q : σ → Prop) (P : Error → Prop) : Prop where
  survives : ∀ s, Survives r s → Q s
  error : ∀ e s, r = .error e s → P e

theorem Copes.of_ends {σ α : Type} {r : Result Error σ α} {Q : σ → Prop} {P : Error → Prop}
    (h : r.Ends Q P) : Copes r Q P :=
  ⟨fun _ hs ↦ hs.state ▸ h.state, fun _ _ he ↦ (h.error he)⟩

theorem Copes.mono {σ α : Type} {r : Result Error σ α} {Q Q' : σ → Prop} {P P' : Error → Prop}
    (h : Copes r Q P) (hQ : ∀ s, Q s → Q' s) (hP : ∀ e, P e → P' e) : Copes r Q' P' :=
  ⟨fun s hs ↦ hQ s (h.survives s hs), fun e s he ↦ hP e (h.error e s he)⟩

/-! ## JSON of any shape

Every operation on a JSON value either succeeds or fails with an exception or with what the library
does on a value of the wrong kind.  The lemmas are one for each operation, and everything below is
put together from them. -/

namespace Json

variable {v x : Val} {key : String} {i : ℕ} {e : Error}

theorem error_has (h : has v key = .error e) : e.OfJson Val := by
  rw [has] at h
  split at h <;> cases h
  exact .misuse

theorem error_get (h : get v key = .error e) : e.OfJson Val := by
  rw [get] at h
  split at h
  · cases h; exact .misuse
  · split at h <;> cases h
    exact .misuse

theorem error_idx (h : idx v i = .error e) : e.OfJson Val := by
  rw [idx] at h
  split at h
  · cases h; exact .misuse
  · split at h <;> cases h
    exact .misuse

theorem error_emplace (h : emplace v x = .error e) : e = Json.misuse Val := by
  rw [emplace] at h
  split at h <;> cases h
  rfl

theorem error_forObj (h : forObj v = .error e) : e.OfJson Val := by
  rw [forObj] at h
  split at h <;> cases h
  exact .misuse

theorem error_forArr (h : forArr v = .error e) : e.OfJson Val := by
  rw [forArr] at h
  split at h <;> cases h
  exact .misuse

theorem error_asInt (h : asInt v = .error e) : e.OfJson Val := by
  rw [asInt] at h
  split at h <;> cases h
  exact .raised _

theorem error_asStr (h : asStr v = .error e) : e.OfJson Val := by
  rw [asStr] at h
  split at h <;> cases h
  exact .raised _

theorem error_bitsetOfStr {n : ℕ} {s : String} (h : bitsetOfStr n s = .error e) :
    e.OfJson Val := by
  rw [bitsetOfStr] at h
  split at h <;> cases h
  exact .raised _

theorem error_asBitset {n : ℕ} (h : asBitset n v = .error e) : e.OfJson Val := by
  rcases Except.bind_eq_error h with hs | ⟨s, -, hb⟩
  · exact error_asStr hs
  · exact error_bitsetOfStr hb

end Json

theorem error_sToInt {s : String} {e : Error} (h : sToInt s = .error e) : e.OfJson Val := by
  have hdigits : ∀ {cs : List Char} {f : ℕ → ID},
      (readDigits cs).map f = .error e → e.OfJson Val := by
    intro cs f h
    rw [readDigits] at h
    split at h <;> cases h
    exact .raised _
  rw [sToInt] at h
  split at h <;> exact hdigits h

/-! ## Reading snapshots and diffs

Reading is a loop over types inside of which there is one over items, and wherever it stops there is
some snapshot or diff.  So all there is to say is what it fails with. -/

theorem ends_readItems (v : Val) (items : OrdMap ID Val) :
    ((readItems v).run items).Ends (fun _ ↦ True) (Error.OfJson Val) :=
  .bind (.ofExcept trivial fun _ ↦ Json.error_forObj) fun _ _ _ _ ↦
    .forM (fun _ _ _ _ ↦ .bind (.ofExcept trivial fun _ ↦ error_sToInt) fun _ _ _ _ ↦ trivial)
      trivial

theorem SnapshotTypeData.ends_initFromJson (v : Val) (s : SnapshotTypeData Val) :
    ((initFromJson v).run s).Ends (fun _ ↦ True) (Error.OfJson Val) :=
  .bind trivial fun _ _ _ _ ↦ (ends_readItems v _).mapState fun _ _ ↦ trivial

/-- **Reading a snapshot**, from a value of any shape, fails with nothing but what JSON fails
with. -/
theorem Snapshot.ends_initFromJson {typeCount : ℕ} (v : Val) (s : Snapshot typeCount Val) :
    ((initFromJson v).run s).Ends (fun _ ↦ True) (Error.OfJson Val) := by
  refine .bind (.forM (fun i _ s _ ↦ ?_) trivial) fun _ _ _ _ ↦ .forM (fun i _ s _ ↦ ?_) trivial
  · refine .bind (.ofExcept trivial fun _ ↦ Json.error_idx) fun bitsets _ _ _ ↦ ?_
    refine .bind (.ofExcept trivial fun _ ↦ Json.error_idx) fun v _ _ _ ↦ ?_
    exact .bind (.ofExcept trivial fun _ ↦ Json.error_asBitset) fun _ _ _ _ ↦ trivial
  · refine .bind (.ofExcept trivial fun _ ↦ Json.error_idx) fun datas _ _ _ ↦ ?_
    refine .bind (.ofExcept trivial fun _ ↦ Json.error_idx) fun v _ _ _ ↦ ?_
    exact (SnapshotTypeData.ends_initFromJson v _).mapState fun _ _ ↦ trivial

theorem DiffTypeData.ends_initFromJson (v : Val) (d : DiffTypeData Val) :
    ((initFromJson v).run d).Ends (fun _ ↦ True) (Error.OfJson Val) := by
  refine .bind trivial fun _ _ _ _ ↦ ?_
  refine .bind (.ofExcept trivial fun _ ↦ Json.error_idx) fun jCreate _ _ _ ↦ ?_
  refine .bind (.ofExcept trivial fun _ ↦ Json.error_idx) fun jUpdate _ _ _ ↦ ?_
  refine .bind (.ofExcept trivial fun _ ↦ Json.error_idx) fun jRemove _ _ _ ↦ ?_
  refine .bind ((ends_readItems jCreate _).mapState fun _ _ ↦ trivial) fun _ _ _ _ ↦ ?_
  refine .bind ((ends_readItems jUpdate _).mapState fun _ _ ↦ trivial) fun _ _ _ _ ↦ ?_
  refine .bind (.ofExcept trivial fun _ ↦ Json.error_forArr) fun l _ _ _ ↦ ?_
  exact .forM (fun v _ _ _ ↦ .bind (.ofExcept trivial fun _ ↦ Json.error_asInt)
    fun _ _ _ _ ↦ trivial) trivial

/-- **Reading a diff**, from a value of any shape, fails with nothing but what JSON fails with. -/
theorem Diff.ends_initFromJson {typeCount : ℕ} (v : Val) (d : Diff typeCount Val) :
    ((initFromJson v).run d).Ends (fun _ ↦ True) (Error.OfJson Val) :=
  .forM (fun _ _ _ _ ↦ .bind (.ofExcept trivial fun _ ↦ Json.error_idx) fun v _ _ _ ↦
    (DiffTypeData.ends_initFromJson v _).mapState fun _ _ ↦ trivial) trivial

/-! ## Writing a diff

Writing fails where the slot for the identifiers to remove, which is made as an object, is appended
to.  That is a use of a value of the wrong kind. -/

theorem DiffTypeData.error_toJson {d : DiffTypeData Val} {e : Error} (h : d.toJson = .error e) :
    e = Json.misuse Val := by
  rw [toJson_eq] at h
  split at h <;> cases h
  rfl

theorem Diff.error_toJson {typeCount : ℕ} {d : Diff typeCount Val} {e : Error}
    (h : d.toJson = .error e) : e = Json.misuse Val := by
  refine Except.foldlM_error (P := fun e ↦ e = Json.misuse Val) (fun t _ result e he ↦ ?_) h
  rcases Except.bind_eq_error he with hx | ⟨x, -, hx⟩
  · exact DiffTypeData.error_toJson hx
  · exact Json.error_emplace hx

/-! ## Comparing snapshots

A snapshot that has been read may hold anything, so that an item may be missing or have no flags.
The former is an exception and the latter what the library makes of it. -/

namespace Snapshot

variable [DecidableEq Val] {e : Error}

theorem error_getJsonDiff {mX mY : Val} (h : getJsonDiff mX mY = .error e) : e.OfJson Val := by
  rcases Except.bind_eq_error h with hs | ⟨xBitsStr, -, h⟩
  · rcases Except.bind_eq_error hs with hg | ⟨v, -, hv⟩
    · exact Json.error_get hg
    · exact Json.error_asStr hv
  rcases Except.bind_eq_error h with hb | ⟨xFieldFlags, -, h⟩
  · exact Json.error_bitsetOfStr hb
  rcases Except.bind_eq_error h with hl | ⟨result, -, h⟩
  · refine Except.foldlM_error (fun i _ result e he ↦ ?_) hl
    rw [jsonDiffStep] at he
    split at he
    · cases he
    · rcases Except.bind_eq_error he with hx | ⟨x, -, he⟩
      · exact Json.error_get hx
      rcases Except.bind_eq_error he with hy | ⟨y, -, he⟩
      · exact Json.error_get hy
      split at he <;> cases he
  · cases h

/-- **Comparing two snapshots** that hold values of any shape fails with nothing but what JSON fails
with. -/
theorem error_getDiffWith {typeCount : ℕ} {this mX : Snapshot typeCount Val}
    (h : this.getDiffWith mX = .error e) : e.OfJson Val := by
  have hitem : ∀ {mTD : SnapshotTypeData Val} {i : Fin maxObjs} {e : Error},
      itemAt mTD i = .error e → e.OfJson Val := by
    intro mTD i e he
    rw [itemAt] at he
    split at he <;> cases he
    exact .raised _
  rcases Except.bind_eq_error h with hl | ⟨r, -, h⟩
  · refine Except.collect_error (fun t e he ↦ ?_) hl
    refine Except.foldlM_error (fun i _ acc e he ↦ ?_) he
    simp only [diffStep] at he
    split at he
    · rcases Except.bind_eq_error he with hx | ⟨x, -, he⟩
      · exact hitem hx
      rcases Except.bind_eq_error he with hy | ⟨y, -, he⟩
      · exact hitem hy
      rcases Except.bind_eq_error he with hd | ⟨objDiff, -, he⟩
      · exact error_getJsonDiff hd
      split at he <;> cases he
    · cases he
  · cases h

end Snapshot

/-! ## Carrying out a diff

Here the manager matters.  It is enough that it is as no operation can prevent it from being: then
whatever the diff says, the operation stops at an assertion, an index out of range or the JSON, and
never at a handle. -/

theorem SerializationHelper.ends_setFromJson {T : ObjType Val} (v : Val) (o : SyncObj T) :
    ((setFromJson v).run o).Ends (fun _ ↦ True) (Error.OfJson Val) := by
  refine .forM (fun i _ o _ ↦ ?_) trivial
  refine .bind (.ofExcept trivial fun _ ↦ Json.error_has) fun b _ _ _ ↦ ?_
  split
  · refine .bind (.ofExcept trivial fun _ ↦ Json.error_get) fun v _ _ _ ↦ ?_
    refine .bind (.ofExcept trivial fun e he ↦ ?_) fun _ _ _ _ ↦ trivial
    rw [FieldType.as] at he
    split at he <;> cases he
    exact .raised _
  · exact trivial

namespace TypeStore

variable {T : ObjType Val} {s : TypeStore T}

theorem Refused.ends {σ α : Type} {Q : σ → Prop} {r : Result Error σ α} {s : σ} (h : Refused r s)
    (hs : Q s) : r.Ends Q (Error.OfDiff Val) := by
  rcases h with rfl | rfl
  · exact ⟨hs, .badIndex⟩
  · exact ⟨hs, .assertFailed⟩

theorem Live.ends_createImpl (hL : s.Live) (id : ID) (v : Val) :
    ((createImpl id v).run s).Ends Live (Error.OfDiff Val) := by
  obtain hr | ⟨j, -, hj, hrun⟩ := createImpl_cases id v s
  · exact hr.ends hL
  · rw [hrun]
    exact ((SerializationHelper.ends_setFromJson v _).mono (fun _ h ↦ h) fun _ ↦ .json).mapState
      fun _ _ ↦ hL.created hj

theorem Live.ends_removeImpl (hL : s.Live) (id : ID) :
    ((removeImpl id).run s).Ends Live (Error.OfDiff Val) := by
  obtain hr | ⟨j, a, rfl, -, ha, hrun⟩ := removeImpl_cases hL id
  · exact hr.ends hL
  · rw [hrun]
    exact hL.removed ha

theorem Live.ends_updateImpl (hL : s.Live) (id : ID) (v : Val) :
    ((updateImpl id v).run s).Ends Live (Error.OfDiff Val) := by
  obtain hr | ⟨a, o, ha, -, hrun⟩ := updateImpl_cases hL id v
  · exact hr.ends hL
  · rw [hrun]
    exact ((SerializationHelper.ends_setFromJson v _).mono (fun _ h ↦ h) fun _ ↦ .json).mapState
      fun _ _ ↦ hL.store ha

theorem Live.ends_applyTypeDiff (hL : s.Live) (d : DiffTypeData Val) :
    ((applyTypeDiff d).run s).Ends Live (Error.OfDiff Val) := by
  refine .bind (.forM (fun p _ s hs ↦ hs.ends_createImpl p.1 p.2) hL) fun _ _ _ h₁ ↦ ?_
  refine .bind (.forM (fun id _ s hs ↦ hs.ends_removeImpl id) h₁) fun _ _ _ h₂ ↦ ?_
  exact .forM (fun p _ s hs ↦ hs.ends_updateImpl p.1 p.2) h₂

/-- Writing a store out can only stop at a handle that refers to nothing, which a lookup has
left. -/
theorem error_typeSnapshot {e : Error} (h : s.typeSnapshot = .error e) : e = .badHandle := by
  rcases Except.bind_eq_error h with hl | ⟨items, -, h⟩
  · refine Except.foldlM_error (P := fun e ↦ e = .badHandle) (fun x _ items e he ↦ ?_) hl
    rw [snapshotStep] at he
    split at he <;> cases he
    rfl
  · cases h

end TypeStore

namespace SyncManager

variable {typeCount : ℕ} {TTypes : Fin typeCount → ObjType Val} {m : SyncManager TTypes}

/-- **Carrying out any diff at all**: the manager is as it should be wherever it stops, and no
handle that refers to nothing is followed. -/
theorem Live.ends_applyDiff (hL : m.Live) (d : Diff typeCount Val) :
    ((applyDiff d).run m).Ends Live (Error.OfDiff Val) := by
  refine .forM (fun t _ m hm ↦ ?_) hL
  rw [onType, EStateM.run_focus]
  exact ((hm t).ends_applyTypeDiff _).mapState fun _ hs ↦ forall_update hm hs

/-- **Writing a manager out** can only stop at a handle that refers to nothing, which a lookup has
left. -/
theorem error_getSnapshot {e : Error} (h : m.getSnapshot = .error e) : e = .badHandle := by
  rcases Except.bind_eq_error h with hl | ⟨typeDatas, -, h⟩
  · exact Except.collect_error (P := fun e ↦ e = .badHandle)
      (fun _ _ he ↦ TypeStore.error_typeSnapshot he) hl
  · cases h

end SyncManager

end AutoSync
