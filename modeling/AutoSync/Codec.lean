import AutoSync.Snapshot

/-!
# Snapshots and diffs as packets

A snapshot or a diff is sent as JSON: `toJson` writes it, and `initFromJson` reads it back into an
object that may hold something else already.  Both are nested by type: an array with a place for
every type, and in it objects whose keys are the identifiers.

For snapshots the two are inverse (`Snapshot.initFromJson_toJson`).  For diffs they are not.
`DiffTypeData::toJson` makes *three objects*, one of which is meant for the list of identifiers to
remove: appending to it fails, and so does reading it as an array, which `initFromJson` does even
when there was nothing to remove.  `Diff.roundTrips_iff` is the exact extent: only a diff without
any types survives.
-/

set_option autoImplicit false

namespace AutoSync

variable {Val : Type} [Json Val]

/-! ## Loops the codecs share

Writing appends one element for each type to an array, and reading takes the array apart by its
indices.  The items of a type are written under the decimal strings of their identifiers, and read
back by turning the keys into numbers again. -/

/-- `for(const auto& t : types) result.emplace(g(t));` on a new array, which fails when one of the
values cannot be made. -/
def emplaceEach {n : ℕ} (g : Fin n → Except Error Val) : Except Error Val :=
  (List.finRange n).foldlM (fun result t ↦ do
    let x ← g t
    Json.emplace result x) (Json.ofArr [])

theorem emplaceEach_ok {n : ℕ} {g : Fin n → Except Error Val} {x : Fin n → Val}
    (h : ∀ t, g t = .ok (x t)) : emplaceEach g = .ok (Json.ofArr (List.ofFn x)) := by
  obtain ⟨r, hr, hI⟩ := Except.foldlM_ok (l := List.finRange n) (b := (Json.ofArr [] : Val))
    (f := fun result t ↦ do
      let x ← g t
      Json.emplace result x)
    (I := fun pre r ↦ r = Json.ofArr (pre.map x)) rfl (by
      rintro pre t post _ _ rfl
      refine ⟨_, ?_, rfl⟩
      rw [h]
      simp [bind, Except.bind])
  rw [emplaceEach, hr, hI, List.ofFn_eq_map]

/-- An array that was built holds the value of every index, and each of them could be made. -/
theorem of_emplaceEach_ok {n : ℕ} {g : Fin n → Except Error Val} {j : Val}
    (h : emplaceEach g = .ok j) :
    ∃ x, (∀ t, g t = .ok (x t)) ∧ j = Json.ofArr (List.ofFn x) := by
  have hall : ∀ t, ∃ x, g t = .ok x := fun t ↦ by
    refine Except.of_foldlM_ok (P := fun t ↦ ∃ x, g t = .ok x) (fun t r r' hstep ↦ ?_) h t
      (List.mem_finRange t)
    cases hg : g t with
    | error e => rw [hg] at hstep; cases hstep
    | ok x => exact ⟨x, rfl⟩
  choose x hx using hall
  rw [emplaceEach_ok hx, Except.ok.injEq] at h
  exact ⟨x, hx, h.symm⟩

/-- The element of a type in an array with one element for every type. -/
theorem idx_ofArr_ofFn {n : ℕ} (x : Fin n → Val) (t : Fin n) :
    Json.idx (Json.ofArr (List.ofFn x)) t = .ok (x t) :=
  Json.idx_ofArr (by simp)

/-- `for(const auto& x : items) result[ssvu::toStr(x.first)] = x.second;` on a new object.  No two
identifiers have the same key. -/
def writeItems (items : OrdMap ID Val) : Val := Json.ofObj (OrdMap.recode toStr items)

/-- `for(const auto& x : mX.forObj()) items[ssvu::sToInt(x.key)] = x.value;`, which overwrites what
is in the items and keeps the others. -/
def readItems (mX : Val) : EStateM Error (OrdMap ID Val) Unit := do
  let l ← ofExcept (Json.forObj mX)
  forM l fun x ↦ do
    let id ← ofExcept (sToInt x.1)
    modify fun items ↦ items.insert id x.2

/-- The identifier of a key, for the keys that are those of identifiers. -/
def idOfKey (key : String) : ID :=
  match sToInt key with
  | .ok id => id
  | .error _ => 0

@[simp] theorem idOfKey_toStr (id : ID) : idOfKey (toStr id) = id := by
  rw [idOfKey, sToInt_toStr]

/-- **Reading back what was written**, key by key: the items are added to those there are. -/
theorem run_readItems_writeItems (items : OrdMap ID Val) :
    (readItems (writeItems items)).run ∅ = .ok () items := by
  obtain ⟨r, hr, hI⟩ := EStateM.run_forM_ok (l := (OrdMap.recode toStr items).toList)
    (s := (∅ : OrdMap ID Val)) (f := fun x ↦ (do
      let id ← ofExcept (sToInt x.1)
      modify fun items ↦ items.insert id x.2 : EStateM Error (OrdMap ID Val) Unit))
    (I := fun pre r ↦ r = OrdMap.insertAll (fun p ↦ idOfKey p.1) Prod.snd ∅ pre) rfl (by
      rintro pre p post _ hl rfl
      obtain ⟨id, hid, -⟩ := OrdMap.exists_of_mem_toList_recode toStr_injective
        (m := items) (p := p) (by simp [hl])
      refine ⟨_, ?_, (OrdMap.insertAll_append_singleton ..).symm⟩
      rw [EStateM.run_bind, ← hid, sToInt_toStr, idOfKey_toStr]
      rfl)
  rw [readItems, writeItems, Json.forObj_ofObj, EStateM.run_bind, EStateM.run_ofExcept_ok]
  simp only
  rw [hr, hI, OrdMap.recode_recode idOfKey_toStr]

/-! ## Snapshots

A snapshot is an array of two arrays, which hold for every type the bitset and the items.  What was
written is read back as it was, over anything that may have been in the snapshot that it is read
into. -/

namespace SnapshotTypeData

def toJson (mX : SnapshotTypeData Val) : Val := writeItems mX.items

def initFromJson (mX : Val) : EStateM Error (SnapshotTypeData Val) Unit := do
  set (⟨∅⟩ : SnapshotTypeData Val)
  EStateM.focus items (fun items _ ↦ ⟨items⟩) (readItems mX)

theorem run_initFromJson_toJson (s s₀ : SnapshotTypeData Val) :
    (initFromJson s.toJson).run s₀ = .ok () s := by
  rw [initFromJson, EStateM.run_bind, EStateM.run_set]
  simp only [EStateM.run_focus, toJson, run_readItems_writeItems, EStateM.Result.mapState_ok]

end SnapshotTypeData

namespace Snapshot

variable {typeCount : ℕ}

def toJson (s : Snapshot typeCount Val) : Except Error Val := do
  let bitsets ← emplaceEach fun t ↦ .ok (Json.ofBitset (s.bitsetIDs t))
  let datas ← emplaceEach fun t ↦ .ok (s.typeDatas t).toJson
  return Json.ofArr [bitsets, datas]

/-- `bitsetIDs[i] = mX[0][i].as<ObjBitset>();`, for one type. -/
def readBitset (mX : Val) (i : Fin typeCount) : EStateM Error (Snapshot typeCount Val) Unit := do
  let bitsets ← ofExcept (Json.idx mX 0)
  let v ← ofExcept (Json.idx bitsets i)
  let b ← ofExcept (Json.asBitset maxObjs v)
  modify fun s ↦ { s with bitsetIDs := Function.update s.bitsetIDs i b }

/-- `mTD.initFromJson(mX[1][i]);` for the data of type `i`, with what has been read so far kept if
it fails. -/
def readTypeData (mX : Val) (i : Fin typeCount) :
    EStateM Error (Snapshot typeCount Val) Unit := do
  let datas ← ofExcept (Json.idx mX 1)
  let v ← ofExcept (Json.idx datas i)
  EStateM.focus (fun s ↦ s.typeDatas i)
    (fun mTD s ↦ { s with typeDatas := Function.update s.typeDatas i mTD })
    (SnapshotTypeData.initFromJson v)

def initFromJson (mX : Val) : EStateM Error (Snapshot typeCount Val) Unit := do
  forM (List.finRange typeCount) (readBitset mX)
  forM (List.finRange typeCount) (readTypeData mX)

/-- The JSON of a snapshot, in a form that shows that writing it cannot fail. -/
def json (s : Snapshot typeCount Val) : Val :=
  Json.ofArr [Json.ofArr (List.ofFn fun t ↦ Json.ofBitset (s.bitsetIDs t)),
    Json.ofArr (List.ofFn fun t ↦ (s.typeDatas t).toJson)]

theorem toJson_ok (s : Snapshot typeCount Val) : s.toJson = .ok s.json := by
  rw [toJson, emplaceEach_ok fun _ ↦ rfl, emplaceEach_ok fun _ ↦ rfl]
  rfl

variable (s : Snapshot typeCount Val)

theorem run_readBitset_json (i : Fin typeCount) (x : Snapshot typeCount Val) :
    (readBitset s.json i).run x =
      .ok () { x with bitsetIDs := Function.update x.bitsetIDs i (s.bitsetIDs i) } := by
  have hbitsets : Json.idx s.json 0 =
      .ok (Json.ofArr (List.ofFn fun t ↦ Json.ofBitset (s.bitsetIDs t))) := Json.idx_ofArr rfl
  simp [readBitset, hbitsets, idx_ofArr_ofFn]

theorem run_readTypeData_json (i : Fin typeCount) (x : Snapshot typeCount Val) :
    (readTypeData s.json i).run x =
      .ok () { x with typeDatas := Function.update x.typeDatas i (s.typeDatas i) } := by
  have hdatas : Json.idx s.json 1 =
      .ok (Json.ofArr (List.ofFn fun t ↦ (s.typeDatas t).toJson)) := Json.idx_ofArr rfl
  simp [readTypeData, hdatas, idx_ofArr_ofFn, EStateM.run_focus,
    SnapshotTypeData.run_initFromJson_toJson]

/-- **Reading back a snapshot** gives the snapshot, whatever was there before.  The items of a type
are cleared before any are read. -/
theorem run_initFromJson_json (s₀ : Snapshot typeCount Val) :
    (initFromJson s.json).run s₀ = .ok () s := by
  obtain ⟨s₁, h₁, hI₁⟩ := EStateM.run_forM_ok (l := List.finRange typeCount) (s := s₀)
    (f := readBitset s.json)
    (I := fun pre (x : Snapshot typeCount Val) ↦ ∀ i ∈ pre, x.bitsetIDs i = s.bitsetIDs i)
    (by simp) (by
      intro pre i post x _ hI
      refine ⟨_, run_readBitset_json s i x, fun k hk ↦ ?_⟩
      by_cases hki : k = i
      · subst hki; exact Function.update_self ..
      · exact (Function.update_of_ne hki ..).trans (hI k (by simpa [hki] using hk)))
  obtain ⟨s₂, h₂, hI₂⟩ := EStateM.run_forM_ok (l := List.finRange typeCount) (s := s₁)
    (f := readTypeData s.json)
    (I := fun pre (x : Snapshot typeCount Val) ↦ x.bitsetIDs = s₁.bitsetIDs ∧
      ∀ i ∈ pre, x.typeDatas i = s.typeDatas i)
    ⟨rfl, by simp⟩ (by
      rintro pre i post x _ ⟨hbits, hI⟩
      refine ⟨_, run_readTypeData_json s i x, hbits, fun k hk ↦ ?_⟩
      by_cases hki : k = i
      · subst hki; exact Function.update_self ..
      · exact (Function.update_of_ne hki ..).trans (hI k (by simpa [hki] using hk)))
  have hs₂ : s₂ = s := Snapshot.ext
    (hI₂.1.trans (funext fun i ↦ hI₁ i (List.mem_finRange i)))
    (funext fun i ↦ hI₂.2 i (List.mem_finRange i))
  rw [initFromJson]
  exact EStateM.run_bind_eq_ok.2 ⟨_, s₁, h₁, h₂.trans (by rw [hs₂])⟩

/-- **The codec of snapshots is a round trip**, in both directions. -/
theorem initFromJson_toJson : ∃ j, s.toJson = .ok j ∧
    ∀ s₀, ∃ s', (initFromJson j).run s₀ = .ok () s' ∧ s' = s ∧ s'.toJson = .ok j :=
  ⟨s.json, toJson_ok s, fun s₀ ↦ ⟨s, run_initFromJson_json s s₀, rfl, toJson_ok s⟩⟩

end Snapshot

/-! ## Diffs

The data of one type are an array of three slots: what to create, what to remove and what to update.
`toJson` makes all three as objects and then appends to the second, and `initFromJson` reads the
second as an array.  The one fails as soon as there is something to remove, and the other always. -/

namespace DiffTypeData

/-- The three slots are all made as objects, and the identifiers to remove are appended to the
second of them. -/
def toJson (d : DiffTypeData Val) : Except Error Val := do
  let result : List Val := [Json.ofObj ∅, Json.ofObj ∅, Json.ofObj ∅]
  let jCreate := writeItems d.toCreate
  let jUpdate := writeItems d.toUpdate
  let jRemove ← d.toRemove.foldlM (fun jRemove x ↦ Json.emplace jRemove (Json.ofInt x))
    (Json.ofObj ∅)
  return Json.ofArr
    (((result.set jsonCreateIdx jCreate).set jsonUpdateIdx jUpdate).set jsonRemoveIdx jRemove)

def initFromJson (mX : Val) : EStateM Error (DiffTypeData Val) Unit := do
  set (empty : DiffTypeData Val)
  let jCreate ← ofExcept (Json.idx mX jsonCreateIdx)
  let jUpdate ← ofExcept (Json.idx mX jsonUpdateIdx)
  let jRemove ← ofExcept (Json.idx mX jsonRemoveIdx)
  EStateM.focus toCreate (fun items d ↦ { d with toCreate := items }) (readItems jCreate)
  EStateM.focus toUpdate (fun items d ↦ { d with toUpdate := items }) (readItems jUpdate)
  let l ← ofExcept (Json.forArr jRemove)
  forM l fun v ↦ do
    let x ← ofExcept (Json.asInt v)
    modify fun d ↦ { d with toRemove := d.toRemove ++ [x] }

/-- Writing fails as soon as there is something to remove, and succeeds otherwise. -/
theorem toJson_eq (d : DiffTypeData Val) : d.toJson =
    if d.toRemove = [] then
      .ok (Json.ofArr [writeItems d.toCreate, Json.ofObj ∅, writeItems d.toUpdate])
    else .error (Json.misuse Val) := by
  rw [toJson]
  cases hr : d.toRemove with
  | nil => rfl
  | cons x l =>
    rw [List.foldlM_cons, Json.emplace_ofObj]
    rfl

/-- Reading fails even when there is nothing to remove, after the two maps have been read: an object
is not an array, whatever it holds. -/
theorem run_initFromJson (toCreate toUpdate : OrdMap ID Val) (d₀ : DiffTypeData Val) :
    (initFromJson (Json.ofArr [writeItems toCreate, Json.ofObj ∅, writeItems toUpdate])).run d₀ =
      .error (Json.misuse Val) ⟨toCreate, toUpdate, []⟩ := by
  have hc : Json.idx (Json.ofArr [writeItems toCreate, Json.ofObj ∅, writeItems toUpdate])
      jsonCreateIdx = .ok (writeItems toCreate) := Json.idx_ofArr rfl
  have hr : Json.idx (Json.ofArr [writeItems toCreate, Json.ofObj ∅, writeItems toUpdate])
      jsonRemoveIdx = .ok (Json.ofObj ∅) := Json.idx_ofArr rfl
  have hu : Json.idx (Json.ofArr [writeItems toCreate, Json.ofObj ∅, writeItems toUpdate])
      jsonUpdateIdx = .ok (writeItems toUpdate) := Json.idx_ofArr rfl
  simp [initFromJson, hc, hr, hu, EStateM.run_focus, empty, run_readItems_writeItems]

/-- No data of a type survive: what could be written cannot be read. -/
theorem not_run_initFromJson_toJson {d d₀ d' : DiffTypeData Val} {j : Val}
    (h : d.toJson = .ok j) : (initFromJson j).run d₀ ≠ .ok () d' := by
  rw [toJson_eq] at h
  split at h
  · rw [Except.ok.injEq] at h
    rw [← h, run_initFromJson]
    exact fun h ↦ absurd h (by simp)
  · exact absurd h (by simp)

end DiffTypeData

namespace Diff

variable {typeCount : ℕ}

def toJson (d : Diff typeCount Val) : Except Error Val :=
  emplaceEach fun t ↦ (d.typeDatas t).toJson

/-- `mTD.initFromJson(mX[i]);` for the data of type `i`, as a step of the loop over all types. -/
def readTypeData (mX : Val) (i : Fin typeCount) : EStateM Error (Diff typeCount Val) Unit := do
  let v ← ofExcept (Json.idx mX i)
  EStateM.focus (fun d ↦ d.typeDatas i)
    (fun mTD d ↦ { d with typeDatas := Function.update d.typeDatas i mTD })
    (DiffTypeData.initFromJson v)

def initFromJson (mX : Val) : EStateM Error (Diff typeCount Val) Unit :=
  forM (List.finRange typeCount) (readTypeData mX)

/-- The diff is written, and reading it into `d₀` gives it back as it was. -/
def RoundTrips (d d₀ : Diff typeCount Val) : Prop :=
  ∃ j, d.toJson = .ok j ∧ (initFromJson j).run d₀ = .ok () d

/-- **When a diff survives the codec**: when it has no types at all. -/
theorem roundTrips_iff (d d₀ : Diff typeCount Val) : d.RoundTrips d₀ ↔ typeCount = 0 := by
  constructor
  · rintro ⟨j, hj, hrun⟩
    by_contra hne
    let t : Fin typeCount := ⟨0, Nat.pos_of_ne_zero hne⟩
    obtain ⟨x, hx, rfl⟩ := of_emplaceEach_ok hj
    -- the loop got past the first type, so reading its data succeeded
    obtain ⟨s, s', hs⟩ := (EStateM.of_run_forM_ok (I := fun _ _ ↦ True)
      (P := fun i ↦ ∃ s s', (readTypeData (Json.ofArr (List.ofFn x)) i).run s = .ok () s') trivial
      (fun _ i _ s s' _ _ h ↦ ⟨⟨s, s', h⟩, trivial⟩) hrun).1 t (List.mem_finRange t)
    rw [readTypeData, idx_ofArr_ofFn, EStateM.run_bind, EStateM.run_ofExcept_ok] at hs
    obtain ⟨d', hd', -⟩ := EStateM.Result.mapState_eq_ok.1 hs
    exact DiffTypeData.not_run_initFromJson_toJson (hx t) hd'
  · rintro rfl
    obtain rfl : d = d₀ := Diff.ext (funext fun t ↦ t.elim0)
    exact ⟨_, rfl, rfl⟩

/-- A diff of one type that creates an object is written but cannot be read; one that removes an
object cannot even be written. -/
theorem codec_fails :
    (∃ j d', (⟨fun _ ↦ ⟨(∅ : OrdMap ID JsonTree).insert 0 .null, ∅, []⟩⟩ :
        Diff 1 JsonTree).toJson = .ok j ∧
      (initFromJson j).run (⟨fun _ ↦ DiffTypeData.empty⟩ : Diff 1 JsonTree) =
        .error .badKind d') ∧
    (⟨fun _ ↦ ⟨∅, ∅, [3]⟩⟩ : Diff 1 JsonTree).toJson = .error .badKind :=
  ⟨⟨_, _, rfl, rfl⟩, rfl⟩

end Diff

end AutoSync
