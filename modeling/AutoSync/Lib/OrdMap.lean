import Mathlib.Tactic.Common
import Mathlib.Data.List.Induction

/-!
# Ordered maps, and the loops that fill them

`OrdMap K V` is `std::map<K, V>`: core Lean's extensional tree map with the canonical comparison.
Two of them are equal when they hold the same entries, and `toList` visits the entries in
increasing order of the keys.

`OrdMap.insertAll key val m l` is the loop

```
for (x : l) m[key(x)] = val(x);
```

and the second half of the file says what such a loop leaves in the map when distinct elements
have distinct keys.  The case that matters most is a loop over the entries of another map:
`OrdMap.recode f m` moves every entry to the key `f k`, and `recode_recode` undoes the move.
-/

set_option autoImplicit false

/-- `std::map<K, V>`, compared and visited in the order of its keys. -/
abbrev OrdMap (K V : Type) [Ord K] : Type := Std.ExtTreeMap K V compare

namespace OrdMap

variable {K V : Type} [Ord K] [Std.TransOrd K]

/-! ## Single operations

What the entries of a map are, and what inserting and erasing does to them.  Most of it is in the
library already; here are the forms in which a program meets it, with a loop over the entries on one
side and a lookup on the other. -/

theorem mem_iff_lookup (m : OrdMap K V) (k : K) : k ∈ m ↔ ∃ v, m[k]? = some v := by
  rw [Std.ExtTreeMap.mem_iff_isSome_getElem?, Option.isSome_iff_exists]

theorem mem_of_lookup {m : OrdMap K V} {k : K} {v : V} (h : m[k]? = some v) : k ∈ m :=
  (mem_iff_lookup m k).2 ⟨v, h⟩

theorem lookup_eq_none {m : OrdMap K V} {k : K} : m[k]? = none ↔ k ∉ m := by
  rw [mem_iff_lookup, not_exists, Option.eq_none_iff_forall_ne_some]

theorem eq_empty_iff {m : OrdMap K V} : m = ∅ ↔ ∀ k : K, m[k]? = none := by
  rw [Std.ExtTreeMap.eq_empty_iff_forall_not_mem]
  exact forall_congr' fun k ↦ lookup_eq_none.symm

variable [Std.LawfulEqOrd K]

theorem mem_toList (m : OrdMap K V) (p : K × V) : p ∈ m.toList ↔ m[p.1]? = some p.2 :=
  Std.ExtTreeMap.mem_toList_iff_getElem?_eq_some

/-- An entry that a loop visits is under a key of the map, so that a lookup finds it. -/
theorem mem_of_mem_toList {m : OrdMap K V} {p : K × V} (h : p ∈ m.toList) : p.1 ∈ m :=
  mem_of_lookup ((mem_toList m p).1 h)

/-- An entry is determined by its key: a loop does not visit two entries with the same one. -/
theorem eq_of_mem_toList {m : OrdMap K V} {p q : K × V} (hp : p ∈ m.toList) (hq : q ∈ m.toList)
    (h : p.1 = q.1) : p = q := by
  rw [mem_toList] at hp hq
  rw [h, hq, Option.some_inj] at hp
  exact Prod.ext h hp.symm

/-- The entry visited next by a loop over the entries has a key that was not visited before. -/
theorem fresh_of_toList_eq {m : OrdMap K V} {pre post : List (K × V)} {p : K × V}
    (h : m.toList = pre ++ p :: post) : ∀ q ∈ pre, q.1 ≠ p.1 := by
  have hd := Std.ExtTreeMap.distinct_keys_toList (t := m)
  rw [h, List.pairwise_append] at hd
  intro q hq he
  exact hd.2.2 q hq p List.mem_cons_self (Std.LawfulEqCmp.compare_eq_iff_eq.2 he)

/-- `m[k]` on a `std::map`: the value under `k`, where a key that is not there is first inserted
with the value `d`. -/
def subscript (d : V) (m : OrdMap K V) (k : K) : V × OrdMap K V :=
  match m[k]? with
  | some v => (v, m)
  | none => (d, m.insert k d)

omit [Std.LawfulEqOrd K] in
theorem subscript_of_some {d : V} {m : OrdMap K V} {k : K} {v : V} (h : m[k]? = some v) :
    subscript d m k = (v, m) := by
  rw [subscript, h]

omit [Std.LawfulEqOrd K] in
theorem subscript_of_none {d : V} {m : OrdMap K V} {k : K} (h : m[k]? = none) :
    subscript d m k = (d, m.insert k d) := by
  rw [subscript, h]

variable [DecidableEq K]

theorem lookup_insert (m : OrdMap K V) (k a : K) (v : V) :
    (m.insert k v)[a]? = if a = k then some v else m[a]? := by
  rw [Std.ExtTreeMap.getElem?_insert]
  by_cases h : a = k
  · simp [h]
  · have hc : compare k a ≠ .eq := fun hc ↦ h (Std.LawfulEqCmp.eq_of_compare hc).symm
    simp [h, hc]

theorem lookup_insert_ne (m : OrdMap K V) {k a : K} (v : V) (h : a ≠ k) :
    (m.insert k v)[a]? = m[a]? := by
  rw [lookup_insert, if_neg h]

theorem lookup_erase (m : OrdMap K V) (k a : K) :
    (m.erase k)[a]? = if a = k then none else m[a]? := by
  rw [Std.ExtTreeMap.getElem?_erase]
  by_cases h : a = k
  · simp [h]
  · have hc : compare k a ≠ .eq := fun hc ↦ h (Std.LawfulEqCmp.eq_of_compare hc).symm
    simp [h, hc]

/-- Erasing several keys, one after the other: what is left are the entries under the others. -/
theorem lookup_foldl_erase (a : K) : ∀ (l : List K) (m : OrdMap K V),
    (l.foldl (fun m k ↦ m.erase k) m)[a]? = if a ∈ l then none else m[a]?
  | [], _ => rfl
  | k :: l, m => by
    rw [List.foldl_cons, lookup_foldl_erase a l, lookup_erase]
    by_cases hak : a = k <;> simp [hak]

theorem insert_insert_self (m : OrdMap K V) (k : K) (v w : V) :
    (m.insert k v).insert k w = m.insert k w := by
  refine Std.ExtTreeMap.ext_getElem? fun a ↦ ?_
  simp only [lookup_insert]
  split <;> rfl

theorem erase_insert_self (m : OrdMap K V) (k : K) (v : V) :
    (m.insert k v).erase k = m.erase k := by
  refine Std.ExtTreeMap.ext_getElem? fun a ↦ ?_
  rw [lookup_erase, lookup_erase, lookup_insert]
  split <;> rfl

/-- Subscripting a key and assigning to what one gets is the same as one insertion. -/
theorem insert_subscript (d : V) (m : OrdMap K V) (k : K) (v : V) :
    (subscript d m k).2.insert k v = m.insert k v := by
  rw [subscript]
  split
  · rfl
  · exact insert_insert_self m k d v

/-! ## Loops

A loop that fills a map writes to one key after the other, and what it writes last is what counts.
As long as equal keys come with equal values this does not matter, and the loop can be described
without following it. -/

variable {K' α : Type} [Ord K'] [Std.TransOrd K'] [Std.LawfulEqOrd K'] [DecidableEq K']

/-- The loop `for (x : l) m[key(x)] = val(x)`, which overwrites what is under the keys before. -/
def insertAll (key : α → K) (val : α → V) (m : OrdMap K V) (l : List α) : OrdMap K V :=
  l.foldl (fun m x ↦ m.insert (key x) (val x)) m

variable {key : α → K} {val : α → V}

omit [Std.LawfulEqOrd K] [DecidableEq K] in
theorem insertAll_append_singleton (m : OrdMap K V) (l : List α) (x : α) :
    insertAll key val m (l ++ [x]) = (insertAll key val m l).insert (key x) (val x) := by
  simp [insertAll]

/-- A key that no element of the list has keeps the value it had before the loop. -/
theorem lookup_insertAll_of_ne {l : List α} {a : K} (h : ∀ x ∈ l, key x ≠ a) (m : OrdMap K V) :
    (insertAll key val m l)[a]? = m[a]? := by
  induction l generalizing m with
  | nil => rfl
  | cons x l ih =>
    have hl := ih (fun y hy ↦ h y (List.mem_cons_of_mem _ hy)) (m.insert (key x) (val x))
    have hx := lookup_insert_ne m (val x) (h x List.mem_cons_self).symm
    exact hl.trans hx

/-- If equal keys come with equal values, the key of an element ends up with its value. -/
theorem lookup_insertAll_of_mem {l : List α}
    (hkey : ∀ x ∈ l, ∀ y ∈ l, key x = key y → val x = val y) {x : α} (hx : x ∈ l)
    (m : OrdMap K V) : (insertAll key val m l)[key x]? = some (val x) := by
  induction l using List.reverseRecOn with
  | nil => simp at hx
  | append_singleton l y ih =>
    rw [insertAll_append_singleton, lookup_insert]
    split
    · rename_i h
      rw [hkey x hx y (by simp) h]
    · rename_i h
      rcases List.mem_append.1 hx with hx | hx
      · exact ih (fun u hu v hv ↦ hkey u (by simp [hu]) v (by simp [hv])) hx
      · exact absurd (congrArg key (List.mem_singleton.1 hx)) h

/-- The entries of a map filled from scratch, when the elements of the list do not contradict each
other. -/
theorem lookup_insertAll_empty {l : List α}
    (hkey : ∀ x ∈ l, ∀ y ∈ l, key x = key y → val x = val y) {a : K} {v : V} :
    (insertAll key val ∅ l)[a]? = some v ↔ ∃ x ∈ l, key x = a ∧ val x = v := by
  constructor
  · intro h
    by_cases hex : ∃ x ∈ l, key x = a
    · obtain ⟨x, hx, rfl⟩ := hex
      rw [lookup_insertAll_of_mem hkey hx, Option.some_inj] at h
      exact ⟨x, hx, rfl, h⟩
    · rw [lookup_insertAll_of_ne (fun x hx he ↦ hex ⟨x, hx, he⟩)] at h
      simp at h
  · rintro ⟨x, hx, rfl, rfl⟩
    exact lookup_insertAll_of_mem hkey hx ∅

/-! ## Changing the keys

A map that goes into a JSON object gets strings for keys.  As long as the code of the keys can be
decoded nothing is lost on the way there and back. -/

/-- The map with the entry of `k` moved to the key `f k`, for all its keys at once. -/
def recode (f : K → K') (m : OrdMap K V) : OrdMap K' V :=
  insertAll (fun p : K × V ↦ f p.1) Prod.snd ∅ m.toList

omit [DecidableEq K] in
theorem lookup_recode {f : K → K'} (hf : Function.Injective f) (m : OrdMap K V) {a : K'} {v : V} :
    (recode f m)[a]? = some v ↔ ∃ k, f k = a ∧ m[k]? = some v := by
  rw [recode, lookup_insertAll_empty (fun p hp q hq h ↦ by rw [eq_of_mem_toList hp hq (hf h)])]
  constructor
  · rintro ⟨⟨k, w⟩, hp, rfl, rfl⟩
    exact ⟨k, rfl, (mem_toList m _).1 hp⟩
  · rintro ⟨k, rfl, hk⟩
    exact ⟨(k, v), (mem_toList m _).2 hk, rfl, rfl⟩

omit [DecidableEq K] in
/-- Every key of a recoded map is the code of a key, and the value is the one that was there. -/
theorem exists_of_mem_toList_recode {f : K → K'} (hf : Function.Injective f) {m : OrdMap K V}
    {p : K' × V} (hp : p ∈ (recode f m).toList) : ∃ k, f k = p.1 ∧ m[k]? = some p.2 :=
  (lookup_recode hf m).1 ((mem_toList _ p).1 hp)

/-- **Recoding is undone by decoding the keys**, if `g` decodes whatever `f` codes. -/
theorem recode_recode {f : K → K'} {g : K' → K} (h : ∀ k, g (f k) = k) (m : OrdMap K V) :
    insertAll (fun p : K' × V ↦ g p.1) Prod.snd ∅ (recode f m).toList = m := by
  have hf : Function.Injective f := Function.LeftInverse.injective h
  refine Std.ExtTreeMap.ext_getElem? fun k ↦ Option.ext fun v ↦ ?_
  rw [lookup_insertAll_empty]
  · constructor
    · rintro ⟨p, hp, hk, rfl⟩
      obtain ⟨k', hk', hm⟩ := exists_of_mem_toList_recode hf hp
      rw [← hk', h] at hk
      rwa [← hk]
    · intro hm
      refine ⟨(f k, v), (mem_toList _ _).2 ?_, h k, rfl⟩
      exact (lookup_recode hf m).2 ⟨k, rfl, hm⟩
  · intro p hp q hq he
    obtain ⟨i, hi, -⟩ := exists_of_mem_toList_recode hf hp
    obtain ⟨j, hj, -⟩ := exists_of_mem_toList_recode hf hq
    rw [← hi, ← hj, h, h] at he
    rw [eq_of_mem_toList hp hq (by rw [← hi, ← hj, he])]

end OrdMap
