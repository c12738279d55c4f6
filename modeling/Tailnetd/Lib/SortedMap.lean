/-
  Finite maps kept in the order of their keys.

  A `SortedMap` is a list of entries whose keys increase strictly, so that two maps with the same
  entries are equal and an iteration meets the keys in order.  The order is a field of the
  structure: a map whose iteration is out of order, or that holds a key twice, cannot be built.
-/
import Mathlib.Data.List.Induction
import Mathlib.Data.List.Nodup
import Mathlib.Order.Lattice

/-- A finite map, as its entries in the order of the keys. -/
structure SortedMap (κ ν : Type*) [LinearOrder κ] where
  entries : List (κ × ν)
  sorted : entries.Pairwise fun a b => a.1 < b.1

namespace SortedMap

variable {κ ν : Type*} [LinearOrder κ]

instance [DecidableEq ν] : DecidableEq (SortedMap κ ν) := fun m m' =>
  decidable_of_iff (m.entries = m'.entries) <| by
    cases m
    cases m'
    simp

/-! ## Insertion -/

/-- Insert an entry where its key belongs; a key that is there gets the new value. -/
def insertEntry (k : κ) (v : ν) : List (κ × ν) → List (κ × ν)
  | [] => [(k, v)]
  | (k', v') :: rest =>
    if k < k' then (k, v) :: (k', v') :: rest
    else if k = k' then (k, v) :: rest
    else (k', v') :: insertEntry k v rest

/-- The keys after an insertion are the keys before and the new one. -/
theorem mem_insertEntry {k : κ} {v : ν} {entry : κ × ν} {entries : List (κ × ν)}
    (h : entry ∈ insertEntry k v entries) : entry.1 = k ∨ entry ∈ entries := by
  induction entries with
  | nil =>
    rw [insertEntry, List.mem_singleton] at h
    exact .inl (congrArg Prod.fst h)
  | cons head rest ih =>
    unfold insertEntry at h
    split at h
    · rcases List.mem_cons.mp h with rfl | hold
      · exact .inl rfl
      · exact .inr hold
    · split at h
      · rcases List.mem_cons.mp h with rfl | hold
        · exact .inl rfl
        · exact .inr (List.mem_cons_of_mem _ hold)
      · rcases List.mem_cons.mp h with rfl | hrest
        · exact .inr List.mem_cons_self
        · exact (ih hrest).imp_right (List.mem_cons_of_mem _)

/-- Insertion keeps the order. -/
theorem sorted_insertEntry (k : κ) (v : ν) {entries : List (κ × ν)}
    (h : entries.Pairwise fun a b => a.1 < b.1) :
    (insertEntry k v entries).Pairwise fun a b => a.1 < b.1 := by
  induction h with
  | nil => exact List.pairwise_singleton _ _
  | @cons head rest hhead hrest ih =>
    unfold insertEntry
    split
    · rename_i hlt
      refine .cons ?_ (.cons hhead hrest)
      intro entry hentry
      rcases List.mem_cons.mp hentry with rfl | hin
      · exact hlt
      · exact lt_trans hlt (hhead entry hin)
    · rename_i hnlt
      split
      · rename_i heq
        subst heq
        exact .cons hhead hrest
      · rename_i hne
        have hgt : head.1 < k := lt_of_le_of_ne (not_lt.mp hnlt) (Ne.symm hne)
        refine .cons ?_ ih
        intro entry hentry
        rcases mem_insertEntry hentry with hkey | hin
        · rw [hkey]
          exact hgt
        · exact hhead entry hin

/-! ## The operations -/

/-- The map without entries. -/
def empty : SortedMap κ ν := ⟨[], .nil⟩

instance : Inhabited (SortedMap κ ν) := ⟨empty⟩

/-- Whether the map has no entries. -/
def isEmpty (m : SortedMap κ ν) : Bool := m.entries.isEmpty

/-- The value of a key. -/
def get? (m : SortedMap κ ν) (k : κ) : Option ν :=
  (m.entries.find? fun entry => entry.1 == k).map Prod.snd

/-- Give a key a value. -/
def insert (m : SortedMap κ ν) (k : κ) (v : ν) : SortedMap κ ν :=
  ⟨insertEntry k v m.entries, sorted_insertEntry k v m.sorted⟩

/-- Keep the entries whose keys pass a test. -/
def retain (m : SortedMap κ ν) (p : κ → Bool) : SortedMap κ ν :=
  ⟨m.entries.filter fun entry => p entry.1, m.sorted.filter _⟩

/-- Take a key out. -/
def remove (m : SortedMap κ ν) (k : κ) : SortedMap κ ν := m.retain fun k' => k' != k

/-- Insert every entry of another map. -/
def extend (m m' : SortedMap κ ν) : SortedMap κ ν :=
  m'.entries.foldl (fun m entry => m.insert entry.1 entry.2) m

/-- Map every value by a function that may fail; the first failure in the order of the keys wins. -/
def traverse {ε ν' : Type*} (f : ν → Except ε ν') (m : SortedMap κ ν) :
    Except ε (SortedMap κ ν') :=
  m.entries.foldlM (fun m entry => (f entry.2).map fun v => m.insert entry.1 v) empty

/-- Map every value. -/
def map {ν' : Type*} (g : ν → ν') (m : SortedMap κ ν) : SortedMap κ ν' :=
  ⟨m.entries.map fun entry => (entry.1, g entry.2), List.pairwise_map.mpr m.sorted⟩

/-! ## Looking up -/

/-- No key is there twice. -/
theorem keys_nodup (m : SortedMap κ ν) : (m.entries.map Prod.fst).Nodup :=
  List.pairwise_map.mpr (m.sorted.imp fun h => ne_of_lt h)

/-- Entries of one key are one entry. -/
theorem eq_of_key_eq {m : SortedMap κ ν} {a b : κ × ν} (ha : a ∈ m.entries) (hb : b ∈ m.entries)
    (h : a.1 = b.1) : a = b :=
  List.inj_on_of_nodup_map m.keys_nodup ha hb h

/-- A lookup is membership. -/
theorem get?_eq_some_iff {m : SortedMap κ ν} {k : κ} {v : ν} :
    m.get? k = some v ↔ (k, v) ∈ m.entries := by
  unfold get?
  rw [Option.map_eq_some_iff]
  constructor
  · rintro ⟨entry, hfind, rfl⟩
    have hkey : entry.1 = k := by simpa using List.find?_some hfind
    exact hkey ▸ List.mem_of_find?_eq_some hfind
  · intro hmem
    have hsome : (m.entries.find? fun entry => entry.1 == k).isSome = true :=
      List.find?_isSome.mpr ⟨(k, v), hmem, by simp⟩
    obtain ⟨entry, hfind⟩ := Option.isSome_iff_exists.mp hsome
    have hkey : entry.1 = k := by simpa using List.find?_some hfind
    have hone := eq_of_key_eq (List.mem_of_find?_eq_some hfind) hmem hkey
    exact ⟨entry, hfind, congrArg Prod.snd hone⟩

/-- What passes a test does not come before the entry that is found. -/
theorem key_le_of_find? {m : SortedMap κ ν} {p : κ × ν → Bool} {entry e : κ × ν}
    (hfind : m.entries.find? p = some entry) (he : e ∈ m.entries) (hpass : p e = true) :
    entry.1 ≤ e.1 := by
  obtain ⟨-, before, after, hsplit, hbefore⟩ := List.find?_eq_some_iff_append.mp hfind
  have hsorted := m.sorted
  rw [hsplit] at he hsorted
  rcases List.mem_append.mp he with hin | hin
  · have hno := hbefore e hin
    rw [hpass] at hno
    cases hno
  · rcases List.mem_cons.mp hin with rfl | hafter
    · exact le_refl _
    · have hrest := (List.pairwise_append.mp hsorted).2.1
      exact le_of_lt ((List.pairwise_cons.mp hrest).1 e hafter)

/-- **The first entry that passes a test is the one of the least key.** -/
theorem find?_eq_some_iff_least {m : SortedMap κ ν} {p : κ × ν → Bool} {entry : κ × ν} :
    m.entries.find? p = some entry ↔
      entry ∈ m.entries ∧ p entry = true ∧ ∀ e ∈ m.entries, p e = true → entry.1 ≤ e.1 := by
  constructor
  · intro hfind
    exact ⟨List.mem_of_find?_eq_some hfind, List.find?_some hfind,
      fun e he hpass => key_le_of_find? hfind he hpass⟩
  · rintro ⟨hmem, hpass, hleast⟩
    have hsome : (m.entries.find? p).isSome = true := List.find?_isSome.mpr ⟨entry, hmem, hpass⟩
    obtain ⟨first, hfind⟩ := Option.isSome_iff_exists.mp hsome
    have hfirst := List.mem_of_find?_eq_some hfind
    have hkeys : first.1 = entry.1 :=
      le_antisymm (key_le_of_find? hfind hmem hpass) (hleast first hfirst (List.find?_some hfind))
    rw [hfind, eq_of_key_eq hfirst hmem hkeys]

@[simp] theorem get?_empty (k : κ) : (empty : SortedMap κ ν).get? k = none := rfl

theorem get?_of_isEmpty {m : SortedMap κ ν} (h : m.isEmpty = true) (k : κ) : m.get? k = none := by
  unfold isEmpty at h
  unfold get?
  rw [List.isEmpty_iff.mp h]
  rfl

/-- An inserted key has the new value, every other key what it had. -/
theorem get?_insert (m : SortedMap κ ν) (k k' : κ) (v : ν) :
    (m.insert k v).get? k' = if k' = k then some v else m.get? k' := by
  unfold get? insert
  dsimp only
  induction m.entries with
  | nil =>
    by_cases h : k' = k
    · simp [insertEntry, h]
    · simp [insertEntry, h, Ne.symm h]
  | cons head rest ih =>
    unfold insertEntry
    split
    · by_cases h : k' = k
      · simp [h]
      · simp [h, Ne.symm h]
    · split
      · rename_i heq
        subst heq
        by_cases h : k' = head.1
        · simp [h]
        · simp [h, Ne.symm h]
      · rename_i hne
        by_cases h : head.1 = k'
        · subst h
          simp [Ne.symm hne]
        · simpa [h] using ih

/-- A key that passes has what it had, any other key nothing. -/
theorem get?_retain (m : SortedMap κ ν) (p : κ → Bool) (k : κ) :
    (m.retain p).get? k = if p k then m.get? k else none := by
  ext v
  rw [get?_eq_some_iff]
  unfold retain
  dsimp only
  rw [List.mem_filter, ← get?_eq_some_iff]
  split
  · rename_i hk
    simp [hk]
  · rename_i hk
    simp [hk]

/-- A key that was taken out has nothing, every other key what it had. -/
theorem get?_remove (m : SortedMap κ ν) (k k' : κ) :
    (m.remove k).get? k' = if k' = k then none else m.get? k' := by
  unfold remove
  rw [get?_retain]
  by_cases h : k' = k
  · simp [h]
  · simp [h]

/-- Two maps with the same lookups are equal. -/
theorem eq_of_get? {m m' : SortedMap κ ν} (h : ∀ k, m.get? k = m'.get? k) : m = m' := by
  have hmem (entry : κ × ν) : entry ∈ m.entries ↔ entry ∈ m'.entries := by
    rw [← get?_eq_some_iff, ← get?_eq_some_iff, h]
  have hperm : m.entries.Perm m'.entries :=
    (List.perm_ext_iff_of_nodup m.keys_nodup.of_map m'.keys_nodup.of_map).mpr hmem
  have hentries : m.entries = m'.entries :=
    hperm.eq_of_pairwise (fun a b _ _ hab hba => absurd hab (lt_asymm hba)) m.sorted m'.sorted
  cases m
  cases m'
  subst hentries
  rfl

/-- A mapped value is the image of the value that was there. -/
theorem get?_map {ν' : Type*} (g : ν → ν') (m : SortedMap κ ν) (k : κ) :
    (m.map g).get? k = (m.get? k).map g := by
  unfold get? map
  dsimp only
  rw [List.find?_map, Option.map_map, Option.map_map]
  rfl

/-- A search by the keys meets the same entry in two maps that agree on the keys it accepts. -/
theorem find?_congr {m m' : SortedMap κ ν} {p : κ → Bool}
    (h : ∀ k, p k = true → m.get? k = m'.get? k) :
    (m.entries.find? fun entry => p entry.1) = m'.entries.find? fun entry => p entry.1 := by
  have hretain : m.retain p = m'.retain p := by
    refine eq_of_get? fun k => ?_
    rw [get?_retain, get?_retain]
    split
    · rename_i hk
      exact h k hk
    · rfl
  have hfilter := congrArg (fun m => m.entries.head?) hretain
  simpa [retain] using hfilter

/-- **In a run of writes the last one counts**, for whatever is read off the state. -/
theorem foldl_last_write {α β σ : Type*} (get : σ → Option β) {step : σ → α → σ}
    {write : α → Option β} (h : ∀ s a, get (step s a) = (write a).or (get s)) (as : List α)
    (s : σ) : get (as.foldl step s) = (as.reverse.findSome? write).or (get s) := by
  induction as generalizing s with
  | nil => rfl
  | cons a as ih =>
    rw [List.foldl_cons, ih, h, List.reverse_cons, List.findSome?_append, Option.or_assoc]
    congr 1
    cases hwrite : write a <;> simp [hwrite]

/-- The first value found is the value of the first element that has one. -/
theorem findSome?_eq_find?_bind {α β : Type*} (f : α → Option β) (as : List α) :
    as.findSome? f = (as.find? fun a => (f a).isSome).bind f := by
  induction as with
  | nil => rfl
  | cons a as ih =>
    cases ha : f a with
    | none => simp [ha, ih]
    | some b => simp [ha]

/-- The entries of the other map take precedence. -/
theorem get?_extend (m m' : SortedMap κ ν) (k : κ) :
    (m.extend m').get? k = (m'.get? k).or (m.get? k) := by
  have hwrite (s : SortedMap κ ν) (entry : κ × ν) : (s.insert entry.1 entry.2).get? k =
      (if k = entry.1 then some entry.2 else none).or (s.get? k) := by
    rw [get?_insert]
    split <;> rfl
  unfold extend
  rw [foldl_last_write (fun s : SortedMap κ ν => s.get? k) hwrite]
  congr 1
  -- the keys are distinct, so the last entry of a key is its only one
  ext v
  rw [get?_eq_some_iff]
  constructor
  · intro h
    obtain ⟨entry, hentry, hif⟩ := List.exists_of_findSome?_eq_some h
    split at hif
    · rename_i hkey
      cases hif
      exact hkey ▸ List.mem_reverse.mp hentry
    · cases hif
  · intro hmem
    have hsome : (m'.entries.reverse.findSome? fun entry =>
        if k = entry.1 then some entry.2 else none).isSome = true := by
      rw [List.findSome?_isSome_iff]
      exact ⟨(k, v), List.mem_reverse.mpr hmem, by simp⟩
    obtain ⟨w, hw⟩ := Option.isSome_iff_exists.mp hsome
    obtain ⟨entry, hentry, hif⟩ := List.exists_of_findSome?_eq_some hw
    split at hif
    · rename_i hkey
      have hone := eq_of_key_eq (List.mem_reverse.mp hentry) hmem hkey.symm
      rw [hw, ← hif, hone]
    · cases hif

/-- A traversal that succeeds keeps the keys, and gives each the result for its value. -/
theorem get?_traverse {ε ν' : Type*} {f : ν → Except ε ν'} {m : SortedMap κ ν}
    {m' : SortedMap κ ν'} (h : m.traverse f = .ok m') (k : κ) :
    (m.get? k = none → m'.get? k = none) ∧
      ∀ v, m.get? k = some v → ∃ w, f v = .ok w ∧ m'.get? k = some w := by
  -- the entries still to come have keys of their own, so what was written stays
  have hgen : ∀ (entries : List (κ × ν)) (acc : SortedMap κ ν'),
      (entries.map Prod.fst).Nodup →
      entries.foldlM (fun m entry => (f entry.2).map fun v => m.insert entry.1 v) acc = .ok m' →
      (k ∉ entries.map Prod.fst → m'.get? k = acc.get? k) ∧
        ∀ v, (k, v) ∈ entries → ∃ w, f v = .ok w ∧ m'.get? k = some w := by
    intro entries
    induction entries with
    | nil =>
      intro acc _ hfold
      cases hfold
      exact ⟨fun _ => rfl, fun v hv => (by cases hv)⟩
    | cons head rest ih =>
      intro acc hnodup hfold
      rw [List.map_cons, List.nodup_cons] at hnodup
      rw [List.foldlM_cons] at hfold
      cases hhead : f head.2 with
      | error e =>
        rw [hhead] at hfold
        cases hfold
      | ok w =>
        rw [hhead] at hfold
        obtain ⟨hkept, hrest⟩ := ih (acc.insert head.1 w) hnodup.2 hfold
        constructor
        · intro hk
          rw [List.map_cons, List.mem_cons, not_or] at hk
          rw [hkept hk.2, get?_insert, if_neg hk.1]
        · intro v hv
          rcases List.mem_cons.mp hv with heq | hv
          · subst heq
            refine ⟨w, hhead, ?_⟩
            rw [hkept hnodup.1, get?_insert, if_pos rfl]
          · exact hrest v hv
  obtain ⟨hkept, hrest⟩ := hgen m.entries empty m.keys_nodup h
  constructor
  · intro hnone
    refine hkept ?_
    intro hk
    obtain ⟨entry, hentry, rfl⟩ := List.mem_map.mp hk
    rw [get?_eq_some_iff.mpr hentry] at hnone
    cases hnone
  · intro v hv
    exact hrest v (get?_eq_some_iff.mp hv)

/-- A traversal succeeds where every value has a result. -/
theorem traverse_ok {ε ν' : Type*} {f : ν → Except ε ν'} {m : SortedMap κ ν}
    (h : ∀ k v, m.get? k = some v → ∃ w, f v = .ok w) : ∃ m', m.traverse f = .ok m' := by
  have hgen : ∀ (entries : List (κ × ν)) (acc : SortedMap κ ν'),
      (∀ entry ∈ entries, ∃ w, f entry.2 = .ok w) →
      ∃ m', entries.foldlM (fun m entry => (f entry.2).map fun v => m.insert entry.1 v) acc =
        .ok m' := by
    intro entries
    induction entries with
    | nil => exact fun acc _ => ⟨acc, rfl⟩
    | cons head rest ih =>
      intro acc hok
      obtain ⟨⟨w, hw⟩, hrest⟩ := List.forall_mem_cons.mp hok
      obtain ⟨m', hm'⟩ := ih (acc.insert head.1 w) hrest
      refine ⟨m', ?_⟩
      rw [List.foldlM_cons, hw]
      exact hm'
  exact hgen m.entries empty fun entry hentry =>
    h entry.1 entry.2 (get?_eq_some_iff.mpr hentry)

/-- What a traversal makes, by its lookups. -/
theorem traverse_eq_ok_iff {ε ν' : Type*} {f : ν → Except ε ν'} {m : SortedMap κ ν}
    {m' : SortedMap κ ν'} :
    m.traverse f = .ok m' ↔ ∀ k, (m.get? k = none → m'.get? k = none) ∧
      ∀ v, m.get? k = some v → ∃ w, f v = .ok w ∧ m'.get? k = some w := by
  constructor
  · exact fun h k => get?_traverse h k
  · intro h
    have hok (k : κ) (v : ν) (hget : m.get? k = some v) : ∃ w, f v = .ok w := by
      obtain ⟨w, hw, -⟩ := (h k).2 v hget
      exact ⟨w, hw⟩
    obtain ⟨r, hr⟩ := traverse_ok hok
    rw [hr]
    congr 1
    refine eq_of_get? fun k => ?_
    obtain ⟨hnone, hsome⟩ := get?_traverse hr k
    cases hget : m.get? k with
    | none => rw [hnone hget, (h k).1 hget]
    | some v =>
      obtain ⟨w, hw, hrget⟩ := hsome v hget
      obtain ⟨w', hw', hget'⟩ := (h k).2 v hget
      rw [hw] at hw'
      cases hw'
      rw [hrget, hget']

/-- A traversal fails where some value has no result. -/
theorem traverse_error_iff {ε ν' : Type*} {f : ν → Except ε ν'} {m : SortedMap κ ν} :
    (∃ e, m.traverse f = .error e) ↔ ∃ k v e, m.get? k = some v ∧ f v = .error e := by
  constructor
  · rintro ⟨e, he⟩
    by_contra hnone
    have hok (k : κ) (v : ν) (hget : m.get? k = some v) : ∃ w, f v = .ok w := by
      cases hv : f v with
      | error e => exact absurd ⟨k, v, e, hget, hv⟩ hnone
      | ok w => exact ⟨w, rfl⟩
    obtain ⟨m', hm'⟩ := traverse_ok hok
    rw [he] at hm'
    cases hm'
  · rintro ⟨k, v, e, hget, hv⟩
    cases hm : m.traverse f with
    | error e => exact ⟨e, rfl⟩
    | ok m' =>
      obtain ⟨w, hw, -⟩ := (get?_traverse hm k).2 v hget
      rw [hv] at hw
      cases hw

/-- A traversal goes through an insertion. -/
theorem traverse_insert {ε ν' : Type*} {f : ν → Except ε ν'} {m : SortedMap κ ν}
    {m' : SortedMap κ ν'} {k : κ} {v : ν} {w : ν'} (h : m.traverse f = .ok m') (hv : f v = .ok w) :
    (m.insert k v).traverse f = .ok (m'.insert k w) := by
  refine traverse_eq_ok_iff.mpr fun key => ?_
  rw [get?_insert, get?_insert]
  split
  · refine ⟨fun hnone => (by cases hnone), ?_⟩
    intro v' hv'
    cases hv'
    exact ⟨w, hv, rfl⟩
  · exact get?_traverse h key

/-- A traversal whose successes are the images under a function is a map. -/
theorem eq_map_of_traverse {ε ν' : Type*} {f : ν → Except ε ν'} {g : ν → ν'} {m : SortedMap κ ν}
    {m' : SortedMap κ ν'} (h : m.traverse f = .ok m') (hg : ∀ v w, f v = .ok w → w = g v) :
    m' = m.map g := by
  refine eq_of_get? fun k => ?_
  obtain ⟨hnone, hsome⟩ := get?_traverse h k
  rw [get?_map]
  cases hget : m.get? k with
  | none => exact hnone hget
  | some v =>
    obtain ⟨w, hw, hgetw⟩ := hsome v hget
    rw [hgetw, hg v w hw]
    rfl

/-- Inserting the image of each entry is a map over the values. -/
theorem get?_foldl_insert {ν' : Type*} (g : ν → ν') (m : SortedMap κ ν) (k : κ) :
    (m.entries.foldl (fun out entry => out.insert entry.1 (g entry.2)) empty).get? k =
      (m.get? k).map g := by
  have htraverse : m.traverse (fun v => (.ok (g v) : Except Unit ν')) =
      .ok (m.entries.foldl (fun out entry => out.insert entry.1 (g entry.2)) empty) := by
    unfold traverse
    exact List.foldlM_pure
  obtain ⟨hnone, hsome⟩ := get?_traverse htraverse k
  cases hget : m.get? k with
  | none => exact hnone hget
  | some v =>
    obtain ⟨w, hw, hgetw⟩ := hsome v hget
    cases hw
    exact hgetw

/-- At most one entry passes a test that no two entries of different keys pass. -/
theorem countP_le_one_iff (m : SortedMap κ ν) (p : κ × ν → Bool) :
    m.entries.countP p ≤ 1 ↔
      ∀ a ∈ m.entries, ∀ b ∈ m.entries, p a = true → p b = true → a.1 = b.1 := by
  have hgen : ∀ entries : List (κ × ν), (entries.map Prod.fst).Nodup →
      (entries.countP p ≤ 1 ↔
        ∀ a ∈ entries, ∀ b ∈ entries, p a = true → p b = true → a.1 = b.1) := by
    intro entries
    induction entries with
    | nil => simp
    | cons head rest ih =>
      intro hnodup
      rw [List.map_cons, List.nodup_cons] at hnodup
      have hfresh : ∀ b ∈ rest, head.1 ≠ b.1 := by
        intro b hb heq
        exact hnodup.1 (heq ▸ List.mem_map_of_mem hb)
      by_cases hhead : p head = true
      · -- the head passes, so nothing after it may
        rw [List.countP_cons_of_pos hhead]
        constructor
        · intro hcount
          have hnone : ∀ b ∈ rest, ¬ p b = true := by
            rw [← List.countP_eq_zero]
            omega
          intro a ha b hb hpa hpb
          rcases List.mem_cons.mp ha with rfl | ha
          · rcases List.mem_cons.mp hb with rfl | hb
            · rfl
            · exact absurd hpb (hnone b hb)
          · exact absurd hpa (hnone a ha)
        · intro h
          have hnone : rest.countP p = 0 := by
            rw [List.countP_eq_zero]
            intro b hb hpb
            exact hfresh b hb
              (h head List.mem_cons_self b (List.mem_cons_of_mem _ hb) hhead hpb)
          omega
      · rw [List.countP_cons_of_neg hhead, ih hnodup.2]
        constructor
        · intro h a ha b hb hpa hpb
          rcases List.mem_cons.mp ha with rfl | ha
          · exact absurd hpa hhead
          · rcases List.mem_cons.mp hb with rfl | hb
            · exact absurd hpb hhead
            · exact h a ha b hb hpa hpb
        · intro h a ha b hb
          exact h a (List.mem_cons_of_mem _ ha) b (List.mem_cons_of_mem _ hb)
  exact hgen m.entries m.keys_nodup

/-! ## Gathering rows by key -/

/-- For each row in turn, `entry(key).or_default()` and an update of what is there. -/
def accumulate {α : Type*} (key : α → κ) (start : ν) (f : ν → α → ν) (rows : List α) :
    SortedMap κ ν :=
  rows.foldl (fun m row => m.insert (key row) (f ((m.get? (key row)).getD start) row)) empty

/-- **A key has what its own rows add up to**, and is there if it has rows. -/
theorem get?_accumulate {α : Type*} (key : α → κ) (start : ν) (f : ν → α → ν) (rows : List α)
    (k : κ) :
    (accumulate key start f rows).get? k =
      if k ∈ rows.map key then some ((rows.filter fun row => key row = k).foldl f start)
      else none := by
  unfold accumulate
  induction rows using List.reverseRecOn with
  | nil => rfl
  | append_singleton rows row ih =>
    rw [List.foldl_append, List.foldl_cons, List.foldl_nil, get?_insert]
    by_cases hkey : k = key row
    · subst hkey
      rw [if_pos rfl, if_pos (by simp), List.filter_append, ih]
      split_ifs with hmem
      · simp
      · -- the first row of its key
        have hnone : rows.filter (fun r => key r = key row) = [] := by
          refine List.filter_eq_nil_iff.mpr fun r hr hsame => ?_
          exact hmem (List.mem_map.mpr ⟨r, hr, of_decide_eq_true hsame⟩)
        simp [hnone]
    · rw [if_neg hkey, ih, List.filter_append, List.map_append]
      have hother : [row].filter (fun r => key r = k) = [] := by simp [Ne.symm hkey]
      rw [hother, List.append_nil]
      simp [hkey]

end SortedMap
