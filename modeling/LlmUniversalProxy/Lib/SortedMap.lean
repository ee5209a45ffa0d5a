/-!
# `Lib.SortedMap` — `BTreeMap<String, V>` as a sorted association list

A map is the list of its entries in key order. `insertSorted` works on the bare list, for types
that nest in it; `SortedMap` is the list together with its order, from which follows that a key
occurs once, so that the entries and the lookups of a map say the same.
-/

set_option autoImplicit false

namespace LlmUniversalProxy.Lib

universe u

variable {α : Type u}

/-- `BTreeMap::insert`: the value under a key is replaced, and a new key goes to its place. -/
def insertSorted (k : String) (v : α) : List (String × α) → List (String × α)
  | [] => [(k, v)]
  | (l, w) :: rest =>
      if k = l then (k, v) :: rest
      else if k < l then (k, v) :: (l, w) :: rest
      else (l, w) :: insertSorted k v rest

/-- The keys are strictly increasing. -/
def Sorted (entries : List (String × α)) : Prop := entries.Pairwise fun a b => a.1 < b.1

theorem lookup_insertSorted (k l : String) (v : α) (m : List (String × α)) :
    (insertSorted k v m).lookup l = if l = k then some v else m.lookup l := by
  induction m with
  | nil => by_cases h : l = k <;> simp [insertSorted, List.lookup_cons, h, beq_eq_false_iff_ne.mpr]
  | cons f rest ih =>
    obtain ⟨a, w⟩ := f
    by_cases hka : k = a
    · subst hka
      by_cases h : l = k <;> simp [insertSorted, List.lookup_cons, h, beq_eq_false_iff_ne.mpr]
    · by_cases hlt : k < a
      · by_cases h : l = k
        · simp [insertSorted, hka, hlt, h]
        · simp [insertSorted, hka, hlt, List.lookup_cons, h, beq_eq_false_iff_ne.mpr]
      · by_cases hla : l = a
        · have hlk : l ≠ k := fun e => hka (e ▸ hla)
          simp [insertSorted, hka, hlt, hla, hla ▸ hlk]
        · simp [insertSorted, hka, hlt, List.lookup_cons, hla, beq_eq_false_iff_ne.mpr, ih]

/-- An insertion brings in nothing but the new entry. -/
theorem filter_insertSorted (k : String) (v : α) (m : List (String × α)) :
    (insertSorted k v m).filter (fun e => e.1 ≠ k) = m.filter fun e => e.1 ≠ k := by
  induction m with
  | nil => simp [insertSorted]
  | cons e rest ih =>
    obtain ⟨l, w⟩ := e
    unfold insertSorted
    by_cases hkl : k = l
    · subst hkl
      simp
    · by_cases hlt : k < l
      · simp [hkl, hlt]
      · simpa [hkl, hlt, Ne.symm hkl] using ih

/-- Of two insertions under one key the last one counts. -/
theorem insertSorted_insertSorted (k : String) (v w : α) (m : List (String × α)) :
    insertSorted k w (insertSorted k v m) = insertSorted k w m := by
  induction m with
  | nil => simp [insertSorted]
  | cons e rest ih =>
    obtain ⟨l, u⟩ := e
    by_cases hkl : k = l
    · subst hkl
      simp [insertSorted]
    · by_cases hlt : k < l
      · simp [insertSorted, hkl, hlt]
      · simp [insertSorted, hkl, hlt, ih]

theorem mem_insertSorted {k : String} {v : α} {e : String × α} {m : List (String × α)}
    (h : e ∈ insertSorted k v m) : e = (k, v) ∨ e ∈ m := by
  induction m with
  | nil => simpa [insertSorted] using h
  | cons f rest ih =>
    obtain ⟨a, w⟩ := f
    simp only [insertSorted] at h
    split at h
    · rcases List.mem_cons.mp h with h | h
      · exact .inl h
      · exact .inr (List.mem_cons_of_mem _ h)
    · split at h
      · exact List.mem_cons.mp h
      · rcases List.mem_cons.mp h with h | h
        · exact .inr (h ▸ List.mem_cons_self)
        · exact (ih h).imp_right (List.mem_cons_of_mem _)

theorem sorted_insertSorted {k : String} {v : α} :
    ∀ {m : List (String × α)}, Sorted m → Sorted (insertSorted k v m)
  | [], _ => by simp [insertSorted, Sorted]
  | (a, w) :: rest, h => by
    obtain ⟨ha, hrest⟩ := List.pairwise_cons.mp h
    simp only [insertSorted]
    split
    · next hka => exact List.pairwise_cons.mpr ⟨fun e he => hka ▸ ha e he, hrest⟩
    · split
      · next hlt =>
        refine List.pairwise_cons.mpr ⟨fun e he => ?_, h⟩
        rcases List.mem_cons.mp he with rfl | he
        · exact hlt
        · exact String.lt_trans hlt (ha e he)
      · next hka hlt =>
        have hak : a < k :=
          String.not_le.mp fun hle => hka (String.le_antisymm hle (String.not_lt.mp hlt))
        refine List.pairwise_cons.mpr ⟨fun e he => ?_, sorted_insertSorted hrest⟩
        rcases mem_insertSorted he with rfl | he
        · exact hak
        · exact ha e he

/-- In a sorted list a key has one value. -/
theorem lookup_of_mem {m : List (String × α)} (hm : Sorted m) {k : String} {v : α}
    (h : (k, v) ∈ m) : m.lookup k = some v := by
  induction m with
  | nil => cases h
  | cons f rest ih =>
    obtain ⟨a, w⟩ := f
    obtain ⟨ha, hrest⟩ := List.pairwise_cons.mp hm
    rcases List.mem_cons.mp h with h | h
    · obtain ⟨rfl, rfl⟩ := Prod.mk.inj h
      simp
    · have hne : k ≠ a := fun e => String.lt_irrefl a (e ▸ ha _ h)
      rw [List.lookup_cons, beq_eq_false_iff_ne.mpr hne]
      exact ih hrest h

theorem mem_of_lookup {m : List (String × α)} {k : String} {v : α} (h : m.lookup k = some v) :
    (k, v) ∈ m := by
  induction m with
  | nil => simp at h
  | cons f rest ih =>
    obtain ⟨a, w⟩ := f
    rw [List.lookup_cons] at h
    by_cases hk : k = a
    · subst hk
      simp only [BEq.rfl, Option.some.injEq] at h
      exact h ▸ List.mem_cons_self
    · rw [beq_eq_false_iff_ne.mpr hk] at h
      exact List.mem_cons_of_mem _ (ih h)

/-- Inserting what is there changes nothing. -/
theorem insertSorted_eq_self {m : List (String × α)} (hm : Sorted m) {k : String} {v : α}
    (h : m.lookup k = some v) : insertSorted k v m = m := by
  induction m with
  | nil => cases h
  | cons f rest ih =>
    obtain ⟨a, w⟩ := f
    obtain ⟨ha, hrest⟩ := List.pairwise_cons.mp hm
    rw [List.lookup_cons] at h
    unfold insertSorted
    by_cases hk : k = a
    · subst hk
      rw [BEq.rfl] at h
      cases h
      exact if_pos rfl
    · rw [beq_eq_false_iff_ne.mpr hk] at h
      have hlt : ¬ k < a := fun hlt =>
        String.lt_irrefl k (String.lt_trans hlt (ha _ (mem_of_lookup h)))
      rw [if_neg hk, if_neg hlt, ih hrest h]

/-- Building a map out of the entries of one gives these entries. -/
theorem foldr_insertSorted {m : List (String × α)} (hm : Sorted m) :
    m.foldr (fun e m => insertSorted e.1 e.2 m) [] = m := by
  induction m with
  | nil => rfl
  | cons e rest ih =>
    obtain ⟨hlt, hrest⟩ := List.pairwise_cons.mp hm
    rw [List.foldr_cons, ih hrest]
    cases rest with
    | nil => rfl
    | cons f rest =>
      have hef := hlt f List.mem_cons_self
      have hne : e.1 ≠ f.1 := fun heq => String.lt_irrefl f.1 (heq ▸ hef)
      simp [insertSorted, hne, hef]

/-- A change of the values alone does not move an entry. -/
theorem map_insertSorted {β : Type u} (f : α → β) (k : String) (v : α) (m : List (String × α)) :
    (insertSorted k v m).map (fun e => (e.1, f e.2)) =
      insertSorted k (f v) (m.map fun e => (e.1, f e.2)) := by
  induction m with
  | nil => rfl
  | cons e rest ih =>
    obtain ⟨l, w⟩ := e
    by_cases hkl : k = l
    · simp [insertSorted, hkl]
    · by_cases hlt : k < l
      · simp [insertSorted, hkl, hlt]
      · rw [insertSorted, if_neg hkl, if_neg hlt, List.map_cons, ih, List.map_cons, insertSorted,
          if_neg hkl, if_neg hlt]

/-- **Maps with the same lookups are equal.** -/
theorem sorted_ext {m m' : List (String × α)} (hm : Sorted m) (hm' : Sorted m')
    (h : ∀ k, m.lookup k = m'.lookup k) : m = m' := by
  have hfirst {e : String × α} {rest m' : List (String × α)} (hm : Sorted (e :: rest))
      (hm' : Sorted m') (h : ∀ k, (e :: rest).lookup k = m'.lookup k) : e ∈ m' :=
    mem_of_lookup (by rw [← h, lookup_of_mem hm List.mem_cons_self])
  induction m generalizing m' with
  | nil =>
    cases m' with
    | nil => rfl
    | cons e rest => exact absurd (hfirst hm' hm fun k => (h k).symm) List.not_mem_nil
  | cons e rest ih =>
    cases m' with
    | nil => exact absurd (hfirst hm hm' h) List.not_mem_nil
    | cons e' rest' =>
      obtain ⟨hlt, hrest⟩ := List.pairwise_cons.mp hm
      obtain ⟨hlt', hrest'⟩ := List.pairwise_cons.mp hm'
      -- each of the first entries is not behind the other
      have heq : e = e' := by
        rcases List.mem_cons.mp (hfirst hm hm' h) with heq | hmem
        · exact heq
        rcases List.mem_cons.mp (hfirst hm' hm fun k => (h k).symm) with heq | hmem'
        · exact heq.symm
        · exact absurd (String.lt_trans (hlt e' hmem') (hlt' e hmem)) (String.lt_irrefl e.1)
      subst heq
      refine congrArg (e :: ·) (ih hrest hrest' fun k => ?_)
      have hk := h k
      have hnone {m : List (String × α)} (hm : ∀ f ∈ m, e.1 < f.1) : m.lookup e.1 = none := by
        cases hlookup : m.lookup e.1 with
        | none => rfl
        | some v => exact absurd (hm _ (mem_of_lookup hlookup)) (String.lt_irrefl e.1)
      by_cases hke : k = e.1
      · rw [hke, hnone hlt, hnone hlt']
      · obtain ⟨l, v⟩ := e
        rw [List.lookup_cons, List.lookup_cons, beq_eq_false_iff_ne.mpr hke] at hk
        exact hk

/-- Entries that are inserted one after another. -/
def insertAll (m entries : List (String × α)) : List (String × α) :=
  entries.foldl (fun m e => insertSorted e.1 e.2 m) m

theorem sorted_insertAll {entries m : List (String × α)} (hm : Sorted m) :
    Sorted (insertAll m entries) := by
  induction entries generalizing m with
  | nil => exact hm
  | cons e entries ih => exact ih (sorted_insertSorted hm)

theorem mem_insertAll {entries m : List (String × α)} {e : String × α}
    (h : e ∈ insertAll m entries) : e ∈ entries ∨ e ∈ m := by
  induction entries generalizing m with
  | nil => exact .inr h
  | cons f entries ih =>
    rcases ih h with h | h
    · exact .inl (List.mem_cons_of_mem _ h)
    · rcases mem_insertSorted h with rfl | h
      · exact .inl List.mem_cons_self
      · exact .inr h

/-- Every key that is inserted is there. -/
theorem isSome_lookup_insertAll {entries m : List (String × α)} {k : String}
    (h : k ∈ entries.map Prod.fst ∨ (m.lookup k).isSome = true) :
    ((insertAll m entries).lookup k).isSome = true := by
  induction entries generalizing m with
  | nil =>
    rcases h with h | h
    · cases h
    · exact h
  | cons e entries ih =>
    refine ih ?_
    rw [lookup_insertSorted]
    split
    · exact .inr rfl
    · next hne =>
      rcases h with h | h
      · rcases List.mem_cons.mp h with h | h
        · exact absurd h hne
        · exact .inl h
      · exact .inr h

/-- A key keeps what it has been given when it does not come again. -/
theorem lookup_insertAll_of_notMem {entries m : List (String × α)} {k : String}
    (h : k ∉ entries.map Prod.fst) : (insertAll m entries).lookup k = m.lookup k := by
  induction entries generalizing m with
  | nil => rfl
  | cons e entries ih =>
    simp only [List.map_cons, List.mem_cons, not_or] at h
    show (insertAll (insertSorted e.1 e.2 m) entries).lookup k = _
    rw [ih h.2, lookup_insertSorted, if_neg h.1]

/-- With different keys, each has what it was given. -/
theorem lookup_insertAll {entries m : List (String × α)} (hnodup : (entries.map Prod.fst).Nodup)
    {k : String} {v : α} (h : (k, v) ∈ entries) : (insertAll m entries).lookup k = some v := by
  induction entries generalizing m with
  | nil => cases h
  | cons e entries ih =>
    obtain ⟨hnew, hnodup⟩ := List.nodup_cons.mp hnodup
    rcases List.mem_cons.mp h with rfl | h
    · show (insertAll (insertSorted k v m) entries).lookup k = _
      rw [lookup_insertAll_of_notMem hnew, lookup_insertSorted, if_pos rfl]
    · exact ih hnodup h

/-- `BTreeMap<String, V>`. -/
structure SortedMap (α : Type u) where
  entries : List (String × α)
  sorted : Sorted entries

namespace SortedMap

instance : EmptyCollection (SortedMap α) := ⟨⟨[], List.Pairwise.nil⟩⟩

def lookup (m : SortedMap α) (k : String) : Option α := m.entries.lookup k

def insert (m : SortedMap α) (k : String) (v : α) : SortedMap α :=
  ⟨insertSorted k v m.entries, sorted_insertSorted m.sorted⟩

@[simp] theorem lookup_empty (k : String) : (∅ : SortedMap α).lookup k = none := rfl

@[simp] theorem lookup_insert (m : SortedMap α) (k l : String) (v : α) :
    (m.insert k v).lookup l = if l = k then some v else m.lookup l :=
  lookup_insertSorted k l v m.entries

theorem mem_entries_iff {m : SortedMap α} {k : String} {v : α} :
    (k, v) ∈ m.entries ↔ m.lookup k = some v :=
  ⟨lookup_of_mem m.sorted, mem_of_lookup⟩

/-- `into_iter().filter_map(..).collect()` with a function that keeps the keys. -/
def filterMap {β : Type u} (f : α → Option β) (m : SortedMap α) : SortedMap β where
  entries := m.entries.filterMap fun e => (f e.2).map (e.1, ·)
  sorted := by
    refine List.Pairwise.filterMap _ ?_ m.sorted
    intro a b hab a' ha b' hb
    obtain ⟨v, _, rfl⟩ := Option.map_eq_some_iff.mp ha
    obtain ⟨w, _, rfl⟩ := Option.map_eq_some_iff.mp hb
    exact hab

theorem lookup_filterMap {β : Type u} (f : α → Option β) (m : SortedMap α) (k : String) :
    (m.filterMap f).lookup k = (m.lookup k).bind f := by
  have hmem (w : β) :
      (m.filterMap f).lookup k = some w ↔ ∃ v, m.lookup k = some v ∧ f v = some w := by
    rw [← mem_entries_iff, filterMap, List.mem_filterMap]
    constructor
    · rintro ⟨⟨l, v⟩, hv, hw⟩
      obtain ⟨w', hw', hkw⟩ := Option.map_eq_some_iff.mp hw
      cases hkw
      exact ⟨v, mem_entries_iff.mp hv, hw'⟩
    · rintro ⟨v, hv, hw⟩
      exact ⟨(k, v), mem_entries_iff.mpr hv, Option.map_eq_some_iff.mpr ⟨w, hw, rfl⟩⟩
  refine Option.ext fun w => ?_
  rw [hmem, Option.bind_eq_some_iff]

end SortedMap
end LlmUniversalProxy.Lib
