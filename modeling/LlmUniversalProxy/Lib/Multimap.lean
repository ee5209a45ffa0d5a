/-!
# `Lib.Multimap` — association lists in which a key may occur more than once

`valuesOf` reads all the values of a key, in their order, and is all there is to know about a list
key by key. `upsert` replaces the first value of a key and leaves the others alone; a run of upserts
leaves the last of its values at the front of the key, and behind it what was behind it before.
-/

set_option autoImplicit false

namespace LlmUniversalProxy.Lib.Multimap

universe u v

variable {κ : Type u} {β : Type v} [DecidableEq κ]

def valuesOf (k : κ) (entries : List (κ × β)) : List β :=
  (entries.filter fun e => e.1 = k).map Prod.snd

/-- The value of the first entry of a key is replaced; a new key goes to the end. -/
def upsert (k : κ) (v : β) : List (κ × β) → List (κ × β)
  | [] => [(k, v)]
  | (l, w) :: rest => if l = k then (l, v) :: rest else (l, w) :: upsert k v rest

def upsertAll (new entries : List (κ × β)) : List (κ × β) :=
  new.foldl (fun entries e => upsert e.1 e.2 entries) entries

@[simp] theorem valuesOf_nil (k : κ) : valuesOf k ([] : List (κ × β)) = [] := rfl

theorem valuesOf_cons (k : κ) (e : κ × β) (entries : List (κ × β)) :
    valuesOf k (e :: entries) =
      if e.1 = k then e.2 :: valuesOf k entries else valuesOf k entries := by
  unfold valuesOf
  by_cases h : e.1 = k <;> simp [h]

theorem valuesOf_append (k : κ) (entries others : List (κ × β)) :
    valuesOf k (entries ++ others) = valuesOf k entries ++ valuesOf k others := by
  unfold valuesOf
  rw [List.filter_append, List.map_append]

theorem valuesOf_eq_nil_iff {k : κ} {entries : List (κ × β)} :
    valuesOf k entries = [] ↔ k ∉ entries.map Prod.fst := by
  induction entries with
  | nil => simp
  | cons e entries ih =>
    rw [valuesOf_cons, List.map_cons, List.mem_cons, not_or]
    by_cases h : e.1 = k
    · simp [h]
    · rw [if_neg h, ih, and_iff_right (Ne.symm h)]

/-- What is kept by a test of the keys is kept with all its values. -/
theorem valuesOf_filter {p : κ → Bool} {k : κ} (hk : p k = true) (entries : List (κ × β)) :
    valuesOf k (entries.filter fun e => p e.1) = valuesOf k entries := by
  induction entries with
  | nil => rfl
  | cons e entries ih =>
    rw [List.filter_cons]
    by_cases h : e.1 = k
    · rw [h, if_pos hk, valuesOf_cons, valuesOf_cons, if_pos h, if_pos h, ih]
    · split
      · rw [valuesOf_cons, valuesOf_cons, if_neg h, if_neg h, ih]
      · rw [valuesOf_cons, if_neg h, ih]

theorem valuesOf_filter_none {p : κ → Bool} {k : κ} (hk : p k = false) (entries : List (κ × β)) :
    valuesOf k (entries.filter fun e => p e.1) = [] := by
  rw [valuesOf_eq_nil_iff]
  intro hmem
  obtain ⟨e, he, hek⟩ := List.mem_map.mp hmem
  have hpe := (List.mem_filter.mp he).2
  rw [hek, hk] at hpe
  cases hpe

theorem filter_key {k : κ} (entries : List (κ × β)) :
    (entries.filter fun e => e.1 = k) = (valuesOf k entries).map (k, ·) := by
  induction entries with
  | nil => rfl
  | cons e entries ih =>
    rw [List.filter_cons, valuesOf_cons]
    by_cases h : e.1 = k
    · rw [if_pos (decide_eq_true h), if_pos h, ih, List.map_cons, ← h]
    · rw [if_neg (by rw [decide_eq_true_eq]; exact h), if_neg h, ih]

/-- Of several keys, one has one value and the others have none. -/
theorem filter_eq_singleton_iff {p : κ → Bool} {k : κ} (hk : p k = true) {v : β}
    {entries : List (κ × β)} :
    (entries.filter fun e => p e.1) = [(k, v)] ↔
      valuesOf k entries = [v] ∧ ∀ l, p l = true → l ≠ k → valuesOf l entries = [] := by
  constructor
  · intro h
    refine ⟨?_, fun l hl hlk => ?_⟩
    · rw [← valuesOf_filter hk, h, valuesOf_cons, if_pos rfl, valuesOf_nil]
    · rw [← valuesOf_filter hl, h, valuesOf_cons, if_neg (Ne.symm hlk), valuesOf_nil]
  · rintro ⟨hv, hothers⟩
    have hsame : (entries.filter fun e => p e.1) = entries.filter fun e => e.1 = k := by
      refine List.filter_congr fun e he => ?_
      by_cases hek : e.1 = k
      · rw [hek, hk, decide_eq_true rfl]
      · rw [decide_eq_false hek]
        refine Bool.eq_false_iff.mpr fun hpe => ?_
        exact valuesOf_eq_nil_iff.mp (hothers e.1 hpe hek) (List.mem_map_of_mem he)
    rw [hsame, filter_key, hv]
    rfl

/-! ## Upserts -/

theorem valuesOf_upsert (k l : κ) (v : β) (entries : List (κ × β)) :
    valuesOf l (upsert k v entries) =
      if l = k then v :: (valuesOf l entries).tail else valuesOf l entries := by
  induction entries with
  | nil =>
    rw [upsert, valuesOf_cons]
    by_cases h : l = k
    · simp [h]
    · simp [h, Ne.symm h]
  | cons e entries ih =>
    obtain ⟨m, w⟩ := e
    rw [upsert]
    by_cases hmk : m = k
    · subst hmk
      rw [if_pos rfl, valuesOf_cons, valuesOf_cons]
      by_cases h : l = m
      · simp [h]
      · simp [h, Ne.symm h]
    · rw [if_neg hmk, valuesOf_cons, valuesOf_cons, ih]
      by_cases hlk : l = k
      · have hml : m ≠ l := hlk ▸ hmk
        rw [if_pos hlk, if_pos hlk, if_neg hml, if_neg hml]
      · rw [if_neg hlk, if_neg hlk]

theorem upsertAll_cons (e : κ × β) (new entries : List (κ × β)) :
    upsertAll (e :: new) entries = upsertAll new (upsert e.1 e.2 entries) := rfl

/-- A key that is upserted has the last value it is upserted with, before what it had behind its
first value. -/
theorem valuesOf_upsertAll (k : κ) (new entries : List (κ × β)) :
    valuesOf k (upsertAll new entries) =
      ((valuesOf k new).getLast?.map (· :: (valuesOf k entries).tail)).getD
        (valuesOf k entries) := by
  induction new generalizing entries with
  | nil => rfl
  | cons e new ih =>
    rw [upsertAll_cons, ih, valuesOf_upsert, valuesOf_cons]
    by_cases h : e.1 = k
    · rw [if_pos h, if_pos h.symm, List.tail_cons, List.getLast?_cons]
      cases hlast : (valuesOf k new).getLast? with
      | none => rfl
      | some w => rfl
    · rw [if_neg h, if_neg (Ne.symm h)]

end LlmUniversalProxy.Lib.Multimap
