import LlmUniversalProxy.Server.ConversationStateBridge

/-!
# `Server.BridgeAccounting` — what the store remembers and what it charges for

`current_bytes` is kept by hand on three paths: a put adds, an expired entry is taken off when it
is asked for, and all expired entries are taken off before a put. `Accounted` is the invariant:
the counter is the total size of the entries. With it, pruning leaves exactly the entries that are
alive at the clock of the put, charged for exactly (`pruneExpired_entries`), and everything else
about a put follows.

The source is `server/conversation_state_bridge.rs` 118-258.
-/

set_option autoImplicit false

namespace LlmUniversalProxy.Server

open Lib

namespace StoreInner

/-- The counter says what the entries weigh. -/
def Accounted (inner : StoreInner) : Prop :=
  inner.currentBytes = inner.responses.total StoredBridgeResponse.sizeBytes

/-- The entries that have not expired at `now`. -/
def liveEntries (inner : StoreInner) (now : Nat) : List (Sigma fun _ : String => StoredBridgeResponse) :=
  inner.responses.entries.filter fun e => decide (now < e.2.expiresAt)

/-- What the entries that have not expired are charged. -/
def liveBytes (inner : StoreInner) (now : Nat) : Nat :=
  FinMap.weight StoredBridgeResponse.sizeBytes (inner.liveEntries now)

theorem accounted_empty : StoreInner.empty.Accounted := rfl

/-! ## Removing -/

theorem Accounted.remove {inner : StoreInner} (h : inner.Accounted) (responseId : String) :
    (inner.remove responseId).Accounted := by
  unfold StoreInner.remove
  split
  · next removed hlookup =>
    have htotal := FinMap.total_erase (w := StoredBridgeResponse.sizeBytes) hlookup
    unfold Accounted at h ⊢
    simp only
    omega
  · exact h

theorem lookup_remove (inner : StoreInner) (responseId other : String) :
    (inner.remove responseId).responses.lookup other =
      if other = responseId then none else inner.responses.lookup other := by
  unfold StoreInner.remove
  split
  · exact FinMap.lookup_erase_eq _ _ _
  · next hnone =>
    by_cases h : other = responseId
    · rw [if_pos h, h]
      exact hnone
    · rw [if_neg h]

theorem liveEntries_remove {inner : StoreInner} {now : Nat} {responseId : String}
    (h : ∀ e, inner.responses.lookup responseId = some e → e.expiresAt ≤ now) :
    (inner.remove responseId).liveEntries now = inner.liveEntries now := by
  unfold StoreInner.remove
  split
  · exact FinMap.filter_erase fun e he => decide_eq_false (Nat.not_lt.mpr (h e he))
  · rfl

/-! ## Pruning -/

theorem Accounted.foldl_remove {ids : List String} :
    ∀ {inner : StoreInner}, inner.Accounted → (ids.foldl StoreInner.remove inner).Accounted := by
  induction ids with
  | nil => exact fun h => h
  | cons id ids ih => exact fun h => ih (h.remove id)

theorem lookup_foldl_remove {ids : List String} (other : String) :
    ∀ inner : StoreInner, (ids.foldl remove inner).responses.lookup other =
      if other ∈ ids then none else inner.responses.lookup other := by
  induction ids with
  | nil => intro inner; simp
  | cons id ids ih =>
    intro inner
    rw [List.foldl_cons, ih, lookup_remove]
    by_cases hid : other = id <;> by_cases hids : other ∈ ids <;> simp [hid, hids]

theorem liveEntries_foldl_remove {ids : List String} {now : Nat} :
    ∀ {inner : StoreInner},
      (∀ id ∈ ids, ∀ e, inner.responses.lookup id = some e → e.expiresAt ≤ now) →
      (ids.foldl remove inner).liveEntries now = inner.liveEntries now := by
  induction ids with
  | nil => exact fun _ => rfl
  | cons id ids ih =>
    intro inner h
    rw [List.foldl_cons, ih, liveEntries_remove (h id List.mem_cons_self)]
    intro other hother e he
    rw [lookup_remove] at he
    split at he
    · cases he
    · exact h other (List.mem_cons_of_mem _ hother) e he

theorem mem_expiredIds {inner : StoreInner} {now : Nat} {id : String} :
    id ∈ inner.expiredIds now ↔
      ∃ e, inner.responses.lookup id = some e ∧ e.expiresAt ≤ now := by
  constructor
  · intro h
    obtain ⟨⟨id', e⟩, hmem, rfl⟩ := List.mem_map.mp h
    obtain ⟨hentry, hexpired⟩ := List.mem_filter.mp hmem
    exact ⟨e, FinMap.mem_entries_iff.mp hentry, of_decide_eq_true hexpired⟩
  · rintro ⟨e, hlookup, hexpired⟩
    exact List.mem_map.mpr ⟨⟨id, e⟩, List.mem_filter.mpr
      ⟨FinMap.mem_entries_iff.mpr hlookup, decide_eq_true hexpired⟩, rfl⟩

theorem expired_of_mem_expiredIds {inner : StoreInner} {now : Nat} {id : String}
    {e : StoredBridgeResponse} (h : id ∈ inner.expiredIds now)
    (he : inner.responses.lookup id = some e) : e.expiresAt ≤ now := by
  obtain ⟨e', he', hexpired⟩ := mem_expiredIds.mp h
  rw [he] at he'
  exact Option.some.inj he' ▸ hexpired

/-- **Pruning leaves exactly the entries that are alive.** -/
theorem pruneExpired_entries (inner : StoreInner) (now : Nat) :
    (inner.pruneExpired now).responses.entries = inner.liveEntries now := by
  have hsame : (inner.pruneExpired now).liveEntries now = inner.liveEntries now :=
    liveEntries_foldl_remove fun id hid e he => expired_of_mem_expiredIds hid he
  rw [← hsame]
  refine (List.filter_eq_self.mpr ?_).symm
  rintro ⟨id, e⟩ hmem
  have hlookup := FinMap.mem_entries_iff.mp hmem
  rw [pruneExpired, lookup_foldl_remove] at hlookup
  split at hlookup
  · cases hlookup
  · next hid =>
    exact decide_eq_true (Nat.not_le.mp fun hexpired => hid (mem_expiredIds.mpr ⟨e, hlookup, hexpired⟩))

theorem Accounted.pruneExpired {inner : StoreInner} (h : inner.Accounted) (now : Nat) :
    (inner.pruneExpired now).Accounted := Accounted.foldl_remove h

theorem currentBytes_pruneExpired {inner : StoreInner} (h : inner.Accounted) (now : Nat) :
    (inner.pruneExpired now).currentBytes = inner.liveBytes now := by
  have hpruned := h.pruneExpired now
  rw [Accounted, FinMap.total, pruneExpired_entries] at hpruned
  exact hpruned

theorem liveEntries_pruneExpired (inner : StoreInner) (now : Nat) :
    (inner.pruneExpired now).liveEntries now = inner.liveEntries now :=
  liveEntries_foldl_remove fun _ hid _ he => expired_of_mem_expiredIds hid he

theorem lookup_of_liveEntries_eq {inner inner' : StoreInner} {now : Nat}
    (h : inner'.liveEntries now = inner.liveEntries now) {id : String} {e : StoredBridgeResponse}
    (he : inner.responses.lookup id = some e) (hlive : now < e.expiresAt) :
    inner'.responses.lookup id = some e := by
  have hmem : ⟨id, e⟩ ∈ inner.liveEntries now :=
    List.mem_filter.mpr ⟨FinMap.mem_entries_iff.mpr he, decide_eq_true hlive⟩
  rw [← h] at hmem
  exact FinMap.mem_entries_iff.mp (List.mem_filter.mp hmem).1

/-! ## The three calls -/

/-- Everything `get` can do. -/
theorem get_cases (inner : StoreInner) (now : Nat) (responseId namespaceName ownerHash : String) :
    (∃ error, inner.get now responseId namespaceName ownerHash = (.error error, inner)) ∨
    (∃ entry, inner.responses.lookup responseId = some entry ∧ entry.expiresAt ≤ now ∧
      inner.get now responseId namespaceName ownerHash =
        (.error .expired, inner.remove responseId)) ∨
    ∃ entry, inner.responses.lookup responseId = some entry ∧ now < entry.expiresAt ∧
      entry.namespaceName = namespaceName ∧ entry.ownerHash = ownerHash ∧
      inner.get now responseId namespaceName ownerHash = (.ok entry, inner) := by
  unfold StoreInner.get
  cases hlookup : inner.responses.lookup responseId with
  | none => exact .inl ⟨_, rfl⟩
  | some entry =>
    by_cases hexpired : entry.expiresAt ≤ now
    · exact .inr (.inl ⟨entry, rfl, hexpired, if_pos hexpired⟩)
    · simp only [if_neg hexpired]
      by_cases howner : entry.namespaceName ≠ namespaceName ∨ entry.ownerHash ≠ ownerHash
      · exact .inl ⟨_, if_pos howner⟩
      · obtain ⟨hnamespace, hhash⟩ := not_or.mp howner
        exact .inr (.inr ⟨entry, rfl, Nat.not_le.mp hexpired, not_not.mp hnamespace,
          not_not.mp hhash, if_neg howner⟩)

/-- The entry as `put_with_id` stores it. -/
def stamped (entry : StoredBridgeResponse) (now ttl : Nat) : StoredBridgeResponse :=
  { entry with expiresAt := now + ttl, sizeBytes := estimateEntrySize entry }

/-- Everything `put_with_id` can do. -/
theorem putWithId_cases (inner : StoreInner) (now : Nat) (responseId : String)
    (entry : StoredBridgeResponse) (ttl maxBytes : Nat) :
    (∃ message, inner.putWithId now responseId entry ttl maxBytes = (.error message, inner)) ∨
    (∃ message, inner.putWithId now responseId entry ttl maxBytes =
      (.error message, inner.pruneExpired now)) ∨
    (responseId ∉ (inner.pruneExpired now).responses ∧
      (inner.pruneExpired now).currentBytes + estimateEntrySize entry ≤ maxBytes ∧
      inner.putWithId now responseId entry ttl maxBytes = (.ok responseId,
        ⟨(inner.pruneExpired now).responses.insert responseId (stamped entry now ttl),
          (inner.pruneExpired now).currentBytes + estimateEntrySize entry⟩)) := by
  unfold StoreInner.putWithId
  by_cases hsize : estimateEntrySize entry > maxBytes
  · exact .inl ⟨_, if_pos hsize⟩
  · simp only [if_neg hsize]
    by_cases hid : responseId ∈ (inner.pruneExpired now).responses
    · exact .inr (.inl ⟨_, if_pos hid⟩)
    · simp only [if_neg hid]
      by_cases hmax : (inner.pruneExpired now).currentBytes + estimateEntrySize entry > maxBytes
      · exact .inr (.inl ⟨_, if_pos hmax⟩)
      · exact .inr (.inr ⟨hid, Nat.not_lt.mp hmax, if_neg hmax⟩)

theorem Accounted.get {inner : StoreInner} (h : inner.Accounted) (now : Nat)
    (responseId namespaceName ownerHash : String) :
    (inner.get now responseId namespaceName ownerHash).2.Accounted := by
  rcases inner.get_cases now responseId namespaceName ownerHash with
    ⟨error, hget⟩ | ⟨entry, _, _, hget⟩ | ⟨entry, _, _, _, _, hget⟩ <;> rw [hget]
  · exact h
  · exact h.remove responseId
  · exact h

theorem Accounted.putWithId {inner : StoreInner} (h : inner.Accounted) (now : Nat)
    (responseId : String) (entry : StoredBridgeResponse) (ttl maxBytes : Nat) :
    (inner.putWithId now responseId entry ttl maxBytes).2.Accounted := by
  rcases inner.putWithId_cases now responseId entry ttl maxBytes with
    ⟨message, hput⟩ | ⟨message, hput⟩ | ⟨hid, _, hput⟩ <;> rw [hput]
  · exact h
  · exact h.pruneExpired now
  · have hpruned := h.pruneExpired now
    unfold Accounted at hpruned ⊢
    rw [FinMap.total_insert _ hid, hpruned]
    exact Nat.add_comm _ _

end StoreInner

theorem lookup_pruneExpired {inner : StoreInner} {now : Nat} {id : String}
    {entry : StoredBridgeResponse} (h : (inner.pruneExpired now).responses.lookup id = some entry) :
    inner.responses.lookup id = some entry := by
  rw [StoreInner.pruneExpired, StoreInner.lookup_foldl_remove] at h
  split at h
  · cases h
  · exact h

/-- What a put leaves under an id was there before, or is what it put there. -/
theorem lookup_putWithId {inner : StoreInner} {now : Nat} {responseId : String}
    {entry : StoredBridgeResponse} {ttl maxBytes : Nat} {id : String} {e : StoredBridgeResponse}
    (h : (inner.putWithId now responseId entry ttl maxBytes).2.responses.lookup id = some e) :
    inner.responses.lookup id = some e ∨
      ((inner.putWithId now responseId entry ttl maxBytes).1 = .ok id ∧
        e = StoreInner.stamped entry now ttl) := by
  rcases inner.putWithId_cases now responseId entry ttl maxBytes with
    ⟨message, hput⟩ | ⟨message, hput⟩ | ⟨hid, hroom, hput⟩ <;> rw [hput] at h ⊢
  · exact .inl h
  · exact .inl (lookup_pruneExpired h)
  · rw [FinMap.lookup_insert_eq] at h
    split at h
    · next hid => exact .inr ⟨by rw [hid], (Option.some.inj h).symm⟩
    · exact .inl (lookup_pruneExpired h)

theorem lookup_get {inner : StoreInner} {now : Nat} {responseId namespaceName hash id : String}
    {e : StoredBridgeResponse}
    (h : (inner.get now responseId namespaceName hash).2.responses.lookup id = some e) :
    inner.responses.lookup id = some e := by
  rcases inner.get_cases now responseId namespaceName hash with
    ⟨error, hget⟩ | ⟨entry, _, _, hget⟩ | ⟨entry, _, _, _, _, hget⟩ <;> rw [hget] at h
  · exact h
  · rw [StoreInner.lookup_remove] at h
    split at h
    · cases h
    · exact h
  · exact h

theorem StoreCall.accounted {inner : StoreInner} (h : inner.Accounted) (c : StoreCall) :
    (c.run inner).2.Accounted := by
  cases c with
  | get now responseId namespaceName ownerHash => exact h.get now responseId namespaceName ownerHash
  | put now uuid entry ttl maxBytes => exact h.putWithId now (mintResponseId uuid) entry ttl maxBytes
  | putWithId now responseId entry ttl maxBytes => exact h.putWithId now responseId entry ttl maxBytes

theorem accounted_run {calls : List (StoreCall × StoreAnswer)} {inner : StoreInner}
    (hrun : Run StoreStep StoreInner.empty calls inner) : inner.Accounted :=
  hrun.invariant StoreInner.accounted_empty fun h hs => by
    cases hs with
    | call c => exact StoreCall.accounted h c

/-- What one call may do to the store at its clock. -/
structure KeepsBooks (inner : StoreInner) (c : StoreCall) (answer : StoreAnswer)
    (inner' : StoreInner) : Prop where
  accounted : inner'.Accounted
  bounded : ∀ id, answer = .stored (.ok id) → ∀ maxBytes, c.maxBytes = some maxBytes →
    inner'.currentBytes ≤ maxBytes
  kept : ∀ id entry, inner.responses.lookup id = some entry → c.now < entry.expiresAt →
    inner'.responses.lookup id = some entry
  fresh : ∀ entry, answer = .got (.ok entry) → c.now < entry.expiresAt
  unchanged : ∀ message, answer = .stored (.error message) →
    inner'.liveEntries c.now = inner.liveEntries c.now ∧
      (inner' = inner ∨ inner'.currentBytes = inner.liveBytes c.now)

theorem keepsBooks_get {inner : StoreInner} (h : inner.Accounted) (now : Nat)
    (responseId namespaceName ownerHash : String) :
    KeepsBooks inner (.get now responseId namespaceName ownerHash)
      (.got (inner.get now responseId namespaceName ownerHash).1)
      (inner.get now responseId namespaceName ownerHash).2 where
  accounted := h.get now responseId namespaceName ownerHash
  bounded id hanswer := by cases hanswer
  kept id entry hlookup hlive := by
    rcases inner.get_cases now responseId namespaceName ownerHash with
      ⟨error, hget⟩ | ⟨removed, hremoved, hexpired, hget⟩ | ⟨entry', _, _, _, _, hget⟩ <;> rw [hget]
    · exact hlookup
    · refine StoreInner.lookup_of_liveEntries_eq (StoreInner.liveEntries_remove ?_) hlookup hlive
      intro e he
      rw [hremoved] at he
      exact Option.some.inj he ▸ hexpired
    · exact hlookup
  fresh entry hanswer := by
    rcases inner.get_cases now responseId namespaceName ownerHash with
      ⟨error, hget⟩ | ⟨removed, _, _, hget⟩ | ⟨entry', _, hlive, _, _, hget⟩ <;>
      rw [hget] at hanswer <;> cases hanswer
    exact hlive
  unchanged message hanswer := by cases hanswer

theorem keepsBooks_putWithId {inner : StoreInner} (h : inner.Accounted) {c : StoreCall} {now : Nat}
    {responseId : String} {entry : StoredBridgeResponse} {ttl maxBytes : Nat} (hnow : c.now = now)
    (hmax : c.maxBytes = some maxBytes) :
    KeepsBooks inner c (.stored (inner.putWithId now responseId entry ttl maxBytes).1)
      (inner.putWithId now responseId entry ttl maxBytes).2 := by
  subst hnow
  refine ⟨h.putWithId c.now responseId entry ttl maxBytes, ?_, ?_, by simp, ?_⟩ <;>
  rcases inner.putWithId_cases c.now responseId entry ttl maxBytes with
    ⟨message, hput⟩ | ⟨message, hput⟩ | ⟨hid, hroom, hput⟩ <;> rw [hput]
  · simp
  · simp
  · rintro id - limit hlimit
    rw [hmax] at hlimit
    exact Option.some.inj hlimit ▸ hroom
  · exact fun _ _ hlookup _ => hlookup
  · exact fun _ _ hlookup hlive =>
      StoreInner.lookup_of_liveEntries_eq (inner.liveEntries_pruneExpired c.now) hlookup hlive
  · intro id e hlookup hlive
    have hpruned := StoreInner.lookup_of_liveEntries_eq (inner.liveEntries_pruneExpired c.now)
      hlookup hlive
    have hne : id ≠ responseId := by
      rintro rfl
      exact hid (AList.lookup_isSome.mp (by rw [hpruned]; rfl))
    rw [FinMap.lookup_insert_eq, if_neg hne]
    exact hpruned
  · exact fun _ _ => ⟨rfl, .inl rfl⟩
  · exact fun _ _ => ⟨inner.liveEntries_pruneExpired c.now,
      .inr (StoreInner.currentBytes_pruneExpired h c.now)⟩
  · simp

/-- **The store's books.** In every state that calls from any number of requests can lead to, the
counter is the total size of the entries; and any further call leaves it so, stays within the
limit it brought if it stored something, keeps every entry that is alive at its clock, returns no
entry that is not, and if it was a put that failed leaves the living entries and what they are
charged as they were. -/
theorem bridge_store_keeps_books {calls : List (StoreCall × StoreAnswer)} {inner : StoreInner}
    (hrun : Run StoreStep StoreInner.empty calls inner) :
    inner.currentBytes = inner.responses.total StoredBridgeResponse.sizeBytes ∧
      ∀ c : StoreCall, KeepsBooks inner c (c.run inner).1 (c.run inner).2 := by
  have h := accounted_run hrun
  refine ⟨h, fun c => ?_⟩
  cases c with
  | get now responseId namespaceName ownerHash =>
    exact keepsBooks_get h now responseId namespaceName ownerHash
  | put now uuid entry ttl maxBytes => exact keepsBooks_putWithId h rfl rfl
  | putWithId now responseId entry ttl maxBytes => exact keepsBooks_putWithId h rfl rfl

/-- A turn of a conversation in the namespace `team`. -/
def sampleEntry : StoredBridgeResponse :=
  .new 0 "team" "owner" "gpt" ⟨"up", "gpt"⟩ ⟨localReplaySchemaVersion, "r1", ⟨"up", "gpt"⟩,
    .openAiChatCompletions, .object []⟩ [.object [("type", .string "message")]]

/-- The turn is stored at 5 for 10, and asked for at 20. -/
theorem bridge_store_keeps_books_late_get :
    let stored := ((StoreCall.putWithId 5 "resp_llmup_1" sampleEntry 10 4096).run .empty).2
    stored.currentBytes = 77 ∧ KeepsBooks stored (.get 20 "resp_llmup_1" "team" "owner")
      (.got (.error .expired)) (stored.remove "resp_llmup_1") := by
  have hrun : Run StoreStep StoreInner.empty _ _ :=
    .snoc (.nil _) (.call _ (.putWithId 5 "resp_llmup_1" sampleEntry 10 4096))
  refine ⟨by decide, ?_⟩
  exact (bridge_store_keeps_books hrun).2 (.get 20 "resp_llmup_1" "team" "owner")

end LlmUniversalProxy.Server
