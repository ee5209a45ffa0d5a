import LlmUniversalProxy.Server.TelemetryCounts

/-!
# `Server.Telemetry` — the counters over the requests

Each request has a tracker. It is counted as active when it starts, under an upstream once one has
been chosen, and under an outcome when it is finished; whichever call comes first decides.

`Conserved` holds after any calls in any order, as long as no tracker is given another upstream
after it has finished. A finished tracker takes no second outcome, but it takes a second upstream,
and is then active there for good (`finished_tracker_is_active`). The counts are `u64`s that are
added to without a check, so the number of all requests has to stay below their maximum; all the
others are at most that number.
-/

set_option autoImplicit false

namespace LlmUniversalProxy.Server

open Lib

/-! ## One call -/

/-- A tracker keeps what has been reported of it. -/
structure Keeps (before after : RequestTracker) : Prop where
  path : after.path = before.path
  clientModel : after.clientModel = before.clientModel
  stream : after.stream = before.stream
  upstreamName : after.upstreamName = before.upstreamName
  upstreamModel : after.upstreamModel = before.upstreamModel

theorem Reports.set {trackers : List OwnedTracker} {recent : RecentRequest} {finish : Finish}
    (h : Reports trackers recent finish) {id : Nat} {owned owned' : OwnedTracker}
    (howned : trackers[id]? = some owned)
    (hkeeps : finish.id = id → Keeps owned.tracker owned'.tracker) :
    Reports (trackers.set id owned') recent finish := by
  obtain ⟨reported, hreported, hpath, hmodel, hstream, hname, hupstream⟩ := h.tracker
  refine ⟨h.outcome, h.status, ?_⟩
  by_cases hid : finish.id = id
  · have heq : owned = reported := by
      rw [hid, howned] at hreported
      exact Option.some.inj hreported
    subst heq
    have hkept := hkeeps hid
    refine ⟨owned', ?_, hpath.trans hkept.path.symm, hmodel.trans hkept.clientModel.symm,
      hstream.trans hkept.stream.symm, hname.trans hkept.upstreamName.symm,
      hupstream.trans hkept.upstreamModel.symm⟩
    rw [hid]
    exact List.getElem?_set_self (List.getElem?_eq_some_iff.mp howned).1
  · refine ⟨reported, ?_, hpath, hmodel, hstream, hname, hupstream⟩
    rw [List.getElem?_set_ne fun heq => hid heq.symm]
    exact hreported

theorem onTracker_eq_some {w w' : Telemetry} {id : Nat} {dropped : Bool}
    {call : RequestTracker → MetricsInner → RequestTracker × MetricsInner} :
    w.onTracker id dropped call = some w' ↔ ∃ owned, w.trackers[id]? = some owned ∧
      owned.dropped = false ∧ w' =
        { metrics := (call owned.tracker w.metrics).2
          trackers := w.trackers.set id ⟨(call owned.tracker w.metrics).1, dropped⟩ } := by
  unfold Telemetry.onTracker
  rw [Option.map_eq_some_iff]
  constructor
  · rintro ⟨owned, howned, rfl⟩
    obtain ⟨hfound, hdropped⟩ := Option.filter_eq_some_iff.mp howned
    exact ⟨owned, hfound, by simpa using hdropped, rfl⟩
  · rintro ⟨owned, hfound, hdropped, rfl⟩
    exact ⟨owned, Option.filter_eq_some_iff.mpr ⟨hfound, by simpa using hdropped⟩, rfl⟩

/-- The counts do not see a change that is not about what they count. -/
theorem countP_set_of_eq {α : Type} {p : α → Bool} {l : List α} {i : Nat} {a b : α}
    (h : l[i]? = some a) (hp : p b = p a) : (l.set i b).countP p = l.countP p := by
  have hadd := countP_set_add b h (p := p)
  rw [hp] at hadd
  omega

theorem isFinished_set {trackers : List OwnedTracker} {id : Nat} {owned : OwnedTracker}
    (owned' : OwnedTracker) (h : trackers[id]? = some owned) (j : Nat) :
    IsFinished (trackers.set id owned') j ↔
      (j = id ∧ owned'.tracker.finished = true) ∨ (j ≠ id ∧ IsFinished trackers j) := by
  obtain ⟨hid, -⟩ := List.getElem?_eq_some_iff.mp h
  unfold IsFinished
  by_cases hj : j = id
  · subst hj
    rw [List.getElem?_set_self hid]
    simp
  · rw [List.getElem?_set_ne fun heq => hj heq.symm]
    simp [hj]

theorem forall₂_of_mem {α β : Type} {R S : α → β → Prop} {xs : List α} {ys : List β}
    (h : List.Forall₂ R xs ys) (hstep : ∀ a b, b ∈ ys → R a b → S a b) : List.Forall₂ S xs ys := by
  induction h with
  | nil => exact .nil
  | cons hab _ ih =>
    refine .cons (hstep _ _ List.mem_cons_self hab) (ih fun a b hb => ?_)
    exact hstep a b (List.mem_cons_of_mem _ hb)

namespace Conserved

variable {calls : List TrackerCall} {w : Telemetry}

theorem active_le (h : Conserved calls w) : w.metrics.activeRequests ≤ w.metrics.totalRequests := by
  have htotal := h.total
  omega

theorem activeStream_le (h : Conserved calls w) :
    w.metrics.activeStreamRequests ≤ w.metrics.totalRequests := by
  rw [h.activeStream, h.started]
  exact List.countP_le_length

theorem start (h : Conserved calls w) (hfits : w.metrics.totalRequests < u64Max)
    (path clientModel : String) (stream : Bool) :
    Conserved (calls ++ [.startRequest path clientModel stream])
      { metrics := w.metrics.startRequest stream
        trackers := w.trackers ++ [⟨.new path clientModel stream, false⟩] } := by
  have hactive := h.active_le
  have hstream := h.activeStream_le
  have htotal := h.total
  -- the new tracker stands behind the others, whose places stay
  have hold : ∀ {id : Nat} {owned : OwnedTracker}, w.trackers[id]? = some owned →
      (w.trackers ++ [⟨.new path clientModel stream, false⟩])[id]? = some owned := by
    intro id owned howned
    rw [List.getElem?_append_left (List.getElem?_eq_some_iff.mp howned).1]
    exact howned
  have hfinishes : finishes (calls ++ [.startRequest path clientModel stream]) = finishes calls :=
    finishes_of_none rfl
  refine ⟨?_, ?_, ?_, ?_, ?_, ?_, ?_, ?_, ?_⟩
  · show saturatingAdd w.metrics.activeRequests 1 = _
    rw [saturatingAdd_of_le (by omega), h.active, List.countP_append]
    rfl
  · show (if stream then saturatingAdd w.metrics.activeStreamRequests 1
      else w.metrics.activeStreamRequests) = _
    rw [saturatingAdd_of_le (by omega), h.activeStream, List.countP_append]
    cases stream
    · rfl
    · rfl
  · show saturatingAdd w.metrics.totalRequests 1 = _
    rw [saturatingAdd_of_le (by omega), h.started, List.length_append]
    rfl
  · show saturatingAdd w.metrics.totalRequests 1 = saturatingAdd w.metrics.activeRequests 1 +
      w.metrics.successResponses + w.metrics.errorResponses + w.metrics.cancelledResponses
    rw [saturatingAdd_of_le (by omega), saturatingAdd_of_le (by omega)]
    omega
  · intro name
    rw [List.countP_append]
    exact (h.upstream name).trans (by simp [OwnedTracker.unfinishedAt, RequestTracker.new])
  · intro outcome
    rw [hfinishes, ← h.responses outcome]
    cases outcome <;> rfl
  · rw [hfinishes]
    exact h.once
  · intro id
    rw [hfinishes, h.finished id]
    constructor
    · rintro ⟨owned, howned, hfinished⟩
      exact ⟨owned, hold howned, hfinished⟩
    · rintro ⟨owned, howned, hfinished⟩
      rcases List.mem_append.mp (List.mem_of_getElem? howned) with hmem | hmem
      · by_cases hid : id < w.trackers.length
        · rw [List.getElem?_append_left hid] at howned
          exact ⟨owned, howned, hfinished⟩
        · rw [List.getElem?_append_right (by omega)] at howned
          have hnew := List.mem_of_getElem? howned
          rw [List.mem_singleton.mp hnew] at hfinished
          cases hfinished
      · rw [List.mem_singleton.mp hmem] at hfinished
        cases hfinished
  · rw [hfinishes]
    refine h.recent.imp fun recent finish hreports => ?_
    obtain ⟨owned, howned, hsame⟩ := hreports.tracker
    exact ⟨hreports.outcome, hreports.status, owned, hold howned, hsame⟩

/-- A call that finishes nothing, and leaves the tracker as far as it is counted and reported. -/
theorem keep (h : Conserved calls w) {call : TrackerCall}
    (hfinishes : finishes (calls ++ [call]) = finishes calls) {id : Nat}
    {owned owned' : OwnedTracker} (howned : w.trackers[id]? = some owned)
    (hkeeps : Keeps owned.tracker owned'.tracker)
    (hfinished : owned'.tracker.finished = owned.tracker.finished) :
    Conserved (calls ++ [call])
      { metrics := w.metrics, trackers := w.trackers.set id owned' } := by
  have hunfinished : owned'.unfinished = owned.unfinished :=
    congrArg (fun b => !b) hfinished
  refine ⟨?_, ?_, ?_, h.total, ?_, ?_, ?_, ?_, ?_⟩
  · rw [countP_set_of_eq howned hunfinished]
    exact h.active
  · rw [countP_set_of_eq howned (by rw [hunfinished, hkeeps.stream])]
    exact h.activeStream
  · rw [List.length_set]
    exact h.started
  · intro name
    have hat : owned'.unfinishedAt name = owned.unfinishedAt name := by
      unfold OwnedTracker.unfinishedAt
      rw [hunfinished, hkeeps.upstreamName]
    rw [countP_set_of_eq howned hat]
    exact h.upstream name
  · rw [hfinishes]
    exact h.responses
  · rw [hfinishes]
    exact h.once
  · intro j
    rw [hfinishes, h.finished j, isFinished_set owned' howned j, hfinished]
    constructor
    · intro hj
      by_cases heq : j = id
      · subst heq
        obtain ⟨other, hother, hdone⟩ := hj
        rw [howned] at hother
        exact .inl ⟨rfl, Option.some.inj hother ▸ hdone⟩
      · exact .inr ⟨heq, hj⟩
    · rintro (⟨rfl, hdone⟩ | ⟨-, hj⟩)
      · exact ⟨owned, howned, hdone⟩
      · exact hj
  · rw [hfinishes]
    exact h.recent.imp fun recent finish hreports => hreports.set howned fun _ => hkeeps

/-- An unfinished request is counted under its upstream. -/
theorem activeAt_pos (h : Conserved calls w) {id : Nat} {owned : OwnedTracker}
    (howned : w.trackers[id]? = some owned) (hunfinished : owned.tracker.finished = false)
    {name : String} (hname : owned.tracker.upstreamName = some name) :
    0 < w.metrics.activeAt name := by
  rw [h.upstream name]
  refine countP_pos_of howned ?_
  simp [OwnedTracker.unfinishedAt, OwnedTracker.unfinished, hunfinished, hname]

theorem not_counted (h : Conserved calls w) {id : Nat} {owned : OwnedTracker}
    (howned : w.trackers[id]? = some owned) (hunfinished : owned.tracker.finished = false) :
    id ∉ (finishes calls).map Finish.id := by
  intro hmem
  obtain ⟨other, hother, hdone⟩ := (h.finished id).mp hmem
  rw [howned] at hother
  rw [Option.some.inj hother, hdone] at hunfinished
  cases hunfinished

/-- Nothing has been reported of an unfinished tracker, so the reports stay true whatever becomes of
it. -/
theorem recent_set (h : Conserved calls w) {id : Nat} {owned : OwnedTracker}
    (howned : w.trackers[id]? = some owned) (hunfinished : owned.tracker.finished = false)
    (owned' : OwnedTracker) :
    List.Forall₂ (Reports (w.trackers.set id owned')) w.metrics.recentRequests
      ((finishes calls).reverse.take maxRecentRequests) := by
  refine forall₂_of_mem h.recent fun recent finish hmem hreports =>
    hreports.set howned fun hid => ?_
  have hcounted := List.mem_map_of_mem (f := Finish.id)
    (List.mem_reverse.mp (List.mem_of_mem_take hmem))
  exact absurd (hid ▸ hcounted) (h.not_counted howned hunfinished)

/-- The count of an upstream when an unfinished tracker goes there from another, or from none. -/
theorem activeAt_assigned (h : Conserved calls w) (hfits : w.metrics.totalRequests < u64Max)
    {id : Nat} {owned owned' : OwnedTracker} (howned : w.trackers[id]? = some owned)
    (hunfinished : owned.tracker.finished = false) {upstreamName : String}
    (hafter : ∀ name, owned'.unfinishedAt name = decide (name = upstreamName)) (name : String) :
    (w.trackers.set id owned').countP (OwnedTracker.unfinishedAt name) =
      let left := w.metrics.activeAt name -
        (if owned.tracker.upstreamName = some name then 1 else 0)
      if name = upstreamName then saturatingAdd left 1 else left := by
  have hstarted := h.started
  have hadd := countP_set_add (p := OwnedTracker.unfinishedAt name) owned' howned
  have hle : (w.trackers.set id owned').countP (OwnedTracker.unfinishedAt name) ≤
      w.trackers.length :=
    Nat.le_trans List.countP_le_length (Nat.le_of_eq List.length_set)
  have hbefore : owned.unfinishedAt name = decide (owned.tracker.upstreamName = some name) := by
    simp [OwnedTracker.unfinishedAt, OwnedTracker.unfinished, hunfinished]
  rw [hbefore, hafter] at hadd
  simp only [decide_eq_true_eq] at hadd
  rw [h.upstream name]
  dsimp only
  by_cases hname : name = upstreamName
  · rw [if_pos hname] at hadd ⊢
    by_cases hold : owned.tracker.upstreamName = some name
    · rw [if_pos hold] at hadd ⊢
      have hpos := h.activeAt_pos howned hunfinished hold
      rw [h.upstream name] at hpos
      rw [saturatingAdd_of_le (by omega)]
      omega
    · rw [if_neg hold] at hadd ⊢
      rw [saturatingAdd_of_le (by omega)]
      omega
  · rw [if_neg hname] at hadd ⊢
    exact Nat.eq_sub_of_add_eq hadd

/-- An unfinished tracker is given an upstream: it moves from one count to the other. -/
theorem assign (h : Conserved calls w) (hfits : w.metrics.totalRequests < u64Max) {id : Nat}
    {owned : OwnedTracker} (howned : w.trackers[id]? = some owned)
    (hunfinished : owned.tracker.finished = false) {upstreamName upstreamModel : String}
    (hnew : ¬ (owned.tracker.upstreamName = some upstreamName ∧
      owned.tracker.upstreamModel = some upstreamModel)) (dropped : Bool) :
    Conserved (calls ++ [.setUpstream id upstreamName upstreamModel])
      { metrics := (owned.tracker.setUpstream upstreamName upstreamModel w.metrics).2
        trackers := w.trackers.set id
          ⟨(owned.tracker.setUpstream upstreamName upstreamModel w.metrics).1, dropped⟩ } := by
  obtain ⟨perUpstream, heq, hupstream⟩ := setUpstream_spec w.metrics hnew
  rw [heq]
  generalize howned' : OwnedTracker.mk { owned.tracker with
    upstreamName := some upstreamName, upstreamModel := some upstreamModel } dropped = owned'
  have hfinishes : finishes (calls ++ [.setUpstream id upstreamName upstreamModel]) =
      finishes calls := finishes_of_none rfl
  have hstarted := h.started
  -- it is as unfinished as before, so only the counts of the two upstreams change
  have hcounted : owned'.unfinished = owned.unfinished := by
    rw [← howned']
    rfl
  refine ⟨?_, ?_, ?_, h.total, ?_, ?_, ?_, ?_, ?_⟩
  · show w.metrics.activeRequests = (w.trackers.set id owned').countP _
    rw [countP_set_of_eq howned hcounted]
    exact h.active
  · show w.metrics.activeStreamRequests = (w.trackers.set id owned').countP _
    rw [countP_set_of_eq howned (by rw [hcounted, ← howned'])]
    exact h.activeStream
  · rw [List.length_set]
    exact hstarted
  · intro name
    refine (hupstream name).trans (h.activeAt_assigned hfits howned hunfinished ?_ name).symm
    intro name
    rw [← howned']
    simp [OwnedTracker.unfinishedAt, OwnedTracker.unfinished, hunfinished, eq_comm]
  · rw [hfinishes]
    intro outcome
    rw [← h.responses outcome]
    cases outcome <;> rfl
  · rw [hfinishes]
    exact h.once
  · intro j
    rw [hfinishes, h.finished j, isFinished_set owned' howned j, ← howned']
    constructor
    · intro hj
      refine .inr ⟨?_, hj⟩
      rintro rfl
      exact h.not_counted howned hunfinished ((h.finished j).mpr hj)
    · rintro (⟨-, hdone⟩ | ⟨-, hj⟩)
      · rw [hunfinished] at hdone
        cases hdone
      · exact hj
  · rw [hfinishes]
    exact h.recent_set howned hunfinished owned'

theorem active_finished (h : Conserved calls w) {id : Nat} {owned owned' : OwnedTracker}
    (howned : w.trackers[id]? = some owned) (hbefore : owned.unfinished = true)
    (hafter : owned'.unfinished = false) :
    w.metrics.activeRequests - 1 =
        (w.trackers.set id owned').countP OwnedTracker.unfinished ∧
      (if owned.tracker.stream then w.metrics.activeStreamRequests - 1
        else w.metrics.activeStreamRequests) =
        (w.trackers.set id owned').countP (fun owned => owned.unfinished && owned.tracker.stream) ∧
      ∀ name, w.metrics.activeAt name - (if owned.tracker.upstreamName = some name then 1 else 0) =
        (w.trackers.set id owned').countP (OwnedTracker.unfinishedAt name) := by
  refine ⟨?_, ?_, fun name => ?_⟩
  · have hadd := countP_set_add (p := OwnedTracker.unfinished) owned' howned
    rw [hbefore, hafter] at hadd
    simp only [if_true, Bool.false_eq_true, if_false] at hadd
    rw [h.active]
    omega
  · have hadd := countP_set_add (p := fun owned => owned.unfinished && owned.tracker.stream)
      owned' howned
    simp only [hbefore, hafter, Bool.true_and, Bool.false_and, Bool.false_eq_true, if_false] at hadd
    rw [h.activeStream]
    split
    · next hstream =>
      rw [if_pos hstream] at hadd
      omega
    · next hstream =>
      rw [if_neg hstream] at hadd
      omega
  · have hadd := countP_set_add (p := OwnedTracker.unfinishedAt name) owned' howned
    have hat : owned'.unfinishedAt name = false := by simp [OwnedTracker.unfinishedAt, hafter]
    have hwas : owned.unfinishedAt name = decide (owned.tracker.upstreamName = some name) := by
      simp [OwnedTracker.unfinishedAt, hbefore]
    rw [hat, hwas] at hadd
    simp only [decide_eq_true_eq, Bool.false_eq_true, if_false] at hadd
    rw [h.upstream name]
    omega

/-- The counts of the responses, none of which is at its maximum. -/
theorem responses_finished (h : Conserved calls w) (hfits : w.metrics.totalRequests ≤ u64Max)
    (hactive : 0 < w.metrics.activeRequests) {outcome : RequestOutcome} {status durationMs : Nat}
    {t : RequestTracker} {m' : MetricsInner}
    (hm' : Finished w.metrics t outcome status durationMs m') :
    m'.totalRequests = m'.activeRequests + m'.successResponses + m'.errorResponses +
        m'.cancelledResponses ∧
      ∀ l, m'.responses l = w.metrics.responses l + if outcome = l then 1 else 0 := by
  have htotal := h.total
  have hone : ∀ l, saturatingAdd (w.metrics.responses l) 1 = w.metrics.responses l + 1 := by
    intro l
    refine saturatingAdd_of_le ?_
    cases l <;> simp only [MetricsInner.responses] <;> omega
  have hresponses : ∀ l, m'.responses l = w.metrics.responses l + if outcome = l then 1 else 0 := by
    intro l
    rw [hm'.responses, hone]
    split <;> rfl
  refine ⟨?_, hresponses⟩
  show m'.totalRequests = m'.activeRequests + m'.responses .success + m'.responses .error +
    m'.responses .cancelled
  rw [hm'.total, hm'.active, hresponses, hresponses, hresponses]
  simp only [MetricsInner.responses]
  cases outcome <;> simp <;> omega

theorem finish (h : Conserved calls w) {id : Nat} {owned : OwnedTracker}
    (howned : w.trackers[id]? = some owned) (hunfinished : owned.tracker.finished = false)
    {call : TrackerCall} {outcome : RequestOutcome} {status durationMs : Nat}
    (hfits : w.metrics.totalRequests ≤ u64Max) (hcall : call.finish = some ⟨id, outcome, status⟩)
    (dropped : Bool) :
    Conserved (calls ++ [call])
      { metrics := (owned.tracker.finishWith outcome status durationMs w.metrics).2
        trackers := w.trackers.set id
          ⟨(owned.tracker.finishWith outcome status durationMs w.metrics).1, dropped⟩ } := by
  obtain ⟨m', heq, hm'⟩ := finishWith_spec hunfinished outcome status durationMs w.metrics
  rw [heq]
  generalize howned' : OwnedTracker.mk { owned.tracker with finished := true } dropped = owned'
  -- this tracker has not been counted, so the new finish is the only one of its id
  have hnew := h.not_counted howned hunfinished
  have hfinishes : finishes (calls ++ [call]) = finishes calls ++ [⟨id, outcome, status⟩] := by
    rw [finishes_of_some hcall, if_neg hnew]
  have hbefore : owned.unfinished = true := by simp [OwnedTracker.unfinished, hunfinished]
  have hafter : owned'.unfinished = false := by
    rw [← howned']
    rfl
  have hpos : 0 < w.metrics.activeRequests := by
    rw [h.active]
    exact countP_pos_of howned hbefore
  obtain ⟨hactive, hactiveStream, hupstream⟩ := h.active_finished howned hbefore hafter
  obtain ⟨htotal, hresponses⟩ := h.responses_finished hfits hpos hm'
  refine ⟨hm'.active.trans hactive, hm'.activeStream.trans hactiveStream, ?_, htotal,
    fun name => (hm'.upstream name).trans (hupstream name), fun l => ?_, ?_, fun j => ?_, ?_⟩
  · show m'.totalRequests = _
    rw [hm'.total, List.length_set]
    exact h.started
  · show m'.responses l = _
    rw [hfinishes, hresponses, List.countP_append, h.responses l]
    by_cases hl : outcome = l
    · simp [hl]
    · simp [hl]
  · rw [hfinishes, List.map_append]
    refine List.nodup_append.mpr ⟨h.once, List.nodup_singleton _, ?_⟩
    intro a ha b hb
    rintro rfl
    rw [List.mem_singleton.mp hb] at ha
    exact hnew ha
  · rw [hfinishes, isFinished_set owned' howned j, ← howned', List.map_append, List.mem_append,
      h.finished j]
    constructor
    · rintro (hj | hj)
      · by_cases hid : j = id
        · exact .inl ⟨hid, rfl⟩
        · exact .inr ⟨hid, hj⟩
      · exact .inl ⟨List.mem_singleton.mp hj, rfl⟩
    · rintro (⟨rfl, -⟩ | ⟨-, hj⟩)
      · exact .inr (List.mem_singleton.mpr rfl)
      · exact .inl hj
  · show List.Forall₂ _ m'.recentRequests _
    rw [hm'.recent, hfinishes, List.reverse_append]
    have hreported : Reports (w.trackers.set id owned')
        (owned.tracker.record outcome status durationMs) ⟨id, outcome, status⟩ := by
      refine ⟨rfl, rfl, owned', List.getElem?_set_self (List.getElem?_eq_some_iff.mp howned).1, ?_⟩
      rw [← howned']
      exact ⟨rfl, rfl, rfl, rfl, rfl⟩
    -- the list keeps twelve: the new one and eleven of those before
    have hcut := List.forall₂_take 11 (h.recent_set howned hunfinished owned')
    rw [List.take_take] at hcut
    exact .cons hreported hcut

theorem finishCall (h : Conserved calls w) (hfits : w.metrics.totalRequests ≤ u64Max) {id : Nat}
    {call : TrackerCall} {outcome : RequestOutcome} {status durationMs : Nat} {dropped : Bool}
    (hcall : call.finish = some ⟨id, outcome, status⟩) {w' : Telemetry}
    (hstep : w.onTracker id dropped (RequestTracker.finishWith outcome status durationMs) =
      some w') : Conserved (calls ++ [call]) w' := by
  obtain ⟨owned, howned, -, rfl⟩ := onTracker_eq_some.mp hstep
  by_cases hdone : owned.tracker.finished = true
  · have hfinishes : finishes (calls ++ [call]) = finishes calls := by
      rw [finishes_of_some hcall, if_pos ((h.finished id).mpr ⟨owned, howned, hdone⟩)]
    have hsame : owned.tracker.finishWith outcome status durationMs w.metrics =
        (owned.tracker, w.metrics) := by
      unfold RequestTracker.finishWith
      rw [if_pos hdone]
    rw [hsame]
    exact h.keep hfinishes howned ⟨rfl, rfl, rfl, rfl, rfl⟩ rfl
  · exact h.finish howned (by simpa using hdone) hfits hcall dropped

theorem step (h : Conserved calls w) {call : TrackerCall} {w' : Telemetry}
    (hstep : w.Step call w') (hassigns : w.AssignsUnfinished call) :
    Conserved (calls ++ [call]) w' := by
  obtain ⟨hfits, hstep⟩ := hstep
  have hfits' := Nat.le_of_lt hfits
  cases call with
  | startRequest path clientModel stream =>
    obtain rfl := Option.some.inj hstep
    exact h.start hfits path clientModel stream
  | setUpstream id upstreamName upstreamModel =>
    obtain ⟨owned, howned, -, rfl⟩ := onTracker_eq_some.mp hstep
    by_cases hsame : owned.tracker.upstreamName = some upstreamName ∧
        owned.tracker.upstreamModel = some upstreamModel
    · have hkept : owned.tracker.setUpstream upstreamName upstreamModel w.metrics =
          (owned.tracker, w.metrics) := by
        unfold RequestTracker.setUpstream
        rw [if_pos hsame]
      rw [hkept]
      exact h.keep (finishes_of_none rfl) howned ⟨rfl, rfl, rfl, rfl, rfl⟩ rfl
    · refine h.assign hfits howned ?_ hsame false
      cases hdone : owned.tracker.finished with
      | false => rfl
      | true => exact absurd (hassigns owned howned hdone) hsame
  | setRequestProcessing id llmup =>
    obtain ⟨owned, howned, -, rfl⟩ := onTracker_eq_some.mp hstep
    exact h.keep (finishes_of_none rfl) howned ⟨rfl, rfl, rfl, rfl, rfl⟩ rfl
  | finishSuccess id status durationMs => exact h.finishCall hfits' rfl hstep
  | finishError id status durationMs => exact h.finishCall hfits' rfl hstep
  | finishCancelled id durationMs => exact h.finishCall hfits' rfl hstep
  | drop id durationMs => exact h.finishCall hfits' rfl hstep

theorem init : Conserved [] {} := by
  refine ⟨rfl, rfl, rfl, rfl, fun _ => rfl, ?_, List.nodup_nil, ?_, .nil⟩
  · intro outcome
    cases outcome <;> rfl
  · intro id
    constructor
    · intro hid
      cases hid
    · rintro ⟨owned, howned, -⟩
      cases howned

end Conserved

/-! ## Any order of calls -/

/-- **The counters count the trackers**, after any number of calls on any number of trackers, in
any order in which no finished tracker is given another upstream. -/
theorem counters_count_trackers {calls : List TrackerCall} {w : Telemetry}
    (hrun : Run (fun w call w' => Telemetry.Step w call w' ∧ w.AssignsUnfinished call) {} calls w) :
    Conserved calls w :=
  hrun.invariant_history (I := Conserved) .init fun h hstep => h.step hstep.1 hstep.2

/-- Two requests, one of which moves to another upstream and is then dropped. -/
theorem counters_count_trackers_moved : ∃ w, Conserved
    [.startRequest "/v1/messages" "sonnet" true, .setUpstream 0 "glm" "glm-5",
      .startRequest "/v1/messages" "haiku" false, .setUpstream 0 "minimax" "m2",
      .finishSuccess 1 200 7, .drop 0 9] w := by
  apply Exists.intro
  apply counters_count_trackers
  apply Run.cons ⟨⟨by decide, rfl⟩, trivial⟩
  apply Run.cons ⟨⟨by decide, rfl⟩, fun owned howned hdone => by cases howned; cases hdone⟩
  apply Run.cons ⟨⟨by decide, rfl⟩, trivial⟩
  apply Run.cons ⟨⟨by decide, rfl⟩, fun owned howned hdone => by cases howned; cases hdone⟩
  apply Run.cons ⟨⟨by decide, rfl⟩, trivial⟩
  apply Run.cons ⟨⟨by decide, rfl⟩, trivial⟩
  exact .nil _

/-- A request that is given an upstream after it has finished is active there for good. -/
theorem finished_tracker_is_active : ¬ ∀ (calls : List TrackerCall) (w : Telemetry),
    Run Telemetry.Step {} calls w → ∀ name,
      w.metrics.activeAt name = w.trackers.countP (OwnedTracker.unfinishedAt name) := by
  intro halways
  have hrun : ∃ w, Run Telemetry.Step {} [.startRequest "/v1/messages" "sonnet" false,
      .finishSuccess 0 200 7, .setUpstream 0 "glm" "glm-5"] w ∧
      w.metrics.activeAt "glm" = 1 ∧ w.trackers.countP (OwnedTracker.unfinishedAt "glm") = 0 := by
    apply Exists.intro
    constructor
    · apply Run.cons ⟨by decide, rfl⟩
      apply Run.cons ⟨by decide, rfl⟩
      apply Run.cons ⟨by decide, rfl⟩
      exact .nil _
    · exact ⟨by decide, by decide⟩
  obtain ⟨w, hrun, hactive, hcount⟩ := hrun
  have hequal := halways _ w hrun "glm"
  rw [hactive, hcount] at hequal
  cases hequal

end LlmUniversalProxy.Server
