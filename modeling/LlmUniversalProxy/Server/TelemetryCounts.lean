import LlmUniversalProxy.Lib.Run
import LlmUniversalProxy.Lib.U64
import LlmUniversalProxy.Server.RequestProcessing

/-!
# `Server.TelemetryCounts` — the counters, the trackers, and what the ones say of the others

`RuntimeMetrics` and `RequestTracker` (`telemetry.rs` 17-260). The trackers belong to tasks that
know nothing of each other, and what they share is behind one mutex, so a run is any list of whole
calls, each on a tracker that is still there. A drop is a call as well: an unfinished tracker that
is dropped counts as cancelled.

`Conserved` says what the counters are to say after some calls. It is about the trackers, not about
the calls, but for one thing: of several finishes of a tracker only the first counts. The operations
are described once here, by what they change and what they leave (`setUpstream_spec` and
`finishWith_spec`), and the counts of trackers by what replacing one of them does.
-/

set_option autoImplicit false

namespace LlmUniversalProxy.Server

open Lib

/-! ## The counters -/

/-- `RequestOutcome`. -/
inductive RequestOutcome where
  | success
  | error
  | cancelled
  deriving DecidableEq, Repr

/-- `UpstreamMetrics`. -/
structure UpstreamMetrics where
  totalRequests : Nat := 0
  activeRequests : Nat := 0
  successResponses : Nat := 0
  errorResponses : Nat := 0
  cancelledResponses : Nat := 0
  streamRequests : Nat := 0

/-- `RecentRequest`. -/
structure RecentRequest where
  path : String
  clientModel : String
  upstreamName : Option String
  upstreamModel : Option String
  stream : Bool
  status : Nat
  outcome : RequestOutcome
  durationMs : Nat
  llmup : RequestProcessingInfo

/-- `MetricsInner`. -/
structure MetricsInner where
  totalRequests : Nat := 0
  activeRequests : Nat := 0
  totalStreamRequests : Nat := 0
  activeStreamRequests : Nat := 0
  successResponses : Nat := 0
  errorResponses : Nat := 0
  cancelledResponses : Nat := 0
  perUpstream : SortedMap UpstreamMetrics := ∅
  recentRequests : List RecentRequest := []

/-- `MAX_RECENT_REQUESTS`. -/
def maxRecentRequests : Nat := 12

/-- `RequestProcessingInfo::default`. -/
def RequestProcessingInfo.default : RequestProcessingInfo :=
  ⟨.requestTransformationRequired, false, .off, .none⟩

/-- `RequestTracker`, without the metrics it shares and the time it was made. -/
structure RequestTracker where
  path : String
  clientModel : String
  upstreamName : Option String := none
  upstreamModel : Option String := none
  stream : Bool
  llmup : RequestProcessingInfo := .default
  finished : Bool := false

namespace UpstreamMetrics

/-- One more outcome. -/
def countOutcome (self : UpstreamMetrics) : RequestOutcome → UpstreamMetrics
  | .success => { self with successResponses := saturatingAdd self.successResponses 1 }
  | .error => { self with errorResponses := saturatingAdd self.errorResponses 1 }
  | .cancelled => { self with cancelledResponses := saturatingAdd self.cancelledResponses 1 }

/-- A request has left. -/
def leave (self : UpstreamMetrics) : UpstreamMetrics :=
  { self with activeRequests := self.activeRequests - 1 }

/-- A request has been assigned. -/
def enter (self : UpstreamMetrics) (stream : Bool) : UpstreamMetrics :=
  { self with
    totalRequests := saturatingAdd self.totalRequests 1
    activeRequests := saturatingAdd self.activeRequests 1
    streamRequests := if stream then saturatingAdd self.streamRequests 1 else self.streamRequests }

end UpstreamMetrics

namespace MetricsInner

/-- One more outcome. -/
def countOutcome (self : MetricsInner) : RequestOutcome → MetricsInner
  | .success => { self with successResponses := saturatingAdd self.successResponses 1 }
  | .error => { self with errorResponses := saturatingAdd self.errorResponses 1 }
  | .cancelled => { self with cancelledResponses := saturatingAdd self.cancelledResponses 1 }

/-- A change of the entry of an upstream, if it has one (`per_upstream.get_mut`). -/
def updateUpstream (self : MetricsInner) (name : Option String)
    (f : UpstreamMetrics → UpstreamMetrics) : MetricsInner :=
  match name with
  | none => self
  | some name =>
      match self.perUpstream.lookup name with
      | none => self
      | some entry => { self with perUpstream := self.perUpstream.insert name (f entry) }

/-- `RuntimeMetrics::start_request` (`telemetry.rs` 96-124), of which the tracker is
`RequestTracker.new`. -/
def startRequest (self : MetricsInner) (stream : Bool) : MetricsInner :=
  { self with
    totalRequests := saturatingAdd self.totalRequests 1
    activeRequests := saturatingAdd self.activeRequests 1
    totalStreamRequests := if stream then saturatingAdd self.totalStreamRequests 1
      else self.totalStreamRequests
    activeStreamRequests := if stream then saturatingAdd self.activeStreamRequests 1
      else self.activeStreamRequests }

end MetricsInner

namespace RequestTracker

def new (path clientModel : String) (stream : Bool) : RequestTracker :=
  { path := path, clientModel := clientModel, stream := stream }

/-- `RequestTracker::set_upstream` (`telemetry.rs` 150-179). -/
def setUpstream (upstreamName upstreamModel : String) (self : RequestTracker)
    (inner : MetricsInner) : RequestTracker × MetricsInner :=
  if self.upstreamName = some upstreamName ∧ self.upstreamModel = some upstreamModel then
    (self, inner)
  else
    let inner := inner.updateUpstream self.upstreamName UpstreamMetrics.leave
    let entry := (inner.perUpstream.lookup upstreamName).getD {}
    ({ self with upstreamName := some upstreamName, upstreamModel := some upstreamModel },
      { inner with perUpstream := inner.perUpstream.insert upstreamName (entry.enter self.stream) })

/-- `RequestTracker::set_request_processing`. -/
def setRequestProcessing (llmup : RequestProcessingInfo) (self : RequestTracker)
    (inner : MetricsInner) : RequestTracker × MetricsInner :=
  ({ self with llmup := llmup }, inner)

/-- What is kept of a request that finishes. -/
def record (self : RequestTracker) (outcome : RequestOutcome) (status durationMs : Nat) :
    RecentRequest :=
  { path := self.path, clientModel := self.clientModel, upstreamName := self.upstreamName
    upstreamModel := self.upstreamModel, stream := self.stream, status := status
    outcome := outcome, durationMs := durationMs, llmup := self.llmup }

/-- `RequestTracker::finish_with` (`telemetry.rs` 197-251). All that a finish does, it does once;
the record of the request has its place among the recent ones whatever the outcome. -/
def finishWith (outcome : RequestOutcome) (status durationMs : Nat) (self : RequestTracker)
    (inner : MetricsInner) : RequestTracker × MetricsInner :=
  if self.finished then (self, inner)
  else
    let inner := { inner with
      activeRequests := inner.activeRequests - 1
      activeStreamRequests := if self.stream then inner.activeStreamRequests - 1
        else inner.activeStreamRequests }
    let inner := (inner.countOutcome outcome).updateUpstream self.upstreamName fun entry =>
      entry.leave.countOutcome outcome
    ({ self with finished := true },
      { inner with recentRequests :=
          (self.record outcome status durationMs :: inner.recentRequests).take maxRecentRequests })

end RequestTracker

/-! ## Calls in any order -/

/-- A call on a tracker, or the start of one. A finish takes as long as it took since the start;
`finish_cancelled`, and a drop, have the status 499. -/
inductive TrackerCall where
  | startRequest (path clientModel : String) (stream : Bool)
  | setUpstream (id : Nat) (upstreamName upstreamModel : String)
  | setRequestProcessing (id : Nat) (llmup : RequestProcessingInfo)
  | finishSuccess (id status durationMs : Nat)
  | finishError (id status durationMs : Nat)
  | finishCancelled (id durationMs : Nat)
  | drop (id durationMs : Nat)

/-- A tracker, or what it was when it was dropped. -/
structure OwnedTracker where
  tracker : RequestTracker
  dropped : Bool := false

/-- The counters, and all trackers there have been, in the order in which they started. -/
structure Telemetry where
  metrics : MetricsInner := {}
  trackers : List OwnedTracker := []

namespace Telemetry

/-- A call on the tracker `id`, which is still there. -/
def onTracker (self : Telemetry) (id : Nat) (dropped : Bool)
    (call : RequestTracker → MetricsInner → RequestTracker × MetricsInner) : Option Telemetry :=
  (self.trackers[id]?.filter fun owned => !owned.dropped).map fun owned =>
    { metrics := (call owned.tracker self.metrics).2
      trackers := self.trackers.set id ⟨(call owned.tracker self.metrics).1, dropped⟩ }

/-- What a call does; `none` when its tracker is not there. -/
def step (self : Telemetry) : TrackerCall → Option Telemetry
  | .startRequest path clientModel stream =>
      some { metrics := self.metrics.startRequest stream
             trackers := self.trackers ++ [⟨.new path clientModel stream, false⟩] }
  | .setUpstream id upstreamName upstreamModel =>
      self.onTracker id false (RequestTracker.setUpstream upstreamName upstreamModel)
  | .setRequestProcessing id llmup =>
      self.onTracker id false (RequestTracker.setRequestProcessing llmup)
  | .finishSuccess id status durationMs =>
      self.onTracker id false (RequestTracker.finishWith .success status durationMs)
  | .finishError id status durationMs =>
      self.onTracker id false (RequestTracker.finishWith .error status durationMs)
  | .finishCancelled id durationMs =>
      self.onTracker id false (RequestTracker.finishWith .cancelled 499 durationMs)
  -- a dropped tracker that has not finished counts as cancelled
  | .drop id durationMs =>
      self.onTracker id true (RequestTracker.finishWith .cancelled 499 durationMs)

end Telemetry

/-! ## What the counters are to say -/

/-- A tracker is finished with an outcome and a status. -/
structure Finish where
  id : Nat
  outcome : RequestOutcome
  status : Nat
  deriving DecidableEq, Repr

def TrackerCall.finish : TrackerCall → Option Finish
  | .finishSuccess id status _ => some ⟨id, .success, status⟩
  | .finishError id status _ => some ⟨id, .error, status⟩
  | .finishCancelled id _ => some ⟨id, .cancelled, 499⟩
  | .drop id _ => some ⟨id, .cancelled, 499⟩
  | _ => none

/-- A finish counts when it is the first one of its tracker. -/
def addFinish (done : List Finish) (call : TrackerCall) : List Finish :=
  match call.finish with
  | none => done
  | some finish => if finish.id ∈ done.map Finish.id then done else done ++ [finish]

/-- The finishes that count, in the order in which they came. -/
def finishes (calls : List TrackerCall) : List Finish := calls.foldl addFinish []

/-- The counter of an outcome. -/
def MetricsInner.responses (self : MetricsInner) : RequestOutcome → Nat
  | .success => self.successResponses
  | .error => self.errorResponses
  | .cancelled => self.cancelledResponses

/-- The active requests of an upstream, none if it is not known. -/
def MetricsInner.activeAt (self : MetricsInner) (name : String) : Nat :=
  ((self.perUpstream.lookup name).map UpstreamMetrics.activeRequests).getD 0

namespace OwnedTracker

def unfinished (self : OwnedTracker) : Bool := !self.tracker.finished

/-- Unfinished, and assigned to this upstream now. -/
def unfinishedAt (name : String) (self : OwnedTracker) : Bool :=
  self.unfinished && self.tracker.upstreamName = some name

end OwnedTracker

/-- What is kept of a request agrees with its tracker, and with how that was finished. -/
structure Reports (trackers : List OwnedTracker) (recent : RecentRequest) (finish : Finish) :
    Prop where
  outcome : recent.outcome = finish.outcome
  status : recent.status = finish.status
  tracker : ∃ owned, trackers[finish.id]? = some owned ∧ recent.path = owned.tracker.path ∧
    recent.clientModel = owned.tracker.clientModel ∧ recent.stream = owned.tracker.stream ∧
    recent.upstreamName = owned.tracker.upstreamName ∧
    recent.upstreamModel = owned.tracker.upstreamModel

/-- The tracker `id` has finished. -/
def IsFinished (trackers : List OwnedTracker) (id : Nat) : Prop :=
  ∃ owned, trackers[id]? = some owned ∧ owned.tracker.finished = true

/-- The counters count the trackers, after these calls. -/
structure Conserved (calls : List TrackerCall) (w : Telemetry) : Prop where
  active : w.metrics.activeRequests = w.trackers.countP OwnedTracker.unfinished
  activeStream : w.metrics.activeStreamRequests =
    w.trackers.countP fun owned => owned.unfinished && owned.tracker.stream
  started : w.metrics.totalRequests = w.trackers.length
  total : w.metrics.totalRequests = w.metrics.activeRequests + w.metrics.successResponses +
    w.metrics.errorResponses + w.metrics.cancelledResponses
  upstream : ∀ name, w.metrics.activeAt name = w.trackers.countP (OwnedTracker.unfinishedAt name)
  responses : ∀ outcome, w.metrics.responses outcome =
    (finishes calls).countP fun finish => finish.outcome = outcome
  once : ((finishes calls).map Finish.id).Nodup
  finished : ∀ id, id ∈ (finishes calls).map Finish.id ↔ IsFinished w.trackers id
  recent : List.Forall₂ (Reports w.trackers) w.metrics.recentRequests
    ((finishes calls).reverse.take maxRecentRequests)

/-- A call, with the count of all requests below its maximum. Of the other counters (the requests
that are active, in all and at each upstream, and the responses of each outcome) none is greater than
that one, so none of them saturates. -/
def Telemetry.Step (w : Telemetry) (call : TrackerCall) (w' : Telemetry) : Prop :=
  w.metrics.totalRequests < u64Max ∧ w.step call = some w'

/-- The call gives no finished tracker another upstream. -/
def Telemetry.AssignsUnfinished (w : Telemetry) : TrackerCall → Prop
  | .setUpstream id upstreamName upstreamModel => ∀ owned, w.trackers[id]? = some owned →
      owned.tracker.finished = true → owned.tracker.upstreamName = some upstreamName ∧
        owned.tracker.upstreamModel = some upstreamModel
  | _ => True

/-! ## Counts of trackers -/

/-- Replacing an element moves a count by that element alone. -/
theorem countP_set_add {α : Type} {p : α → Bool} {l : List α} {i : Nat} {a : α} (b : α)
    (h : l[i]? = some a) :
    (l.set i b).countP p + (if p a then 1 else 0) = l.countP p + (if p b then 1 else 0) := by
  obtain ⟨hi, rfl⟩ := List.getElem?_eq_some_iff.mp h
  rw [List.countP_set hi]
  split
  · next hp =>
    have hpos : 0 < l.countP p := List.countP_pos_iff.mpr ⟨l[i], List.getElem_mem hi, hp⟩
    omega
  · omega

theorem countP_pos_of {α : Type} {p : α → Bool} {l : List α} {i : Nat} {a : α}
    (h : l[i]? = some a) (hp : p a = true) : 0 < l.countP p :=
  List.countP_pos_iff.mpr ⟨a, List.mem_of_getElem? h, hp⟩

namespace MetricsInner

variable (m : MetricsInner) (name : Option String) (f : UpstreamMetrics → UpstreamMetrics)

/-- A change of an upstream's entry changes nothing else. -/
theorem updateUpstream_frame :
    m.updateUpstream name f = { m with perUpstream := (m.updateUpstream name f).perUpstream } := by
  unfold updateUpstream
  cases name with
  | none => rfl
  | some name =>
    simp only
    cases m.perUpstream.lookup name with
    | none => rfl
    | some entry => rfl

theorem lookup_updateUpstream (l : String) :
    (m.updateUpstream name f).perUpstream.lookup l =
      if name = some l then (m.perUpstream.lookup l).map f else m.perUpstream.lookup l := by
  unfold updateUpstream
  cases name with
  | none => simp
  | some name =>
    by_cases hl : name = l
    · subst hl
      cases hlookup : m.perUpstream.lookup name with
      | none => simp [hlookup]
      | some entry => simp [hlookup]
    · cases hlookup : m.perUpstream.lookup name with
      | none => simp [hlookup, hl]
      | some entry => simp [hlookup, hl, Ne.symm hl]

/-- A change that takes one off the active requests of an upstream. -/
theorem activeAt_updateUpstream (hf : ∀ e, (f e).activeRequests = e.activeRequests - 1)
    (l : String) :
    (m.updateUpstream name f).activeAt l = m.activeAt l - (if name = some l then 1 else 0) := by
  unfold activeAt
  rw [lookup_updateUpstream]
  split
  · cases m.perUpstream.lookup l with
    | none => rfl
    | some entry => exact hf entry
  · rfl

theorem countOutcome_frame (outcome : RequestOutcome) :
    m.countOutcome outcome = { m with
      successResponses := (m.countOutcome outcome).successResponses
      errorResponses := (m.countOutcome outcome).errorResponses
      cancelledResponses := (m.countOutcome outcome).cancelledResponses } := by
  cases outcome <;> rfl

theorem responses_countOutcome (outcome l : RequestOutcome) :
    (m.countOutcome outcome).responses l =
      if outcome = l then saturatingAdd (m.responses l) 1 else m.responses l := by
  cases outcome <;> cases l <;> rfl

end MetricsInner

theorem UpstreamMetrics.active_countOutcome (e : UpstreamMetrics) (outcome : RequestOutcome) :
    (e.countOutcome outcome).activeRequests = e.activeRequests := by
  cases outcome <;> rfl

/-- A new upstream changes the entries of the upstreams: the request leaves the old one and enters
the new one. -/
theorem setUpstream_spec {t : RequestTracker} {upstreamName upstreamModel : String}
    (m : MetricsInner) (hnew : ¬ (t.upstreamName = some upstreamName ∧
      t.upstreamModel = some upstreamModel)) :
    ∃ perUpstream, t.setUpstream upstreamName upstreamModel m =
        ({ t with upstreamName := some upstreamName, upstreamModel := some upstreamModel },
          { m with perUpstream := perUpstream }) ∧
      ∀ l, ({ m with perUpstream := perUpstream } : MetricsInner).activeAt l =
        if l = upstreamName then
          saturatingAdd (m.activeAt l - (if t.upstreamName = some l then 1 else 0)) 1
        else m.activeAt l - (if t.upstreamName = some l then 1 else 0) := by
  have hleft := m.activeAt_updateUpstream t.upstreamName UpstreamMetrics.leave fun _ => rfl
  unfold RequestTracker.setUpstream
  rw [if_neg hnew, MetricsInner.updateUpstream_frame m t.upstreamName UpstreamMetrics.leave]
  refine ⟨_, rfl, ?_⟩
  intro l
  rw [← hleft l]
  simp only [MetricsInner.activeAt, SortedMap.lookup_insert]
  by_cases hl : l = upstreamName
  · subst hl
    rw [if_pos rfl, if_pos rfl]
    cases (m.updateUpstream t.upstreamName UpstreamMetrics.leave).perUpstream.lookup l with
    | none => rfl
    | some entry => rfl
  · rw [if_neg hl, if_neg hl]

/-- What the first finish of a tracker does. -/
structure Finished (m : MetricsInner) (t : RequestTracker) (outcome : RequestOutcome)
    (status durationMs : Nat) (m' : MetricsInner) : Prop where
  active : m'.activeRequests = m.activeRequests - 1
  activeStream : m'.activeStreamRequests =
    if t.stream then m.activeStreamRequests - 1 else m.activeStreamRequests
  total : m'.totalRequests = m.totalRequests
  responses : ∀ l, m'.responses l =
    if outcome = l then saturatingAdd (m.responses l) 1 else m.responses l
  upstream : ∀ l, m'.activeAt l = m.activeAt l - (if t.upstreamName = some l then 1 else 0)
  recent : m'.recentRequests =
    (t.record outcome status durationMs :: m.recentRequests).take maxRecentRequests

theorem finishWith_spec {t : RequestTracker} (h : t.finished = false) (outcome : RequestOutcome)
    (status durationMs : Nat) (m : MetricsInner) :
    ∃ m', t.finishWith outcome status durationMs m = ({ t with finished := true }, m') ∧
      Finished m t outcome status durationMs m' := by
  unfold RequestTracker.finishWith
  rw [if_neg (by simp [h])]
  refine ⟨_, rfl, ?_⟩
  generalize hleft : ({ m with
    activeRequests := m.activeRequests - 1
    activeStreamRequests := if t.stream then m.activeStreamRequests - 1
      else m.activeStreamRequests } : MetricsInner) = left
  have hframe := (left.countOutcome outcome).updateUpstream_frame t.upstreamName
    fun entry => entry.leave.countOutcome outcome
  have hcount := left.countOutcome_frame outcome
  have hupstream := (left.countOutcome outcome).activeAt_updateUpstream t.upstreamName
    (fun entry => entry.leave.countOutcome outcome)
    fun entry => UpstreamMetrics.active_countOutcome entry.leave outcome
  constructor
  · show MetricsInner.activeRequests _ = _
    rw [hframe, hcount, ← hleft]
  · show MetricsInner.activeStreamRequests _ = _
    rw [hframe, hcount, ← hleft]
  · show MetricsInner.totalRequests _ = _
    rw [hframe, hcount, ← hleft]
  · intro l
    have hresponses := left.responses_countOutcome outcome l
    rw [hframe]
    have hm : left.responses l = m.responses l := by
      rw [← hleft]
      cases l <;> rfl
    rw [← hm, ← hresponses]
    cases l <;> rfl
  · intro l
    have hm : (left.countOutcome outcome).activeAt l = m.activeAt l := by
      rw [hcount, ← hleft]
      rfl
    rw [← hm]
    exact hupstream l
  · show (_ :: MetricsInner.recentRequests _).take _ = _
    rw [hframe, hcount, ← hleft]

/-! ## The finishes so far -/

theorem finishes_snoc (calls : List TrackerCall) (call : TrackerCall) :
    finishes (calls ++ [call]) = addFinish (finishes calls) call := by
  simp [finishes, List.foldl_append]

theorem finishes_of_none {calls : List TrackerCall} {call : TrackerCall}
    (h : call.finish = none) : finishes (calls ++ [call]) = finishes calls := by
  rw [finishes_snoc]
  unfold addFinish
  rw [h]

theorem finishes_of_some {calls : List TrackerCall} {call : TrackerCall} {finish : Finish}
    (h : call.finish = some finish) :
    finishes (calls ++ [call]) = if finish.id ∈ (finishes calls).map Finish.id then finishes calls
      else finishes calls ++ [finish] := by
  rw [finishes_snoc]
  unfold addFinish
  rw [h]

end LlmUniversalProxy.Server
