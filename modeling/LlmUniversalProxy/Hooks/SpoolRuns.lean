import LlmUniversalProxy.Hooks.Spool

/-!
# `Hooks.SpoolRuns` — what a spool accepts, drops and gives back

Whatever the order of the steps, the sink accounts for every event, and the lines that it handed
over are in the buffer, in the queue, or lost to an error that is kept. So a complete artifact is
read back whole. The one thing that nobody keeps is the outcome of the last flush: when that fails,
the file has only the front of the events, and they pass for all of them.
-/

set_option autoImplicit false

namespace LlmUniversalProxy.Hooks

open Json Lib Streaming

/-! ## The history of a run -/

def SpoolAction.isEvent : SpoolAction → Bool
  | .event _ _ => true
  | _ => false

theorem observedEvents_snoc_event (actions : List SpoolAction) (event : Value) (handedOver : Bool) :
    observedEvents (actions ++ [.event event handedOver]) = observedEvents actions ++ [event] := by
  simp [observedEvents]

theorem handedEvents_snoc_handed (actions : List SpoolAction) (event : Value) :
    handedEvents (actions ++ [.event event true]) = handedEvents actions ++ [event] := by
  simp [handedEvents]

theorem handedEvents_snoc_dropped (actions : List SpoolAction) (event : Value) :
    handedEvents (actions ++ [.event event false]) = handedEvents actions := by
  simp [handedEvents]

theorem observedEvents_snoc {action : SpoolAction} (h : action.isEvent = false)
    (actions : List SpoolAction) :
    observedEvents (actions ++ [action]) = observedEvents actions := by
  cases action with
  | event => cases h
  | _ => simp [observedEvents]

theorem handedEvents_snoc {action : SpoolAction} (h : action.isEvent = false)
    (actions : List SpoolAction) : handedEvents (actions ++ [action]) = handedEvents actions := by
  cases action with
  | event => cases h
  | _ => simp [handedEvents]

/-! ## The sink -/

/-- What `on_event` can do: it hands the line over, or it gives up on the event. -/
theorem EventSpoolSink.onEvent_cases {sink sink' : EventSpoolSink} {trySend : SendOutcome}
    {event : Value} {line : Option (List UInt8)}
    (h : sink.onEvent trySend event = .ok (sink', line)) :
    (sink.overflowReason = none ∧ sink.sender = true ∧
      saturatingAdd sink.capturedBytes (spoolLine event).length ≤ sink.budgetBytes ∧
      line = some (spoolLine event) ∧ sink' = { sink with
        capturedBytes := saturatingAdd sink.capturedBytes (spoolLine event).length }) ∨
    (line = none ∧ ∃ reason sender, (sender = true → sink.overflowReason.isSome ∧ sink.sender) ∧
      sink' = { sink with
        overflowReason := some reason, sender
        droppedEventCount := saturatingAdd sink.droppedEventCount 1 }) := by
  have hmark {reason : String} (hnone : sink.overflowReason = none) :
      sink.markOverflow reason = { sink with
        overflowReason := some reason, sender := false
        droppedEventCount := saturatingAdd sink.droppedEventCount 1 } := by
    unfold markOverflow
    simp [hnone]
  unfold onEvent at h
  cases hover : sink.overflowReason with
  | some reason =>
    rw [hover, if_pos Option.isSome_some, Except.ok.injEq, Prod.mk.injEq] at h
    exact .inr ⟨h.2.symm, reason, sink.sender, fun hsender => ⟨rfl, hsender⟩, h.1.symm⟩
  | none =>
    rw [hover, if_neg (by simp)] at h
    have hgave {reason : String} (h : (.ok (sink.markOverflow reason, none) :
        Except String (EventSpoolSink × Option (List UInt8))) = .ok (sink', line)) :
        line = none ∧ ∃ reason sender,
          (sender = true → (none : Option String).isSome ∧ sink.sender) ∧ sink' = { sink with
            overflowReason := some reason, sender
            droppedEventCount := saturatingAdd sink.droppedEventCount 1 } := by
      rw [hmark hover, Except.ok.injEq, Prod.mk.injEq] at h
      exact ⟨h.2.symm, reason, false, nofun, h.1.symm⟩
    dsimp only at h
    by_cases hbudget : sink.budgetBytes < saturatingAdd sink.capturedBytes (spoolLine event).length
    · rw [if_pos hbudget] at h
      exact .inr (hgave h)
    rw [if_neg hbudget] at h
    cases hsender : sink.sender with
    | false =>
      rw [hsender] at h
      cases h
    | true =>
      rw [hsender, if_neg (by decide)] at h
      cases trySend with
      | sent =>
        rw [Except.ok.injEq, Prod.mk.injEq] at h
        obtain ⟨rfl, rfl⟩ := h
        exact .inl ⟨rfl, rfl, Nat.le_of_not_lt hbudget, rfl, rfl⟩
      | full => exact .inr (hsender ▸ hgave h)
      | disconnected => exact .inr (hsender ▸ hgave h)

/-- What a sink of a budget knows of the events so far. -/
structure SinkAccounts (format : UpstreamFormat) (budgetBytes : Nat) (actions : List SpoolAction)
    (sink : EventSpoolSink) : Prop where
  format : sink.format = format
  budget : sink.budgetBytes = budgetBytes
  captured : sink.capturedBytes = acceptedBytes actions
  within : acceptedBytes actions ≤ budgetBytes
  dropped : (observedEvents actions).length ≤ u64Max →
    sink.droppedEventCount + (handedEvents actions).length = (observedEvents actions).length
  whole : sink.overflowReason = none → handedEvents actions = observedEvents actions
  opened : sink.sender = sink.overflowReason.isNone

namespace SinkAccounts

variable {format : UpstreamFormat} {budgetBytes : Nat} {actions : List SpoolAction}
  {sink sink' : EventSpoolSink}

theorem new (format : UpstreamFormat) (budgetBytes : Nat) :
    SinkAccounts format budgetBytes [] { format, budgetBytes } :=
  ⟨rfl, rfl, rfl, Nat.zero_le _, fun _ => rfl, fun _ => rfl, rfl⟩

/-- Steps that are no events do not change the accounts. -/
theorem snoc (hsink : SinkAccounts format budgetBytes actions sink) {action : SpoolAction}
    (h : action.isEvent = false) : SinkAccounts format budgetBytes (actions ++ [action]) sink := by
  obtain ⟨hformat, hbudget, hcaptured, hwithin, hdropped, hwhole, hopened⟩ := hsink
  have hobserved := observedEvents_snoc h actions
  have hhanded := handedEvents_snoc h actions
  have haccepted : acceptedBytes (actions ++ [action]) = acceptedBytes actions := by
    unfold acceptedBytes
    rw [hhanded]
  exact ⟨hformat, hbudget, haccepted ▸ hcaptured, haccepted ▸ hwithin,
    by rwa [hobserved, hhanded], by rwa [hobserved, hhanded], hopened⟩

/-- A line that is handed over still is within the budget. -/
theorem handed (hsink : SinkAccounts format budgetBytes actions sink) (hmax : budgetBytes < u64Max)
    {event : Value} (hover : sink.overflowReason = none)
    (hfits : saturatingAdd sink.capturedBytes (spoolLine event).length ≤ sink.budgetBytes) :
    SinkAccounts format budgetBytes (actions ++ [.event event true]) { sink with
      capturedBytes := saturatingAdd sink.capturedBytes (spoolLine event).length } := by
  have haccepted : acceptedBytes (actions ++ [.event event true]) =
      acceptedBytes actions + (spoolLine event).length := by
    unfold acceptedBytes
    rw [handedEvents_snoc_handed, List.flatMap_append, List.length_append, List.flatMap_singleton]
  -- the saturated sum is below the maximum, so it is the sum
  have hsum : saturatingAdd sink.capturedBytes (spoolLine event).length =
      acceptedBytes actions + (spoolLine event).length := by
    rw [hsink.budget, hsink.captured] at hfits
    rw [hsink.captured]
    unfold saturatingAdd at *
    omega
  refine ⟨hsink.format, hsink.budget, ?_, ?_, ?_, ?_, hsink.opened⟩
  · rw [haccepted, ← hsum]
  · rw [haccepted, ← hsum, ← hsink.budget]
    exact hfits
  · intro hcount
    rw [observedEvents_snoc_event, List.length_append] at hcount ⊢
    have hdropped := hsink.dropped (Nat.le_trans (Nat.le_add_right _ _) hcount)
    rw [handedEvents_snoc_handed, List.length_append, ← hdropped, Nat.add_assoc]
  · intro _
    rw [handedEvents_snoc_handed, observedEvents_snoc_event, hsink.whole hover]

/-- An event that the sink gives up on is counted. -/
theorem gaveUp (hsink : SinkAccounts format budgetBytes actions sink) {event : Value}
    {reason : String} :
    SinkAccounts format budgetBytes (actions ++ [.event event false]) { sink with
      overflowReason := some reason, sender := false
      droppedEventCount := saturatingAdd sink.droppedEventCount 1 } := by
  have haccepted : acceptedBytes (actions ++ [.event event false]) = acceptedBytes actions := by
    unfold acceptedBytes
    rw [handedEvents_snoc_dropped]
  refine ⟨hsink.format, hsink.budget, ?_, ?_, ?_, ?_, rfl⟩
  · rw [haccepted, hsink.captured]
  · rw [haccepted]
    exact hsink.within
  · intro hcount
    rw [observedEvents_snoc_event, List.length_append, List.length_singleton] at hcount ⊢
    have hdropped := hsink.dropped (Nat.le_trans (Nat.le_add_right _ _) hcount)
    have hone : saturatingAdd sink.droppedEventCount 1 = sink.droppedEventCount + 1 :=
      saturatingAdd_of_le (by omega)
    rw [handedEvents_snoc_dropped]
    dsimp only
    omega
  · intro hnone
    cases hnone

/-- **An event is accounted for**: it is handed over with a sender that is there, or the sender is
closed with it. -/
theorem onEvent (hsink : SinkAccounts format budgetBytes actions sink) (hmax : budgetBytes < u64Max)
    {trySend : SendOutcome} {event : Value} {line : Option (List UInt8)}
    (h : sink.onEvent trySend event = .ok (sink', line)) :
    SinkAccounts format budgetBytes (actions ++ [.event event line.isSome]) sink' ∧
      (line = some (spoolLine event) ∧ sink.sender = true ∨ line = none ∧ sink'.sender = false) := by
  rcases sink.onEvent_cases h with ⟨hover, hsender, hfits, rfl, rfl⟩ | ⟨rfl, reason, sender, hopen, rfl⟩
  · exact ⟨hsink.handed hmax hover hfits, .inl ⟨rfl, hsender⟩⟩
  · -- a sink that has given up before has no sender any more
    have hclosed : sender = false := by
      refine Bool.eq_false_iff.mpr fun hsender => ?_
      obtain ⟨hover, hsender⟩ := hopen hsender
      rw [hsink.opened, Option.isNone_iff_eq_none] at hsender
      rw [hsender] at hover
      cases hover
    subst hclosed
    exact ⟨hsink.gaveUp, .inr ⟨rfl, rfl⟩⟩

end SinkAccounts

/-! ## The writer -/

/-- Where the bytes are that were handed over, as long as there is no error: in the buffer and in
the queue. The thread leaves only when it cannot be sent to any more, and a flush that does not fail
brings the buffer to the file. -/
structure WriterHolds (actions : List SpoolAction) (sender : Bool) (writer : SpoolWriter) : Prop where
  bytes : writer.written ++ writer.queue.flatten = (handedEvents actions).flatMap spoolLine
  left : writer.thread ≠ .receiving → sender = false ∧ writer.queue = []
  file : writer.thread = .gone → (∀ kept, .flushError kept ∉ actions) → writer.file = writer.written

/-- The invariant of a spool. -/
structure Spool.Inv (format : UpstreamFormat) (budgetBytes : Nat) (actions : List SpoolAction)
    (s : Spool) : Prop where
  sink : match s.capture with
    | .sink sink => SinkAccounts format budgetBytes actions sink
    | .artifact artifact => ∃ sink, SinkAccounts format budgetBytes actions sink ∧
        artifact.format = sink.format ∧ artifact.state = sink.finish.state
  writer : s.writer.error = none → WriterHolds actions s.capture.sender s.writer

namespace WriterHolds

variable {actions : List SpoolAction} {sender : Bool} {writer : SpoolWriter}

theorem snoc (hwriter : WriterHolds actions sender writer) {action : SpoolAction} {sender' : Bool}
    (h : action.isEvent = false) (hsender : sender' = true → sender = true) :
    WriterHolds (actions ++ [action]) sender' writer := by
  refine ⟨?_, ?_, ?_⟩
  · rw [handedEvents_snoc h, hwriter.bytes]
  · intro hthread
    obtain ⟨hclosed, hqueue⟩ := hwriter.left hthread
    refine ⟨Bool.eq_false_iff.mpr fun hopen => ?_, hqueue⟩
    rw [hsender hopen] at hclosed
    cases hclosed
  · intro hthread hflush
    exact hwriter.file hthread fun kept hmem =>
      hflush kept (List.mem_append_left _ hmem)

/-- A line that is handed over is in the queue. -/
theorem push (hwriter : WriterHolds actions true writer) (event : Value) :
    WriterHolds (actions ++ [.event event true]) true (writer.push (some (spoolLine event))) := by
  have hthread : writer.thread = .receiving := by
    by_contra hthread
    cases (hwriter.left hthread).1
  refine ⟨?_, fun hnot => absurd hthread hnot, fun hgone => ?_⟩
  · rw [handedEvents_snoc_handed, List.flatMap_append, ← hwriter.bytes]
    simp [SpoolWriter.push]
  · have hgone : writer.thread = .gone := hgone
    rw [hthread] at hgone
    cases hgone

theorem dropped (hwriter : WriterHolds actions sender writer) (event : Value) :
    WriterHolds (actions ++ [.event event false]) false (writer.push none) := by
  have hpush : writer.push none = writer := by simp [SpoolWriter.push]
  rw [hpush]
  refine ⟨?_, fun hthread => ⟨rfl, (hwriter.left hthread).2⟩, fun hthread hflush => ?_⟩
  · rw [handedEvents_snoc_dropped, hwriter.bytes]
  · exact hwriter.file hthread fun kept hmem => hflush kept (List.mem_append_left _ hmem)

end WriterHolds

namespace Spool

variable {format : UpstreamFormat} {budgetBytes queueCapacity : Nat} {actions : List SpoolAction}
  {s t : Spool}

theorem Inv.new (format : UpstreamFormat) (budgetBytes : Nat) :
    (new format budgetBytes).Inv format budgetBytes [] where
  sink := .new format budgetBytes
  writer _ := ⟨rfl, fun h => absurd rfl h, fun _ _ => rfl⟩

theorem Inv.sink_snoc (hinv : s.Inv format budgetBytes actions) {action : SpoolAction}
    (h : action.isEvent = false) :
    match s.capture with
    | .sink sink => SinkAccounts format budgetBytes (actions ++ [action]) sink
    | .artifact artifact => ∃ sink, SinkAccounts format budgetBytes (actions ++ [action]) sink ∧
        artifact.format = sink.format ∧ artifact.state = sink.finish.state := by
  have hsink := hinv.sink
  revert hsink
  cases s.capture with
  | sink sink => exact fun hsink => hsink.snoc h
  | artifact artifact =>
    rintro ⟨sink, hsink, hartifact⟩
    exact ⟨sink, hsink.snoc h, hartifact⟩

theorem Inv.event (hmax : budgetBytes < u64Max) (hinv : s.Inv format budgetBytes actions)
    {event : Value} {handedOver : Bool} (h : s.observe queueCapacity event handedOver = some t) :
    t.Inv format budgetBytes (actions ++ [.event event handedOver]) := by
  obtain ⟨capture, writer⟩ := s
  unfold observe at h
  cases capture with
  | artifact => cases h
  | sink sink =>
    dsimp only at h
    cases hresult : sink.onEvent (writer.trySend queueCapacity) event with
    | error message =>
      rw [hresult] at h
      cases h
    | ok result =>
      obtain ⟨sink', line⟩ := result
      have hsink : SinkAccounts format budgetBytes actions sink := hinv.sink
      obtain ⟨haccounts, hline⟩ := hsink.onEvent hmax hresult
      rw [hresult] at h
      dsimp only at h
      split at h
      · next hhanded =>
        subst hhanded
        obtain rfl := Option.some.inj h
        refine ⟨haccounts, fun herror => ?_⟩
        have hwriter : WriterHolds actions sink.sender writer := hinv.writer herror
        rcases hline with ⟨rfl, hsender⟩ | ⟨rfl, hsender⟩
        · have hsender' : sink'.sender = true := by
            rcases sink.onEvent_cases hresult with ⟨-, -, -, -, rfl⟩ | ⟨hnone, -⟩
            · exact hsender
            · cases hnone
          rw [hsender] at hwriter
          show WriterHolds _ sink'.sender _
          rw [hsender']
          exact hwriter.push event
        · show WriterHolds _ sink'.sender _
          rw [hsender]
          exact hwriter.dropped event
      · cases h

theorem Inv.finish (hinv : s.Inv format budgetBytes actions)
    (h : s.next queueCapacity .finish = some t) :
    t.Inv format budgetBytes (actions ++ [.finish]) := by
  obtain ⟨capture, writer⟩ := s
  cases capture with
  | artifact => cases h
  | sink sink =>
    obtain rfl := Option.some.inj h
    refine ⟨⟨sink, hinv.sink_snoc (s := ⟨.sink sink, writer⟩) rfl, rfl, rfl⟩, fun herror => ?_⟩
    exact (hinv.writer herror).snoc rfl id

theorem Inv.closeSender (hinv : s.Inv format budgetBytes actions)
    (h : s.next queueCapacity .closeSender = some t) :
    t.Inv format budgetBytes (actions ++ [.closeSender]) := by
  obtain ⟨capture, writer⟩ := s
  cases capture with
  | sink => cases h
  | artifact artifact =>
    obtain rfl := Option.some.inj h
    have hclosing : SpoolAction.closeSender.isEvent = false := rfl
    obtain ⟨sink, hsink⟩ := hinv.sink_snoc (s := ⟨.artifact artifact, writer⟩) hclosing
    refine ⟨⟨sink, hsink⟩, fun herror => ?_⟩
    exact (hinv.writer herror).snoc rfl nofun

/-- A line that is taken off the queue, written or not. -/
theorem Inv.receiving (hinv : s.Inv format budgetBytes actions) {action : SpoolAction}
    (haction : action.isEvent = false) {write : SpoolWriter → List UInt8 → SpoolWriter}
    (h : s.receiving write = some t)
    (hwrite : ∀ {writer : SpoolWriter} {line : List UInt8}, (write writer line).error = none →
      writer.error = none ∧ write writer line = { writer with written := writer.written ++ line }) :
    t.Inv format budgetBytes (actions ++ [action]) := by
  obtain ⟨capture, writer⟩ := s
  unfold Spool.receiving at h
  dsimp only at h
  split at h
  · next line rest hthread hqueue =>
    obtain rfl := Option.some.inj h
    refine ⟨hinv.sink_snoc haction, fun herror => ?_⟩
    obtain ⟨herror, hwritten⟩ := hwrite herror
    have hwriter := (hinv.writer herror).snoc haction id
    show WriterHolds _ capture.sender (write { writer with queue := rest } line)
    rw [hwritten]
    refine ⟨?_, fun hnot => absurd hthread hnot, fun hgone => ?_⟩
    · rw [← hwriter.bytes, hqueue, List.flatten_cons, List.append_assoc]
    · have hgone : writer.thread = .gone := hgone
      rw [hthread] at hgone
      cases hgone
  · cases h

theorem Inv.hangUp (hinv : s.Inv format budgetBytes actions)
    (h : s.next queueCapacity .hangUp = some t) :
    t.Inv format budgetBytes (actions ++ [.hangUp]) := by
  unfold next at h
  dsimp only at h
  split at h
  · next hleft =>
    obtain ⟨hthread, hqueue, hsender⟩ := hleft
    obtain rfl := Option.some.inj h
    refine ⟨hinv.sink_snoc rfl, fun herror => ?_⟩
    have hhanging : SpoolAction.hangUp.isEvent = false := rfl
    have hwriter := (hinv.writer herror).snoc hhanging id
    exact ⟨hwriter.bytes, fun _ => ⟨hsender, hqueue⟩, nofun⟩
  · cases h

/-- The end of the thread: with the whole buffer in the file, unless the flush has failed. -/
theorem Inv.flushing (hinv : s.Inv format budgetBytes actions) {action : SpoolAction}
    (haction : action.isEvent = false) {file : List UInt8}
    (hfile : (∀ kept, .flushError kept ∉ actions ++ [action]) → file = s.writer.written)
    (h : s.flushing file = some t) : t.Inv format budgetBytes (actions ++ [action]) := by
  unfold Spool.flushing at h
  split at h
  · next hthread =>
    obtain rfl := Option.some.inj h
    refine ⟨hinv.sink_snoc haction, fun herror => ?_⟩
    have hwriter := (hinv.writer herror).snoc haction id
    refine ⟨hwriter.bytes, fun _ => hwriter.left ?_, fun _ hflush => hfile hflush⟩
    rw [hthread]
    decide
  · cases h

/-- **Every step keeps the invariant.** -/
theorem Inv.step (hmax : budgetBytes < u64Max) (hinv : s.Inv format budgetBytes actions)
    {action : SpoolAction} (h : SpoolStep queueCapacity s action t) :
    t.Inv format budgetBytes (actions ++ [action]) := by
  cases action with
  | event event handedOver => exact hinv.event hmax h
  | finish => exact hinv.finish h
  | closeSender => exact hinv.closeSender h
  | receive =>
    have h : s.receiving .write = some t := h
    exact hinv.receiving rfl h fun herror => ⟨herror, rfl⟩
  | writeError message part =>
    have h : s.receiving (.writeError message part) = some t := h
    exact hinv.receiving rfl h nofun
  | hangUp => exact hinv.hangUp h
  | flush => exact hinv.flushing rfl (fun _ => rfl) h
  | flushError kept =>
    refine hinv.flushing rfl (fun hflush => ?_) h
    exact absurd (List.mem_append_right _ List.mem_cons_self) (hflush kept)

theorem inv_of_run (hmax : budgetBytes < u64Max)
    (hrun : Run (SpoolStep queueCapacity) (new format budgetBytes) actions s) :
    s.Inv format budgetBytes actions :=
  hrun.invariant_history (I := fun actions s => s.Inv format budgetBytes actions) (.new format budgetBytes)
    fun hinv hstep => hinv.step hmax hstep

end Spool

/-! ## Reading it back -/

theorem readSpoolLine_event {serde : Serde} {event : Value} (h : ReadsBack serde event) :
    readSpoolLine serde (bytesOf event.toJson) = .ok (some event) := by
  unfold readSpoolLine
  rw [Lines.fromUtf8_bytesOf]
  dsimp only
  rw [notBlank_of_fromStr h.readBack, if_neg (by decide), h.readBack]

theorem replayLines_events {serde : Serde} {events : List Value}
    (h : ∀ event ∈ events, ReadsBack serde event) (accumulator : ClientSseAccumulator) :
    replayLines serde accumulator (events.map fun event => bytesOf event.toJson) =
      (accumulator.run serde events true).map .ok := by
  induction events generalizing accumulator with
  | nil => rfl
  | cons event events ih =>
    have hrest := ih fun other hother => h other (List.mem_cons_of_mem _ hother)
    have hrun : accumulator.run serde (event :: events) true =
        (accumulator.onEvent serde event true).bind (·.run serde events true) := rfl
    rw [List.map_cons, replayLines, readSpoolLine_event (h event List.mem_cons_self), hrun]
    dsimp only
    cases accumulator.onEvent serde event true with
    | none => rfl
    | some next => exact hrest next

theorem readLines_spool {serde : Serde} {events : List Value}
    (h : ∀ event ∈ events, ReadsBack serde event) :
    Lines.readLines (events.flatMap spoolLine) = events.map fun event => bytesOf event.toJson := by
  have hlines : events.flatMap spoolLine =
      (events.map fun event => bytesOf event.toJson).flatMap Lines.writeLine := by
    rw [List.flatMap_map]
    rfl
  rw [hlines]
  refine Lines.readLines_writeLine fun line hline => ?_
  obtain ⟨event, hevent, rfl⟩ := List.mem_map.mp hline
  have hjson := isLine_toJson (h event hevent)
  exact ⟨lf_notMem_bytesOf hjson.1, cr_notMem_bytesOf hjson.2⟩

/-! ## All or nothing -/

namespace Spool

/-- A body that is replayed is marked as truncated, or it is put together from all events. -/
def WholeOrMarked (env : Env) (format : UpstreamFormat) (actions : List SpoolAction) (s : Spool) :
    Prop :=
  ∀ unreadable body, s.replayed env unreadable = some (.ok body) →
    body.get "capture_truncated" = some (.bool true) ∨
      ∃ accumulator, (ClientSseAccumulator.new format).run env.serde (observedEvents actions) true =
          some accumulator ∧ body = accumulator.finalResponseBody env

variable {format : UpstreamFormat} {budgetBytes : Nat} {actions : List SpoolAction} {s : Spool}

/-- The accounts of the sink that a spool has, or had. -/
theorem Inv.accounts (hinv : s.Inv format budgetBytes actions) :
    ∃ sink, SinkAccounts format budgetBytes actions sink := by
  have hsink := hinv.sink
  revert hsink
  cases s.capture with
  | sink sink => exact fun hsink => ⟨sink, hsink⟩
  | artifact artifact => exact fun ⟨sink, hsink, _⟩ => ⟨sink, hsink⟩

/-- An artifact, with the sink that it was made from: it is whole, or it has the counts. -/
theorem finish_state (sink : EventSpoolSink) :
    (sink.overflowReason = none ∧ sink.finish.state = .complete) ∨
      ∃ reason, sink.overflowReason = some reason ∧ sink.finish.state =
        .truncated reason sink.budgetBytes sink.capturedBytes sink.droppedEventCount := by
  unfold EventSpoolSink.finish
  cases sink.overflowReason with
  | none => exact .inl ⟨rfl, rfl⟩
  | some reason => exact .inr ⟨reason, rfl, rfl⟩

theorem Inv.dropped (hinv : s.Inv format budgetBytes actions)
    (hcount : (observedEvents actions).length ≤ u64Max) :
    s.droppedEventCount + (handedEvents actions).length = (observedEvents actions).length := by
  obtain ⟨capture, writer⟩ := s
  cases capture with
  | sink sink =>
    have hsink : SinkAccounts format budgetBytes actions sink := hinv.sink
    exact hsink.dropped hcount
  | artifact artifact =>
    obtain ⟨sink, hsink, -, hstate⟩ := hinv.sink
    unfold droppedEventCount
    dsimp only
    rw [hstate]
    rcases finish_state sink with ⟨hnone, hstate⟩ | ⟨reason, -, hstate⟩
    · rw [hstate, hsink.whole hnone]
      exact Nat.zero_add _
    · rw [hstate]
      exact hsink.dropped hcount

theorem Inv.wholeOrMarked {env : Env} (hinv : s.Inv format budgetBytes actions)
    (hserde : ∀ event ∈ observedEvents actions, ReadsBack env.serde event)
    (hflush : ∀ kept, .flushError kept ∉ actions) : s.WholeOrMarked env format actions := by
  intro unreadable body hbody
  obtain ⟨capture, writer⟩ := s
  unfold replayed at hbody
  cases capture with
  | sink sink => cases hbody
  | artifact artifact =>
    obtain ⟨sink, hsink, hformat, hstate⟩ := hinv.sink
    dsimp only at hbody
    split at hbody
    · next hgone =>
      unfold EventSpoolArtifact.replayFinalResponseBody at hbody
      rw [hstate] at hbody
      rcases finish_state sink with ⟨hnone, hstate⟩ | ⟨reason, -, hstate⟩
      · rw [hstate] at hbody
        dsimp only at hbody
        cases herror : writer.error with
        | some message =>
          rw [herror] at hbody
          cases hbody
        | none =>
          -- nothing was dropped, and nothing is left in the buffer
          have hwriter := hinv.writer herror
          have hqueue : writer.queue = [] := (hwriter.left (by rw [hgone]; decide)).2
          have hfile : writer.file = (observedEvents actions).flatMap spoolLine := by
            rw [hwriter.file hgone hflush, ← hsink.whole hnone, ← hwriter.bytes]
            simp [hqueue]
          rw [herror, Option.none_or] at hbody
          cases unreadable with
          | some message => cases hbody
          | none =>
            dsimp only at hbody
            rw [hfile, readLines_spool hserde, replayLines_events hserde, hformat, hsink.format,
              Option.map_map, Option.map_eq_some_iff] at hbody
            obtain ⟨accumulator, hrun, hresult⟩ := hbody
            exact .inr ⟨accumulator, hrun, (Except.ok.inj hresult).symm⟩
      · rw [hstate] at hbody
        dsimp only at hbody
        rw [Option.some.injEq, Except.ok.injEq] at hbody
        subst hbody
        exact .inl (Value.get_ofFields _ _)
    · cases hbody

end Spool

/-- **All or nothing, within the budget.** After every run the accepted bytes are within the budget,
and every event is either handed over or counted as dropped. A body that is replayed is marked, or
it is put together from all of the events, unless the last flush has failed. -/
theorem exchange_capture_all_or_nothing (env : Env) (format : UpstreamFormat)
    (maxPendingBytes queueCapacity : Nat) {actions : List SpoolAction} {s : Spool}
    (hrun : Run (SpoolStep queueCapacity)
      (.new format (exchangeCaptureBudgetBytes maxPendingBytes)) actions s) :
    acceptedBytes actions ≤ exchangeCaptureBudgetBytes maxPendingBytes ∧
      ((observedEvents actions).length ≤ u64Max →
        s.droppedEventCount + (handedEvents actions).length = (observedEvents actions).length) ∧
      ((∀ event ∈ observedEvents actions, ReadsBack env.serde event) →
        (∀ kept, .flushError kept ∉ actions) → s.WholeOrMarked env format actions) := by
  have hmax : exchangeCaptureBudgetBytes maxPendingBytes < u64Max :=
    Nat.lt_of_le_of_lt (Nat.min_le_right _ _) (by decide)
  have hinv := Spool.inv_of_run hmax hrun
  obtain ⟨sink, hsink⟩ := hinv.accounts
  exact ⟨hsink.within, hinv.dropped, hinv.wholeOrMarked⟩

def namedChunk : Value := .object [("id", .string "chat-1")]

theorem readsBack_namedChunk : ReadsBack Env.still.serde namedChunk :=
  ⟨fromStr_singleton _ _ _, by simp [namedChunk, Value.floats, fieldsFloats]⟩

/-- A stream of three events, with a queue of one. The second is still in the queue when the third
comes, and the disk is full when the thread gets to it. -/
def fullQueueRun : List SpoolAction :=
  [.event namedChunk true, .receive, .event namedChunk true, .event namedChunk false,
    .writeError "no space left on device" 3, .finish, .closeSender, .flush]

/-- The third event is counted as dropped, and the body that is replayed says what is missing. -/
theorem full_queue_counted : ∃ s : Spool,
    acceptedBytes fullQueueRun ≤ 1000 ∧
      s.droppedEventCount + 2 = (observedEvents fullQueueRun).length ∧
      s.WholeOrMarked .still .openAiChatCompletions fullQueueRun ∧
      ((s.replayed .still none).bind Except.toOption).any fun body =>
        body.get "dropped_event_count" = some (.nat 1) ∧
          body.get "writer_completed" = some (.bool false) := by
  obtain ⟨s, hs, hbody⟩ : ∃ s, fullQueueRun.foldlM (Spool.next 1)
      (.new .openAiChatCompletions (exchangeCaptureBudgetBytes 1000)) = some s ∧
      ((s.replayed .still none).bind Except.toOption).any fun body =>
        body.get "dropped_event_count" = some (.nat 1) ∧
          body.get "writer_completed" = some (.bool false) := by
    have hany : (fullQueueRun.foldlM (Spool.next 1)
        (.new .openAiChatCompletions (exchangeCaptureBudgetBytes 1000))).any fun s =>
          ((s.replayed .still none).bind Except.toOption).any fun body =>
            body.get "dropped_event_count" = some (.nat 1) ∧
              body.get "writer_completed" = some (.bool false) := by decide +kernel
    cases hs : fullQueueRun.foldlM (Spool.next 1)
        (.new .openAiChatCompletions (exchangeCaptureBudgetBytes 1000)) with
    | none =>
      rw [hs] at hany
      cases hany
    | some s =>
      rw [hs] at hany
      exact ⟨s, rfl, hany⟩
  obtain ⟨hbytes, hcount, hwhole⟩ := exchange_capture_all_or_nothing .still .openAiChatCompletions
    1000 1 (.of_foldlM hs)
  refine ⟨s, hbytes, hcount (by decide), hwhole ?_ ?_, hbody⟩
  · intro event hevent
    have hsame : ∀ event ∈ observedEvents fullQueueRun, event = namedChunk := by decide
    rw [hsame event hevent]
    exact readsBack_namedChunk
  · intro kept hmem
    simp [fullQueueRun] at hmem

/-- A stream of one event, whose last flush has this outcome. -/
def oneEventRun (outcome : SpoolAction) : List SpoolAction :=
  [.event namedChunk true, .finish, .closeSender, .receive, .hangUp, outcome]

/-- **A flush that fails goes unnoticed.** The event was handed over, but the file stays empty: the
replay puts a body together from no event, and does not mark it. -/
theorem failed_flush_unnoticed : ¬ ∀ (env : Env) (format : UpstreamFormat)
    (maxPendingBytes queueCapacity : Nat) (actions : List SpoolAction) (s : Spool),
    (∀ event ∈ observedEvents actions, ReadsBack env.serde event) →
      Run (SpoolStep queueCapacity) (.new format (exchangeCaptureBudgetBytes maxPendingBytes))
        actions s → s.WholeOrMarked env format actions := by
  intro halways
  have hreplay : ((oneEventRun (.flushError 0)).foldlM (Spool.next 64)
      (.new .openAiChatCompletions (exchangeCaptureBudgetBytes 1000))).any fun s =>
        ((s.replayed .still none).bind Except.toOption).any fun body =>
          body.get "capture_truncated" = none ∧ body.get "id" = some .null := by decide +kernel
  have hwhole : ((ClientSseAccumulator.new .openAiChatCompletions).run Env.still.serde
      [namedChunk] true).all fun accumulator =>
        (accumulator.finalResponseBody .still).get "id" = some (.string "chat-1") := by
    decide +kernel
  obtain ⟨s, hs, hreplay⟩ := (Option.any_eq_true _ _).mp hreplay
  obtain ⟨body, hbody, hid⟩ := (Option.any_eq_true _ _).mp hreplay
  obtain ⟨hunmarked, hid⟩ := of_decide_eq_true hid
  obtain ⟨result, hresult, hok⟩ := Option.bind_eq_some_iff.mp hbody
  cases result with
  | error message => cases hok
  | ok body' =>
    obtain rfl := Option.some.inj hok
    have hserde : ∀ event ∈ observedEvents (oneEventRun (.flushError 0)),
        ReadsBack Env.still.serde event := by
      intro event hevent
      obtain rfl := List.mem_singleton.mp hevent
      exact readsBack_namedChunk
    rcases halways .still .openAiChatCompletions 1000 64 _ s hserde (.of_foldlM hs) none _ hresult with
      hmarked | ⟨accumulator, hrun, rfl⟩
    · rw [hunmarked] at hmarked
      cases hmarked
    · have hrun : (ClientSseAccumulator.new .openAiChatCompletions).run Env.still.serde
          [namedChunk] true = some accumulator := hrun
      rw [hrun, Option.all_some] at hwhole
      rw [of_decide_eq_true hwhole] at hid
      cases hid

end LlmUniversalProxy.Hooks
