import LlmUniversalProxy.Lib.Framing
import LlmUniversalProxy.Streaming.ChunkReader
import LlmUniversalProxy.Streaming.Wire

/-!
# `Server.SecretRedaction` — secrets are taken out of a stream, frame by frame

The redacting stream stands between the translated stream and the client. It reads frames off its
chunks with a search of its own: `\r\n\r\n` anywhere in the buffer comes before `\n\n`. The
search of the translator takes the first blank line of either kind.
`redaction_frames_agree_iff` says for which chunks the two come to the same.

The source is `server/secret_redaction.rs` 14-344. The comment over the search of the translator
says that it has replaced the older one (`streaming/wire.rs` 28-41), of which this is the copy that
is left.
-/

set_option autoImplicit false

namespace LlmUniversalProxy.Server

open Json Lib Streaming

/-! ## The redactor -/

/-- `REDACTED_SECRET`. -/
def redactedSecret : String := "[REDACTED]"

/-- `SecretRedactor`. -/
structure SecretRedactor where
  secrets : List String := []

namespace SecretRedactor

/-- `SecretRedactor::redact_text`. -/
def redactText (self : SecretRedactor) (value : String) : String :=
  self.secrets.foldl (fun redacted secret =>
    if Text.contains redacted secret then Text.replace redacted secret redactedSecret
    else redacted) value

mutual

/-- `SecretRedactor::redact_value`. -/
def redactValue (self : SecretRedactor) : Value → Value
  | .string value => .string (self.redactText value)
  | .array items => .array (self.redactItems items)
  | .object fields => .object (self.redactFields [] fields)
  | value => value

def redactItems (self : SecretRedactor) : List Value → List Value
  | [] => []
  | value :: items => self.redactValue value :: self.redactItems items

/-- The fields are collected in their order: of two keys that come to the same, the later wins. -/
def redactFields (self : SecretRedactor) (collected : List (String × Value)) :
    List (String × Value) → List (String × Value)
  | [] => collected
  | (key, value) :: fields =>
      self.redactFields (insertSorted (self.redactText key) (self.redactValue value) collected)
        fields

end

end SecretRedactor

/-! ## A frame -/

/-- `SseLine`. -/
structure SseLine where
  content : String
  ending : String

def splitSseLinesFrom : List Char → List Char → List SseLine
  | line, [] => if line.isEmpty then [] else [⟨String.ofList line.reverse, ""⟩]
  | line, '\n' :: rest =>
      (match line with
        | '\r' :: line => ⟨String.ofList line.reverse, "\r\n"⟩
        | line => ⟨String.ofList line.reverse, "\n"⟩) :: splitSseLinesFrom [] rest
  | line, c :: rest => splitSseLinesFrom (c :: line) rest

/-- `split_sse_lines`. -/
def splitSseLines (text : List Char) : List SseLine := splitSseLinesFrom [] text

/-- `SseField`. -/
inductive SseField where
  | comment (value : String)
  | field (name value : String)
  | fieldNameOnly

/-- `split_sse_field` (`secret_redaction.rs` 282-293). -/
def splitSseField (line : String) : SseField :=
  match Text.stripPrefix line ":" with
  | some value => .comment value
  | none =>
      match Text.splitOnce line ':' with
      | some (name, value) => .field name value
      | none => .fieldNameOnly

/-- The value of a `data` line. -/
def sseDataOf (line : SseLine) : Option String :=
  match splitSseField line.content with
  | .field name value =>
      if name = "data" then some ((Text.stripPrefix value " ").getD value) else none
  | _ => none

/-- `redacted_sse_json_data` (`secret_redaction.rs` 295-320). -/
def redactedSseJsonData (serde : Serde) (redactor : SecretRedactor) (lines : List SseLine) :
    Option String :=
  let dataLines := lines.filterMap sseDataOf
  if dataLines.isEmpty then none
  else
    let data := "\n".intercalate dataLines
    if data = "[DONE]" ∨ Text.isBlank data then none
    else
      (fromStr serde data).bind fun event =>
        let redacted := redactor.redactValue event
        if redacted = event then none else some redacted.toJson

/-- One line of `redact_sse_frame`: what has been written, and whether the data is part of it. -/
def redactSseLine (redactor : SecretRedactor) (json : Option String) (p : String × Bool)
    (line : SseLine) : String × Bool :=
  match splitSseField line.content with
  | .comment value => (p.1 ++ ":" ++ redactor.redactText value ++ line.ending, p.2)
  | .fieldNameOnly => (p.1 ++ redactor.redactText line.content ++ line.ending, p.2)
  | .field name value =>
      match if name = "data" then json else none with
      | none => (p.1 ++ name ++ ":" ++ redactor.redactText value ++ line.ending, p.2)
      | some data =>
          if p.2 then p
          else
            (p.1 ++ "data:" ++ (if Text.startsWith value " " then " " else "") ++ data ++
              line.ending, true)

/-- `redact_sse_frame`. -/
def redactSseFrame (serde : Serde) (redactor : SecretRedactor) (frame : List UInt8) :
    List UInt8 :=
  let lines := splitSseLines (Utf8.fromUtf8Lossy frame)
  let json := redactedSseJsonData serde redactor lines
  bytesOf (lines.foldl (redactSseLine redactor json) ("", false)).1

/-- `redact_raw_frame`. -/
def redactRawFrame (redactor : SecretRedactor) (frame : List UInt8) : List UInt8 :=
  let text := String.ofList (Utf8.fromUtf8Lossy frame)
  let redacted := redactor.redactText text
  if redacted = text then frame else bytesOf redacted

/-! ## The stream -/

/-- `buffer.windows(pattern.len()).position(|window| window == pattern)`. -/
def windowPosition (pattern : List UInt8) : List UInt8 → Option Nat
  | [] => none
  | b :: rest =>
      if pattern.isPrefixOf (b :: rest) then some 0
      else (windowPosition pattern rest).map (· + 1)

def lfLf : List UInt8 := [lf, lf]
def crLfCrLf : List UInt8 := [cr, lf, cr, lf]

/-- Where `take_one_sse_frame` sees the end of the first frame. -/
def takeFrameEnd (buffer : List UInt8) : Option Nat :=
  ((windowPosition crLfCrLf buffer).map (· + 4)).or ((windowPosition lfLf buffer).map (· + 2))

/-- `take_one_sse_frame`. -/
def takeOneSseFrame (buffer : List UInt8) : Option (List UInt8 × List UInt8) :=
  (takeFrameEnd buffer).map fun frameEnd => (buffer.take frameEnd, buffer.drop frameEnd)

/-- The loop of `transform_chunk` over the frames of the buffer. A frame has a byte at least, so the
buffer has no more frames than bytes. -/
def takeSseFrames : Nat → List UInt8 → List (List UInt8) × List UInt8
  | 0, buffer => ([], buffer)
  | fuel + 1, buffer =>
      match takeOneSseFrame buffer with
      | none => ([], buffer)
      | some (frame, rest) =>
          (frame :: (takeSseFrames fuel rest).1, (takeSseFrames fuel rest).2)

theorem takeSseFrames_eq_cut (fuel : Nat) (buffer : List UInt8) :
    takeSseFrames fuel buffer = Framing.cut takeFrameEnd fuel buffer := by
  induction fuel generalizing buffer with
  | zero => rfl
  | succ fuel ih =>
    unfold takeSseFrames takeOneSseFrame Framing.cut
    cases takeFrameEnd buffer with
    | none => rfl
    | some frameEnd => simp only [Option.map_some, ih]

/-- `RedactingSseObservationTransform`. -/
structure RedactingSseObservationTransform where
  redactor : SecretRedactor
  buffer : List UInt8 := []
  maxBufferBytes : Option Nat := none
  observationStopped : Bool := false

namespace RedactingSseObservationTransform

/-- A chunk joins the buffer, and all frames that can be are taken; `none` when the transform has
stopped, or stops because the chunk does not fit. -/
def takeFrames (self : RedactingSseObservationTransform) (bytes : List UInt8) :
    Option (List (List UInt8) × List UInt8) :=
  if self.observationStopped then none
  else if self.maxBufferBytes.any fun maxBufferBytes =>
      maxBufferBytes - self.buffer.length < bytes.length then none
  else some (takeSseFrames (self.buffer ++ bytes).length (self.buffer ++ bytes))

/-- `transform_chunk` (`secret_redaction.rs` 135-152). -/
def transformChunk (serde : Serde) (self : RedactingSseObservationTransform)
    (bytes : List UInt8) : List (List UInt8) × RedactingSseObservationTransform :=
  match self.takeFrames bytes with
  | none => ([], if self.observationStopped then self
      else { self with buffer := [], observationStopped := true })
  | some (frames, rest) =>
      (frames.map (redactSseFrame serde self.redactor), { self with buffer := rest })

/-- `finish`. -/
def finish (self : RedactingSseObservationTransform) : List (List UInt8) :=
  if self.observationStopped || self.buffer.isEmpty then []
  else [redactRawFrame self.redactor self.buffer]

/-- All chunks, and the end of the stream. -/
def run (serde : Serde) : RedactingSseObservationTransform → List (List UInt8) →
    List (List UInt8)
  | self, [] => self.finish
  | self, chunk :: chunks =>
      let (out, next) := self.transformChunk serde chunk
      out ++ next.run serde chunks

end RedactingSseObservationTransform

/-! ## The two searches -/

theorem windowPosition_cons (pattern : List UInt8) (b : UInt8) (rest : List UInt8) :
    windowPosition pattern (b :: rest) =
      if pattern <+: b :: rest then some 0 else (windowPosition pattern rest).map (· + 1) := by
  simp only [windowPosition, List.isPrefixOf_iff_prefix]

theorem windowPosition_le {pattern xs : List UInt8} {i : Nat}
    (h : windowPosition pattern xs = some i) : i + pattern.length ≤ xs.length := by
  induction xs generalizing i with
  | nil => cases h
  | cons b rest ih =>
    rw [windowPosition_cons] at h
    split at h
    · next hpat =>
      cases h
      rw [Nat.zero_add]
      exact hpat.length_le
    · obtain ⟨j, hj, rfl⟩ := Option.map_eq_some_iff.mp h
      have hrest := ih hj
      simp only [List.length_cons]
      omega

theorem windowPosition_isSome {pattern xs : List UInt8} (hne : pattern ≠ []) :
    (windowPosition pattern xs).isSome = true ↔ pattern <:+: xs := by
  induction xs with
  | nil =>
    simp only [windowPosition, Option.isSome_none, Bool.false_eq_true, false_iff,
      List.infix_nil]
    exact hne
  | cons b rest ih =>
    rw [windowPosition_cons, List.infix_cons_iff, ← ih]
    split
    · next hpat => simp [hpat]
    · next hpat => simp [hpat]

theorem takeFrameEnd_findsEnd : Framing.FindsEnd takeFrameEnd := by
  have hends : ∀ {xs n}, takeFrameEnd xs = some n → 2 ≤ n ∧ n ≤ xs.length := by
    intro xs n h
    unfold takeFrameEnd at h
    cases hcr : windowPosition crLfCrLf xs with
    | some i =>
      have hle := windowPosition_le hcr
      rw [hcr] at h
      cases h
      exact ⟨by show 2 ≤ i + 4; omega, hle⟩
    | none =>
      rw [hcr, Option.map_none, Option.none_or] at h
      obtain ⟨i, hi, rfl⟩ := Option.map_eq_some_iff.mp h
      exact ⟨by omega, windowPosition_le hi⟩
  exact ⟨fun h => Nat.lt_of_lt_of_le (by decide) (hends h).1, fun h => (hends h).2⟩

theorem sseFrameEnd_step (b : UInt8) (rest : List UInt8) :
    sseFrameEnd (b :: rest) = if lfLf <+: b :: rest then some 2
      else if crLfCrLf <+: b :: rest then some 4 else (sseFrameEnd rest).map (· + 1) :=
  sseFrameEnd_cons b rest

/-- Without a `\r\n\r\n` the two searches are the same. -/
theorem sseFrameEnd_of_none {xs : List UInt8} (h : windowPosition crLfCrLf xs = none) :
    sseFrameEnd xs = (windowPosition lfLf xs).map (· + 2) := by
  induction xs with
  | nil => rfl
  | cons b rest ih =>
    rw [windowPosition_cons] at h
    rw [sseFrameEnd_step, windowPosition_cons]
    by_cases hlf : lfLf <+: b :: rest
    · rw [if_pos hlf, if_pos hlf]
      rfl
    · by_cases hcr : crLfCrLf <+: b :: rest
      · rw [if_pos hcr] at h
        cases h
      · rw [if_neg hcr, Option.map_eq_none_iff] at h
        rw [if_neg hlf, if_neg hlf, if_neg hcr, ih h, Option.map_map, Option.map_map]
        rfl

/-- With a `\r\n\r\n` the first frame ends there, or at a `\n\n` that lies before it. -/
theorem sseFrameEnd_of_some {xs : List UInt8} {q : Nat}
    (h : windowPosition crLfCrLf xs = some q) :
    ∃ n, sseFrameEnd xs = some n ∧ ((n = q + 4 ∧ crLfCrLf <:+ xs.take n) ∨
      (n ≤ q ∧ lfLf <:+ xs.take n ∧ windowPosition crLfCrLf (xs.drop n) = some (q - n))) := by
  induction xs generalizing q with
  | nil => cases h
  | cons b rest ih =>
    rw [sseFrameEnd_step]
    by_cases hlf : lfLf <+: b :: rest
    · rw [if_pos hlf]
      obtain ⟨after, hafter⟩ := hlf
      obtain ⟨rfl, rfl⟩ : lf = b ∧ [lf] ++ after = rest := List.cons.inj hafter
      -- Neither of the two line feeds starts the longer separator.
      have hskip : ∀ cs : List UInt8, windowPosition crLfCrLf (lf :: cs) =
          (windowPosition crLfCrLf cs).map (· + 1) := by
        intro cs
        rw [windowPosition_cons, if_neg]
        intro hpat
        have hfirst := (List.cons_prefix_cons.mp hpat).1
        revert hfirst
        decide
      have h : windowPosition crLfCrLf (lf :: lf :: after) = some q := h
      rw [hskip, hskip] at h
      obtain ⟨q', hq', rfl⟩ := Option.map_eq_some_iff.mp h
      obtain ⟨q'', hq'', rfl⟩ := Option.map_eq_some_iff.mp hq'
      refine ⟨2, rfl, .inr ⟨by omega, List.suffix_refl _, ?_⟩⟩
      show windowPosition crLfCrLf after = _
      rw [hq'']
      congr 1
    · rw [if_neg hlf]
      rw [windowPosition_cons] at h
      by_cases hcr : crLfCrLf <+: b :: rest
      · rw [if_pos hcr] at h ⊢
        cases h
        refine ⟨4, rfl, .inl ⟨rfl, ?_⟩⟩
        obtain ⟨after, hafter⟩ := hcr
        rw [← hafter]
        exact List.suffix_refl _
      · rw [if_neg hcr] at h ⊢
        obtain ⟨q', hq', rfl⟩ := Option.map_eq_some_iff.mp h
        obtain ⟨n, hn, hcases⟩ := ih hq'
        refine ⟨n + 1, by rw [hn]; rfl, ?_⟩
        rw [List.take_succ_cons, List.drop_succ_cons]
        rcases hcases with ⟨rfl, hsuffix⟩ | ⟨hle, hsuffix, hrest⟩
        · exact .inl ⟨by omega, hsuffix.trans (List.suffix_cons _ _)⟩
        · refine .inr ⟨by omega, hsuffix.trans (List.suffix_cons _ _), ?_⟩
          rw [hrest]
          congr 1
          omega

/-- No frame ends in `\n\n` and in `\r\n\r\n`. -/
theorem not_both_ends {frame : List UInt8} (h : lfLf <:+ frame) : ¬ crLfCrLf <:+ frame := by
  intro hcr
  have hshort : lfLf <:+ crLfCrLf := List.suffix_of_suffix_length_le h hcr (by decide)
  revert hshort
  decide

theorem sseFrameEnd_findsEnd : Framing.FindsEnd sseFrameEnd := sseScanner.findsEnd

/-- A `\r\n\r\n` in the buffer ends one of its frames. -/
theorem ends_crLfCrLf_iff (xs : List UInt8) :
    (∃ frame ∈ (Framing.cutAll sseFrameEnd xs).1, crLfCrLf <:+ frame) ↔
      (windowPosition crLfCrLf xs).isSome = true := by
  have hends := sseFrameEnd_findsEnd
  constructor
  · rintro ⟨frame, hframe, hsuffix⟩
    rw [windowPosition_isSome (by decide)]
    exact hsuffix.isInfix.trans (Framing.infix_of_mem_cutAll hends hframe)
  · intro hsome
    induction hlength : xs.length using Nat.strongRecOn generalizing xs with
    | _ length ih =>
      obtain ⟨q, hq⟩ := Option.isSome_iff_exists.mp hsome
      obtain ⟨n, hn, hcases⟩ := sseFrameEnd_of_some hq
      have hpos := hends.pos hn
      have hle := hends.le hn
      rw [Framing.cutAll_some hends hn]
      rcases hcases with ⟨_, hsuffix⟩ | ⟨_, _, hrest⟩
      · exact ⟨_, List.mem_cons_self, hsuffix⟩
      · obtain ⟨frame, hframe, hsuffix⟩ := ih (xs.drop n).length
          (by rw [List.length_drop]; omega) (xs.drop n) (by rw [hrest]; rfl) rfl
        exact ⟨frame, List.mem_cons_of_mem _ hframe, hsuffix⟩

/-- Two frames that the two searches see differently, if the first one is followed by the other:
the first ends in `\n\n`, the other in `\r\n\r\n`. -/
def Mixed (frame other : List UInt8) : Prop := lfLf <:+ frame ∧ crLfCrLf <:+ other

instance (frame other : List UInt8) : Decidable (Mixed frame other) :=
  inferInstanceAs (Decidable (_ ∧ _))

/-- The searches find the same end, unless the first frame is mixed with a later one. -/
theorem takeFrameEnd_eq_iff {xs : List UInt8} {n : Nat} (h : sseFrameEnd xs = some n) :
    ∃ m, takeFrameEnd xs = some m ∧ n ≤ m ∧
      (n = m ↔ ∀ other ∈ (Framing.cutAll sseFrameEnd (xs.drop n)).1, ¬ Mixed (xs.take n) other) := by
  unfold takeFrameEnd
  cases hcr : windowPosition crLfCrLf xs with
  | none =>
    rw [sseFrameEnd_of_none hcr] at h
    refine ⟨n, h, Nat.le_refl n, fun _ other hother hmixed => ?_, fun _ => rfl⟩
    have hinfix := hmixed.2.isInfix.trans
      ((Framing.infix_of_mem_cutAll sseFrameEnd_findsEnd hother).trans
        (List.drop_suffix n xs).isInfix)
    have hsome := (windowPosition_isSome (by decide)).mpr hinfix
    rw [hcr] at hsome
    cases hsome
  | some q =>
    obtain ⟨n', hn', hcases⟩ := sseFrameEnd_of_some hcr
    obtain rfl : n = n' := Option.some.inj (h.symm.trans hn')
    refine ⟨q + 4, rfl, ?_⟩
    rcases hcases with ⟨hend, hsuffix⟩ | ⟨hle, hsuffix, hrest⟩
    · refine ⟨by omega, fun _ other _ hmixed => ?_, fun _ => hend⟩
      exact not_both_ends hmixed.1 hsuffix
    · refine ⟨by omega, fun heq => by omega, fun hnone => ?_⟩
      obtain ⟨other, hother, hends⟩ := (ends_crLfCrLf_iff (xs.drop n)).mpr (by rw [hrest]; rfl)
      exact absurd ⟨hsuffix, hends⟩ (hnone other hother)

def Unmixed (frames : List (List UInt8)) : Prop :=
  frames.Pairwise fun frame other => ¬ Mixed frame other

theorem takeFrameEnd_none {xs : List UInt8} (h : sseFrameEnd xs = none) :
    takeFrameEnd xs = none := by
  unfold takeFrameEnd
  cases hcr : windowPosition crLfCrLf xs with
  | none =>
    rw [sseFrameEnd_of_none hcr] at h
    exact h
  | some q =>
    obtain ⟨n, hn, _⟩ := sseFrameEnd_of_some hcr
    rw [h] at hn
    cases hn

/-- From a buffer without mixed frames both take the same. -/
theorem cutAll_of_unmixed {xs : List UInt8}
    (h : Unmixed (Framing.cutAll sseFrameEnd xs).1) :
    Framing.cutAll takeFrameEnd xs = Framing.cutAll sseFrameEnd xs := by
  induction hlength : xs.length using Nat.strongRecOn generalizing xs with
  | _ length ih =>
    cases hend : sseFrameEnd xs with
    | none => rw [Framing.cutAll_none hend, Framing.cutAll_none (takeFrameEnd_none hend)]
    | some n =>
      have hpos := sseFrameEnd_findsEnd.pos hend
      have hle := sseFrameEnd_findsEnd.le hend
      rw [Framing.cutAll_some sseFrameEnd_findsEnd hend] at h ⊢
      obtain ⟨hfirst, hrest⟩ := List.pairwise_cons.mp h
      obtain ⟨m, hm, _, hiff⟩ := takeFrameEnd_eq_iff hend
      obtain rfl := hiff.mpr hfirst
      rw [Framing.cutAll_some takeFrameEnd_findsEnd hm,
        ih (xs.drop n).length (by rw [List.length_drop]; omega) hrest rfl]

/-- Two sequences of frames that part from each other: whatever follows, they stay different. -/
def Part (frames frames' : List (List UInt8)) : Prop :=
  ∃ common frame frame' more more', frames = common ++ frame :: more ∧
    frames' = common ++ frame' :: more' ∧ frame ≠ frame'

theorem Part.ne {frames frames' : List (List UInt8)} (h : Part frames frames') :
    frames ≠ frames' := by
  obtain ⟨common, frame, frame', more, more', rfl, rfl, hne⟩ := h
  intro hsame
  exact hne (List.cons.inj (List.append_cancel_left hsame)).1

theorem Part.append {frames frames' : List (List UInt8)} (h : Part frames frames')
    (xs ys : List (List UInt8)) : Part (frames ++ xs) (frames' ++ ys) := by
  obtain ⟨common, frame, frame', more, more', rfl, rfl, hne⟩ := h
  exact ⟨common, frame, frame', more ++ xs, more' ++ ys, by simp, by simp, hne⟩

theorem Part.behind {frames frames' : List (List UInt8)} (h : Part frames frames')
    (before : List (List UInt8)) : Part (before ++ frames) (before ++ frames') := by
  obtain ⟨common, frame, frame', more, more', rfl, rfl, hne⟩ := h
  exact ⟨before ++ common, frame, frame', more, more', by simp, by simp, hne⟩

/-- From a buffer with mixed frames a frame is taken that is too long. -/
theorem cutAll_of_mixed {xs : List UInt8} (h : ¬ Unmixed (Framing.cutAll sseFrameEnd xs).1) :
    Part (Framing.cutAll takeFrameEnd xs).1 (Framing.cutAll sseFrameEnd xs).1 := by
  induction hlength : xs.length using Nat.strongRecOn generalizing xs with
  | _ length ih =>
    cases hend : sseFrameEnd xs with
    | none =>
      rw [Framing.cutAll_none hend] at h
      exact absurd List.Pairwise.nil h
    | some n =>
      have hpos := sseFrameEnd_findsEnd.pos hend
      have hle := sseFrameEnd_findsEnd.le hend
      rw [Framing.cutAll_some sseFrameEnd_findsEnd hend] at h ⊢
      obtain ⟨m, hm, hshorter, hiff⟩ := takeFrameEnd_eq_iff hend
      have hle' := takeFrameEnd_findsEnd.le hm
      rw [Framing.cutAll_some takeFrameEnd_findsEnd hm]
      by_cases hsame : n = m
      · -- The first frames are the same; the mixed ones are behind them.
        subst hsame
        have hrest : ¬ Unmixed (Framing.cutAll sseFrameEnd (xs.drop n)).1 :=
          fun hrest => h (List.pairwise_cons.mpr ⟨hiff.mp rfl, hrest⟩)
        exact (ih (xs.drop n).length (by rw [List.length_drop]; omega) hrest rfl).behind
          [xs.take n]
      · refine ⟨[], _, _, _, _, rfl, rfl, fun heq => hsame ?_⟩
        have hlengths := congrArg List.length heq
        rw [List.length_take, List.length_take] at hlengths
        omega

/-! ## Chunks -/

/-- The frames that a chunk completes, behind those before it. -/
def completedBy (before : List (List UInt8)) (chunk : List UInt8) : List (List UInt8) :=
  (Framing.cutAll sseFrameEnd ((Framing.cutAll sseFrameEnd before.flatten).2 ++ chunk)).1

/-- No chunk completes a frame that ends in `\n\n` and a later one that ends in `\r\n\r\n`. -/
def NothingMixed (chunks : List (List UInt8)) : Prop :=
  ∀ before chunk after, chunks = before ++ chunk :: after → Unmixed (completedBy before chunk)

/-- Both searches, chunk by chunk, from a buffer without a complete frame. -/
theorem cutChunks_agree_or_part {buffer : List UInt8} (h : sseFrameEnd buffer = none)
    (chunks : List (List UInt8)) :
    ((∀ before chunk after, chunks = before ++ chunk :: after → Unmixed (Framing.cutAll sseFrameEnd
        ((Framing.cutAll sseFrameEnd (buffer ++ before.flatten)).2 ++ chunk)).1) ∧
      Framing.cutChunks takeFrameEnd buffer chunks = Framing.cutChunks sseFrameEnd buffer chunks) ∨
    ((∃ before chunk after, chunks = before ++ chunk :: after ∧ ¬ Unmixed (Framing.cutAll
        sseFrameEnd ((Framing.cutAll sseFrameEnd (buffer ++ before.flatten)).2 ++ chunk)).1) ∧
      Part (Framing.cutChunks takeFrameEnd buffer chunks).1
        (Framing.cutChunks sseFrameEnd buffer chunks).1) := by
  induction chunks generalizing buffer with
  | nil =>
    refine .inl ⟨fun before chunk after hsplit => ?_, rfl⟩
    exact absurd hsplit.symm (by simp)
  | cons chunk chunks ih =>
    have hbuffer : (Framing.cutAll sseFrameEnd (buffer ++ [])).2 = buffer := by
      rw [List.append_nil, Framing.cutAll_none h]
    by_cases hfirst : Unmixed (Framing.cutAll sseFrameEnd (buffer ++ chunk)).1
    · have htaken := cutAll_of_unmixed hfirst
      have hrest : sseFrameEnd (Framing.cutAll sseFrameEnd (buffer ++ chunk)).2 = none :=
        Framing.cutAll_rest sseFrameEnd_findsEnd _
      -- What is left behind the first chunk is what the later chunks start from.
      have hlater : ∀ before : List (List UInt8),
          (Framing.cutAll sseFrameEnd (buffer ++ (chunk :: before).flatten)).2 =
            (Framing.cutAll sseFrameEnd
              ((Framing.cutAll sseFrameEnd (buffer ++ chunk)).2 ++ before.flatten)).2 := by
        intro before
        rw [List.flatten_cons, ← List.append_assoc]
        have happend := congrArg Prod.snd
          (Framing.cutAll_append sseScanner (buffer ++ chunk) before.flatten)
        exact happend
      simp only [Framing.cutChunks, htaken]
      rcases ih hrest with ⟨hall, hsame⟩ | ⟨⟨before, other, after, hsplit, hmixed⟩, hpart⟩
      · refine .inl ⟨?_, by rw [hsame]⟩
        intro before other after hsplit
        cases before with
        | nil =>
          obtain ⟨rfl, rfl⟩ := List.cons.inj hsplit
          rw [List.flatten_nil, hbuffer]
          exact hfirst
        | cons head before =>
          obtain ⟨rfl, hchunks⟩ := List.cons.inj hsplit
          rw [hlater]
          exact hall before other after hchunks
      · refine .inr ⟨⟨chunk :: before, other, after, by rw [hsplit]; rfl, ?_⟩, hpart.behind _⟩
        rw [hlater]
        exact hmixed
    · refine .inr ⟨⟨[], chunk, chunks, rfl, ?_⟩, ?_⟩
      · rw [List.flatten_nil, hbuffer]
        exact hfirst
      · exact (cutAll_of_mixed hfirst).append _ _

/-- The frames that the transform takes from its buffer. -/
def RedactingSseObservationTransform.framesTaken :
    RedactingSseObservationTransform → List (List UInt8) → List (List UInt8)
  | _, [] => []
  | self, chunk :: chunks =>
      match self.takeFrames chunk with
      | none => []
      | some (frames, rest) => frames ++ framesTaken { self with buffer := rest } chunks

/-- `read_one_sse_frame` (`streaming/wire.rs` 67-72), again and again. -/
def readSseFrames (serde : Serde) : Nat → List UInt8 → List (List UInt8)
  | 0, _ => []
  | fuel + 1, buffer =>
      match readOneSseFrame serde buffer with
      | none => []
      | some (frame, _, consumed) =>
          frame :: readSseFrames serde fuel (dropSsePrefix buffer consumed)

theorem readSseFrames_eq (serde : Serde) (fuel : Nat) (buffer : List UInt8) :
    readSseFrames serde fuel buffer = (Framing.cut sseFrameEnd fuel buffer).1 := by
  induction fuel generalizing buffer with
  | zero => rfl
  | succ fuel ih =>
    cases h : sseFrameEnd buffer with
    | none => simp [readSseFrames, readOneSseFrame, Framing.cut, h]
    | some n =>
      have hle := sseFrameEnd_findsEnd.le h
      have hdrop : dropSsePrefix buffer n = buffer.drop n := by
        rw [dropSsePrefix, Nat.min_eq_left hle]
      simp [readSseFrames, readOneSseFrame, Framing.cut, h, hdrop, ih]

/-- What a redacted stream comes to that is framed as the translator frames it. -/
def redactedFrames (serde : Serde) (redactor : SecretRedactor) (bytes : List UInt8) :
    List (List UInt8) :=
  let all := Framing.cutAll sseFrameEnd bytes
  all.1.map (redactSseFrame serde redactor) ++
    if all.2.isEmpty then [] else [redactRawFrame redactor all.2]

section

variable (serde : Serde) (redactor : SecretRedactor)

/-- Without a limit every chunk is taken, and cut into frames with what was left. -/
theorem takeFrames_unlimited (buffer chunk : List UInt8) :
    ({ redactor := redactor, buffer := buffer } :
      RedactingSseObservationTransform).takeFrames chunk =
      some (Framing.cutAll takeFrameEnd (buffer ++ chunk)) :=
  congrArg some (takeSseFrames_eq_cut _ _)

theorem transformChunk_unlimited (buffer chunk : List UInt8) :
    ({ redactor := redactor, buffer := buffer } :
      RedactingSseObservationTransform).transformChunk serde chunk =
      ((Framing.cutAll takeFrameEnd (buffer ++ chunk)).1.map (redactSseFrame serde redactor),
        { redactor := redactor, buffer := (Framing.cutAll takeFrameEnd (buffer ++ chunk)).2 }) := by
  unfold RedactingSseObservationTransform.transformChunk
  rw [takeFrames_unlimited]

theorem framesTaken_eq (buffer : List UInt8) (chunks : List (List UInt8)) :
    ({ redactor := redactor, buffer := buffer } :
      RedactingSseObservationTransform).framesTaken chunks =
      (Framing.cutChunks takeFrameEnd buffer chunks).1 := by
  induction chunks generalizing buffer with
  | nil => rfl
  | cons chunk chunks ih =>
    unfold RedactingSseObservationTransform.framesTaken
    rw [takeFrames_unlimited]
    exact congrArg _ (ih _)

theorem run_eq (buffer : List UInt8) (chunks : List (List UInt8)) :
    ({ redactor := redactor, buffer := buffer } : RedactingSseObservationTransform).run serde
        chunks =
      (Framing.cutChunks takeFrameEnd buffer chunks).1.map (redactSseFrame serde redactor) ++
        if (Framing.cutChunks takeFrameEnd buffer chunks).2.isEmpty then []
        else [redactRawFrame redactor (Framing.cutChunks takeFrameEnd buffer chunks).2] := by
  induction chunks generalizing buffer with
  | nil => rfl
  | cons chunk chunks ih =>
    have hrest := ih (Framing.cutAll takeFrameEnd (buffer ++ chunk)).2
    rw [Framing.cutChunks, List.map_append, List.append_assoc, ← hrest]
    simp only [RedactingSseObservationTransform.run, transformChunk_unlimited]

/-- **The redacting stream frames its input as the translator does** if and only if no chunk
completes mixed frames; and then its output does not depend on the chunks. -/
theorem redaction_frames_agree_iff (chunks : List (List UInt8)) :
    (({ redactor := redactor } : RedactingSseObservationTransform).framesTaken chunks =
        readSseFrames serde chunks.flatten.length chunks.flatten ↔ NothingMixed chunks) ∧
      (NothingMixed chunks →
        ({ redactor := redactor } : RedactingSseObservationTransform).run serde chunks =
          redactedFrames serde redactor chunks.flatten) := by
  have hempty : sseScanner.frameEnd [] = none := rfl
  have hwhole : Framing.cutChunks sseFrameEnd [] chunks =
      Framing.cutAll sseFrameEnd chunks.flatten :=
    Framing.cutChunks_eq sseScanner hempty chunks
  rw [framesTaken_eq, run_eq, readSseFrames_eq]
  unfold redactedFrames
  rcases cutChunks_agree_or_part hempty chunks with
    ⟨hall, hsame⟩ | ⟨⟨before, chunk, after, hsplit, hmixed⟩, hpart⟩
  · rw [hsame, hwhole]
    exact ⟨⟨fun _ => hall, fun _ => rfl⟩, fun _ => rfl⟩
  · have hnot : ¬ NothingMixed chunks := fun h => hmixed (h before chunk after hsplit)
    rw [hwhole] at hpart
    exact ⟨⟨fun heq => absurd heq hpart.ne, fun h => absurd h hnot⟩, fun h => absurd h hnot⟩

end

/-- Two events that come in one chunk, the first one of which ends in `\n\n`, go out as one. -/
theorem mixed_separators_are_one_frame :
    ¬ ∀ (serde : Serde) (redactor : SecretRedactor) (chunks : List (List UInt8)),
      ({ redactor := redactor } : RedactingSseObservationTransform).framesTaken chunks =
        readSseFrames serde chunks.flatten.length chunks.flatten := by
  intro hsame
  have h := hsame Env.still.serde {} [bytesOf "data: 1\n\ndata: 2\r\n\r\n"]
  rw [framesTaken_eq, readSseFrames_eq] at h
  revert h
  decide +kernel

end LlmUniversalProxy.Server
