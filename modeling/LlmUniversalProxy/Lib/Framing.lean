import Mathlib.Data.List.Basic

/-!
# `Lib.Framing` — frames read off a stream that comes in chunks

A reader keeps the bytes of the frame that is not complete yet, hands every complete frame to its
owner, and gives up when a frame does not fit its buffer. It does so chunk by chunk: it takes as
much of a chunk as fits, takes the complete frames off, and goes on. `feed` says what this comes to
for a single byte, and `push_feed` that a chunk is nothing but its bytes: so how a stream is cut
into chunks makes no difference.

All this needs of the scanner that finds the end of a frame is that it does not change its mind:
what comes behind a frame does not move its end.
-/

set_option autoImplicit false

namespace LlmUniversalProxy.Lib.Framing

universe u v

variable {β : Type u} {σ : Type v}

/-- A scanner for the end of the first frame. -/
structure Scanner (β : Type u) where
  frameEnd : List β → Option Nat
  pos : ∀ {xs n}, frameEnd xs = some n → 0 < n
  le : ∀ {xs n}, frameEnd xs = some n → n ≤ xs.length
  append : ∀ {xs n} (ys), frameEnd xs = some n → frameEnd (xs ++ ys) = some n
  take : ∀ {xs n}, frameEnd xs = some n → frameEnd (xs.take n) = some n

namespace Scanner

variable (S : Scanner β) {xs ys : List β} {n : Nat}

theorem nil : S.frameEnd [] = none := by
  cases h : S.frameEnd [] with
  | none => rfl
  | some n =>
    have hpos := S.pos h
    have hle := S.le h
    simp only [List.length_nil] at hle
    omega

theorem none_of_append (h : S.frameEnd (xs ++ ys) = none) : S.frameEnd xs = none := by
  cases hxs : S.frameEnd xs with
  | none => rfl
  | some n =>
    rw [S.append ys hxs] at h
    cases h

/-- The first frame of what had none before ends in what has come since. -/
theorem lt_of_none (hxs : S.frameEnd xs = none) (h : S.frameEnd (xs ++ ys) = some n) :
    xs.length < n := by
  by_contra hle
  have htake := S.take h
  rw [List.take_append_of_le_length (by omega)] at htake
  have hxs' := S.append (xs.drop n) htake
  rw [List.take_append_drop, hxs] at hxs'
  cases hxs'

end Scanner

/-- A reader, and what its owner does: with a frame, and with a buffer that is full. -/
structure Reader (β : Type u) (σ : Type v) where
  scanner : Scanner β
  limit : Nat
  handle : List β → σ → σ
  oversized : σ → σ
  closed : σ → Bool
  oversized_closed : ∀ s, closed (oversized s) = true

namespace Reader

variable (R : Reader β σ)

/-- One byte joins the buffer, and a frame that it completes is handled. -/
def gather (p : List β × σ) (b : β) : List β × σ :=
  if R.closed p.2 then p
  else
    match R.scanner.frameEnd (p.1 ++ [b]) with
    | some n => ((p.1 ++ [b]).drop n, R.handle ((p.1 ++ [b]).take n) p.2)
    | none => (p.1 ++ [b], p.2)

/-- A full buffer is given up. -/
def check (p : List β × σ) : List β × σ :=
  if !R.closed p.2 && p.1.length = R.limit then (p.1, R.oversized p.2) else p

/-- One byte. -/
def feed (p : List β × σ) (b : β) : List β × σ := R.check (R.gather p b)

/-- The complete frames of the buffer, until one of them closes the reader. -/
def drain : Nat → List β × σ → List β × σ
  | 0, p => p
  | fuel + 1, p =>
      match R.scanner.frameEnd p.1 with
      | none => p
      | some n =>
          let s := R.handle (p.1.take n) p.2
          if R.closed s then (p.1.drop n, s) else drain fuel (p.1.drop n, s)

/-- A chunk, as much of it at a time as fits the buffer. -/
def push : Nat → List β → List β × σ → List β × σ
  | 0, _, p => p
  | fuel + 1, chunk, p =>
      if chunk.isEmpty || R.closed p.2 then p
      else
        let remaining := R.limit - p.1.length
        if remaining = 0 then (p.1, R.oversized p.2)
        else
          push fuel (chunk.drop remaining) (R.check
            (R.drain (p.1.length + (chunk.take remaining).length + 1)
              (p.1 ++ chunk.take remaining, p.2)))

/-- Two readers have come to the same: a closed one does not look at its buffer any more. -/
def Agree (p q : List β × σ) : Prop := p.2 = q.2 ∧ (R.closed p.2 = false → p.1 = q.1)

/-- Between two bytes an open reader has no complete frame, and room for more. -/
def Waiting (p : List β × σ) : Prop :=
  R.closed p.2 = false → R.scanner.frameEnd p.1 = none ∧ p.1.length < R.limit

variable {R} {p q : List β × σ} {b : β}

theorem Agree.refl (p : List β × σ) : R.Agree p p := ⟨rfl, fun _ => rfl⟩

theorem Agree.trans {r : List β × σ} (h : R.Agree p q) (h' : R.Agree q r) : R.Agree p r :=
  ⟨h.1.trans h'.1, fun hopen => (h.2 hopen).trans (h'.2 (h.1 ▸ hopen))⟩

/-- Open readers that agree are equal. -/
theorem Agree.eq (h : R.Agree p q) (hopen : R.closed p.2 = false) : p = q :=
  Prod.ext (h.2 hopen) h.1

/-- What leaves closed readers alone keeps agreement. -/
theorem Agree.map {f : List β × σ → List β × σ} (h : R.Agree p q)
    (hclosed : ∀ r, R.closed r.2 = true → f r = r) : R.Agree (f p) (f q) := by
  cases hp : R.closed p.2 with
  | true => rwa [hclosed p hp, hclosed q (h.1 ▸ hp)]
  | false => rw [h.eq hp]; exact .refl _

theorem gather_closed (h : R.closed p.2 = true) : R.gather p b = p := by simp [gather, h]

theorem check_closed (h : R.closed p.2 = true) : R.check p = p := by simp [check, h]

theorem feed_closed (h : R.closed p.2 = true) : R.feed p b = p := by
  rw [feed, gather_closed h, check_closed h]

theorem foldl_feed_closed (bytes : List β) (h : R.closed p.2 = true) :
    bytes.foldl R.feed p = p := by
  induction bytes with
  | nil => rfl
  | cons b bytes ih => rw [List.foldl_cons, feed_closed h, ih]

theorem foldl_gather_closed (bytes : List β) (h : R.closed p.2 = true) :
    bytes.foldl R.gather p = p := by
  induction bytes with
  | nil => rfl
  | cons b bytes ih => rw [List.foldl_cons, gather_closed h, ih]

theorem push_closed (fuel : Nat) (chunk : List β) (h : R.closed p.2 = true) :
    R.push fuel chunk p = p := by
  cases fuel with
  | zero => rfl
  | succ fuel => simp [push, h]

theorem gather_none (hopen : R.closed p.2 = false)
    (h : R.scanner.frameEnd (p.1 ++ [b]) = none) : R.gather p b = (p.1 ++ [b], p.2) := by
  simp [gather, hopen, h]

theorem gather_some {n : Nat} (hopen : R.closed p.2 = false)
    (h : R.scanner.frameEnd (p.1 ++ [b]) = some n) :
    R.gather p b = ((p.1 ++ [b]).drop n, R.handle ((p.1 ++ [b]).take n) p.2) := by
  simp [gather, hopen, h]

theorem gather_length_le : (R.gather p b).1.length ≤ p.1.length + 1 := by
  unfold gather
  split
  · omega
  · split <;> simp

/-! ## A byte -/

/-- A reader that waits handles a frame at its last byte, and starts anew. -/
theorem Waiting.feed (h : R.Waiting p) (b : β) :
    R.Waiting (R.feed p b) := by
  intro hopen
  cases hp : R.closed p.2 with
  | true =>
    rw [feed_closed hp] at hopen
    rw [hp] at hopen
    cases hopen
  | false =>
    obtain ⟨hnone, hroom⟩ := h hp
    have hgather : R.scanner.frameEnd (R.gather p b).1 = none ∧
        (R.gather p b).1.length ≤ R.limit := by
      cases hb : R.scanner.frameEnd (p.1 ++ [b]) with
      | none =>
        rw [gather_none hp hb]
        exact ⟨hb, by simp only [List.length_append, List.length_singleton]; omega⟩
      | some n =>
        have hlt := R.scanner.lt_of_none hnone hb
        have hnil : (p.1 ++ [b]).drop n = [] := List.drop_eq_nil_of_le
          (by simp only [List.length_append, List.length_singleton]; omega)
        rw [gather_some hp hb, hnil]
        exact ⟨R.scanner.nil, Nat.zero_le _⟩
    unfold Reader.feed check at hopen ⊢
    split at hopen
    · rw [R.oversized_closed] at hopen
      cases hopen
    · next hfull =>
      rw [if_neg hfull]
      have hne : (R.gather p b).1.length ≠ R.limit := by simpa [hopen] using hfull
      exact ⟨hgather.1, by omega⟩

theorem Waiting.foldl_feed (bytes : List β) :
    ∀ {p : List β × σ}, R.Waiting p → R.Waiting (bytes.foldl R.feed p) := by
  induction bytes with
  | nil => exact fun h => h
  | cons b bytes ih => exact fun h => ih (h.feed b)

/-! ## The complete frames of a buffer -/

/-- Bytes that complete no frame are kept. -/
theorem foldl_gather_none {s : σ} (hopen : R.closed s = false) (bytes : List β) :
    ∀ {buffer : List β}, R.scanner.frameEnd (buffer ++ bytes) = none →
      bytes.foldl R.gather (buffer, s) = (buffer ++ bytes, s) := by
  induction bytes with
  | nil => simp
  | cons b bytes ih =>
    intro buffer h
    rw [List.append_cons] at h
    have hb := R.scanner.none_of_append h
    rw [List.foldl_cons, gather_none hopen hb, ih h, ← List.append_cons]

/-- Bytes the last of which completes a frame. -/
theorem foldl_gather_some {s : σ} (hopen : R.closed s = false) {buffer bytes : List β}
    (hbuffer : R.scanner.frameEnd buffer = none)
    (h : R.scanner.frameEnd (buffer ++ bytes) = some (buffer ++ bytes).length) :
    bytes.foldl R.gather (buffer, s) = ([], R.handle (buffer ++ bytes) s) := by
  have hne : bytes ≠ [] := by
    rintro rfl
    rw [List.append_nil, hbuffer] at h
    cases h
  obtain ⟨before, b, rfl⟩ : ∃ before b, bytes = before ++ [b] :=
    ⟨_, _, (List.dropLast_append_getLast hne).symm⟩
  have hlong : (buffer ++ (before ++ [b])).length = (buffer ++ before).length + 1 := by
    simp only [List.length_append, List.length_cons, List.length_nil]
    omega
  have hbefore : R.scanner.frameEnd (buffer ++ before) = none := by
    cases hb : R.scanner.frameEnd (buffer ++ before) with
    | none => rfl
    | some m =>
      have hm := R.scanner.append [b] hb
      rw [List.append_assoc, h] at hm
      have hle := R.scanner.le hb
      have heq := Option.some.inj hm
      omega
  have hlast : R.scanner.frameEnd ((buffer ++ before, s).1 ++ [b]) =
      some (buffer ++ (before ++ [b])).length := by
    rw [← h, List.append_assoc]
  rw [List.foldl_append, foldl_gather_none hopen before hbefore]
  rw [List.foldl_cons, List.foldl_nil, gather_some hopen hlast]
  simp only [List.append_assoc, List.drop_length, List.take_length]

/-- **Taking the complete frames off a buffer is gathering its bytes.** -/
theorem drain_gather (fuel : Nat) : ∀ {buffer bytes : List β} {s : σ}, R.closed s = false →
    R.scanner.frameEnd buffer = none → bytes.length < fuel →
    R.Agree (R.drain fuel (buffer ++ bytes, s)) (bytes.foldl R.gather (buffer, s)) := by
  induction fuel with
  | zero => exact fun _ _ hfuel => absurd hfuel (Nat.not_lt_zero _)
  | succ fuel ih =>
    intro buffer bytes s hopen hbuffer hfuel
    simp only [drain]
    split
    · next hnone =>
      rw [foldl_gather_none hopen bytes hnone]
      exact .refl _
    · next n hsome =>
      have hlt := R.scanner.lt_of_none hbuffer hsome
      have hle := R.scanner.le hsome
      -- the frame ends inside the new bytes: what is before its end completes it
      obtain ⟨first, rest, rfl, hfirst⟩ : ∃ first rest, bytes = first ++ rest ∧
          n = (buffer ++ first).length := by
        refine ⟨bytes.take (n - buffer.length), bytes.drop (n - buffer.length), by simp, ?_⟩
        simp only [List.length_append, List.length_take] at hle ⊢
        omega
      have htake : (buffer ++ (first ++ rest)).take n = buffer ++ first := by
        rw [← List.append_assoc, hfirst, List.take_left]
      have hdrop : (buffer ++ (first ++ rest)).drop n = rest := by
        rw [← List.append_assoc, hfirst, List.drop_left]
      have hframe : R.scanner.frameEnd (buffer ++ first) = some (buffer ++ first).length := by
        rw [← hfirst, ← htake]
        exact R.scanner.take hsome
      rw [htake, hdrop, List.foldl_append, foldl_gather_some hopen hbuffer hframe]
      split
      · next hclosed =>
        rw [foldl_gather_closed rest hclosed]
        exact ⟨rfl, fun hfalse => by rw [hclosed] at hfalse; cases hfalse⟩
      · next hclosed =>
        simp only [List.length_append] at hfuel hfirst
        exact ih (by simpa using hclosed) R.scanner.nil (by omega)

/-! ## A chunk -/

/-- Bytes that fit the buffer fill it with the last of them at the earliest. -/
theorem foldl_feed_check (bytes : List β) : ∀ {p : List β × σ}, bytes ≠ [] →
    p.1.length + bytes.length ≤ R.limit →
    bytes.foldl R.feed p = R.check (bytes.foldl R.gather p) := by
  induction bytes with
  | nil => exact fun hne _ => absurd rfl hne
  | cons b bytes ih =>
    intro p _ hroom
    cases bytes with
    | nil => rfl
    | cons c bytes =>
      have hlen : (R.gather p b).1.length ≤ p.1.length + 1 := gather_length_le
      simp only [List.length_cons] at hroom
      have hcheck : R.check (R.gather p b) = R.gather p b := by
        unfold check
        rw [if_neg]
        simp only [Bool.and_eq_true, decide_eq_true_eq, not_and]
        intro _
        omega
      rw [List.foldl_cons, feed, hcheck, ih (by simp) (by simp only [List.length_cons]; omega)]
      rfl

theorem Agree.check (h : R.Agree p q) : R.Agree (R.check p) (R.check q) :=
  h.map fun _ => check_closed

theorem Agree.foldl_feed (bytes : List β) (h : R.Agree p q) :
    R.Agree (bytes.foldl R.feed p) (bytes.foldl R.feed q) :=
  h.map fun _ => foldl_feed_closed bytes

theorem Agree.waiting (h : R.Agree p q) (hq : R.Waiting q) : R.Waiting p := fun hopen => by
  rw [h.2 hopen]
  exact hq (h.1 ▸ hopen)

/-- **A chunk is nothing but its bytes.** -/
theorem push_feed (fuel : Nat) : ∀ {chunk : List β} {p : List β × σ},
    R.Waiting p → chunk.length < fuel →
    R.Agree (R.push fuel chunk p) (chunk.foldl R.feed p) := by
  induction fuel with
  | zero => exact fun _ hfuel => absurd hfuel (Nat.not_lt_zero _)
  | succ fuel ih =>
    intro chunk p hwaiting hfuel
    cases hopen : R.closed p.2 with
    | true =>
      rw [push_closed _ _ hopen, foldl_feed_closed _ hopen]
      exact .refl p
    | false =>
      obtain ⟨hnone, hroom⟩ := hwaiting hopen
      cases chunk with
      | nil => exact .refl p
      | cons b chunk =>
        have hremaining : R.limit - p.1.length ≠ 0 := by omega
        simp only [push, hopen, List.isEmpty_cons, Bool.or_self, Bool.false_eq_true, if_false,
          if_neg hremaining]
        generalize hr : R.limit - p.1.length = remaining at hremaining ⊢
        have hslice : R.Agree (R.check (R.drain (p.1.length +
            ((b :: chunk).take remaining).length + 1) (p.1 ++ (b :: chunk).take remaining, p.2)))
            (((b :: chunk).take remaining).foldl R.feed p) := by
          rw [foldl_feed_check _ (by simpa using hremaining)
            (by simp only [List.length_take]; omega)]
          exact (drain_gather _ hopen hnone (by omega)).check
        have hshorter : ((b :: chunk).drop remaining).length < fuel := by
          simp only [List.length_drop, List.length_cons] at hfuel ⊢
          omega
        have hrest := ih (hslice.waiting (hwaiting.foldl_feed _)) hshorter
        refine hrest.trans ((hslice.foldl_feed _).trans ?_)
        rw [← List.foldl_append, List.take_append_drop]
        exact .refl _

end Reader

/-! ## All frames of a buffer -/

/-- A search for the end of the first frame, of which no more is asked than that it finds a frame
with something in it. -/
structure FindsEnd (frameEnd : List β → Option Nat) : Prop where
  pos : ∀ {xs n}, frameEnd xs = some n → 0 < n
  le : ∀ {xs n}, frameEnd xs = some n → n ≤ xs.length

theorem Scanner.findsEnd (S : Scanner β) : FindsEnd S.frameEnd := ⟨S.pos, S.le⟩

/-- Frame after frame is cut off, as long as there is fuel. -/
def cut (frameEnd : List β → Option Nat) : Nat → List β → List (List β) × List β
  | 0, xs => ([], xs)
  | fuel + 1, xs =>
      match frameEnd xs with
      | none => ([], xs)
      | some n =>
          (xs.take n :: (cut frameEnd fuel (xs.drop n)).1, (cut frameEnd fuel (xs.drop n)).2)

/-- The complete frames of a buffer, and what is left of it. -/
def cutAll (frameEnd : List β → Option Nat) (xs : List β) : List (List β) × List β :=
  cut frameEnd xs.length xs

section

variable {frameEnd : List β → Option Nat} {xs ys : List β} {n : Nat}

theorem cut_none (h : frameEnd xs = none) (fuel : Nat) : cut frameEnd fuel xs = ([], xs) := by
  cases fuel with
  | zero => rfl
  | succ fuel => simp [cut, h]

theorem cut_some (h : frameEnd xs = some n) (fuel : Nat) :
    cut frameEnd (fuel + 1) xs =
      (xs.take n :: (cut frameEnd fuel (xs.drop n)).1, (cut frameEnd fuel (xs.drop n)).2) := by
  simp [cut, h]

theorem cut_succ (hends : FindsEnd frameEnd) (fuel : Nat) (h : xs.length ≤ fuel) :
    cut frameEnd (fuel + 1) xs = cut frameEnd fuel xs := by
  induction fuel generalizing xs with
  | zero =>
    cases hend : frameEnd xs with
    | none => rw [cut_none hend, cut_none hend]
    | some n =>
      have hpos := hends.pos hend
      have hle := hends.le hend
      omega
  | succ fuel ih =>
    cases hend : frameEnd xs with
    | none => rw [cut_none hend, cut_none hend]
    | some n =>
      have hpos := hends.pos hend
      rw [cut_some hend, cut_some hend, ih (by rw [List.length_drop]; omega)]

/-- The fuel makes no difference once there is one unit for each element. -/
theorem cut_fuel (hends : FindsEnd frameEnd) (more : Nat) :
    cut frameEnd (xs.length + more) xs = cutAll frameEnd xs := by
  induction more with
  | zero => rfl
  | succ more ih => rw [← Nat.add_assoc, cut_succ hends _ (Nat.le_add_right _ _), ih]

theorem cutAll_none (h : frameEnd xs = none) : cutAll frameEnd xs = ([], xs) := cut_none h _

theorem cutAll_some (hends : FindsEnd frameEnd) (h : frameEnd xs = some n) :
    cutAll frameEnd xs =
      (xs.take n :: (cutAll frameEnd (xs.drop n)).1, (cutAll frameEnd (xs.drop n)).2) := by
  have hpos := hends.pos h
  have hle := hends.le h
  have hlength : xs.length = (xs.drop n).length + (n - 1) + 1 := by
    rw [List.length_drop]
    omega
  rw [cutAll, hlength, cut_some h, cut_fuel hends]

/-- What is left has no complete frame. -/
theorem cutAll_rest (hends : FindsEnd frameEnd) (xs : List β) :
    frameEnd (cutAll frameEnd xs).2 = none := by
  induction hlength : xs.length using Nat.strongRecOn generalizing xs with
  | _ length ih =>
    cases h : frameEnd xs with
    | none => rw [cutAll_none h]; exact h
    | some n =>
      have hpos := hends.pos h
      have hle := hends.le h
      rw [cutAll_some hends h]
      exact ih (xs.drop n).length (by rw [List.length_drop]; omega) _ rfl

/-- **The frames of a stream are those of its first part, and those of what is left of it with the
rest behind it.** -/
theorem cutAll_append (S : Scanner β) (xs ys : List β) :
    cutAll S.frameEnd (xs ++ ys) =
      ((cutAll S.frameEnd xs).1 ++ (cutAll S.frameEnd ((cutAll S.frameEnd xs).2 ++ ys)).1,
        (cutAll S.frameEnd ((cutAll S.frameEnd xs).2 ++ ys)).2) := by
  induction hlength : xs.length using Nat.strongRecOn generalizing xs with
  | _ length ih =>
    cases h : S.frameEnd xs with
    | none => rw [cutAll_none h, List.nil_append]
    | some n =>
      have hpos := S.pos h
      have hle := S.le h
      rw [cutAll_some S.findsEnd h, cutAll_some S.findsEnd (S.append ys h),
        List.take_append_of_le_length hle, List.drop_append_of_le_length hle,
        ih (xs.drop n).length (by rw [List.length_drop]; omega) _ rfl]
      rfl

/-- The frames and what is left make up the buffer. -/
theorem flatten_cutAll (hends : FindsEnd frameEnd) (xs : List β) :
    (cutAll frameEnd xs).1.flatten ++ (cutAll frameEnd xs).2 = xs := by
  induction hlength : xs.length using Nat.strongRecOn generalizing xs with
  | _ length ih =>
    cases h : frameEnd xs with
    | none => rw [cutAll_none h, List.flatten_nil, List.nil_append]
    | some n =>
      have hpos := hends.pos h
      have hle := hends.le h
      rw [cutAll_some hends h, List.flatten_cons, List.append_assoc,
        ih (xs.drop n).length (by rw [List.length_drop]; omega) _ rfl, List.take_append_drop]

/-- A frame that has been cut off is a frame by itself, to its last element. -/
theorem frameEnd_of_mem_cutAll (S : Scanner β) {xs f : List β}
    (h : f ∈ (cutAll S.frameEnd xs).1) : S.frameEnd f = some f.length := by
  induction hlength : xs.length using Nat.strongRecOn generalizing xs with
  | _ length ih =>
    cases hend : S.frameEnd xs with
    | none =>
      rw [cutAll_none hend] at h
      exact absurd h List.not_mem_nil
    | some n =>
      have hpos := S.pos hend
      have hle := S.le hend
      rw [cutAll_some S.findsEnd hend] at h
      rcases List.mem_cons.mp h with rfl | h
      · rw [S.take hend, List.length_take, Nat.min_eq_left hle]
      · exact ih (xs.drop n).length (by rw [List.length_drop]; omega) h rfl

/-- Frames that are put together are cut apart again, and what has no frame is left. -/
theorem cutAll_flatten_append (S : Scanner β) {frames : List (List β)} {rest : List β}
    (h : ∀ f ∈ frames, S.frameEnd f = some f.length) (hrest : S.frameEnd rest = none) :
    cutAll S.frameEnd (frames.flatten ++ rest) = (frames, rest) := by
  induction frames with
  | nil => exact cutAll_none hrest
  | cons f frames ih =>
    have hend := S.append (frames.flatten ++ rest) (h f List.mem_cons_self)
    rw [List.flatten_cons, List.append_assoc, cutAll_some S.findsEnd hend, List.take_left,
      List.drop_left, ih fun g hg => h g (List.mem_cons_of_mem _ hg)]

theorem cutAll_flatten (S : Scanner β) {frames : List (List β)}
    (h : ∀ f ∈ frames, S.frameEnd f = some f.length) :
    cutAll S.frameEnd frames.flatten = (frames, []) := by
  rw [← List.append_nil frames.flatten]
  exact cutAll_flatten_append S h S.nil

/-- What is left at any point of a stream is shorter than the frame it belongs to in the end, or
than what is left in the end. -/
theorem length_rest_lt (S : Scanner β) {xs ys : List β} {limit : Nat}
    (hframes : ∀ f ∈ (cutAll S.frameEnd (xs ++ ys)).1, f.length ≤ limit)
    (hrest : (cutAll S.frameEnd (xs ++ ys)).2.length < limit) :
    (cutAll S.frameEnd xs).2.length < limit := by
  rw [cutAll_append S] at hframes hrest
  have hnone := cutAll_rest S.findsEnd xs
  generalize (cutAll S.frameEnd xs).2 = rest at *
  cases hend : S.frameEnd (rest ++ ys) with
  | none =>
    rw [cutAll_none hend, List.length_append] at hrest
    omega
  | some n =>
    have hlt := S.lt_of_none hnone hend
    have hle := S.le hend
    rw [cutAll_some S.findsEnd hend] at hframes
    have hfirst := hframes ((rest ++ ys).take n)
      (List.mem_append_right _ List.mem_cons_self)
    rw [List.length_take, Nat.min_eq_left hle] at hfirst
    omega

/-- Every frame is a part of the buffer. -/
theorem infix_of_mem_cutAll (hends : FindsEnd frameEnd) {xs f : List β}
    (h : f ∈ (cutAll frameEnd xs).1) : f <:+: xs := by
  induction hlength : xs.length using Nat.strongRecOn generalizing xs with
  | _ length ih =>
    cases hend : frameEnd xs with
    | none =>
      rw [cutAll_none hend] at h
      exact absurd h List.not_mem_nil
    | some n =>
      have hpos := hends.pos hend
      have hle := hends.le hend
      rw [cutAll_some hends hend] at h
      rcases List.mem_cons.mp h with rfl | h
      · exact (List.take_prefix n xs).isInfix
      · have hinfix := ih (xs.drop n).length (by rw [List.length_drop]; omega) h rfl
        exact hinfix.trans (List.drop_suffix n xs).isInfix

/-- The frames of a reader that takes all it can off its buffer after every chunk, and what is left
in the buffer. -/
def cutChunks (frameEnd : List β → Option Nat) : List β → List (List β) → List (List β) × List β
  | buffer, [] => ([], buffer)
  | buffer, chunk :: chunks =>
      let taken := cutAll frameEnd (buffer ++ chunk)
      let more := cutChunks frameEnd taken.2 chunks
      (taken.1 ++ more.1, more.2)

/-- For a search that does not change its mind the chunks make no difference. -/
theorem cutChunks_eq (S : Scanner β) {buffer : List β} (h : S.frameEnd buffer = none)
    (chunks : List (List β)) :
    cutChunks S.frameEnd buffer chunks = cutAll S.frameEnd (buffer ++ chunks.flatten) := by
  induction chunks generalizing buffer with
  | nil => rw [List.flatten_nil, List.append_nil, cutAll_none h, cutChunks]
  | cons chunk chunks ih =>
    rw [List.flatten_cons, ← List.append_assoc, cutAll_append S, cutChunks,
      ih (cutAll_rest S.findsEnd _)]

end

end LlmUniversalProxy.Lib.Framing
