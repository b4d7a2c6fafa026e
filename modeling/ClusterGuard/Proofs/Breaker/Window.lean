import ClusterGuard.Proofs.Breaker.Session
import ClusterGuard.Proofs.Number.Whole
import Mathlib.Data.List.DropRight

/-!
# The window of a breaker in use

The window is kept up one outcome at a time: the oldest one leaves when a new one finds it full,
and the number of failures follows. `Windowed` says what that comes to in every run: a closed
breaker keeps the latest of the outcomes counted since it became closed, and not enough of them are
failures to open it; any other breaker keeps nothing.

The bound of `2 ^ 64` transitions keeps a permit from surviving until the epochs repeat.

Results:
* **`windowed_run`**: the window, in every run.
* **`window_refines_history`**: the window, the one way the circuit opens, and the failure rate
  reported, all told by the outcomes counted.
-/

namespace ClusterGuard.Breaker

variable {c : Config}

/-! ## Lists that forget their oldest entries -/

/-- The latest `n` entries of a list that goes on are the latest `n` of those kept so far and the
new one. -/
theorem rtake_concat {α : Type} (l : List α) (x : α) {n : Nat} (hn : 0 < n) :
    (l.rtake n ++ [x]).rtake n = (l ++ [x]).rtake n := by
  obtain ⟨k, rfl⟩ := Nat.exists_eq_succ_of_ne_zero (Nat.ne_of_gt hn)
  rw [List.rtake_concat_succ, List.rtake_concat_succ]
  simp [List.rtake_eq_reverse_take_reverse, List.take_take]

theorem length_rtake_le {α : Type} (l : List α) (n : Nat) : (l.rtake n).length ≤ n := by
  rw [List.rtake, List.length_drop]
  omega

namespace Window

variable {w : Window}

/-- Pushing onto a window that holds the latest outcomes of a history. -/
theorem outcomes_push_rtake {capacity : Nat} (hc : 0 < capacity) {l : List Outcome}
    (hw : w.outcomes = l.rtake capacity) (o : Outcome) :
    (w.push capacity o).outcomes = (l ++ [o]).rtake capacity := by
  have hsize : w.size ≤ capacity := by
    rw [size, hw]
    exact length_rtake_le l capacity
  rw [outcomes_push hc hsize, hw]
  exact rtake_concat l o hc

theorem rate_of_pos (h : 0 < w.size) : w.rate = Binary.percent w.failures w.size := by
  have : w.outcomes ≠ [] := List.ne_nil_of_length_pos h
  unfold rate
  rw [if_neg (by simpa using this)]
  rfl

end Window

/-- Whether a list of outcomes, kept by a breaker, opens it: there are enough of them, and the
percentage of failures among them reaches the threshold. -/
def Trips (c : Config) (kept : List Outcome) : Prop :=
  min c.minimum c.window ≤ kept.length ∧
    c.threshold.le (Binary.percent (kept.count .failure) kept.length) = true

instance (c : Config) (kept : List Outcome) : Decidable (Trips c kept) := by
  unfold Trips
  infer_instance

theorem effectiveMinimum_pos (hc : c.Valid) : 0 < c.effectiveMinimum := by
  obtain ⟨hw, hm, -⟩ := hc
  unfold Config.effectiveMinimum
  omega

/-- The breaker judges its window as `Trips` judges the outcomes kept there. -/
theorem trips_iff (hc : c.Valid) {w : Window} (hw : w.Counted) :
    trips c w = true ↔ Trips c w.outcomes := by
  have hpos := effectiveMinimum_pos hc
  simp only [trips, Bool.and_eq_true, decide_eq_true_eq]
  constructor
  · rintro ⟨hmin, hrate⟩
    rw [Window.rate_of_pos (Nat.lt_of_lt_of_le hpos hmin), hw] at hrate
    exact ⟨hmin, hrate⟩
  · rintro ⟨hmin, hrate⟩
    refine ⟨hmin, ?_⟩
    rw [Window.rate_of_pos (Nat.lt_of_lt_of_le hpos hmin), hw]
    exact hrate

theorem trips_empty (hc : c.Valid) : trips c .empty = false := by
  have hpos := effectiveMinimum_pos hc
  have hsize : Window.empty.size = 0 := rfl
  unfold trips
  rw [hsize]
  simp
  omega

namespace Session

variable {s : Session}

/-! ## What holds of the window -/

/-- What holds of the window of a breaker in use. -/
structure Windowed (c : Config) (s : Session) : Prop where
  failures : s.breaker.window.Counted
  outcomes : s.breaker.state = .closed → s.breaker.window.outcomes = s.counted.rtake c.window
  quiet : s.breaker.state = .closed → trips c s.breaker.window = false
  cleared : s.breaker.state ≠ .closed → s.breaker.window = .empty

theorem windowed_of_empty (hc : c.Valid) (hw : s.breaker.window = .empty)
    (hn : s.breaker.state = .closed → s.counted = []) : Windowed c s where
  failures := by
    rw [hw]
    exact Window.failures_empty
  outcomes h := by
    rw [hw, hn h, List.rtake_nil]
    rfl
  quiet _ := by
    rw [hw]
    exact trips_empty hc
  cleared _ := hw

theorem windowed_note {b : Breaker} (hs : b.state = s.breaker.state)
    (h : Windowed c { s with breaker := b }) : Windowed c (s.note b false) := by
  rw [note_of_same hs]
  exact h

/-- A note of the same state and the same window changes nothing that matters here. -/
theorem windowed_note_of_same {b : Breaker} (h : Windowed c s) (hs : b.state = s.breaker.state)
    (hw : b.window = s.breaker.window) : Windowed c (s.note b false) := by
  refine windowed_note hs ⟨?_, ?_, ?_, ?_⟩
  · simpa only [hw] using h.failures
  · simpa only [hs, hw] using h.outcomes
  · simpa only [hs, hw] using h.quiet
  · simpa only [hs, hw] using h.cleared

/-- After a transition to a state with an empty window there is nothing to remember. -/
theorem windowed_note_of_ne {b : Breaker} (hc : c.Valid) (hs : b.state ≠ s.breaker.state)
    (hw : b.window = .empty) : Windowed c (s.note b false) := by
  rw [note_of_ne hs]
  exact windowed_of_empty hc hw fun h => if_pos h

theorem windowed_start (hc : c.Valid) (name : String) (clock : Instant) :
    Windowed c (start name c clock) :=
  windowed_of_empty hc rfl fun _ => rfl

theorem windowed_without (h : Windowed c s) (place : Nat) : Windowed c (s.without place) :=
  ⟨h.failures, h.outcomes, h.quiet, h.cleared⟩

theorem windowed_requested (hc : c.Valid) (h : Windowed c s)
    {r : Except Rejection Permit × Breaker} (hr : Requested s.breaker r) :
    Windowed c (s.note r.2 false) := by
  cases hr with
  | closed => exact windowed_note_of_same h rfl rfl
  | waiting => exact windowed_note_of_same h rfl rfl
  | probed hs =>
    -- The window was emptied when the circuit opened.
    exact windowed_note_of_ne hc (by simp [hs]) (h.cleared (by simp [hs]))
  | free => exact windowed_note_of_same h rfl rfl
  | full => exact windowed_note_of_same h rfl rfl

theorem windowed_recorded (hc : c.Valid) (hb : Booked c s) (h : Windowed c s) {o : Outcome}
    {b : Breaker} (hr : Recorded s.breaker o b) :
    Windowed c ((s.tally (.record o)).note b false) := by
  cases hr with
  | kept o hs ht =>
    have hout := Window.outcomes_push_rtake hc.1 (h.outcomes hs) o
    rw [hb.config] at ht ⊢
    refine windowed_note rfl ⟨?_, ?_, ?_, ?_⟩
    · exact Window.failures_push h.failures c.window o
    · intro _
      simp only [tally, counts_record hs, Option.toList_some]
      exact hout
    · exact fun _ => ht
    · exact fun hne => absurd hs hne
  | tripped o hs => exact windowed_note_of_ne hc (by simp [hs]) rfl
  | ignored o hs =>
    have hcount : s.tally (.record o) = s := by
      simp [tally, counts, hs]
    rw [hcount]
    exact windowed_note_of_same h rfl rfl
  | succeeded hs => exact windowed_note_of_ne hc (by simp [hs]) rfl
  | failed hs => exact windowed_note_of_ne hc (by simp [hs]) rfl

theorem windowed_step (hc : c.Valid) (hb : Booked c s) (hn : s.transitions < 2 ^ 64)
    (h : Windowed c s) (op : Operation) : Windowed c (s.step op) := by
  have hask := step_ask (P := Windowed c)
    (fun _ _ _ h => ⟨h.failures, h.outcomes, h.quiet, h.cleared⟩)
    (windowed_requested hc h (requested_of_booked hc.2.2.2 hb))
  cases op with
  | acquire => exact hask.1
  | tryAcquire => exact hask.2
  | finish place o =>
    cases hl : s.live[place]? with
    | none => rwa [step_finish_of_none hl]
    | some l =>
      rw [step_finish hb hn hl]
      split
      · exact windowed_recorded hc (booked_without hb place) (windowed_without h place)
          (recorded ..)
      · exact windowed_without h place
  | drop place =>
    simp only [step]
    split
    · exact windowed_note_of_same (windowed_without h place) (state_release ..) (window_release ..)
    · exact h
  | record o => exact windowed_recorded hc hb h (recorded ..)
  | reset => exact windowed_of_empty hc (by simp [step]; rfl) fun _ => rfl
  | advance d => exact windowed_note_of_same h rfl rfl

/-- **The window of a breaker in use**, in every run. -/
theorem windowed_run (hc : c.Valid) (name : String) (clock : Instant) (ops : List Operation)
    (hn : ((start name c clock).run ops).transitions < 2 ^ 64) :
    Windowed c ((start name c clock).run ops) := by
  refine (run_induction (P := fun s => s.transitions < 2 ^ 64 → Booked c s ∧ Windowed c s)
    ?_ ops ?_ hn).2
  · exact fun _ => ⟨booked_start name c clock, windowed_start hc name clock⟩
  · intro s op _ ih hn
    have hn := Nat.lt_of_le_of_lt (transitions_le_step s op) hn
    obtain ⟨hb, hw⟩ := ih hn
    exact ⟨booked_step hc.2.2.2 hb op, windowed_step hc hb hn hw op⟩

/-! ## How a closed breaker opens -/

/-- An outcome counted opens the circuit exactly when the outcomes then kept do. -/
theorem opened_recorded_iff (hc : c.Valid) (hb : Booked c s) (h : Windowed c s)
    (hs : s.breaker.state = .closed) {o : Outcome} {b : Breaker} (hr : Recorded s.breaker o b) :
    b.state = .opened ↔ Trips c ((s.counted ++ [o]).rtake c.window) := by
  have hcount := Window.failures_push h.failures c.window o
  rw [← Window.outcomes_push_rtake hc.1 (h.outcomes hs) o, ← trips_iff hc hcount]
  cases hr with
  | kept _ _ ht =>
    rw [hb.config] at ht
    simp [hs, ht]
  | tripped _ _ ht =>
    rw [hb.config] at ht
    simp [ht]
  | ignored _ hne => simp [hs] at hne
  | succeeded hne => simp [hs] at hne
  | failed hne => simp [hs] at hne

/-- **The one way a closed circuit opens**: by an outcome counted. -/
theorem opened_step_iff (hc : c.Valid) (hb : Booked c s) (hn : s.transitions < 2 ^ 64)
    (h : Windowed c s) (hs : s.breaker.state = .closed) (op : Operation) :
    (s.step op).breaker.state = .opened ↔
      ∃ o, s.counts op = some o ∧ Trips c ((s.counted ++ [o]).rtake c.window) := by
  cases op with
  | acquire => simp [step, counts, request_of_closed hs, hs]
  | tryAcquire => simp [step, counts, request_of_closed hs, hs]
  | finish place o =>
    cases hl : s.live[place]? with
    | none => simp [step_finish_of_none hl, counts, hl, hs]
    | some l =>
      rw [step_finish hb hn hl]
      by_cases hcur : s.Current l
      · simpa [hcur, counts, hl, hs, step] using
          opened_recorded_iff hc hb h hs (recorded s.breaker o)
      · simp [hcur, counts, hl, hs]
  | drop place =>
    cases hl : s.live[place]? with
    | none => simp [step, counts, hl, hs]
    | some l => simp [step, counts, hl, hs]
  | record o => simpa [counts, hs, step] using opened_recorded_iff hc hb h hs (recorded s.breaker o)
  | reset => simp [step, counts, reset]
  | advance d => simp [step, counts, advance, hs]

/-! ## What is reported -/

/-- A rate is reported only where it does not open the circuit. -/
theorem rate_lt_threshold (hc : c.Valid) (hu : c.window < 2 ^ 32) (hb : Booked c s)
    (h : Windowed c s) {rate : Binary .single} (hr : s.breaker.metrics.rate = some rate) :
    rate.lt c.threshold = true := by
  obtain ⟨hmin, rfl⟩ :
      c.effectiveMinimum ≤ s.breaker.window.size ∧ s.breaker.window.rate = rate := by
    simpa [metrics, hb.config] using hr
  have hpos := Nat.lt_of_lt_of_le (effectiveMinimum_pos hc) hmin
  by_cases hs : s.breaker.state = .closed
  · have hsize : s.breaker.window.size < 2 ^ 32 := by
      refine Nat.lt_of_le_of_lt ?_ hu
      rw [Window.size, h.outcomes hs]
      exact length_rtake_le ..
    have hquiet : ¬c.threshold.le s.breaker.window.rate = true := by
      have := h.quiet hs
      simp only [trips, hmin, decide_true, Bool.true_and] at this
      simp [this]
    have hthreshold : c.threshold ≠ .nan := by
      have := hc.2.2.1
      simp only [Config.isThreshold, Bool.and_eq_true] at this
      exact Binary.ne_nan_of_lt this.1
    refine Binary.lt_of_not_le hthreshold ?_ hquiet
    rw [Window.rate_of_pos hpos]
    exact Binary.percent_ne_nan _ hpos hsize
  · rw [h.cleared hs] at hpos
    exact absurd hpos (Nat.lt_irrefl 0)

/-- **The window refines the history of outcomes.** After any run of operations of a breaker with an
accepted configuration: a closed breaker keeps exactly the latest outcomes counted since it became
closed, oldest first, with the number of failures among them; it opens in a step exactly when the
step counts an outcome and those then kept are enough and reach the threshold; a breaker that is
not closed keeps nothing; and a failure rate reported is below the threshold. -/
theorem window_refines_history (hv : c.validate = .ok ()) (hu : c.window < 2 ^ 32) (name : String)
    (clock : Instant) (ops : List Operation)
    (hn : ((start name c clock).run ops).transitions < 2 ^ 64) :
    let s := (start name c clock).run ops
    (s.breaker.state = .closed →
      s.breaker.window.outcomes = s.counted.rtake c.window ∧
      s.breaker.window.failures = (s.counted.rtake c.window).count .failure ∧
      ∀ op, (s.step op).breaker.state = .opened ↔
        ∃ o, s.counts op = some o ∧ Trips c ((s.counted ++ [o]).rtake c.window)) ∧
    (s.breaker.state ≠ .closed → s.breaker.window = .empty) ∧
    ∀ rate, s.breaker.metrics.rate = some rate → rate.lt c.threshold = true := by
  intro s
  have hc := (c.validate_ok_iff).mp hv
  have hb : Booked c s := booked_run hc.2.2.2 name clock ops
  have hw : Windowed c s := windowed_run hc name clock ops hn
  refine ⟨fun hs => ⟨hw.outcomes hs, ?_, fun op => ?_⟩, hw.cleared, fun rate hr => ?_⟩
  · rw [← hw.outcomes hs]
    exact hw.failures
  · exact opened_step_iff hc hb hn hw hs op
  · exact rate_lt_threshold hc hu hb hw hr

/-- A breaker that keeps two outcomes and opens when both are failures. -/
def pair : Config := { window := 2, minimum := 5, threshold := .ofNat _ 100, trials := 1 }

/-- Two callers hold permits at once; one ends with a success and the other with a failure. One more
failure, recorded without a permit, pushes the success out and opens the circuit. -/
theorem window_of_pair :
    let s := (start "pair" pair .zero).run
      [.acquire, .acquire, .finish 1 .success, .finish 0 .failure]
    pair.validate = .ok () ∧ s.transitions < 2 ^ 64 ∧
      s.breaker.window.outcomes = [.success, .failure] ∧
      (s.step (.record .failure)).breaker.state = .opened := by
  have hv : pair.validate = .ok () := pair.validate_ok_iff.mpr (by decide +kernel)
  have hn : ((start "pair" pair .zero).run
      [.acquire, .acquire, .finish 1 .success, .finish 0 .failure]).transitions < 2 ^ 64 := by
    decide +kernel
  obtain ⟨hclosed, -⟩ := window_refines_history hv (by decide) "pair" .zero _ hn
  obtain ⟨houtcomes, -, hopens⟩ := hclosed (by decide +kernel)
  refine ⟨hv, hn, houtcomes.trans (by decide +kernel), ?_⟩
  exact (hopens (.record .failure)).mpr ⟨.failure, by decide +kernel, by decide +kernel⟩

end Session

end ClusterGuard.Breaker
