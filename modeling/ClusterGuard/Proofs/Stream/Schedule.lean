import ClusterGuard.Stream.Source
import ClusterGuard.Time.Timer
import Mathlib.Data.Nat.Find
import Mathlib.Data.Prod.Lex
import Mathlib.Order.WellFounded

/-!
# Polling to the end

A schedule is the instants at which something is polled, in order. Nothing is said about the time
between two polls; timers may have fired long before, or not yet. A schedule is `Patient` if every
timer that is set at one of its polls has fired at some later one.

A `Reading` is a stream together with what it has signalled so far.

Results:
* **`Advances.exists_over`**: what gets on with every poll, except while it waits for a timer, comes
  to its end under every patient schedule.
* `Reading.run_induction`: what every poll keeps holds after every schedule.
-/

namespace ClusterGuard

/-- Whether every timer set at one poll has fired at some later one. -/
def Patient (polls : Nat → Instant) : Prop :=
  ∀ k d, ∃ j, k < j ∧ deadline (polls k) d ≤ polls j

/-- The first polls of a schedule. -/
def firstPolls (polls : Nat → Instant) (k : Nat) : List Instant := (List.range k).map polls

theorem firstPolls_succ (polls : Nat → Instant) (k : Nat) :
    firstPolls polls (k + 1) = firstPolls polls k ++ [polls k] := by
  simp [firstPolls, List.range_succ]

theorem firstPolls_eq_cons (polls : Nat → Instant) (k : Nat) :
    firstPolls polls (k + 1) = polls 0 :: firstPolls (fun j => polls (j + 1)) k := by
  simp [firstPolls, List.range_succ_eq_map, Function.comp_def]

/-! ## Getting on -/

/-- How something gets on that is polled. Before the timer it waits for has fired, a poll does not
change it; any other poll ends it or lowers its rank, and where it then waits, it waits for a timer
set at this poll. -/
structure Advances {S : Type} (poll : S → Instant → S) (wakesAt? : S → Option Instant)
    (finished sane : S → Prop) (rank : S → Nat ×ₗ Nat) : Prop where
  early : ∀ {s due now}, wakesAt? s = some due → now < due → poll s now = s
  onward : ∀ {s now}, sane s → ¬finished s → (∀ due, wakesAt? s = some due → ¬now < due) →
    finished (poll s now) ∨
      sane (poll s now) ∧ rank (poll s now) < rank s ∧
        ∀ due, wakesAt? (poll s now) = some due → ∃ d, due = deadline now d

namespace Advances

variable {S : Type} {poll : S → Instant → S} {wakesAt? : S → Option Instant}
  {finished sane : S → Prop}
  {rank : S → Nat ×ₗ Nat} {polls : Nat → Instant} {start : S}

/-- The state after the first polls of a schedule. -/
def after (poll : S → Instant → S) (polls : Nat → Instant) (start : S) (k : Nat) : S :=
  (firstPolls polls k).foldl poll start

theorem after_succ (poll : S → Instant → S) (polls : Nat → Instant) (start : S) (k : Nat) :
    after poll polls start (k + 1) = poll (after poll polls start k) (polls k) := by
  simp [after, firstPolls_succ, List.foldl_append]

/-- What waits for a timer stays as it is until the timer has fired. -/
theorem after_of_early (h : Advances poll wakesAt? finished sane rank) {k j : Nat} (hkj : k ≤ j)
    (hearly : ∀ i, k ≤ i → i < j → ∃ due,
      wakesAt? (after poll polls start k) = some due ∧ polls i < due) :
    after poll polls start j = after poll polls start k := by
  induction j, hkj using Nat.le_induction with
  | base => rfl
  | succ j hkj ih =>
    have hj := ih fun i hi hij => hearly i hi (Nat.lt_succ_of_lt hij)
    obtain ⟨due, hw, hlt⟩ := hearly j hkj (Nat.lt_succ_self j)
    rw [after_succ, hj]
    exact h.early hw hlt

/-- Where the timer will have fired at some poll to come, there is a first such poll, and nothing
changes before it. -/
theorem exists_fired (h : Advances poll wakesAt? finished sane rank) {k : Nat}
    (hfires : ∀ due, wakesAt? (after poll polls start k) = some due → ∃ j, k ≤ j ∧ due ≤ polls j) :
    ∃ j, after poll polls start j = after poll polls start k ∧
      ∀ due, wakesAt? (after poll polls start k) = some due → ¬polls j < due := by
  classical
  have hready : ∃ j, k ≤ j ∧
      ∀ due, wakesAt? (after poll polls start k) = some due → ¬polls j < due := by
    cases hwait : wakesAt? (after poll polls start k) with
    | none => exact ⟨k, Nat.le_refl k, fun due hdue => by cases hdue⟩
    | some due =>
      obtain ⟨j, hkj, hle⟩ := hfires due hwait
      refine ⟨j, hkj, fun due' hdue => ?_⟩
      obtain rfl := Option.some.inj hdue
      exact Nat.not_lt.mpr hle
  obtain ⟨hkj, hfired⟩ := Nat.find_spec hready
  refine ⟨Nat.find hready, h.after_of_early hkj fun i hki hij => ?_, hfired⟩
  have hmin := Nat.find_min hready hij
  simp only [not_and, not_forall, not_not] at hmin
  obtain ⟨due, hdue, hlt⟩ := hmin hki
  exact ⟨due, hdue, hlt⟩

/-- **Under a patient schedule everything that gets on comes to its end.** -/
theorem exists_over (h : Advances poll wakesAt? finished sane rank) (hp : Patient polls)
    (start : S) (hs : sane start) (hw : wakesAt? start = none) :
    ∃ k, finished (after poll polls start k) := by
  -- By induction on the rank, at every poll by which the timer, if there is one, is yet to fire.
  suffices hmain : ∀ ρ k, sane (after poll polls start k) → rank (after poll polls start k) = ρ →
      (∀ due, wakesAt? (after poll polls start k) = some due → ∃ j, k ≤ j ∧ due ≤ polls j) →
      ∃ k, finished (after poll polls start k) by
    refine hmain _ 0 hs rfl fun due hdue => ?_
    have hnone : wakesAt? start = some due := hdue
    rw [hw] at hnone
    cases hnone
  intro ρ
  induction ρ using WellFoundedLT.induction with
  | ind ρ ih =>
    intro k hsane hrank hfires
    by_cases hover : finished (after poll polls start k)
    · exact ⟨k, hover⟩
    obtain ⟨j, hsame, hfired⟩ := h.exists_fired hfires
    have hnext : after poll polls start (j + 1) = poll (after poll polls start k) (polls j) := by
      rw [after_succ, hsame]
    rcases h.onward hsane hover hfired with hend | ⟨hsane', hlt, htimer⟩
    · exact ⟨j + 1, hnext ▸ hend⟩
    · refine ih _ (hrank ▸ hlt) (j + 1) (hnext ▸ hsane') (hnext ▸ rfl) fun due hdue => ?_
      rw [hnext] at hdue
      obtain ⟨d, rfl⟩ := htimer due hdue
      exact hp j d

end Advances

/-! ## Readings -/

variable {w τ ε α : Type}

/-- The result that a signal delivers, if it delivers one. -/
def Signal.result? : Signal ε α → Option (Except ε α)
  | pending => none
  | value a => some (.ok a)
  | failure e => some (.error e)
  | ended => none

/-- Whether a signal is the last that means anything: an error or the end. -/
def Signal.IsLast : Signal ε α → Prop
  | pending | value _ => False
  | failure _ | ended => True

/-- A stream with what it has signalled so far. -/
structure Reading (w τ ε α : Type) where
  signals : List (Signal ε α)
  stream : τ
  world : w

namespace Reading

/-- A stream that was not polled yet. -/
def start (stream : τ) (world : w) : Reading w τ ε α := ⟨[], stream, world⟩

/-- The results delivered so far, in order. -/
def results (s : Reading w τ ε α) : List (Except ε α) := s.signals.filterMap (·.result?)

/-- Whether an error or the end was signalled. -/
def IsOver (s : Reading w τ ε α) : Prop := ∃ signal ∈ s.signals, signal.IsLast

/-- The stream after one more signal. -/
def take (s : Reading w τ ε α) : Signal ε α × τ × w → Reading w τ ε α
  | (signal, stream, world) => ⟨s.signals ++ [signal], stream, world⟩

/-- Polls a stream at an instant. -/
def poll (source : Instant → Source w τ ε α) (s : Reading w τ ε α) (now : Instant) :
    Reading w τ ε α := s.take ((source now).poll s.stream s.world)

/-- Polls a stream at some instants, one after the other. -/
def run (source : Instant → Source w τ ε α) (s : Reading w τ ε α) (polls : List Instant) :
    Reading w τ ε α := polls.foldl (poll source) s

theorem results_take (s : Reading w τ ε α) (signal : Signal ε α) (stream : τ) (world : w) :
    (s.take (signal, stream, world)).results = s.results ++ signal.result?.toList := by
  cases h : signal.result? <;> simp [take, results, h]

theorem isOver_take (s : Reading w τ ε α) (signal : Signal ε α) (stream : τ) (world : w) :
    (s.take (signal, stream, world)).IsOver ↔ s.IsOver ∨ signal.IsLast := by
  simp [take, IsOver, or_and_right, exists_or]

/-- What a schedule leaves of the stream and its surroundings. -/
theorem state_run (source : Instant → Source w τ ε α) (s : Reading w τ ε α)
    (polls : List Instant) :
    ((s.run source polls).stream, (s.run source polls).world)
      = polls.foldl (fun t now => ((source now).poll t.1 t.2).2) (s.stream, s.world) := by
  induction polls generalizing s with
  | nil => rfl
  | cons now polls ih => exact ih (s.poll source now)

/-- **What every poll keeps holds after every schedule.** -/
theorem run_induction {source : Instant → Source w τ ε α} {P : Reading w τ ε α → Prop}
    {s : Reading w τ ε α} (h : P s) (hstep : ∀ s now, P s → P (s.poll source now))
    (polls : List Instant) : P (s.run source polls) := by
  induction polls generalizing s with
  | nil => exact h
  | cons now polls ih => exact ih (hstep s now h)

end Reading

end ClusterGuard
