import ClusterGuard.Proofs.Breaker.Operations
import Mathlib.Algebra.Group.Nat.Defs
import Mathlib.Data.List.Induction

/-!
# Circuit breakers in use

A `Session` is a breaker, the permits it gave out that are still live, and the notes of an onlooker
who sees the operations, the answers, the clock and the state of the circuit, but none of the
breaker's own books. What the books hold is compared with these notes in the modules that follow:
the window with the outcomes `counted`, the trial slots with the permits `live` and the permissions
`loose`, the time the circuit opened with `opening`.

Operations come in any order. A permit is named by its place among the live ones; permits of
earlier epochs stay live, and may be finished or dropped, as long as their holders please.

Results:
* **`booked_run`**: the epoch of the breaker and of each live permit is the number of transitions
  made when it began, modulo `2 ^ 64`.
* `epoch_eq_iff`: so, below `2 ^ 64` transitions, the breaker takes a permit for current exactly
  when no transition was made since it was granted.
* `run_induction`: what every operation keeps holds of every run.
-/

namespace ClusterGuard.Breaker

/-- What the users of a breaker do. -/
inductive Operation where
  /-- Asks for a permit. -/
  | acquire
  /-- Asks for permission without a permit: what is granted is never given back. -/
  | tryAcquire
  | finish (place : Nat) (o : Outcome)
  | drop (place : Nat)
  /-- Records an outcome that belongs to no permit. -/
  | record (o : Outcome)
  | reset
  | advance (d : Duration)
deriving DecidableEq

/-- A permit that is neither finished nor dropped. -/
structure Live where
  permit : Permit
  /-- How many transitions had been made when it was granted. -/
  era : Nat

/-- A breaker in use. -/
structure Session where
  breaker : Breaker
  /-- The live permits, in the order they were granted. -/
  live : List Live
  /-- How many transitions were made. -/
  transitions : Nat
  /-- How many permissions were granted without a permit since the last transition. -/
  loose : Nat
  /-- The outcomes counted since the circuit last became closed, or was closed by hand. -/
  counted : List Outcome
  /-- When the circuit last opened. -/
  opening : Option Instant
  /-- Whether it was closed by hand after that. -/
  resetSince : Bool

namespace Session

variable {s : Session} {c : Config}

/-- A new breaker that nobody has used. -/
def start (name : String) (c : Config) (clock : Instant) : Session where
  breaker := .fresh name c clock
  live := []
  transitions := 0
  loose := 0
  counted := []
  opening := none
  resetSince := false

/-- Whether the permit was granted since the last transition. -/
def Current (s : Session) (l : Live) : Prop := l.era = s.transitions

instance (s : Session) (l : Live) : Decidable (s.Current l) := by unfold Current; infer_instance

/-- The outcome an operation has counted: one recorded while the circuit is closed, directly or by
a permit granted since the last transition. -/
def counts (s : Session) : Operation → Option Outcome
  | .record o => if s.breaker.state = .closed then some o else none
  | .finish place o =>
    match s.live[place]? with
    | some l => if s.breaker.state = .closed ∧ s.Current l then some o else none
    | none => none
  | _ => none

theorem counts_record (h : s.breaker.state = .closed) (o : Outcome) :
    s.counts (.record o) = some o := if_pos h

/-- Notes down the breaker as it is now. A change of state is a transition, and so is closing the
circuit by hand. -/
def note (s : Session) (b : Breaker) (byHand : Bool) : Session :=
  if byHand ∨ b.state ≠ s.breaker.state then
    { s with
      breaker := b
      transitions := s.transitions + 1
      loose := 0
      counted := if b.state = .closed then [] else s.counted
      opening := if b.state = .opened then some b.clock else s.opening
      resetSince := byHand || (s.resetSince && b.state ≠ .opened) }
  else { s with breaker := b }

/-- The session without one of its live permits. -/
def without (s : Session) (place : Nat) : Session := { s with live := s.live.eraseIdx place }

/-- The session with one more outcome counted, if the operation counts one. -/
def tally (s : Session) (op : Operation) : Session :=
  { s with counted := s.counted ++ (s.counts op).toList }

/-- The session after one operation. -/
def step (s : Session) (op : Operation) : Session :=
  match op with
  | .acquire =>
    match s.breaker.request with
    | (.ok p, b) =>
      let s := s.note b false
      { s with live := s.live ++ [⟨p, s.transitions⟩] }
    | (.error _, b) => s.note b false
  | .tryAcquire =>
    match s.breaker.request with
    | (.ok _, b) =>
      let s := s.note b false
      { s with loose := s.loose + 1 }
    | (.error _, b) => s.note b false
  | .finish place o =>
    match s.live[place]? with
    | some l => ((s.tally op).without place).note (s.breaker.finish l.permit o) false
    | none => s
  | .drop place =>
    match s.live[place]? with
    | some l => (s.without place).note (s.breaker.release l.permit) false
    | none => s
  | .record o => (s.tally op).note (s.breaker.record o) false
  | .reset => s.note s.breaker.reset true
  | .advance d => s.note (s.breaker.advance d) false

/-- The session after a run of operations. -/
def run (s : Session) (ops : List Operation) : Session := ops.foldl step s

theorem run_concat (s : Session) (ops : List Operation) (op : Operation) :
    s.run (ops ++ [op]) = (s.run ops).step op := by
  simp [run, List.foldl_append]

/-- **What every operation keeps holds of every run.** -/
theorem run_induction {P : Session → Prop} (h : P s) (ops : List Operation)
    (hstep : ∀ s, ∀ op ∈ ops, P s → P (s.step op)) : P (s.run ops) := by
  induction ops using List.reverseRecOn with
  | nil => exact h
  | append_singleton ops op ih =>
    rw [run_concat]
    have hops := ih fun s op hop => hstep s op (List.mem_append_left _ hop)
    exact hstep _ op (List.mem_append_right _ (List.mem_singleton_self op)) hops

/-! ## Notes -/

@[simp] theorem breaker_without (s : Session) (place : Nat) :
    (s.without place).breaker = s.breaker := rfl

@[simp] theorem breaker_tally (s : Session) (op : Operation) :
    (s.tally op).breaker = s.breaker := rfl

theorem note_of_same {b : Breaker} (h : b.state = s.breaker.state) :
    s.note b false = { s with breaker := b } := if_neg (by simp [h])

theorem note_of_ne {b : Breaker} (h : b.state ≠ s.breaker.state) :
    s.note b false =
      { s with
        breaker := b
        transitions := s.transitions + 1
        loose := 0
        counted := if b.state = .closed then [] else s.counted
        opening := if b.state = .opened then some b.clock else s.opening
        resetSince := s.resetSince && b.state ≠ .opened } := if_pos (Or.inr h)

@[simp] theorem breaker_note (s : Session) (b : Breaker) (byHand : Bool) :
    (s.note b byHand).breaker = b := by
  unfold note
  split <;> rfl

@[simp] theorem live_note (s : Session) (b : Breaker) (byHand : Bool) :
    (s.note b byHand).live = s.live := by
  unfold note
  split <;> rfl

/-- What does not look at the permissions granted need only survive the request, whether there is a
permit or not. -/
theorem step_ask {P : Session → Prop}
    (hP : ∀ s live loose, P s → P { s with live, loose })
    (h : P (s.note s.breaker.request.2 false)) :
    P (s.step .acquire) ∧ P (s.step .tryAcquire) := by
  simp only [step]
  rcases hr : s.breaker.request with ⟨answer, b⟩
  rw [hr] at h
  cases answer with
  | ok p => exact ⟨hP _ _ _ h, hP _ _ _ h⟩
  | error r => exact ⟨h, h⟩

theorem breaker_step_ask (s : Session) :
    (s.step .acquire).breaker = s.breaker.request.2 ∧
      (s.step .tryAcquire).breaker = s.breaker.request.2 :=
  step_ask (P := fun t => t.breaker = s.breaker.request.2) (fun _ _ _ h => h) (breaker_note ..)

theorem transitions_le_note (s : Session) (b : Breaker) (byHand : Bool) :
    s.transitions ≤ (s.note b byHand).transitions := by
  unfold note
  split
  · exact Nat.le_succ _
  · exact Nat.le_refl _

/-- Transitions are never undone. -/
theorem transitions_le_step (s : Session) (op : Operation) :
    s.transitions ≤ (s.step op).transitions := by
  cases op with
  | acquire =>
    simp only [step]
    split <;> exact transitions_le_note ..
  | tryAcquire =>
    simp only [step]
    split <;> exact transitions_le_note ..
  | finish place o =>
    simp only [step]
    split
    · exact transitions_le_note (((s.tally _).without place)) ..
    · exact Nat.le_refl _
  | drop place =>
    simp only [step]
    split
    · exact transitions_le_note (s.without place) ..
    · exact Nat.le_refl _
  | record o => exact transitions_le_note (s.tally _) ..
  | reset => exact transitions_le_note ..
  | advance d => exact transitions_le_note ..

/-! ## Epochs -/

/-- The books of epochs: the epoch of the breaker and those of the live permits are the numbers of
transitions made when they began. -/
structure Booked (c : Config) (s : Session) : Prop where
  config : s.breaker.config = c
  epoch : s.breaker.epoch = .ofNat s.transitions
  live : ∀ l ∈ s.live, l.permit.epoch = .ofNat l.era ∧ l.era ≤ s.transitions

/-- **Current permits.** While fewer than `2 ^ 64` transitions were made, a live permit has the
epoch of the breaker exactly when it was granted since the last transition. -/
theorem epoch_eq_iff (h : Booked c s) (hn : s.transitions < 2 ^ 64) {l : Live} (hl : l ∈ s.live) :
    l.permit.epoch = s.breaker.epoch ↔ s.Current l := by
  obtain ⟨he, hle⟩ := h.live l hl
  rw [he, h.epoch]
  constructor
  · intro heq
    have := congrArg UInt64.toNat heq
    rwa [UInt64.toNat_ofNat_of_lt' (Nat.lt_of_le_of_lt hle hn),
      UInt64.toNat_ofNat_of_lt' hn] at this
  · intro heq
    rw [heq]

theorem booked_start (name : String) (c : Config) (clock : Instant) :
    Booked c (start name c clock) :=
  ⟨rfl, rfl, fun _ hl => absurd hl List.not_mem_nil⟩

theorem booked_note {b : Breaker} (h : Booked c s) (byHand : Bool) (hc : b.config = c)
    (he : b.epoch = if byHand = false ∧ b.state = s.breaker.state then s.breaker.epoch
      else s.breaker.epoch + 1) : Booked c (s.note b byHand) := by
  unfold note
  split
  · rename_i hm
    refine ⟨hc, ?_, fun l hl => ⟨(h.live l hl).1, Nat.le_succ_of_le (h.live l hl).2⟩⟩
    have : ¬(byHand = false ∧ b.state = s.breaker.state) := by
      rintro ⟨rfl, hs⟩
      simp [hs] at hm
    rw [he, if_neg this, h.epoch]
    exact (UInt64.ofNat_add s.transitions 1).symm
  · rename_i hm
    have : byHand = false ∧ b.state = s.breaker.state := by
      simpa using hm
    rw [if_pos this] at he
    exact ⟨hc, he.trans h.epoch, h.live⟩

theorem booked_without (h : Booked c s) (place : Nat) : Booked c (s.without place) :=
  ⟨h.config, h.epoch, fun l hl => h.live l (List.mem_of_mem_eraseIdx hl)⟩

theorem booked_tally (h : Booked c s) (op : Operation) : Booked c (s.tally op) :=
  ⟨h.config, h.epoch, h.live⟩

/-- How a breaker in use answers. -/
theorem requested_of_booked (hc : 0 < c.trials) (h : Booked c s) :
    Requested s.breaker s.breaker.request := by
  refine requested ?_
  rw [h.config]
  exact hc

theorem booked_step (hc : 0 < c.trials) (h : Booked c s) (op : Operation) :
    Booked c (s.step op) := by
  have hreq := requested_of_booked hc h
  have hnote : Booked c (s.note s.breaker.request.2 false) :=
    booked_note h false (hreq.config.trans h.config) (by simpa using hreq.epoch)
  cases op with
  | acquire =>
    simp only [step]
    split
    · rename_i p b hr
      rw [hr] at hreq hnote
      refine ⟨hnote.config, hnote.epoch, fun l hl => ?_⟩
      rcases List.mem_append.mp hl with hl | hl
      · exact hnote.live l hl
      · obtain rfl := List.mem_singleton.mp hl
        have hp : p.epoch = b.epoch := congrArg Permit.epoch (hreq.permit rfl)
        refine ⟨?_, Nat.le_refl _⟩
        rw [hp, ← hnote.epoch, breaker_note]
    · rename_i hr
      rw [hr] at hnote
      exact hnote
  | tryAcquire =>
    simp only [step]
    split
    all_goals
      rename_i hr
      rw [hr] at hnote
      exact ⟨hnote.config, hnote.epoch, hnote.live⟩
  | finish place o =>
    simp only [step]
    split
    · exact booked_note (booked_without (booked_tally h _) place) false
        ((config_finish ..).trans h.config) (by simpa using epoch_finish ..)
    · exact h
  | drop place =>
    simp only [step]
    split
    · exact booked_note (booked_without h place) false ((config_release ..).trans h.config)
        (by simp)
    · exact h
  | record o =>
    exact booked_note (booked_tally h _) false ((recorded ..).config.trans h.config)
      (by simpa using (recorded ..).epoch)
  | reset => exact booked_note h true ((config_enter ..).trans h.config) (by simp [reset])
  | advance d => exact booked_note h false h.config (by simp [advance])

/-- **The epochs count the transitions**, in every run. -/
theorem booked_run (hc : 0 < c.trials) (name : String) (clock : Instant) (ops : List Operation) :
    Booked c ((start name c clock).run ops) :=
  run_induction (booked_start name c clock) ops fun _ op _ h => booked_step hc h op

/-- Finishing a current permit records its outcome; finishing any other one only ends it. -/
theorem step_finish (h : Booked c s) (hn : s.transitions < 2 ^ 64) {place : Nat} {l : Live}
    (hl : s.live[place]? = some l) (o : Outcome) :
    s.step (.finish place o) =
      if s.Current l then (s.without place).step (.record o) else s.without place := by
  have hiff := epoch_eq_iff h hn (List.mem_of_getElem? hl)
  simp only [step, hl]
  by_cases hcur : s.Current l
  · have ht : (s.tally (.finish place o)).without place = (s.without place).tally (.record o) := by
      by_cases hs : s.breaker.state = .closed <;> simp [tally, without, counts, hl, hcur, hs]
    rw [if_pos hcur, finish_of_current (hiff.mpr hcur), ht]
    rfl
  · have ht : (s.tally (.finish place o)).without place = s.without place := by
      simp [tally, without, counts, hl, hcur]
    rw [if_neg hcur, finish_of_stale (fun he => hcur (hiff.mp he)), ht]
    exact note_of_same rfl

/-- Finishing a permit that is not live is nothing. -/
theorem step_finish_of_none {place : Nat} (hl : s.live[place]? = none) (o : Outcome) :
    s.step (.finish place o) = s := by
  simp only [step, hl]

/-! ## Runs within runs -/

/-- Transitions are never undone. -/
theorem transitions_le_run (s : Session) (ops : List Operation) :
    s.transitions ≤ (s.run ops).transitions :=
  run_induction (P := fun t => s.transitions ≤ t.transitions) (Nat.le_refl _) ops
    fun t op _ h => Nat.le_trans h (transitions_le_step t op)

/-- What a request is told, if the operation is one. -/
def told (s : Session) : Operation → Option (Except Rejection Permit)
  | .acquire | .tryAcquire => some s.breaker.request.1
  | _ => none

/-- What the requests of a run are told, in order. -/
def answers (s : Session) : List Operation → List (Except Rejection Permit)
  | [] => []
  | op :: ops => (s.told op).toList ++ (s.step op).answers ops

end Session

end ClusterGuard.Breaker
