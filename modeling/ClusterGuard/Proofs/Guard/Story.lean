import ClusterGuard.Proofs.Breaker.Operations
import ClusterGuard.Proofs.Guard.Stretch

/-!
# When attempts begin

An onlooker notes the `Moment` at which each attempt of a call begins, and the `Setback` of each
that fails: when that was, and what the retry said to it. A `Story` is what such notes may tell.
Attempts take turns with setbacks; the one that follows a setback begins at once if there is no
wait, and otherwise not before the timer that was set then. Lawful polls tell nothing else.

Results:
* `exact_of_le`: timers are exact within thirty years, as long as time lasts.
* `Story.setback`, **`Story.rested`**: attempts and setbacks, one after the other.
* **`Story.min_le_reached`**: the time that passed is at least the sum of the waits, if each took
  its time; `Rested.add_le` and `Rested.le_of_short` say when it does.
* **`Told.poll`**: a lawful poll goes on with the story.
-/

namespace ClusterGuard

/-- Whether a timer is exact: a wait of `d` begun at `t` is over at `t + d`, rounded up to the next
whole millisecond. It is not if the wait is longer than timers can wait, or than time lasts. -/
def Exact (t : Instant) (d : Duration) : Prop :=
  (deadline t d).nanos = (t.nanos + d.nanos + 999999) / 1000000 * 1000000

instance (t : Instant) (d : Duration) : Decidable (Exact t d) := by unfold Exact; infer_instance

theorem Exact.add_le {t : Instant} {d : Duration} (h : Exact t d) :
    t.nanos + d.nanos ≤ (deadline t d).nanos := by
  unfold Exact at h
  omega

/-- **Within thirty years timers are exact**, as long as time lasts. -/
theorem exact_of_le {t : Instant} {d : Duration} (hd : d ≤ longestWait)
    (ht : t.nanos + d.nanos + 999999 ≤ maxNanos) : Exact t d := by
  have hsum : (t + d).nanos = min maxNanos (t.nanos + d.nanos) := Duration.nanos_add t d
  have hrounded : (roundUpToMillis (t + d)).nanos
      = min maxNanos (((t + d).nanos + 999999) / 1000000 * 1000000) := rfl
  rw [Exact, deadline, if_pos hd, hrounded, hsum]
  omega

namespace Watch

open Retry (Verdict)

/-! ## Notes -/

/-- One of the polls made, and the time at which it was made. -/
structure Moment where
  poll : Nat
  time : Instant
deriving DecidableEq

/-- The failure of an attempt, numbered from zero, and what the retry said to it. -/
structure Setback where
  attempt : Nat
  moment : Moment
  verdict : Verdict
deriving DecidableEq

/-- How long the wait is that follows a setback. -/
def Setback.nanos (x : Setback) : Nat :=
  match x.verdict with
  | .wait d => d.nanos
  | .giveUp => 0

/-- The sum of the waits, in nanoseconds. -/
def delay (setbacks : List Setback) : Nat := setbacks.foldl (fun sum x => sum + x.nanos) 0

theorem delay_concat (setbacks : List Setback) (x : Setback) :
    delay (setbacks ++ [x]) = delay setbacks + x.nanos := by
  simp [delay]

/-- Whether an attempt may begin at the moment `m'` after a failure at the moment `m` that a wait
follows: in the same poll if the wait is zero, and otherwise not before the deadline. -/
def Rested (m : Moment) (d : Duration) (m' : Moment) : Prop :=
  if d.isZero then m' = m else deadline m.time d ≤ m'.time

/-- If timers are exact, no wait is cut short. -/
theorem Rested.add_le {m m' : Moment} {d : Duration} (h : Rested m d m') (hexact : Exact m.time d) :
    m.time.nanos + d.nanos ≤ m'.time.nanos := by
  unfold Rested at h
  split at h
  · rename_i hzero
    have hd : d.nanos = 0 := by simpa [Duration.isZero] using hzero
    rw [h, hd]
    exact Nat.le_refl _
  · exact Nat.le_trans hexact.add_le h

/-- A wait of at most thirty years is not cut short, except by the end of time. -/
theorem Rested.le_of_short {m m' : Moment} {d : Duration} (h : Rested m d m')
    (hd : d ≤ longestWait) : min maxNanos (m.time.nanos + d.nanos) ≤ m'.time.nanos := by
  unfold Rested at h
  split at h
  · rename_i hzero
    have hd : d.nanos = 0 := by simpa [Duration.isZero] using hzero
    rw [h, hd]
    exact Nat.min_le_right ..
  · exact Nat.le_trans (le_deadline hd m.time) h

/-- An entry of a list that grew by one. -/
theorem getElem?_concat {α : Type} {l : List α} {x y : α} {k : Nat}
    (h : (l ++ [x])[k]? = some y) : l[k]? = some y ∨ k = l.length ∧ y = x := by
  rw [List.getElem?_append] at h
  split at h
  · exact .inl h
  · rename_i hk
    obtain ⟨hzero, rfl⟩ := by simpa [List.getElem?_singleton] using h
    exact .inr ⟨by omega, rfl⟩

/-! ## Stories -/

/-- How far a call has come, and at which moment it came there. -/
inductive Phase where
  | fresh
  | running (since : Moment)
  | resting (since : Moment) (wait : Duration)
  | finished (since : Moment)

/-- Where the clock must stand before anything else happens to the call, in nanoseconds. -/
def Phase.reached : Phase → Nat
  | fresh => 0
  | running since => since.time.nanos
  | resting since wait => since.time.nanos + wait.nanos
  | finished since => since.time.nanos

/-- What may be told of a call: the sum of its waits, where it is kept, the moments at which its
attempts began, and their setbacks. -/
inductive Story : Phase → Option Duration → List Moment → List Setback → Prop
  | fresh (paid : Option Duration) (h : ∀ d, paid = some d → d = .zero) : Story .fresh paid [] []
  | refused (m : Moment) {paid : Option Duration} (h : Story .fresh paid [] []) :
      Story (.finished m) paid [] []
  | first (m : Moment) {paid : Option Duration} (h : Story .fresh paid [] []) :
      Story (.running m) paid [m] []
  | succeeds {m : Moment} (m' : Moment) (hle : m.time ≤ m'.time) {paid : Option Duration}
      {begun : List Moment} {setbacks : List Setback}
      (h : Story (.running m) paid begun setbacks) : Story (.finished m') paid begun setbacks
  | givesUp {m : Moment} (m' : Moment) (hle : m.time ≤ m'.time) {paid : Option Duration}
      {begun : List Moment} {setbacks : List Setback}
      (h : Story (.running m) paid begun setbacks) :
      Story (.finished m') paid begun (setbacks ++ [⟨setbacks.length, m', .giveUp⟩])
  | rests {m : Moment} (m' : Moment) (hle : m.time ≤ m'.time) (d : Duration)
      {paid : Option Duration} {begun : List Moment} {setbacks : List Setback}
      (h : Story (.running m) paid begun setbacks) :
      Story (.resting m' d) (paid.map (· + d)) begun
        (setbacks ++ [⟨setbacks.length, m', .wait d⟩])
  | again {m : Moment} {d : Duration} (m' : Moment) (hrested : Rested m d m')
      {paid : Option Duration} {begun : List Moment} {setbacks : List Setback}
      (h : Story (.resting m d) paid begun setbacks) :
      Story (.running m') paid (begun ++ [m']) setbacks

/-- What may follow setback number `k`: the end, a wait that is not over, or the next attempt, as
soon as it may begin. -/
def Followed (phase : Phase) (begun : List Moment) (k : Nat) (x : Setback) : Prop :=
  (x.verdict = .giveUp ∧ (∃ m, phase = .finished m) ∧ begun.length = k + 1) ∨
    ∃ d, x.verdict = .wait d ∧ ((phase = .resting x.moment d ∧ begun.length = k + 1) ∨
      ∃ m', begun[k + 1]? = some m' ∧ Rested x.moment d m')

/-- All that came before a running attempt is settled. -/
theorem Followed.of_running {m : Moment} {begun : List Moment} {k : Nat} {x : Setback}
    (h : Followed (.running m) begun k x) (phase : Phase) : Followed phase begun k x := by
  obtain ⟨-, ⟨m', hm'⟩, -⟩ | ⟨d, hd, ⟨hm', -⟩ | hnext⟩ := h
  · cases hm'
  · cases hm'
  · exact .inr ⟨d, hd, .inr hnext⟩

namespace Story

variable {phase : Phase} {paid : Option Duration} {begun : List Moment} {setbacks : List Setback}

/-- A running attempt has not failed yet; one before a wait has. -/
theorem length_begun (h : Story phase paid begun setbacks) :
    match phase with
    | .fresh => begun.length = 0 ∧ setbacks.length = 0
    | .running _ => begun.length = setbacks.length + 1
    | .resting .. => begun.length = setbacks.length
    | .finished _ => setbacks.length ≤ begun.length ∧ begun.length ≤ setbacks.length + 1 := by
  induction h with
  | fresh => exact ⟨rfl, rfl⟩
  | refused => exact ⟨Nat.le_refl _, Nat.zero_le _⟩
  | first => rfl
  | succeeds m' hle h ih =>
    simp only at ih ⊢
    omega
  | givesUp m' hle h ih =>
    simp only [List.length_append, List.length_singleton] at ih ⊢
    omega
  | rests m' hle d h ih =>
    simp only [List.length_append, List.length_singleton] at ih ⊢
    omega
  | again m' hrested h ih =>
    simp only [List.length_append, List.length_singleton] at ih ⊢
    omega

/-- All attempts before a running one have failed. -/
theorem length_setbacks {m : Moment} (h : Story (.running m) paid begun setbacks) {made : Nat}
    (hlength : begun.length = made + 1) : setbacks.length = made := by
  have hbegun : begun.length = setbacks.length + 1 := h.length_begun
  omega

/-- After a wait of no time the next attempt begins at once, and the wait adds nothing. -/
theorem goesOn {m₀ m : Moment} (h : Story (.running m₀) paid begun setbacks)
    (hle : m₀.time ≤ m.time) {d : Duration} (hd : d.isZero = true) :
    Story (.running m) paid (begun ++ [m]) (setbacks ++ [⟨setbacks.length, m, .wait d⟩]) := by
  have hrested : Rested m d m := by
    unfold Rested
    rw [if_pos hd]
  have hpaid : paid.map (· + d) = paid := by
    cases paid with
    | none => rfl
    | some w => exact congrArg some (Retry.add_of_isZero hd w)
  have hnext := (h.rests m hle d).again m hrested
  rwa [hpaid] at hnext

/-- **What follows a setback** is the end, a wait, or the next attempt. -/
theorem setback (h : Story phase paid begun setbacks) {k : Nat} {x : Setback}
    (hx : setbacks[k]? = some x) : x.attempt = k ∧ Followed phase begun k x := by
  induction h generalizing k x with
  | fresh => simp at hx
  | refused => simp at hx
  | first => simp at hx
  | succeeds m' hle h ih =>
    obtain ⟨hk, hfollowed⟩ := ih hx
    exact ⟨hk, hfollowed.of_running _⟩
  | givesUp m' hle h ih =>
    rcases getElem?_concat hx with hx | ⟨rfl, rfl⟩
    · obtain ⟨hk, hfollowed⟩ := ih hx
      exact ⟨hk, hfollowed.of_running _⟩
    · exact ⟨rfl, .inl ⟨rfl, ⟨m', rfl⟩, h.length_begun⟩⟩
  | rests m' hle d h ih =>
    rcases getElem?_concat hx with hx | ⟨rfl, rfl⟩
    · obtain ⟨hk, hfollowed⟩ := ih hx
      exact ⟨hk, hfollowed.of_running _⟩
    · exact ⟨rfl, .inr ⟨d, rfl, .inl ⟨rfl, h.length_begun⟩⟩⟩
  | again m' hrested h ih =>
    obtain ⟨hk, ⟨-, ⟨m, hm⟩, -⟩ | ⟨d, hd, ⟨hm, hlength⟩ | ⟨m'', hm'', hnext⟩⟩⟩ := ih hx
    · cases hm
    · cases hm
      refine ⟨hk, .inr ⟨_, hd, .inr ⟨m', ?_, hrested⟩⟩⟩
      rw [← hlength, List.getElem?_concat_length]
    · refine ⟨hk, .inr ⟨d, hd, .inr ⟨m'', ?_, hnext⟩⟩⟩
      rwa [List.getElem?_append_left (List.getElem?_eq_some_iff.mp hm'').1]

/-- **What comes before an attempt** that is not the first: a setback. -/
theorem exists_setback (h : Story phase paid begun setbacks) {k : Nat} {m : Moment}
    (hm : begun[k + 1]? = some m) : ∃ x, setbacks[k]? = some x := by
  have hlength := h.length_begun
  have hlt := (List.getElem?_eq_some_iff.mp hm).1
  have hk : k < setbacks.length := by
    cases phase <;> simp only at hlength <;> omega
  exact ⟨_, List.getElem?_eq_getElem hk⟩

/-- **Before an attempt** that is not the first one, the wait after a setback is over. -/
theorem rested (h : Story phase paid begun setbacks) {k : Nat} {m' : Moment}
    (hm' : begun[k + 1]? = some m') :
    ∃ m d, setbacks[k]? = some ⟨k, m, .wait d⟩ ∧ Rested m d m' := by
  obtain ⟨x, hx⟩ := h.exists_setback hm'
  obtain ⟨rfl, ⟨-, -, hlength⟩ | ⟨d, hd, ⟨-, hlength⟩ | ⟨m'', hm'', hrested⟩⟩⟩ := h.setback hx
  · rw [List.getElem?_eq_none (Nat.le_of_eq hlength)] at hm'
    cases hm'
  · rw [List.getElem?_eq_none (Nat.le_of_eq hlength)] at hm'
    cases hm'
  · obtain rfl : m'' = m' := Option.some.inj (hm''.symm.trans hm')
    obtain ⟨attempt, m, verdict⟩ := x
    obtain rfl : verdict = .wait d := hd
    exact ⟨m, d, hx, hrested⟩

/-- The sum that is kept is the sum of the waits, as far as it can be kept. -/
theorem nanos_paid (h : Story phase paid begun setbacks) {w : Duration} (hw : paid = some w) :
    w.nanos = min maxNanos (delay setbacks) := by
  induction h generalizing w with
  | fresh paid hzero =>
    rw [hzero w hw]
    rfl
  | refused m h ih => exact ih hw
  | first m h ih => exact ih hw
  | succeeds m' hle h ih => exact ih hw
  | givesUp m' hle h ih =>
    rw [delay_concat]
    exact ih hw
  | rests m' hle d h ih =>
    obtain ⟨w', hw', rfl⟩ := Option.map_eq_some_iff.mp hw
    have hsum := ih hw'
    rw [delay_concat, Duration.nanos_add, hsum]
    simp only [Setback.nanos]
    omega
  | again m' hrested h ih => exact ih hw

/-- A call that rests has had a setback. -/
theorem mem_of_resting {m : Moment} {d : Duration}
    (h : Story (.resting m d) paid begun setbacks) :
    ∃ x ∈ setbacks, x.moment = m ∧ x.verdict = .wait d := by
  cases h with
  | rests m' hle d h => exact ⟨_, List.mem_append_right _ (List.mem_singleton_self _), rfl, rfl⟩

/-- **The time that passed** since the first attempt began, as far as `top`, is at least the sum of
the waits if every one of them took its time. -/
theorem min_le_reached {top : Nat} (h : Story phase paid begun setbacks)
    (hwaits : ∀ x ∈ setbacks, ∀ d m', x.verdict = .wait d → Rested x.moment d m' →
      min top (x.moment.time.nanos + d.nanos) ≤ m'.time.nanos)
    {m : Moment} (hm : begun.head? = some m) :
    min top (m.time.nanos + delay setbacks) ≤ phase.reached := by
  induction h with
  | fresh => simp at hm
  | refused => simp at hm
  | first m' h =>
    obtain rfl : m' = m := by simpa using hm
    exact Nat.min_le_right ..
  | succeeds m' hle h ih => exact Nat.le_trans (ih hwaits hm) hle
  | givesUp m' hle h ih =>
    rw [delay_concat]
    exact Nat.le_trans (ih (fun x hx => hwaits x (List.mem_append_left _ hx)) hm) hle
  | rests m' hle d h ih =>
    have hrunning := ih (fun x hx => hwaits x (List.mem_append_left _ hx)) hm
    rw [delay_concat]
    simp only [Phase.reached, Setback.nanos, Duration.le_iff] at hrunning hle ⊢
    omega
  | @again m₀ d m' hrested paid begun setbacks h ih =>
    obtain ⟨x, hx, rfl, hv⟩ := h.mem_of_resting
    have hhead : begun.head? = some m := by
      have hlength : begun.length = setbacks.length := h.length_begun
      have hpos := List.length_pos_of_mem hx
      cases begun with
      | nil =>
        rw [List.length_nil] at hlength
        omega
      | cons first rest => exact hm
    have hresting := ih hwaits hhead
    have hwait := hwaits x hx d m' hv hrested
    simp only [Phase.reached] at hresting ⊢
    omega

end Story

/-! ## Polls go on with the story -/

/-- Whether a call that has come so far looks as it should from the inside. -/
def Phase.Fits : Phase → Posture → Prop
  | fresh, .idle => True
  | running _, .busy => True
  | resting m d, .waiting due => d.isZero = false ∧ due = deadline m.time d
  | finished _, .finished => True
  | _, _ => False

theorem Phase.fits_idle {phase : Phase} : phase.Fits .idle ↔ phase = .fresh := by
  cases phase <;> simp [Fits]

theorem Phase.fits_busy {phase : Phase} : phase.Fits .busy ↔ ∃ m, phase = .running m := by
  cases phase <;> simp [Fits]

theorem Phase.fits_waiting {phase : Phase} {due : Instant} : phase.Fits (.waiting due) ↔
    ∃ m d, phase = .resting m d ∧ d.isZero = false ∧ due = deadline m.time d := by
  cases phase <;> simp [Fits, and_assoc]

theorem Phase.fits_finished {phase : Phase} : phase.Fits .finished ↔ ∃ m, phase = .finished m := by
  cases phase <;> simp [Fits]

theorem Phase.fits_resting {m : Moment} {d : Duration} {posture : Posture} :
    (resting m d).Fits posture ↔
      d.isZero = false ∧ posture = .waiting (deadline m.time d) := by
  cases posture <;> simp [Fits]

/-- The moment at which a call came to where it is. -/
def Phase.since? : Phase → Option Moment
  | fresh => none
  | running since | resting since _ | finished since => some since

/-- The moment at which a call was over. -/
def Phase.ended? : Phase → Option Moment
  | finished since => some since
  | _ => none

variable {ν : Type}

/-- The setback that was reported in a poll, with what the retry says to it. -/
def setbackOf (judge : ν → Nat → Verdict) (m : Moment) (i : Incident ν) : Setback :=
  ⟨i.attempt, m, judge i.error (i.attempt + 1)⟩

/-- The moments at which attempts began, once there are `attempts` of them. -/
def begunBy (m : Moment) (attempts : Nat) (begun : List Moment) : List Moment :=
  begun ++ List.replicate (attempts - begun.length) m

theorem length_begunBy {m : Moment} {attempts : Nat} {begun : List Moment}
    (h : begun.length ≤ attempts) : (begunBy m attempts begun).length = attempts := by
  rw [begunBy, List.length_append, List.length_replicate]
  omega

theorem begunBy_of_le {m : Moment} {attempts : Nat} {begun : List Moment}
    (h : attempts ≤ begun.length) : begunBy m attempts begun = begun := by
  rw [begunBy, Nat.sub_eq_zero_of_le h, List.replicate_zero, List.append_nil]

/-- The next attempt begins first. -/
theorem begunBy_of_lt {m : Moment} {attempts : Nat} {begun : List Moment}
    (h : begun.length < attempts) :
    begunBy m attempts begun = begunBy m attempts (begun ++ [m]) := by
  obtain ⟨k, hk⟩ := Nat.exists_eq_add_of_lt h
  have hleft : attempts - begun.length = k + 1 := by omega
  have hright : attempts - (begun ++ [m]).length = k := by
    rw [List.length_append, List.length_singleton]
    omega
  rw [begunBy, begunBy, hleft, hright, List.append_assoc, List.singleton_append,
    List.replicate_succ]

/-- What a poll made at the moment `m` leaves to be told. -/
structure Tells (m : Moment) (after : Status) (begun : List Moment) (setbacks : List Setback)
    (phase : Phase) : Prop where
  story : Story phase after.paid begun setbacks
  fits : phase.Fits after.posture
  past : ∀ m', phase.since? = some m' → m'.time ≤ m.time
  ended : phase.ended? = if after.posture = .finished then some m else none

variable {judge : ν → Nat → Verdict}

/-- What has come to where it is just now. -/
theorem tells_of_since {m : Moment} {after : Status} {begun : List Moment}
    {setbacks : List Setback} {phase : Phase} (hstory : Story phase after.paid begun setbacks)
    (hfits : phase.Fits after.posture) (hsince : phase.since? = some m)
    (hended : phase.ended? = if after.posture = .finished then some m else none) :
    Tells m after begun setbacks phase where
  story := hstory
  fits := hfits
  past := fun m' hm' => by
    obtain rfl : m = m' := Option.some.inj (hsince.symm.trans hm')
    exact Duration.le_rfl
  ended := hended

/-- **A stretch of attempts goes on with the story** of a running attempt. -/
theorem tells_stretch {m m₀ : Moment} {made : Nat} {paid : Option Duration}
    {failed : List (Incident ν)} {after : Status}
    (h : Stretch judge m.time made paid failed after) {begun : List Moment}
    {setbacks : List Setback} (hstory : Story (.running m₀) paid begun setbacks)
    (hle : m₀.time ≤ m.time) (hlength : begun.length = made + 1) :
    ∃ phase, Tells m after (begunBy m after.attempts begun)
      (setbacks ++ failed.map (setbackOf judge m)) phase := by
  induction h generalizing begun setbacks m₀ with
  | stays made paid =>
    rw [begunBy_of_le (Nat.le_of_eq hlength.symm), List.map_nil, List.append_nil]
    refine ⟨.running m₀, hstory, trivial, ?_, rfl⟩
    rintro m' ⟨⟩
    exact hle
  | succeeds made paid =>
    rw [begunBy_of_le (Nat.le_of_eq hlength.symm), List.map_nil, List.append_nil]
    exact ⟨.finished m, tells_of_since (hstory.succeeds m hle) trivial rfl rfl⟩
  | givesUp made paid e hv =>
    obtain rfl := hstory.length_setbacks hlength
    rw [begunBy_of_le (Nat.le_of_eq hlength.symm), List.map_singleton, setbackOf, hv]
    exact ⟨.finished m, tells_of_since (hstory.givesUp m hle) trivial rfl rfl⟩
  | rests made paid e d hv hd =>
    obtain rfl := hstory.length_setbacks hlength
    rw [begunBy_of_le (Nat.le_of_eq hlength.symm), List.map_singleton, setbackOf, hv]
    exact ⟨.resting m d, tells_of_since (hstory.rests m hle d) ⟨hd, rfl⟩ rfl rfl⟩
  | goesOn made paid e d hv hd rest ih =>
    obtain rfl := hstory.length_setbacks hlength
    have hmore : begun.length < (_ : Status).attempts := hlength ▸ rest.lt
    have htells := ih (hstory.goesOn hle hd) Duration.le_rfl (by simp [hlength])
    rw [begunBy_of_lt hmore, List.map_cons, setbackOf, hv]
    rwa [List.append_assoc, List.singleton_append] at htells

/-! ## Notes of a call -/

/-- What an onlooker has noted about a call. -/
structure Notes where
  /-- The first poll. -/
  first : Option Moment
  /-- When each attempt began. -/
  begun : List Moment
  /-- The failures, in order. -/
  setbacks : List Setback
  /-- The poll in which the call was over. -/
  ended : Option Moment
deriving DecidableEq

/-- The notes about a call that was never polled. -/
def Notes.blank : Notes := ⟨none, [], [], none⟩

/-- The notes after a poll, by the failures reported and by where the call stands then. -/
def Notes.poll (judge : ν → Nat → Verdict) (m : Moment) (failed : List (Incident ν))
    (after : Status) (n : Notes) : Notes where
  first := n.first.or (some m)
  begun := begunBy m after.attempts n.begun
  setbacks := n.setbacks ++ failed.map (setbackOf judge m)
  ended := if after.posture = .finished then n.ended.or (some m) else none

/-- The notes about a call tell a story that fits where it stands. -/
structure Told (now : Instant) (s : Status) (n : Notes) (phase : Phase) : Prop where
  story : Story phase s.paid n.begun n.setbacks
  fits : phase.Fits s.posture
  attempts : n.begun.length = s.attempts
  past : ∀ m, phase.since? = some m → m.time ≤ now
  ended : n.ended = phase.ended?
  first : n.first = n.begun.head?.or n.ended

theorem Told.later {now later : Instant} {s : Status} {n : Notes} {phase : Phase}
    (h : Told now s n phase) (hle : now ≤ later) : Told later s n phase :=
  { h with past := fun m hm => Duration.le_trans (h.past m hm) hle }

/-- No call rests if there is nothing to wait for. -/
theorem Told.begun_of_isZero {now : Instant} {s : Status} {n : Notes} {phase : Phase}
    (h : Told now s n phase) {k : Nat} {x : Setback} {d : Duration}
    (hx : n.setbacks[k]? = some x) (hv : x.verdict = .wait d) (hzero : d.isZero = true) :
    n.begun[k + 1]? = some x.moment := by
  obtain ⟨-, ⟨hgivesUp, -⟩ | ⟨d', hd', ⟨rfl, -⟩ | ⟨m', hm', hrested⟩⟩⟩ := h.story.setback hx
  · rw [hv] at hgivesUp
    cases hgivesUp
  · obtain rfl : d = d' := by simpa [hv] using hd'
    rw [(Phase.fits_resting.mp h.fits).1] at hzero
    cases hzero
  · obtain rfl : d = d' := by simpa [hv] using hd'
    rw [Rested, if_pos hzero] at hrested
    rw [hm', hrested]

/-- The notes after a poll in which attempts were made. -/
theorem told_of_tells {m : Moment} {n : Notes} {failed : List (Incident ν)} {after : Status}
    {phase : Phase} (h : Tells m after (begunBy m after.attempts n.begun)
      (n.setbacks ++ failed.map (setbackOf judge m)) phase)
    (hlength : n.begun.length ≤ after.attempts) (hpos : 0 < after.attempts)
    (hended : n.ended = none) (hfirst : n.first = n.begun.head?.or n.ended) :
    Told m.time after (n.poll judge m failed after) phase where
  story := h.story
  fits := h.fits
  attempts := length_begunBy hlength
  past := h.past
  ended := by
    rw [h.ended, Notes.poll, hended, Option.none_or]
  first := by
    obtain ⟨first, begun, setbacks, ended⟩ := n
    simp only at hended hfirst
    subst hended
    rw [hfirst]
    cases begun with
    | nil =>
      obtain ⟨k, hk⟩ := Nat.exists_eq_succ_of_ne_zero (Nat.ne_of_gt hpos)
      simp [Notes.poll, begunBy, hk, List.replicate_succ]
    | cons begun rest => simp [Notes.poll, begunBy]

/-- A call that rests was polled before. -/
theorem Told.first_of_resting {now : Instant} {s : Status} {n : Notes} {m : Moment}
    {d : Duration} (h : Told now s n (.resting m d)) : ∃ m', n.first = some m' := by
  have hlength : n.begun.length = n.setbacks.length := h.story.length_begun
  obtain ⟨x, hx, -⟩ := h.story.mem_of_resting
  have hpos := List.length_pos_of_mem hx
  rw [h.first]
  cases hbegun : n.begun with
  | nil =>
    rw [hbegun, List.length_nil] at hlength
    omega
  | cons m' rest => exact ⟨m', rfl⟩

/-- A poll that finds a call resting leaves the notes as they are. -/
theorem Told.poll_resting {now : Instant} {s : Status} {n : Notes} {m₀ : Moment} {d : Duration}
    (h : Told now s n (.resting m₀ d)) (judge : ν → Nat → Verdict) (m : Moment) :
    n.poll judge m [] s = n := by
  have hbegun : begunBy m s.attempts n.begun = n.begun :=
    begunBy_of_le (Nat.le_of_eq h.attempts.symm)
  have hposture : s.posture ≠ .finished := by
    rw [(Phase.fits_resting.mp h.fits).2]
    exact Posture.noConfusion
  obtain ⟨m', hm'⟩ := h.first_of_resting
  obtain ⟨first, begun, setbacks, ended⟩ := n
  obtain rfl : first = some m' := hm'
  obtain rfl : ended = none := h.ended
  simp only [Notes.poll, hbegun, hposture, if_false, List.map_nil, List.append_nil, Option.some_or]

/-- A poll that finds a call finished leaves the notes as they are. -/
theorem Told.poll_finished {now : Instant} {s : Status} {n : Notes} {m₀ : Moment}
    (h : Told now s n (.finished m₀)) (hposture : s.posture = .finished)
    (judge : ν → Nat → Verdict) (m : Moment) : n.poll judge m [] s = n := by
  have hbegun : begunBy m s.attempts n.begun = n.begun :=
    begunBy_of_le (Nat.le_of_eq h.attempts.symm)
  have hended : n.ended = some m₀ := h.ended
  obtain ⟨m', hm'⟩ : ∃ m', n.first = some m' := by
    rw [h.first, hended]
    cases n.begun with
    | nil => exact ⟨m₀, rfl⟩
    | cons m' rest => exact ⟨m', rfl⟩
  obtain ⟨first, begun, setbacks, ended⟩ := n
  obtain rfl : first = some m' := hm'
  obtain rfl : ended = some m₀ := hended
  simp only [Notes.poll, hbegun, hposture, if_true, List.map_nil, List.append_nil, Option.some_or]

/-- There is nothing to tell about a fresh call. -/
theorem Told.eq_blank {now : Instant} {s : Status} {n : Notes} (h : Told now s n .fresh) :
    n = .blank := by
  obtain ⟨first, begun, setbacks, ended⟩ := n
  have hlength := h.story.length_begun
  obtain rfl : begun = [] := List.length_eq_zero_iff.mp hlength.1
  obtain rfl : setbacks = [] := List.length_eq_zero_iff.mp hlength.2
  obtain rfl : ended = none := h.ended
  obtain rfl : first = none := h.first
  rfl

section Stretch

variable {m : Moment} {now : Instant} {made : Nat} {paid : Option Duration} {after : Status}
  {n : Notes} {failed : List (Incident ν)}

/-- The first attempts begin with the first poll. -/
theorem Told.poll_first (h : Told now ⟨0, .idle, paid⟩ n .fresh)
    (hstretch : Stretch judge m.time 0 paid failed after) :
    ∃ phase, Told m.time after (n.poll judge m failed after) phase := by
  obtain rfl := h.eq_blank
  have hpos : 0 < after.attempts := Nat.zero_lt_of_lt hstretch.lt
  obtain ⟨phase, htells⟩ := tells_stretch hstretch (.first m h.story) Duration.le_rfl rfl
  have hbegun : begunBy m after.attempts [] = begunBy m after.attempts [m] := begunBy_of_lt hpos
  rw [← hbegun] at htells
  exact ⟨phase, told_of_tells htells (Nat.zero_le _) hpos rfl rfl⟩

/-- A running attempt goes on, and others may follow. -/
theorem Told.poll_running {m₀ : Moment} (h : Told now ⟨made + 1, .busy, paid⟩ n (.running m₀))
    (hnow : now ≤ m.time) (hstretch : Stretch judge m.time made paid failed after) :
    ∃ phase, Told m.time after (n.poll judge m failed after) phase := by
  have hle := Duration.le_trans (h.past m₀ rfl) hnow
  obtain ⟨phase, htells⟩ := tells_stretch hstretch h.story hle h.attempts
  have hmore : n.begun.length ≤ after.attempts := h.attempts ▸ hstretch.lt
  exact ⟨phase, told_of_tells htells hmore (Nat.zero_lt_of_lt hstretch.lt) h.ended h.first⟩

/-- Once the timer has fired, the next attempt begins. -/
theorem Told.poll_again {m₀ : Moment} {d : Duration} {due : Instant}
    (h : Told now ⟨made, .waiting due, paid⟩ n (.resting m₀ d)) (hdue : ¬m.time < due)
    (hstretch : Stretch judge m.time made paid failed after) :
    ∃ phase, Told m.time after (n.poll judge m failed after) phase := by
  obtain ⟨hd, rfl⟩ := h.fits
  have hrested : Rested m₀ d m := by
    unfold Rested
    rw [if_neg (by simp [hd])]
    exact Nat.le_of_not_lt hdue
  have hlength : n.begun.length = made := h.attempts
  obtain ⟨phase, htells⟩ := tells_stretch hstretch (h.story.again m hrested) Duration.le_rfl
    (by simp [hlength])
  have hmore : n.begun.length < after.attempts := hlength ▸ hstretch.lt
  rw [← begunBy_of_lt hmore] at htells
  exact ⟨phase, told_of_tells htells (Nat.le_of_lt hmore) (Nat.zero_lt_of_lt hmore) h.ended h.first⟩

end Stretch

/-- **A lawful poll goes on with the story.** -/
theorem Told.poll {m : Moment} {now : Instant} {before after : Status} {n : Notes}
    {phase : Phase} {failed : List (Incident ν)} (h : Told now before n phase)
    (hnow : now ≤ m.time) (hlaw : Lawful judge m.time before failed after) :
    ∃ phase, Told m.time after (n.poll judge m failed after) phase := by
  have hfits := h.fits
  cases hlaw with
  | first hstretch =>
    obtain rfl := Phase.fits_idle.mp hfits
    exact h.poll_first hstretch
  | refused paid =>
    obtain rfl := Phase.fits_idle.mp hfits
    obtain rfl := h.eq_blank
    refine ⟨.finished m, .refused m h.story, trivial, rfl, ?_, rfl, rfl⟩
    rintro m' ⟨⟩
    exact Duration.le_rfl
  | goesOn hstretch =>
    obtain ⟨m₀, rfl⟩ := Phase.fits_busy.mp hfits
    exact h.poll_running hnow hstretch
  | early made paid hlt =>
    obtain ⟨m₀, d, rfl, -⟩ := Phase.fits_waiting.mp hfits
    rw [h.poll_resting]
    exact ⟨_, h.later hnow⟩
  | fired hdue hstretch =>
    obtain ⟨m₀, d, rfl, -⟩ := Phase.fits_waiting.mp hfits
    exact h.poll_again hdue hstretch
  | finished made paid =>
    obtain ⟨m₀, rfl⟩ := Phase.fits_finished.mp hfits
    rw [h.poll_finished rfl]
    exact ⟨_, h.later hnow⟩

end Watch

end ClusterGuard
