import ClusterGuard.Proofs.Guard.Story
import Mathlib.Data.List.Induction

/-!
# Many calls that wait

A `Session` is any number of calls that are polled in any order and as often as anybody likes, while
time passes: retried work, guarded calls and retried streams, some of which are given up. They share
a retry, a guard and their surroundings, and between two polls all of these may change in any way:
chance draws new jitter, somebody uses the breaker, even the configuration may be another one.

The onlooker's notes are made of what is seen from the outside: the polls, the numbers of attempts
that the calls count themselves, and the failures that the attempts report.

Results:
* `Machine.lawful_poll`: a poll of any of the calls is lawful.
* `faithful_step`, `faithful_run`: the notes about every call tell a story.
* **`retries_are_punctual`**: no attempt begins before its wait is over, none begins later than the
  next poll, and none begins when nobody asks for it any more.
-/

namespace ClusterGuard.Watch

open Retry (Verdict)

variable {σ τ ε α : Type}

/-! ## Calls -/

/-- What the calls of a session share. -/
structure Shared (σ ε : Type) where
  guard : Guard
  retry : Retry ε
  around : σ

/-- What follows a failure: of retried work and streams, or of guarded calls. -/
def Shared.judge (x : Shared σ ε) : ε ⊕ Fault → Nat → Verdict
  | .inl e => x.retry.verdict e
  | .inr fault => x.guard.retry.verdict fault

/-- A call that was begun. -/
inductive Machine (σ τ ε α : Type) where
  | task (task : Retry.Task (Observed σ (ε ⊕ Fault)) ε α)
  | guarded (call : Guard.Call (Observed σ (ε ⊕ Fault)) α)
  | stream (stream : Retrying (Nat × τ))

/-- What a poll comes to. -/
structure Polled (σ τ ε α : Type) where
  shared : Shared σ ε
  /-- The failures that were reported. -/
  incidents : List (Incident (ε ⊕ Fault))
  status : Status
  /-- What is left to poll; nothing of a call that has delivered its result. -/
  rest : Option (Machine σ τ ε α)
  /-- Whether nothing was delivered. -/
  pending : Bool

/-- What the poll of work comes to, after which a call stands as `status` or `last` says. -/
def Polled.ofProgress {ρ β : Type} (status : ρ → Status) (last : β → Status)
    (call : ρ → Machine σ τ ε α) (shared : Shared σ ε) (incidents : List (Incident (ε ⊕ Fault))) :
    Progress ρ β → Polled σ τ ε α
  | .pending rest => ⟨shared, incidents, status rest, some (call rest), true⟩
  | .ready value => ⟨shared, incidents, last value, none, false⟩

namespace Machine

/-- Where a call stands. -/
def status : Machine σ τ ε α → Status
  | task t => t.status
  | guarded call => call.status
  | stream t => t.status

/-- Work that is retried, and reports its failures. -/
def ofWork (work : Work σ ε α) : Machine σ τ ε α :=
  .task (.start fun k => ⟨(work k).waits, (work k).run.observed k .inl⟩)

/-- A guarded call of work that reports its failures. -/
def ofGuarded (work : Work σ Cause α) : Machine σ τ ε α :=
  .guarded (.unstarted fun k => ⟨(work k).waits, (work k).run.observed k (.inr ∘ Fault.ofCause)⟩)

/-- A retried stream whose subscriptions know their numbers. -/
def ofStream (subscribe : Nat → τ) : Machine σ τ ε α := .stream (.start fun k => (k, subscribe k))

/-- Polls a call. -/
def poll (inner : Source σ τ ε α) (x : Shared σ ε) (now : Instant) :
    Machine σ τ ε α → Polled σ τ ε α
  | task t =>
    let (progress, retry, s) := t.poll x.retry now ⟨x.around, []⟩
    .ofProgress (·.status) (·.status) .task ⟨x.guard, retry, s.around⟩ s.incidents progress
  | guarded call =>
    let (progress, guard, s) := call.poll x.guard now ⟨x.around, []⟩
    .ofProgress (·.status) (·.status) .guarded ⟨guard, x.retry, s.around⟩ s.incidents progress
  | stream t =>
    let (signal, t, retry, s) := t.poll (inner.observed .inl) now x.retry ⟨x.around, []⟩
    ⟨⟨x.guard, retry, s.around⟩, s.incidents, t.status, some (.stream t), signal.isPending⟩

/-- Gives up a call. -/
def drop (inner : Source σ τ ε α) (x : Shared σ ε) : Machine σ τ ε α → Shared σ ε
  | task _ => x
  | guarded call => { x with guard := call.abandon x.guard }
  | stream t =>
    { x with
      around := (t.drop (inner.observed (Sum.inl (β := Fault))) ⟨x.around, []⟩).around }

/-- A call whose attempts report their failures. -/
def Reporting : Machine σ τ ε α → Prop
  | task t => t.Reporting .inl
  | guarded call => call.Reporting .inr
  | stream t => t.Reporting

theorem reporting_ofWork (work : Work σ ε α) : (ofWork work : Machine σ τ ε α).Reporting :=
  ⟨fun k => Act.reports_observed k _ _, rfl⟩

theorem reporting_ofGuarded (work : Work σ Cause α) :
    (ofGuarded work : Machine σ τ ε α).Reporting := fun k => Act.reports_observed k _ _

theorem reporting_ofStream (subscribe : Nat → τ) :
    (ofStream subscribe : Machine σ τ ε α).Reporting := ⟨fun _ => rfl, rfl⟩

variable {inner : Source σ τ ε α} {x : Shared σ ε} {now : Instant} {m : Machine σ τ ε α}

/-- What a lawful poll of a call comes to. -/
structure LawfulPoll (x : Shared σ ε) (now : Instant) (m : Machine σ τ ε α)
    (p : Polled σ τ ε α) : Prop where
  lawful : Lawful x.judge now m.status p.incidents p.status
  rest : ∀ m', p.rest = some m' → m'.Reporting ∧ m'.status = p.status
  finished : p.rest = none → p.status.posture = .finished

theorem lawfulPoll_ofProgress {ρ β : Type} {inv : ρ → Prop} {status : ρ → Status}
    {last : β → Status} {call : ρ → Machine σ τ ε α} {s : Observed σ (ε ⊕ Fault)}
    {progress : Progress ρ β}
    (h : progress.Obeys inv status last (Lawful x.judge now m.status) ⟨x.around, []⟩ s)
    (hcall : ∀ rest, inv rest → (call rest).Reporting ∧ (call rest).status = status rest)
    (hlast : ∀ value, (last value).posture = .finished) (shared : Shared σ ε) :
    LawfulPoll x now m (.ofProgress status last call shared s.incidents progress) := by
  cases progress with
  | pending rest =>
    obtain ⟨hinv, failed, hs, hlaw⟩ := h
    obtain rfl : s.incidents = failed := hs
    refine ⟨hlaw, ?_, fun hnone => by cases hnone⟩
    rintro m' ⟨⟩
    exact hcall rest hinv
  | ready value =>
    obtain ⟨failed, hs, hlaw⟩ := h
    obtain rfl : s.incidents = failed := hs
    refine ⟨hlaw, ?_, fun _ => hlast value⟩
    rintro m' ⟨⟩

/-- **A poll of a call** is lawful. -/
theorem lawful_poll (h : m.Reporting) (inner : Source σ τ ε α) (x : Shared σ ε) (now : Instant) :
    LawfulPoll x now m (m.poll inner x now) := by
  cases m with
  | task t =>
    have hjudge (e : ε) (n : Nat) : x.judge (.inl e) n = x.retry.verdict e n := rfl
    have hpoll := Retry.Task.lawful_poll hjudge now h ⟨x.around, []⟩
    refine lawfulPoll_ofProgress (m := .task t) hpoll ?_ (fun _ => rfl) _
    exact fun _ hrest => ⟨hrest, rfl⟩
  | guarded call =>
    have hjudge (e : Fault) (n : Nat) : x.judge (.inr e) n = x.guard.retry.verdict e n := rfl
    have hpoll := Guard.Call.lawful_poll hjudge now h ⟨x.around, []⟩
    refine lawfulPoll_ofProgress (m := .guarded call) hpoll ?_ (fun _ => rfl) _
    exact fun _ hrest => ⟨hrest, rfl⟩
  | stream t =>
    have hjudge (e : ε) (n : Nat) : x.judge (.inl e) n = x.retry.verdict e n := rfl
    obtain ⟨ht, failed, hs, hlaw⟩ := Retrying.lawful_poll inner now hjudge h ⟨x.around, []⟩
    rw [List.nil_append] at hs
    subst hs
    refine ⟨hlaw, ?_, fun hnone => by cases hnone⟩
    rintro m' ⟨⟩
    exact ⟨ht, rfl⟩

/-- **A poll before the deadline** leaves everything as it is. -/
theorem poll_of_early {due : Instant} (h : m.status.posture = .waiting due) (hlt : now < due)
    (inner : Source σ τ ε α) (x : Shared σ ε) :
    m.poll inner x now = ⟨x, [], m.status, some m, true⟩ := by
  cases m with
  | task t =>
    simp only [poll, Retry.Task.poll_of_early (Retry.Task.wakesAt_of_waiting h) hlt]
    rfl
  | guarded call =>
    simp only [poll, Guard.Call.poll_of_early (Guard.Call.wakesAt_of_waiting h) hlt]
    rfl
  | stream t =>
    simp only [poll, Retrying.poll_of_early (Retrying.wakesAt_of_waiting h) hlt]
    rfl

end Machine

/-! ## Many calls -/

/-- Whether somebody still holds a call. -/
inductive Hold (σ τ ε α : Type) where
  | held (m : Machine σ τ ε α)
  | finished (status : Status)
  | dropped

/-- What became of a call that was polled. -/
def Polled.hold (p : Polled σ τ ε α) : Hold σ τ ε α :=
  match p.rest with
  | some m => .held m
  | none => .finished p.status

/-- A call, and what was noted about it. -/
structure Watched (σ τ ε α : Type) where
  hold : Hold σ τ ε α
  notes : Notes

/-- Calls in use. -/
structure Session (σ τ ε α : Type) where
  shared : Shared σ ε
  now : Instant
  /-- How many polls were made. -/
  polls : Nat
  /-- All calls, in the order they were begun. -/
  calls : List (Watched σ τ ε α)

/-- What happens in a session. A call is named by its place. -/
inductive Event (σ τ ε α : Type) where
  | execute (work : Work σ ε α)
  | guard (work : Work σ Cause α)
  | subscribe (f : Nat → τ)
  | poll (place : Nat)
  | drop (place : Nat)
  | advance (d : Duration)
  /-- What the calls share changes in any way. -/
  | meanwhile (change : Shared σ ε → Shared σ ε)

namespace Session

/-- A session with no calls. -/
def start (x : Shared σ ε) (now : Instant) : Session σ τ ε α := ⟨x, now, 0, []⟩

/-- The session with another call. -/
def begin (s : Session σ τ ε α) (m : Machine σ τ ε α) : Session σ τ ε α :=
  { s with calls := s.calls ++ [⟨.held m, .blank⟩] }

/-- The session after one event. A call that has ended or was given up is not polled again. -/
def step (inner : Source σ τ ε α) (s : Session σ τ ε α) : Event σ τ ε α → Session σ τ ε α
  | .execute work => s.begin (.ofWork work)
  | .guard work => s.begin (.ofGuarded work)
  | .subscribe f => s.begin (.ofStream f)
  | .poll place =>
    match s.calls[place]? with
    | some ⟨.held m, notes⟩ =>
      let p := m.poll inner s.shared s.now
      { s with
        shared := p.shared
        polls := s.polls + 1
        calls := s.calls.set place
          ⟨p.hold, notes.poll s.shared.judge ⟨s.polls, s.now⟩ p.incidents p.status⟩ }
    | _ => s
  | .drop place =>
    match s.calls[place]? with
    | some ⟨.held m, notes⟩ =>
      { s with shared := m.drop inner s.shared, calls := s.calls.set place ⟨.dropped, notes⟩ }
    | _ => s
  | .advance d => { s with now := s.now + d }
  | .meanwhile change => { s with shared := change s.shared }

/-- The session after some events. -/
def run (inner : Source σ τ ε α) (s : Session σ τ ε α) (events : List (Event σ τ ε α)) :
    Session σ τ ε α := events.foldl (step inner) s

end Session

/-! ## What is true of the calls -/

/-- Whether a call stands where it should. -/
def Hold.Fits (status : Status) : Hold σ τ ε α → Prop
  | held m => m.Reporting ∧ m.status = status
  | finished last => last = status ∧ status.posture = .finished
  | dropped => True

/-- What is true of a call at any time: the notes about it tell a story that fits where it stands,
or stood when it was dropped. -/
def Watched.Faithful (now : Instant) (w : Watched σ τ ε α) : Prop :=
  ∃ status phase, Told now status w.notes phase ∧ w.hold.Fits status

variable {inner : Source σ τ ε α} {x : Shared σ ε} {now now' : Instant} {m : Machine σ τ ε α}
  {w : Watched σ τ ε α} {notes : Notes} {s : Session σ τ ε α} {place : Nat}

theorem Watched.Faithful.later (h : w.Faithful now) (hle : now ≤ now') :
    w.Faithful now' := by
  obtain ⟨status, phase, htold, hfits⟩ := h
  exact ⟨status, phase, htold.later hle, hfits⟩

/-- A call that was never polled has nothing to tell. -/
theorem faithful_begin (h : m.Reporting) (now : Instant)
    (hidle : ∃ paid, m.status = ⟨0, .idle, paid⟩ ∧ ∀ d, paid = some d → d = .zero) :
    Watched.Faithful now ⟨.held m, .blank⟩ := by
  obtain ⟨paid, hstatus, hpaid⟩ := hidle
  refine ⟨⟨0, .idle, paid⟩, .fresh, ?_, h, hstatus⟩
  exact ⟨.fresh paid hpaid, trivial, rfl, fun m hm => (by cases hm), rfl, rfl⟩

/-- The notes about a call go on with every poll. -/
theorem faithful_poll (h : Watched.Faithful now ⟨.held m, notes⟩) (inner : Source σ τ ε α)
    (x : Shared σ ε) (poll : Nat) :
    let p := m.poll inner x now
    Watched.Faithful now ⟨p.hold, notes.poll x.judge ⟨poll, now⟩ p.incidents p.status⟩ := by
  intro p
  obtain ⟨_, phase, htold, hreporting, rfl⟩ := h
  obtain ⟨hlaw, hrest, hover⟩ := Machine.lawful_poll hreporting inner x now
  obtain ⟨phase', htold'⟩ := htold.poll (m := ⟨poll, now⟩) Duration.le_rfl hlaw
  refine ⟨p.status, phase', htold', ?_⟩
  unfold Polled.hold
  cases hp : p.rest with
  | some m' => exact hrest m' hp
  | none => exact ⟨rfl, hover hp⟩

namespace Session

/-- What is true of all calls of a session. -/
def Faithful (s : Session σ τ ε α) : Prop :=
  ∀ (place : Nat) (w : Watched σ τ ε α), s.calls[place]? = some w → w.Faithful s.now

theorem faithful_begun (h : s.Faithful) (hm : Watched.Faithful s.now ⟨.held m, .blank⟩) :
    (s.begin m).Faithful := by
  intro place w hw
  rcases getElem?_concat hw with hw | ⟨-, rfl⟩
  · exact h place w hw
  · exact hm

theorem faithful_set (h : s.Faithful) (place : Nat) (hw : w.Faithful s.now) {other : Nat}
    {w' : Watched σ τ ε α} (hw' : (s.calls.set place w)[other]? = some w') :
    w'.Faithful s.now := by
  by_cases heq : place = other
  · subst heq
    rw [List.getElem?_set_self'] at hw'
    obtain ⟨-, -, rfl⟩ := by simpa using hw'
    exact hw
  · rw [List.getElem?_set_ne heq] at hw'
    exact h other w' hw'

/-- **What is true of a session** stays true with every event. -/
theorem faithful_step (h : s.Faithful) (inner : Source σ τ ε α) (event : Event σ τ ε α) :
    (s.step inner event).Faithful := by
  cases event with
  | execute work =>
    refine faithful_begun h (faithful_begin (Machine.reporting_ofWork work) _ ⟨_, rfl, ?_⟩)
    rintro d ⟨⟩
    rfl
  | guard work =>
    refine faithful_begun h (faithful_begin (Machine.reporting_ofGuarded work) _ ⟨_, rfl, ?_⟩)
    rintro d ⟨⟩
  | subscribe f =>
    refine faithful_begun h (faithful_begin (Machine.reporting_ofStream f) _ ⟨_, rfl, ?_⟩)
    rintro d ⟨⟩
  | poll place =>
    simp only [step]
    split
    · rename_i m notes hplace
      intro other w hw
      exact faithful_set h place (faithful_poll (h place _ hplace) inner s.shared s.polls) hw
    · exact h
  | drop place =>
    simp only [step]
    split
    · rename_i m notes hplace
      obtain ⟨status, phase, htold, -⟩ := h place _ hplace
      intro other w hw
      exact faithful_set (w := ⟨.dropped, notes⟩) h place ⟨status, phase, htold, trivial⟩ hw
    · exact h
  | advance d => exact fun place w hw => (h place w hw).later (Duration.self_le_add ..)
  | meanwhile change => exact h

/-- **What is true of a session**, after any events. -/
theorem faithful_run (inner : Source σ τ ε α) (x : Shared σ ε) (now : Instant)
    (events : List (Event σ τ ε α)) : ((start x now).run inner events).Faithful := by
  induction events using List.reverseRecOn with
  | nil => exact fun place w hw => by simp [run, start] at hw
  | append_singleton events event ih =>
    unfold run at ih ⊢
    rw [List.foldl_append, List.foldl_cons, List.foldl_nil]
    exact faithful_step ih inner event

/-- A call that nobody holds stays as it is. -/
theorem settled_step (hw : s.calls[place]? = some w) (hnot : ∀ m, w.hold ≠ .held m)
    (inner : Source σ τ ε α) (event : Event σ τ ε α) :
    (s.step inner event).calls[place]? = some w := by
  have hbegin (m : Machine σ τ ε α) : (s.begin m).calls[place]? = some w := by
    rw [begin, List.getElem?_append_left (List.getElem?_eq_some_iff.mp hw).1, hw]
  have hset {other : Nat} {m : Machine σ τ ε α} {notes : Notes} (w' : Watched σ τ ε α)
      (hother : s.calls[other]? = some ⟨.held m, notes⟩) :
      (s.calls.set other w')[place]? = some w := by
    have hne : other ≠ place := by
      rintro rfl
      rw [hw] at hother
      cases hother
      exact hnot m rfl
    rw [List.getElem?_set_ne hne, hw]
  cases event with
  | execute work => exact hbegin _
  | guard work => exact hbegin _
  | subscribe f => exact hbegin _
  | poll other =>
    simp only [step]
    split
    · rename_i m notes hother
      exact hset _ hother
    · exact hw
  | drop other =>
    simp only [step]
    split
    · rename_i m notes hother
      exact hset _ hother
    · exact hw
  | advance d => exact hw
  | meanwhile change => exact hw

/-- A call that nobody holds stays as it is, whatever happens. -/
theorem settled_run (hw : s.calls[place]? = some w) (hnot : ∀ m, w.hold ≠ .held m)
    (inner : Source σ τ ε α) (events : List (Event σ τ ε α)) :
    (s.run inner events).calls[place]? = some w := by
  induction events generalizing s with
  | nil => exact hw
  | cons event events ih => exact ih (settled_step hw hnot inner event)

end Session

/-! ## Waiting calls -/

/-- A held call whose attempt number `k` has failed, and whose next one begins after a wait. -/
structure Watched.Waits (w : Watched σ τ ε α) (m : Machine σ τ ε α) (k : Nat) (x : Setback)
    (d : Duration) : Prop where
  held : w.hold = .held m
  failed : w.notes.setbacks[k]? = some x
  wait : x.verdict = .wait d
  unbegun : w.notes.begun[k + 1]? = none

variable {k : Nat} {x : Setback} {d : Duration}

/-- **A call that waits** knows until when. -/
theorem Watched.Faithful.waiting (h : w.Faithful now) (hwaits : w.Waits m k x d) :
    Told now m.status w.notes (.resting x.moment d) ∧ m.Reporting ∧
      m.status.posture = .waiting (deadline x.moment.time d) ∧ w.notes.begun.length = k + 1 := by
  obtain ⟨hheld, hx, hv, hnone⟩ := hwaits
  obtain ⟨status, phase, htold, hfits⟩ := h
  rw [hheld] at hfits
  obtain ⟨hreporting, rfl⟩ := hfits
  obtain ⟨-, ⟨hgivesUp, -⟩ | ⟨d', hd', ⟨rfl, hlength⟩ | ⟨m', hm', -⟩⟩⟩ := htold.story.setback hx
  · rw [hv] at hgivesUp
    cases hgivesUp
  · obtain rfl : d = d' := by simpa [hv] using hd'
    exact ⟨htold, hreporting, (Phase.fits_resting.mp htold.fits).2, hlength⟩
  · rw [hnone] at hm'
    cases hm'

namespace Session

/-- **A poll before the deadline** comes to nothing, and changes nothing but the number of polls. -/
theorem step_of_early (h : s.Faithful) (hw : s.calls[place]? = some w) (hwaits : w.Waits m k x d)
    (hlt : s.now < deadline x.moment.time d) (inner : Source σ τ ε α) :
    m.poll inner s.shared s.now = ⟨s.shared, [], m.status, some m, true⟩ ∧
      s.step inner (.poll place) = { s with polls := s.polls + 1 } := by
  obtain ⟨htold, -, hposture, -⟩ := (h place w hw).waiting hwaits
  have hpoll := Machine.poll_of_early hposture hlt inner s.shared
  refine ⟨hpoll, ?_⟩
  obtain ⟨hold, notes⟩ := w
  obtain rfl : hold = .held m := hwaits.held
  have hnotes := htold.poll_resting s.shared.judge ⟨s.polls, s.now⟩
  have hset : s.calls.set place ⟨.held m, notes⟩ = s.calls := by
    obtain ⟨hplace, heq⟩ := List.getElem?_eq_some_iff.mp hw
    rw [← heq, List.set_getElem_self]
  simp only [step, hw, hpoll, Polled.hold, hnotes, hset]

/-- **The first poll that is not before the deadline** begins the next attempt. -/
theorem step_of_due (h : s.Faithful) (hw : s.calls[place]? = some w) (hwaits : w.Waits m k x d)
    (hdue : ¬s.now < deadline x.moment.time d) (inner : Source σ τ ε α) :
    ∃ w', (s.step inner (.poll place)).calls[place]? = some w' ∧
      w'.notes.begun[k + 1]? = some ⟨s.polls, s.now⟩ := by
  obtain ⟨htold, hreporting, hposture, hlength⟩ := (h place w hw).waiting hwaits
  obtain ⟨hlaw, -, -⟩ := Machine.lawful_poll hreporting inner s.shared s.now
  have hlt : w.notes.begun.length < (m.poll inner s.shared s.now).status.attempts := by
    rw [htold.attempts]
    exact hlaw.lt_of_due hposture hdue
  obtain ⟨hold, notes⟩ := w
  obtain rfl : hold = .held m := hwaits.held
  obtain ⟨hplace, -⟩ := List.getElem?_eq_some_iff.mp hw
  simp only [step, hw, List.getElem?_set_self hplace, Option.some.injEq, exists_eq_left',
    Notes.poll]
  rw [begunBy_of_lt hlt, begunBy, List.append_assoc, ← hlength, List.getElem?_append_right
    (Nat.le_refl _), Nat.sub_self]
  rfl

/-- **A call that is dropped** stays as it was, whatever happens. -/
theorem run_of_dropped (hw : s.calls[place]? = some w) (hheld : w.hold = .held m)
    (inner : Source σ τ ε α) (events : List (Event σ τ ε α)) :
    (s.run inner (.drop place :: events)).calls[place]? = some ⟨.dropped, w.notes⟩ := by
  obtain ⟨hold, notes⟩ := w
  obtain rfl : hold = .held m := hheld
  obtain ⟨hplace, -⟩ := List.getElem?_eq_some_iff.mp hw
  refine settled_run (s := s.step inner (.drop place)) ?_ (fun m hm => by cases hm) inner events
  simp only [step, hw, List.getElem?_set_self hplace]

/-! ## All calls are punctual -/

/-- Attempts of a call begin when they should: `w` is the call at a place of a session. -/
structure Punctual (inner : Source σ τ ε α) (s : Session σ τ ε α) (place : Nat)
    (w : Watched σ τ ε α) : Prop where
  /-- The call has made the attempts that were seen to begin. -/
  counted : ∀ m, w.hold = .held m → m.status.attempts = w.notes.begun.length
  /-- An attempt that is not the first begins in a poll at which the wait that followed the failure
  before it is over. -/
  rested : ∀ k m', w.notes.begun[k + 1]? = some m' →
    ∃ m d, w.notes.setbacks[k]? = some ⟨k, m, .wait d⟩ ∧ Rested m d m' ∧
      (Exact m.time d → m.time.nanos + d.nanos ≤ m'.time.nanos)
  /-- It begins in the same poll if there is nothing to wait for. -/
  atOnce : ∀ k x d, w.notes.setbacks[k]? = some x → x.verdict = .wait d → d.isZero = true →
    w.notes.begun[k + 1]? = some x.moment
  /-- A poll before the deadline comes to nothing and calls nothing. -/
  early : ∀ m k x d, w.Waits m k x d → s.now < deadline x.moment.time d →
    m.poll inner s.shared s.now = ⟨s.shared, [], m.status, some m, true⟩ ∧
      s.step inner (.poll place) = { s with polls := s.polls + 1 }
  /-- The first poll after that begins the attempt. -/
  due : ∀ m k x d, w.Waits m k x d → ¬s.now < deadline x.moment.time d →
    ∃ w', (s.step inner (.poll place)).calls[place]? = some w' ∧
      w'.notes.begun[k + 1]? = some ⟨s.polls, s.now⟩
  /-- A call that is dropped makes no other attempt. -/
  dropped : ∀ m, w.hold = .held m → ∀ events,
    (s.run inner (.drop place :: events)).calls[place]? = some ⟨.dropped, w.notes⟩
  /-- By the end of a call, at least the sum of its waits has passed since its first poll. -/
  elapsed : ∀ e, w.notes.ended = some e →
    (∀ x ∈ w.notes.setbacks, ∀ d, x.verdict = .wait d → Exact x.moment.time d) →
    ∃ first, w.notes.first = some first ∧
      first.time.nanos + delay w.notes.setbacks ≤ e.time.nanos
  /-- A call that was finished has an end, and the sum that it tells is that of its waits. -/
  finished : ∀ last, w.hold = .finished last → (∃ e, w.notes.ended = some e) ∧
    ∀ total, last.paid = some total → total.nanos = min maxNanos (delay w.notes.setbacks)

/-- By the end of a call, as far as `top`, the sum of its waits has passed if every one of them took
its time. -/
theorem min_le_of_ended {top : Nat} {status : Status} {phase : Phase} {e : Moment}
    (h : Told now status notes phase) (hended : notes.ended = some e)
    (hwaits : ∀ x ∈ notes.setbacks, ∀ d m', x.verdict = .wait d → Rested x.moment d m' →
      min top (x.moment.time.nanos + d.nanos) ≤ m'.time.nanos) :
    ∃ first, notes.first = some first ∧
      min top (first.time.nanos + delay notes.setbacks) ≤ e.time.nanos := by
  have hphase : phase.ended? = some e := h.ended.symm.trans hended
  have hfirst := h.first
  cases phase with
  | finished since =>
    obtain rfl : since = e := Option.some.inj hphase
    cases hbegun : notes.begun.head? with
    | some m =>
      rw [hbegun] at hfirst
      exact ⟨m, hfirst, h.story.min_le_reached hwaits hbegun⟩
    | none =>
      -- A call that was not let through makes no attempt.
      rw [hbegun, hended] at hfirst
      have hlength := h.story.length_begun
      simp only [List.head?_eq_none_iff.mp hbegun, List.length_nil, Nat.le_zero] at hlength
      have hnone := List.length_eq_zero_iff.mp hlength.1
      refine ⟨since, hfirst, ?_⟩
      rw [hnone]
      exact Nat.min_le_right ..
  | fresh => cases hphase
  | running => cases hphase
  | resting => cases hphase

/-- By the end of a call, at least the sum of its waits has passed. -/
theorem elapsed_of_ended {status : Status} {phase : Phase} {e : Moment}
    (h : Told now status notes phase) (hended : notes.ended = some e)
    (hexact : ∀ x ∈ notes.setbacks, ∀ d, x.verdict = .wait d → Exact x.moment.time d) :
    ∃ first, notes.first = some first ∧
      first.time.nanos + delay notes.setbacks ≤ e.time.nanos := by
  have hwaits : ∀ x ∈ notes.setbacks, ∀ d m', x.verdict = .wait d → Rested x.moment d m' →
      min (e.time.nanos + 1) (x.moment.time.nanos + d.nanos) ≤ m'.time.nanos := by
    intro x hx d m' hv hrested
    exact Nat.le_trans (Nat.min_le_right ..) (hrested.add_le (hexact x hx d hv))
  obtain ⟨first, hfirst, hle⟩ := min_le_of_ended h hended hwaits
  exact ⟨first, hfirst, by omega⟩

/-- **No attempt begins early, and none that nobody asks for.** Retried work, guarded calls and
retried streams, any number of them, are polled and dropped in any order while time passes, and
what they share may change in any way between two polls. Attempt `k + 1` of a call begins in no
poll before its attempt `k` has failed and the wait after that is over; it does so in the same poll
if the wait is zero, and otherwise in the first poll that is not before the deadline. A poll before
that calls nothing, and a call that is dropped makes no other attempt. So a call does not end before
the sum of its waits has passed. -/
theorem retries_are_punctual (inner : Source σ τ ε α) (x : Shared σ ε) (now : Instant)
    (events : List (Event σ τ ε α)) (place : Nat) (w : Watched σ τ ε α) :
    let s := (start x now).run inner events
    s.calls[place]? = some w → Punctual inner s place w := by
  intro s hw
  have h : s.Faithful := faithful_run inner x now events
  obtain ⟨status, phase, htold, hfits⟩ := h place w hw
  refine
    { counted := fun m hheld => ?_
      rested := fun k m' hm' => ?_
      atOnce := fun k x d hx hv hzero => htold.begun_of_isZero hx hv hzero
      early := fun m k x d hwaits hlt => step_of_early h hw hwaits hlt inner
      due := fun m k x d hwaits hdue => step_of_due h hw hwaits hdue inner
      dropped := fun m hheld events => run_of_dropped hw hheld inner events
      elapsed := fun e hended hexact => elapsed_of_ended htold hended hexact
      finished := fun last hlast => ?_ }
  · rw [hheld] at hfits
    rw [htold.attempts, ← hfits.2]
  · obtain ⟨m, d, hx, hrested⟩ := htold.story.rested hm'
    exact ⟨m, d, hx, hrested, hrested.add_le⟩
  · rw [hlast] at hfits
    obtain ⟨rfl, hover⟩ := hfits
    refine ⟨?_, fun total htotal => htold.story.nanos_paid htotal⟩
    obtain ⟨e, rfl⟩ := Phase.fits_finished.mp (hover ▸ htold.fits)
    exact ⟨e, htold.ended⟩

/-- **Waits of at most thirty years** need no assumption about timers: by the end of a call their
sum has passed, unless time has ended. -/
theorem elapsed_of_short (inner : Source σ τ ε α) (x : Shared σ ε) (now : Instant)
    (events : List (Event σ τ ε α)) {place : Nat} {w : Watched σ τ ε α} {e : Moment}
    (hw : ((start x now).run inner events).calls[place]? = some w) (hended : w.notes.ended = some e)
    (hshort : ∀ x ∈ w.notes.setbacks, ∀ d, x.verdict = .wait d → d ≤ longestWait) :
    ∃ first, w.notes.first = some first ∧
      min maxNanos (first.time.nanos + delay w.notes.setbacks) ≤ e.time.nanos := by
  obtain ⟨status, phase, htold, -⟩ := faithful_run inner x now events place w hw
  refine min_le_of_ended htold hended ?_
  exact fun x hx d _ hv hrested => hrested.le_of_short (hshort x hx d hv)

/-- A guard and a retry that wait for seven milliseconds after every failure. -/
def brief : Shared Unit String where
  guard := ⟨.fresh "brief" {} .zero,
    ⟨"brief", { backoff := .fixed (.ofMillis 7) }, Guard.policy, fun _ => .zero false, {}⟩⟩
  retry := ⟨"brief", { backoff := .fixed (.ofMillis 7) }, .always, fun _ => .zero false, {}⟩
  around := ()

/-- Work that fails once. -/
def secondTry : Work Unit String Nat :=
  fun k => ⟨0, fun world => (if k = 0 then .error "busy" else .ok 5, world)⟩

/-- Streams that never signal anything. -/
def silent : Source Unit Unit String Nat where
  poll t world := (.pending, t, world)
  drop _ world := world

/-- A poll after six milliseconds comes to nothing; one after seven makes the second attempt, which
ends the call. Since the first poll the wait of seven milliseconds has passed. -/
theorem punctual_of_brief :
    let before := [.execute secondTry, .poll 0, .advance (.ofMillis 6)]
    let after := before ++ [.poll 0, .advance (.ofMillis 1), .poll 0]
    let s := (start brief .zero).run silent before
    let t := (start brief .zero).run silent after
    let notes : Notes := ⟨some ⟨0, .zero⟩, [⟨0, .zero⟩, ⟨2, .ofMillis 7⟩],
      [⟨0, ⟨0, .zero⟩, .wait (.ofMillis 7)⟩], some ⟨2, .ofMillis 7⟩⟩
    s.step silent (.poll 0) = { s with polls := s.polls + 1 } ∧
      t.calls[0]?.map (·.notes) = some notes ∧
      ∃ first, notes.first = some first ∧
        first.time.nanos + delay notes.setbacks ≤ (Duration.ofMillis 7).nanos := by
  intro before after s t notes
  have hnotes : t.calls[0]?.map (·.notes) = some notes := by decide +kernel
  refine ⟨?_, hnotes, ?_⟩
  · obtain ⟨m, hm⟩ : ∃ m, s.calls[0]? =
        some ⟨.held m, ⟨some ⟨0, .zero⟩, [⟨0, .zero⟩], notes.setbacks, none⟩⟩ := ⟨_, rfl⟩
    have hs := retries_are_punctual silent brief .zero before 0 _ hm
    have hlt : s.now < deadline .zero (.ofMillis 7) := by decide +kernel
    exact (hs.early m 0 _ _ ⟨rfl, rfl, rfl, rfl⟩ hlt).2
  · obtain ⟨⟨hold, _⟩, hw, rfl⟩ := Option.map_eq_some_iff.mp hnotes
    have ht := retries_are_punctual silent brief .zero after 0 _ hw
    have hexact : Exact .zero (.ofMillis 7) := exact_of_le (by decide) (by decide)
    refine ht.elapsed ⟨2, .ofMillis 7⟩ rfl fun x hx d hd => ?_
    obtain rfl := List.mem_singleton.mp hx
    cases hd
    exact hexact

end Session

end ClusterGuard.Watch
