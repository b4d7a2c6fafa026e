import ClusterGuard.Proofs.Retry.Task
import ClusterGuard.PubSub.Listener
import Mathlib.Algebra.GroupWithZero.Nat

/-!
# Working through changes of the topology

A handler that follows a script is called for one change after the other, for each of them up to its
first success. The changes that were dealt with are known by their `Spans`: how many calls each of
them took. The retry around the handler gives up only after a number of attempts that counts as
unbounded, so a script with no such run of failures never makes it give up.

Results:
* `Spans.countP_range`, `Spans.one_lt_iff`: there is one success for each change dealt with, and
  more than one call where the first one fails.
* **`came_advance`**, `came_start`, `Waits.came`: what a poll does for one change.
* **`advances_proceed`**, **`advances_poll`**: what a poll does for the changes read so far: nothing
  is skipped, and nothing is done to the surroundings but what the calls do.
-/

namespace ClusterGuard

/-- Whether a retry goes on until it has made the attempts that count as unbounded. -/
structure Retry.Persistent {ε : Type} (r : Retry ε) : Prop where
  policy : r.policy = .always
  maxAttempts : r.config.maxAttempts = unbounded

namespace Retry.Persistent

variable {ε : Type} {r : Retry ε}

theorem exists_wait (h : r.Persistent) {attempts : Nat} (hlt : attempts < unbounded) (e : ε) :
    ∃ d, r.verdict e attempts = .wait d := by
  have hnot : ¬r.config.maxAttempts ≤ attempts := by
    rw [h.maxAttempts]
    omega
  refine ⟨r.config.backoff.delay (r.draw (attempts - 1)) (attempts - 1), ?_⟩
  simp only [verdict, h.policy, Policy.always, if_neg hnot]

theorem count (h : r.Persistent) (succeeded : Bool) (attempts : Nat) :
    (r.count succeeded attempts).Persistent := ⟨h.policy, h.maxAttempts⟩

end Retry.Persistent

namespace PubSub

open Retry (succeeded unbounded)

variable {ω : Type}

/-! ## Scripts -/

/-- Whether every call of a handler comes to what a script says, wherever it is made. -/
def Handler.Follows (handler : Handler ω) (results : Nat → Except Cause Unit) : Prop :=
  ∀ k s, (handler k s).1 = results k

/-- What the calls of a handler from number `a` on, before number `b`, make of the surroundings. -/
inductive Handler.Calls (handler : Handler ω) : Nat → Nat → Surroundings ω → Surroundings ω → Prop
  | none (k : Nat) (s : Surroundings ω) : Calls handler k k s s
  | next {a b : Nat} {s s' : Surroundings ω} (h : Calls handler (a + 1) b (handler a s).2 s') :
      Calls handler a b s s'

/-- Whether a script has no run of failures as long as the attempts that count as unbounded. -/
def Relenting (results : Nat → Except Cause Unit) : Prop :=
  ∀ k, ∃ i < unbounded, succeeded (results (k + i)) = true

/-- Whether all of the `n` calls from number `first` on fail. -/
def Fails (results : Nat → Except Cause Unit) (first n : Nat) : Prop :=
  ∀ i < n, succeeded (results (first + i)) = false

/-- Whether changes of the topology take so many calls each: those up to the first that succeeds,
beginning after the calls for the changes before. -/
inductive Spans (results : Nat → Except Cause Unit) : List Nat → Prop
  | nil : Spans results []
  | snoc {spans : List Nat} {failed : Nat} (h : Spans results spans)
      (hf : Fails results spans.sum failed)
      (hs : succeeded (results (spans.sum + failed)) = true) : Spans results (spans ++ [failed + 1])

variable {handler : Handler ω} {results : Nat → Except Cause Unit} {a b c : Nat}
  {s s' s'' : Surroundings ω}

namespace Handler.Calls

theorem le (h : handler.Calls a b s s') : a ≤ b := by
  induction h with
  | none => exact Nat.le_refl _
  | next _ ih => omega

theorem trans (h : handler.Calls a b s s') (h' : handler.Calls b c s' s'') :
    handler.Calls a c s s'' := by
  induction h with
  | none => exact h'
  | next _ ih => exact .next (ih h')

/-- What no call destroys is still there after the calls. -/
theorem keeps {P : Surroundings ω → Prop} (hP : ∀ k s, P s → P (handler k s).2)
    (h : handler.Calls a b s s') (hs : P s) : P s' := by
  induction h with
  | none => exact hs
  | next _ ih => exact ih (hP _ _ hs)

end Handler.Calls

section Scripts

variable {first n : Nat} {spans : List Nat}

/-- Failures are followed by a success before it is too late. -/
theorem Fails.lt_unbounded (hf : Fails results first n) (hr : Relenting results) :
    n < unbounded := by
  obtain ⟨i, hi, hsucceeds⟩ := hr first
  refine Nat.lt_of_le_of_lt (Nat.le_of_not_lt fun hlt => ?_) hi
  rw [hf i hlt] at hsucceeds
  cases hsucceeds

theorem Fails.succ (hf : Fails results first n) (h : succeeded (results (first + n)) = false) :
    Fails results first (n + 1) := by
  intro i hi
  rcases Nat.lt_succ_iff_lt_or_eq.mp hi with hlt | rfl
  · exact hf i hlt
  · exact h

theorem Fails.zero : Fails results first 0 := nofun

theorem Fails.countP_range' (hf : Fails results first n) :
    (List.range' first n).countP (fun k => succeeded (results k)) = 0 := by
  refine List.countP_eq_zero.mpr fun k hk => ?_
  obtain ⟨i, hi, rfl⟩ := List.mem_range'.mp hk
  rw [Nat.one_mul, hf i hi]
  exact Bool.false_ne_true

theorem sum_snoc (spans : List Nat) (n : Nat) : (spans ++ [n]).sum = spans.sum + n := by
  simp

/-- **One call succeeds for each change** that was dealt with, the last one made for it. -/
theorem Spans.countP_range (h : Spans results spans) :
    (List.range spans.sum).countP (fun k => succeeded (results k)) = spans.length := by
  induction h with
  | nil => rfl
  | @snoc spans failed h hf hs ih =>
    rw [sum_snoc, ← Nat.add_assoc, List.range_succ, List.range_eq_range', ← List.range'_append_1,
      ← List.range_eq_range', Nat.zero_add, List.countP_append, List.countP_append, ih,
      hf.countP_range']
    simp [hs]

theorem Spans.pos (h : Spans results spans) : ∀ n ∈ spans, 0 < n := by
  induction h with
  | nil => nofun
  | snoc _ _ _ ih =>
    intro n hn
    rcases List.mem_append.mp hn with hn | hn
    · exact ih n hn
    · rw [List.mem_singleton.mp hn]
      exact Nat.succ_pos _

/-- A change takes more than one call where the first call for it fails. -/
theorem Spans.one_lt_iff (h : Spans results spans) {before after : List Nat}
    (hspans : spans = before ++ n :: after) :
    1 < n ↔ succeeded (results before.sum) = false := by
  induction h generalizing after with
  | nil => simp at hspans
  | @snoc spans failed _ hf hs ih =>
    rcases List.eq_nil_or_concat after with rfl | ⟨after, last, rfl⟩
    · obtain ⟨rfl, hn⟩ := List.append_inj' hspans rfl
      obtain rfl : failed + 1 = n := by simpa using hn
      cases failed with
      | zero => simp [← hs]
      | succ failed => simpa using hf 0 (Nat.succ_pos failed)
    · have hsplit : spans ++ [failed + 1] = (before ++ n :: after) ++ [last] := by
        rw [hspans, List.concat_eq_append, List.append_assoc, List.cons_append]
      exact ih (List.append_inj' hsplit rfl).1

end Scripts

/-! ## One change -/

namespace Watch

/-- Whether a task is that of a change before which so many calls were made, and waits after its
own first calls, `tried` of them, which all failed. -/
structure Waits (handler : Handler ω) (results : Nat → Except Cause Unit) (calls tried : Nat)
    (t : Retry.Task (Surroundings ω) Fault Unit) : Prop where
  work : t.work = work handler calls
  attempts : t.attempts = tried
  stage : ∃ due wait, t.stage = .waiting due wait
  pos : 0 < tried
  fails : Fails results calls tried

/-- What handling a change can come to in one poll, from call number `calls + made` on. -/
inductive Came (handler : Handler ω) (results : Nat → Except Cause Unit) (calls made : Nat)
    (s : Surroundings ω) :
    Progress (Retry.Task (Surroundings ω) Fault Unit) (Retry.Ending Fault Unit) × Surroundings ω →
      Prop
  /-- At least one more call was made, and all calls failed. -/
  | waits {tried : Nat} {t : Retry.Task (Surroundings ω) Fault Unit} {s' : Surroundings ω}
      (hlt : made < tried) (h : Waits handler results calls tried t)
      (hc : handler.Calls (calls + made) (calls + tried) s s') :
      Came handler results calls made s (.pending t, s')
  /-- All calls but the last one failed. -/
  | done {failed : Nat} {ending : Retry.Ending Fault Unit} {s' : Surroundings ω}
      (hle : made ≤ failed) (hf : Fails results calls failed)
      (hs : succeeded (results (calls + failed)) = true)
      (hending : succeeded ending.result = true) (hattempts : ending.attempts = failed + 1)
      (hc : handler.Calls (calls + made) (calls + (failed + 1)) s s') :
      Came handler results calls made s (.ready ending, s')

variable {r : Retry Fault} {now : Instant} {calls made : Nat}

/-- A call more at the beginning. -/
theorem Came.next
    {reached : Progress (Retry.Task (Surroundings ω) Fault Unit) (Retry.Ending Fault Unit) ×
      Surroundings ω}
    (h : Came handler results calls (made + 1) (handler (calls + made) s).2 reached) :
    Came handler results calls made s reached := by
  cases h with
  | waits hlt h hc => exact .waits (Nat.lt_of_succ_lt hlt) h (.next hc)
  | done hle hf hs hending hattempts hc =>
    exact .done (Nat.le_of_succ_le hle) hf hs hending hattempts (.next hc)

/-- The first of some attempts, unrolled. -/
theorem run_work (handler : Handler ω) (calls made : Nat) (s : Surroundings ω) :
    (work handler calls made).run s
      = ((handler (calls + made) s).1.mapError .ofCause, (handler (calls + made) s).2) := rfl

/-- **The calls of one poll** go on until one succeeds or a wait begins. -/
theorem came_advance (hr : r.Persistent) (hh : handler.Follows results)
    (hrelent : Relenting results) {left made : Nat} (hleft : left = r.left made)
    (hf : Fails results calls made) (waited : Duration) (s : Surroundings ω) :
    Came handler results calls made s
      (Retry.Task.advance r now (work handler calls) left made waited (work handler calls made)
        s) := by
  have hwaits : (work handler calls made).waits = 0 := rfl
  cases hresult : results (calls + made) with
  | ok value =>
    have hrun : (work handler calls made).run s = (.ok value, (handler (calls + made) s).2) := by
      rw [run_work, hh, hresult]
      rfl
    unfold Retry.Task.advance
    simp only [hwaits, hrun]
    refine .done (Nat.le_refl _) hf ?_ rfl rfl (.next (.none ..))
    rw [hresult]
    rfl
  | error cause =>
    have hrun : (work handler calls made).run s
        = (.error (.ofCause cause), (handler (calls + made) s).2) := by
      rw [run_work, hh, hresult]
      rfl
    have hf' : Fails results calls (made + 1) := hf.succ (by rw [hresult]; rfl)
    obtain ⟨d, hd⟩ := hr.exists_wait (hf'.lt_unbounded hrelent) (.ofCause cause)
    -- the script relents in time, so an attempt is left
    obtain ⟨left, rfl⟩ : ∃ left', left = left' + 1 :=
      ⟨_, hleft.trans (Retry.left_of_lt (Retry.lt_of_wait hd))⟩
    unfold Retry.Task.advance
    simp only [hwaits, hrun, hd]
    split
    · exact (came_advance hr hh hrelent (Retry.eq_left_of_wait hleft hd) hf' waited _).next
    · exact .waits (Nat.lt_succ_self _) ⟨rfl, rfl, ⟨_, _, rfl⟩, Nat.succ_pos _, hf'⟩
        (.next (.none ..))

theorem came_start (hr : r.Persistent) (hh : handler.Follows results)
    (hrelent : Relenting results) (s : Surroundings ω) :
    Came handler results calls 0 s
      ((Retry.Task.start (work handler calls)).step r now s) :=
  came_advance hr hh hrelent rfl .zero _ s

/-- A wait that is over is followed by calls. -/
theorem Waits.came {tried : Nat} {t : Retry.Task (Surroundings ω) Fault Unit}
    (h : Waits handler results calls tried t) (hr : r.Persistent) (hh : handler.Follows results)
    (hrelent : Relenting results) (hdue : ∀ due, t.wakesAt? = some due → ¬now < due)
    (s : Surroundings ω) : Came handler results calls tried s (t.step r now s) := by
  obtain ⟨work, attempts, waited, stage⟩ := t
  obtain ⟨rfl, rfl, ⟨due, wait, rfl⟩, -, hf⟩ := h
  simp only [Retry.Task.step, if_neg (hdue due rfl)]
  exact came_advance hr hh hrelent rfl hf _ s

/-! ## All changes -/

/-- How many of the changes read so far are not dealt with. -/
def behind (v : Watch ω) : Nat :=
  v.current.isSome.toNat + v.inbox.countP (·.isTopologyChange)

/-- Where a watch stands: with the changes dealt with, `tried` calls were made for the one being
dealt with, if there is one. -/
structure Stands (handler : Handler ω) (results : Nat → Except Cause Unit) (spans : List Nat)
    (tried : Nat) (v : Watch ω) : Prop where
  same : v.handler = handler
  dealt : Spans results spans
  calls : v.calls = spans.sum
  idle : v.current = none → tried = 0
  busy : ∀ t, v.current = some t → Waits handler results spans.sum tried t

/-- The calls made for a change that is not dealt with have failed. -/
theorem Stands.fails {spans : List Nat} {tried : Nat} {v : Watch ω}
    (h : v.Stands handler results spans tried) : Fails results spans.sum tried := by
  cases hv : v.current with
  | none => exact h.idle hv ▸ .zero
  | some t => exact (h.busy t hv).fails

/-- What is read is dealt with later. -/
theorem Stands.read {spans : List Nat} {tried : Nat} {v : Watch ω}
    (h : v.Stands handler results spans tried) (news : List Event) :
    { v with inbox := v.inbox ++ news }.Stands handler results spans tried :=
  ⟨h.same, h.dealt, h.calls, h.idle, h.busy⟩

theorem behind_read (v : Watch ω) (news : List Event) :
    { v with inbox := v.inbox ++ news }.behind
      = v.behind + news.countP (·.isTopologyChange) := by
  simp only [behind, List.countP_append, Nat.add_assoc]

theorem behind_of_idle {v : Watch ω} (hcurrent : v.current = none) (hinbox : v.inbox = []) :
    v.behind = 0 := by
  simp [behind, hcurrent, hinbox]

/-- A change for which the handler was called was read. -/
theorem Stands.min_le_behind {spans : List Nat} {tried : Nat} {v : Watch ω}
    (h : v.Stands handler results spans tried) : min tried 1 ≤ v.behind := by
  cases hv : v.current with
  | none => simp [h.idle hv]
  | some t => simp [behind, hv]

/-- A watch that does not wait has nothing to go on with. -/
theorem Stands.current_of_wakesAt? {spans : List Nat} {tried : Nat} {v : Watch ω}
    (h : v.Stands handler results spans tried) (hw : v.wakesAt? = none) : v.current = none := by
  cases hv : v.current with
  | none => rfl
  | some t =>
    obtain ⟨due, wait, hstage⟩ := (h.busy t hv).stage
    simp [Watch.wakesAt?, hv, Retry.Task.wakesAt?, hstage] at hw

/-- What was reached by going on from where so many changes were dealt with and `tried` calls were
made for the next one, with `before` changes read but not dealt with. -/
structure Advances (handler : Handler ω) (results : Nat → Except Cause Unit) (spans : List Nat)
    (tried before : Nat) (w : World ω) (new : List Nat) (tried' : Nat)
    (reached : Watch ω × World ω) : Prop where
  stands : reached.1.Stands handler results (spans ++ new) tried'
  /-- What was done to the surroundings was done by the calls. -/
  calls : handler.Calls (spans.sum + tried) ((spans ++ new).sum + tried') w.surroundings
    reached.2.surroundings
  /-- Every change dealt with was counted, once. -/
  counted : reached.2.topology = new.foldl (fun r n => r.count true n) w.topology
  /-- No change was skipped. -/
  behind : before = new.length + reached.1.behind
  /-- Nothing but a wait keeps events from being looked at. -/
  rest : reached.1.current = none → reached.1.inbox = []

variable {spans : List Nat} {tried : Nat} {inbox : List Event}
  {task : Retry.Task (Surroundings ω) Fault Unit} {w : World ω}

/-- Goes on with a change, and then with the events read so far. -/
def attend (now : Instant) (handler : Handler ω) (inbox : List Event) (calls : Nat)
    (task : Retry.Task (Surroundings ω) Fault Unit) (w : World ω) : Watch ω × World ω :=
  match task.poll w.topology now w.surroundings with
  | (.pending task, topology, s) => (⟨handler, calls, inbox, some task⟩, ⟨s, topology⟩)
  | (.ready ending, topology, s) =>
    proceed now handler inbox (calls + ending.attempts) ⟨s, topology⟩

theorem proceed_of_change {e : Event} (he : e.isTopologyChange = true) (now : Instant)
    (handler : Handler ω) (inbox : List Event) (calls : Nat) (w : World ω) :
    proceed now handler (e :: inbox) calls w
      = attend now handler inbox calls (.start (work handler calls)) w := by
  simp only [proceed, he, if_true]
  rfl

theorem poll_of_current {v : Watch ω} (hv : v.current = some task) (now : Instant) (w : World ω) :
    v.poll now w = attend now v.handler v.inbox v.calls task w := by
  obtain ⟨handler, calls, inbox, current⟩ := v
  obtain rfl : current = some task := hv
  rfl

/-- A change that has to wait is the last one that is looked at. -/
theorem advances_of_waits {tried' : Nat} {s : Surroundings ω} (hs : Spans results spans)
    (ht : Waits handler results spans.sum tried' task)
    (hc : handler.Calls (spans.sum + tried) (spans.sum + tried') w.surroundings s) :
    Advances handler results spans tried (inbox.countP (·.isTopologyChange) + 1) w [] tried'
      (⟨handler, spans.sum, inbox, some task⟩, ⟨s, w.topology⟩) := by
  refine ⟨?_, ?_, rfl, ?_, nofun⟩
  · rw [List.append_nil]
    refine ⟨rfl, hs, rfl, nofun, fun t ht' => ?_⟩
    obtain rfl := Option.some.inj ht'
    exact ht
  · rwa [List.append_nil]
  · simp [Watch.behind, Nat.add_comm]

/-- A change that is dealt with is followed by the next ones. -/
theorem Advances.cons {failed before tried' : Nat} {new : List Nat} {s : Surroundings ω}
    {reached : Watch ω × World ω}
    (h : Advances handler results (spans ++ [failed + 1]) 0 before
      ⟨s, w.topology.count true (failed + 1)⟩ new tried' reached)
    (hc : handler.Calls (spans.sum + tried) (spans.sum + (failed + 1)) w.surroundings s) :
    Advances handler results spans tried (before + 1) w ((failed + 1) :: new) tried' reached := by
  have happend : spans ++ [failed + 1] ++ new = spans ++ (failed + 1) :: new :=
    List.append_assoc ..
  have hcalls := h.calls
  rw [sum_snoc, Nat.add_zero, happend] at hcalls
  refine ⟨happend ▸ h.stands, hc.trans hcalls, h.counted, ?_, h.rest⟩
  rw [h.behind, List.length_cons]
  omega

/-- **Going on with a change**: either it has to wait, or it is dealt with, and the events after it
follow. -/
theorem advances_attend (hr : w.topology.Persistent) (hs : Spans results spans)
    (hc : Came handler results spans.sum tried w.surroundings
      (task.step w.topology now w.surroundings))
    (ih : ∀ {spans : List Nat} {w : World ω}, w.topology.Persistent → Spans results spans →
      ∃ new tried', Advances handler results spans 0 (inbox.countP (·.isTopologyChange)) w new tried'
        (proceed now handler inbox spans.sum w)) :
    ∃ new tried', Advances handler results spans tried
        (inbox.countP (·.isTopologyChange) + 1) w new tried'
        (attend now handler inbox spans.sum task w) ∧
      spans.sum + tried < (spans ++ new).sum + tried' := by
  generalize hstep : task.step w.topology now w.surroundings = reached at hc
  cases hc with
  | @waits tried' t s hlt ht hc =>
    have hattend : attend now handler inbox spans.sum task w
        = (⟨handler, spans.sum, inbox, some t⟩, ⟨s, w.topology⟩) := by
      simp only [attend, Retry.Task.poll, hstep]
    refine ⟨[], tried', hattend ▸ advances_of_waits hs ht hc, ?_⟩
    rw [List.append_nil]
    omega
  | @done failed ending s hle hf hsucceeds hending hattempts hc =>
    have hattend : attend now handler inbox spans.sum task w
        = proceed now handler inbox (spans ++ [failed + 1]).sum
            ⟨s, w.topology.count true (failed + 1)⟩ := by
      simp only [attend, Retry.Task.poll, hstep, hending, hattempts, sum_snoc]
    obtain ⟨new, tried', h⟩ := ih (w := ⟨s, w.topology.count true (failed + 1)⟩) (hr.count ..)
      (hs.snoc hf hsucceeds)
    refine ⟨(failed + 1) :: new, tried', hattend ▸ h.cons hc, ?_⟩
    rw [List.sum_append, List.sum_cons]
    omega

/-- **Going through the events** that were read. -/
theorem advances_proceed (hh : handler.Follows results) (hrelent : Relenting results)
    (now : Instant) (inbox : List Event) {spans : List Nat} {w : World ω}
    (hr : w.topology.Persistent) (hs : Spans results spans) :
    ∃ new tried', Advances handler results spans 0 (inbox.countP (·.isTopologyChange)) w new tried'
      (proceed now handler inbox spans.sum w) := by
  induction inbox generalizing spans w with
  | nil =>
    refine ⟨[], 0, ⟨rfl, ?_, ?_, fun _ => rfl, nofun⟩, ?_, rfl, rfl, fun _ => rfl⟩
    · rwa [List.append_nil]
    · rw [List.append_nil]
      rfl
    · rw [List.append_nil]
      exact .none ..
  | cons e inbox ih =>
    cases he : e.isTopologyChange with
    | false =>
      simp only [proceed, he, Bool.false_eq_true, if_false, not_false_iff,
        List.countP_cons_of_neg]
      exact ih hr hs
    | true =>
      rw [proceed_of_change he, List.countP_cons_of_pos he]
      obtain ⟨new, tried', h, -⟩ := advances_attend hr hs (came_start hr hh hrelent _) ih
      exact ⟨new, tried', h⟩

/-- **A poll goes on** with the change being dealt with, if there is one, and then with the events
that were read. Unless it comes before a wait is over, it calls the handler for that change. -/
theorem advances_poll {v : Watch ω} (hh : handler.Follows results) (hrelent : Relenting results)
    (now : Instant) (hr : w.topology.Persistent) (h : v.Stands handler results spans tried) :
    ∃ new tried', Advances handler results spans tried v.behind w new tried' (v.poll now w) ∧
      (v.current.isSome → (∀ due, v.wakesAt? = some due → ¬now < due) →
        spans.sum + tried < (spans ++ new).sum + tried') := by
  cases hv : v.current with
  | none =>
    obtain ⟨new, tried', hadv⟩ := advances_proceed hh hrelent now v.inbox hr h.dealt
    have hpoll : v.poll now w = proceed now handler v.inbox spans.sum w := by
      simp only [poll, hv, h.same, h.calls]
    have hbehind : v.behind = v.inbox.countP (·.isTopologyChange) := by simp [Watch.behind, hv]
    rw [h.idle hv, hpoll, hbehind]
    exact ⟨new, tried', hadv, nofun⟩
  | some t =>
    have hpoll : v.poll now w = attend now handler v.inbox spans.sum t w := by
      rw [poll_of_current hv, h.same, h.calls]
    have hbehind : v.behind = v.inbox.countP (·.isTopologyChange) + 1 := by
      simp [Watch.behind, hv, Nat.add_comm]
    have ht := h.busy t hv
    have hwakes : v.wakesAt? = t.wakesAt? := by simp [Watch.wakesAt?, hv]
    by_cases hearly : ∃ due, t.wakesAt? = some due ∧ now < due
    · -- the wait is not over: nothing changes
      obtain ⟨due, hdue, hlt⟩ := hearly
      have hstay : v.poll now w = (v, w) := by
        rw [hpoll]
        simp only [attend, Retry.Task.poll, Retry.Task.step_of_early hdue hlt]
        rw [← h.same, ← h.calls, ← hv]
      refine ⟨[], tried, ?_, fun _ hnot => (hnot due (hwakes.trans hdue) hlt).elim⟩
      rw [hstay]
      refine ⟨?_, ?_, rfl, (Nat.zero_add _).symm, fun hnone => ?_⟩
      · rwa [List.append_nil]
      · rw [List.append_nil]
        exact .none ..
      · rw [hv] at hnone
        cases hnone
    · have hdue : ∀ due, t.wakesAt? = some due → ¬now < due :=
        fun due hdue hlt => hearly ⟨due, hdue, hlt⟩
      obtain ⟨new, tried', hadv, hlt⟩ := advances_attend hr h.dealt
        (ht.came hr hh hrelent hdue w.surroundings) (advances_proceed hh hrelent now v.inbox)
      rw [hpoll, hbehind]
      exact ⟨new, tried', hadv, fun _ _ => hlt⟩

end Watch

end PubSub

end ClusterGuard
