import ClusterGuard.Proofs.Guard.Shapes

/-!
# One poll of a call that is retried

Retried work, guarded calls and retried streams wait in the same way. What they have in common is
their `Status`: how many attempts they have begun, and whether they are idle, at work, waiting for a
timer, or finished. What a poll does to it is told by the failures that the attempts themselves
report to their surroundings: a `Stretch` of attempts begins with the one that is due, goes on over
failures that are followed by no wait, and ends where an attempt stays pending, with a wait, or for
good.

Results:
* `stretch_advance`, `stretch_follow`: the attempts of one poll are such a stretch.
* **`Task.lawful_poll`**, **`Call.lawful_poll`**, **`Retrying.lawful_poll`**: what a poll does to
  the status.
-/

namespace ClusterGuard

open Retry (Verdict)

variable {σ τ ν ε ε' α : Type}

/-! ## Failures that are reported -/

/-- The failure of an attempt, numbered from zero. -/
structure Incident (ν : Type) where
  attempt : Nat
  error : ν

/-- Surroundings with the failures reported in them, in order. -/
structure Observed (σ ν : Type) where
  around : σ
  incidents : List (Incident ν)

/-- What attempt number `n` reports: its failure, if it failed. -/
def incidents (n : Nat) (f : ε → ν) : Except ε α → List (Incident ν)
  | .ok _ => []
  | .error e => [⟨n, f e⟩]

/-- An act that reports its failure. -/
def Act.observed (n : Nat) (f : ε → ν) (act : Act σ ε α) : Act (Observed σ ν) ε α :=
  fun s => ((act s.around).1,
    ⟨(act s.around).2, s.incidents ++ ClusterGuard.incidents n f (act s.around).1⟩)

/-- Whether an act reports its failure, and nothing else. -/
def Act.Reports (n : Nat) (f : ε → ν) (act : Act (Observed σ ν) ε α) : Prop :=
  ∀ s, (act s).2.incidents = s.incidents ++ incidents n f (act s).1

theorem Act.reports_observed (n : Nat) (f : ε → ν) (act : Act σ ε α) :
    (act.observed n f).Reports n f := fun _ => rfl

/-- An error that is replaced was reported before. -/
theorem Attempt.reports_mapError {n : Nat} {f : ε' → ν} {g : ε → ε'}
    {a : Attempt (Observed σ ν) ε α} (h : a.run.Reports n (f ∘ g)) :
    (a.mapError g).run.Reports n f := by
  intro s
  have hs := h s
  unfold mapError
  simp only [hs]
  cases (a.run s).1 <;> rfl

/-- What the stream of attempt number `n` reports: its failure. -/
def Signal.incidents (n : Nat) (f : ε → ν) : Signal ε α → List (Incident ν)
  | .failure e => [⟨n, f e⟩]
  | _ => []

/-- Whether a stream has nothing to signal yet. -/
def Signal.isPending : Signal ε α → Bool
  | .pending => true
  | _ => false

/-- Streams that know their number and report their failure. -/
def Source.observed (inner : Source σ τ ε α) (f : ε → ν) :
    Source (Observed σ ν) (Nat × τ) ε α where
  poll t s :=
    let (signal, rest, around) := inner.poll t.2 s.around
    (signal, (t.1, rest), ⟨around, s.incidents ++ signal.incidents t.1 f⟩)
  drop t s := { s with around := inner.drop t.2 s.around }

/-! ## Where a call stands -/

/-- What an unfinished call is at. -/
inductive Posture where
  | idle
  | busy
  | waiting (due : Instant)
  | finished
deriving DecidableEq

/-- Where a call stands. -/
structure Status where
  /-- How many attempts were begun. -/
  attempts : Nat
  posture : Posture
  /-- The sum of the waits begun, where it is kept. -/
  paid : Option Duration
deriving DecidableEq

/-- The attempts made in one poll, from number `made` on, with the failures they report and where
they lead to. `judge` tells what follows a failure. -/
inductive Stretch (judge : ν → Nat → Verdict) (now : Instant) :
    Nat → Option Duration → List (Incident ν) → Status → Prop
  /-- The attempt has not ended, or it has delivered something and goes on. -/
  | stays (made : Nat) (paid : Option Duration) :
      Stretch judge now made paid [] ⟨made + 1, .busy, paid⟩
  | succeeds (made : Nat) (paid : Option Duration) :
      Stretch judge now made paid [] ⟨made + 1, .finished, paid⟩
  | givesUp (made : Nat) (paid : Option Duration) (e : ν) (h : judge e (made + 1) = .giveUp) :
      Stretch judge now made paid [⟨made, e⟩] ⟨made + 1, .finished, paid⟩
  | rests (made : Nat) (paid : Option Duration) (e : ν) (d : Duration)
      (h : judge e (made + 1) = .wait d) (hd : d.isZero = false) :
      Stretch judge now made paid [⟨made, e⟩]
        ⟨made + 1, .waiting (deadline now d), paid.map (· + d)⟩
  | goesOn (made : Nat) (paid : Option Duration) (e : ν) (d : Duration)
      (h : judge e (made + 1) = .wait d) (hd : d.isZero = true) {failed : List (Incident ν)}
      {after : Status} (rest : Stretch judge now (made + 1) paid failed after) :
      Stretch judge now made paid (⟨made, e⟩ :: failed) after

/-- What one poll may do to where a call stands, and the failures reported by then. -/
inductive Lawful (judge : ν → Nat → Verdict) (now : Instant) :
    Status → List (Incident ν) → Status → Prop
  | first {paid : Option Duration} {failed : List (Incident ν)} {after : Status}
      (h : Stretch judge now 0 paid failed after) : Lawful judge now ⟨0, .idle, paid⟩ failed after
  /-- A guarded call that is not let through makes no attempt. -/
  | refused (paid : Option Duration) : Lawful judge now ⟨0, .idle, paid⟩ [] ⟨0, .finished, paid⟩
  | goesOn {made : Nat} {paid : Option Duration} {failed : List (Incident ν)} {after : Status}
      (h : Stretch judge now made paid failed after) :
      Lawful judge now ⟨made + 1, .busy, paid⟩ failed after
  | early (made : Nat) (paid : Option Duration) {due : Instant} (h : now < due) :
      Lawful judge now ⟨made, .waiting due, paid⟩ [] ⟨made, .waiting due, paid⟩
  | fired {made : Nat} {paid : Option Duration} {due : Instant} (hdue : ¬now < due)
      {failed : List (Incident ν)} {after : Status}
      (h : Stretch judge now made paid failed after) :
      Lawful judge now ⟨made, .waiting due, paid⟩ failed after
  | finished (made : Nat) (paid : Option Duration) :
      Lawful judge now ⟨made, .finished, paid⟩ [] ⟨made, .finished, paid⟩

/-- The same status, where nobody keeps the sum of the waits. -/
def Status.unpaid (s : Status) : Status := { s with paid := none }

variable {judge : ν → Nat → Verdict} {now : Instant}

/-- The attempts of one poll are more than were made before. -/
theorem Stretch.lt {made : Nat} {paid : Option Duration} {failed : List (Incident ν)}
    {after : Status} (h : Stretch judge now made paid failed after) : made < after.attempts := by
  induction h with
  | stays => exact Nat.lt_succ_self _
  | succeeds => exact Nat.lt_succ_self _
  | givesUp => exact Nat.lt_succ_self _
  | rests => exact Nat.lt_succ_self _
  | goesOn made paid e d h hd rest ih => exact Nat.lt_of_succ_lt ih

/-- A timer that has fired is followed by another attempt. -/
theorem Lawful.lt_of_due {before after : Status} {failed : List (Incident ν)} {due : Instant}
    (h : Lawful judge now before failed after) (hposture : before.posture = .waiting due)
    (hdue : ¬now < due) : before.attempts < after.attempts := by
  cases h with
  | first => cases hposture
  | refused => cases hposture
  | goesOn => cases hposture
  | early made paid hlt =>
    cases hposture
    exact absurd hlt hdue
  | fired _ h => exact h.lt
  | finished => cases hposture

theorem Stretch.unpaid {made : Nat} {paid : Option Duration} {failed : List (Incident ν)}
    {after : Status} (h : Stretch judge now made paid failed after) :
    Stretch judge now made none failed after.unpaid := by
  induction h with
  | stays => exact .stays ..
  | succeeds => exact .succeeds ..
  | givesUp made paid e h => exact .givesUp _ _ e h
  | rests made paid e d h hd => exact .rests _ _ e d h hd
  | goesOn made paid e d h hd rest ih => exact .goesOn _ _ e d h hd ih

theorem Lawful.unpaid {before after : Status} {failed : List (Incident ν)}
    (h : Lawful judge now before failed after) :
    Lawful judge now before.unpaid failed after.unpaid := by
  cases h with
  | first h => exact .first h.unpaid
  | refused => exact .refused _
  | goesOn h => exact .goesOn h.unpaid
  | early made paid h => exact .early _ _ h
  | fired hdue h => exact .fired hdue h.unpaid
  | finished => exact .finished ..

/-! ## Polls -/

/-- What a poll comes to, by the failures that were reported in it. What is left to poll is as `inv`
says, and `law` admits the failures and where the call stands then, or stood at its end. -/
def Progress.Obeys {β : Type} (inv : τ → Prop) (status : τ → Status) (last : β → Status)
    (law : List (Incident ν) → Status → Prop) (s s' : Observed σ ν) : Progress τ β → Prop
  | pending rest => inv rest ∧ ∃ failed, s'.incidents = s.incidents ++ failed ∧
      law failed (status rest)
  | ready value => ∃ failed, s'.incidents = s.incidents ++ failed ∧ law failed (last value)

namespace Progress.Obeys

variable {β : Type} {inv : τ → Prop} {status : τ → Status} {last : β → Status}
  {law law' : List (Incident ν) → Status → Prop} {s s' s'' : Observed σ ν} {p : Progress τ β}

/-- A failure reported before a poll went on belongs to it. -/
theorem cons {i : Incident ν} (hs : s'.incidents = s.incidents ++ [i])
    (hlaw : ∀ failed after, law failed after → law' (i :: failed) after)
    (h : p.Obeys inv status last law s' s'') : p.Obeys inv status last law' s s'' := by
  have hcons {failed : List (Incident ν)} (h : s''.incidents = s'.incidents ++ failed) :
      s''.incidents = s.incidents ++ i :: failed := by
    rw [h, hs, List.append_assoc, List.singleton_append]
  cases p with
  | pending rest =>
    obtain ⟨hinv, failed, hfailed, h⟩ := h
    exact ⟨hinv, _, hcons hfailed, hlaw _ _ h⟩
  | ready value =>
    obtain ⟨failed, hfailed, h⟩ := h
    exact ⟨_, hcons hfailed, hlaw _ _ h⟩

theorem imp (hlaw : ∀ failed after, law failed after → law' failed after)
    (h : p.Obeys inv status last law s s') : p.Obeys inv status last law' s s' := by
  cases p with
  | pending rest =>
    obtain ⟨hinv, failed, hfailed, h⟩ := h
    exact ⟨hinv, _, hfailed, hlaw _ _ h⟩
  | ready value =>
    obtain ⟨failed, hfailed, h⟩ := h
    exact ⟨_, hfailed, hlaw _ _ h⟩

end Progress.Obeys

/-! ## Retried work -/

/-- Where retried work stands at its end. -/
def Retry.Ending.status (e : Ending ε α) : Status := ⟨e.attempts, .finished, some e.waited⟩

namespace Retry.Task

variable {r : Retry ε} {f : ε → ν}

/-- Where a task stands. -/
def status (t : Task σ ε α) : Status :=
  match t.stage with
  | .unstarted => ⟨t.attempts, .idle, some t.waited⟩
  | .attempting _ => ⟨t.attempts, .busy, some t.waited⟩
  | .waiting due wait => ⟨t.attempts, .waiting due, some (t.waited + wait)⟩

/-- A task whose attempts report their failures. -/
def Reporting (f : ε → ν) (t : Task (Observed σ ν) ε α) : Prop :=
  (∀ k, (t.work k).run.Reports k f) ∧
  match t.stage with
  | .unstarted => t.attempts = 0
  | .attempting attempt => 0 < t.attempts ∧ attempt.run.Reports (t.attempts - 1) f
  | .waiting .. => True

/-- **The attempts of one poll** of a task are a stretch. -/
theorem stretch_advance (hjudge : ∀ e n, judge (f e) n = r.verdict e n)
    {work : Work (Observed σ ν) ε α} (hw : ∀ k, (work k).run.Reports k f) {left made : Nat}
    (hleft : left = r.left made) (waited : Duration) {attempt : Attempt (Observed σ ν) ε α}
    (ha : attempt.run.Reports made f) (s : Observed σ ν) :
    (advance r now work left made waited attempt s).1.Obeys (Reporting f) status Ending.status
      (Stretch judge now made (some waited)) s
      (advance r now work left made waited attempt s).2 := by
  fun_induction advance r now work left made waited attempt s with
  | case1 left made waited attempt s waits hwaits =>
    exact ⟨⟨hw, Nat.succ_pos _, ha⟩, [], (List.append_nil _).symm, .stays ..⟩
  | case2 left made waited attempt s hwaits value s' hr =>
    have hs := ha s
    rw [hr] at hs
    exact ⟨_, hs, .succeeds ..⟩
  | case3 made waited attempt s hwaits e s' hr d left hv hzero ih =>
    have hs := ha s
    rw [hr] at hs
    refine .cons hs (fun failed after hrest => ?_) (ih (eq_left_of_wait hleft hv) (hw _))
    exact .goesOn _ _ _ d ((hjudge e _).trans hv) hzero hrest
  | case4 made waited attempt s hwaits e s' hr d left hv hd =>
    have hs := ha s
    rw [hr] at hs
    refine ⟨⟨hw, trivial⟩, _, hs, ?_⟩
    exact .rests made (some waited) (f e) d ((hjudge e _).trans hv) (Bool.eq_false_iff.mpr hd)
  | case5 left made waited attempt s hwaits e s' hr hno =>
    have hs := ha s
    rw [hr] at hs
    have hv := giveUp_of_left hleft hno
    exact ⟨_, hs, .givesUp _ _ _ ((hjudge e _).trans hv)⟩

/-- **A poll of a task** is lawful. -/
theorem lawful_step (hjudge : ∀ e n, judge (f e) n = r.verdict e n) (now : Instant)
    {t : Task (Observed σ ν) ε α} (h : t.Reporting f) (s : Observed σ ν) :
    (t.step r now s).1.Obeys (Reporting f) status Ending.status (Lawful judge now t.status) s
      (t.step r now s).2 := by
  obtain ⟨work, attempts, waited, stage⟩ := t
  obtain ⟨hw, h⟩ := h
  cases stage with
  | unstarted =>
    obtain rfl : attempts = 0 := h
    exact .imp (fun _ _ => .first) (stretch_advance hjudge hw rfl waited (hw 0) s)
  | attempting attempt =>
    obtain ⟨hpos, ha⟩ := h
    obtain ⟨made, rfl⟩ := Nat.exists_eq_succ_of_ne_zero (Nat.ne_of_gt hpos)
    exact .imp (fun _ _ => .goesOn) (stretch_advance hjudge hw rfl waited ha s)
  | waiting due wait =>
    unfold step
    simp only
    split
    · rename_i hlt
      exact ⟨⟨hw, trivial⟩, [], (List.append_nil _).symm, .early _ _ hlt⟩
    · rename_i hdue
      exact .imp (fun _ _ => .fired hdue) (stretch_advance hjudge hw rfl _ (hw attempts) s)

theorem lawful_poll (hjudge : ∀ e n, judge (f e) n = r.verdict e n) (now : Instant)
    {t : Task (Observed σ ν) ε α} (h : t.Reporting f) (s : Observed σ ν) :
    (t.poll r now s).1.Obeys (Reporting f) status Ending.status (Lawful judge now t.status) s
      (t.poll r now s).2.2 := by
  have hstep := lawful_step hjudge now h s
  unfold poll
  split
  all_goals
    rename_i hs
    rw [hs] at hstep
    exact hstep

/-- A task that waits wakes when its timer fires. -/
theorem wakesAt_of_waiting {t : Task σ ε α} {due : Instant}
    (h : t.status.posture = .waiting due) : t.wakesAt? = some due := by
  obtain ⟨work, attempts, waited, stage⟩ := t
  cases stage with
  | unstarted => simp [status] at h
  | attempting attempt => simp [status] at h
  | waiting due' wait => simpa [status, wakesAt?] using h

/-- A poll that comes too early changes nothing. -/
theorem poll_of_early {t : Task σ ε α} {due : Instant} (hw : t.wakesAt? = some due)
    (hlt : now < due) (r : Retry ε) (s : σ) : t.poll r now s = (.pending t, r, s) := by
  unfold poll
  rw [step_of_early hw hlt]

end Retry.Task

/-! ## Guarded calls -/

/-- Where a guarded call stands at its end. -/
def Guard.Answer.status (a : Answer α) : Status := ⟨a.attempts, .finished, none⟩

namespace Guard.Call

variable {g : Guard} {f : Fault → ν}

/-- Where a guarded call stands. It keeps no account of its waits. -/
def status : Guard.Call σ α → Status
  | .unstarted _ => ⟨0, .idle, none⟩
  | .admitted _ task => task.status.unpaid

/-- A guarded call whose attempts report their failures, as the faults that the retry looks at. -/
def Reporting (f : Fault → ν) : Guard.Call (Observed σ ν) α → Prop
  | .unstarted work => ∀ k, (work k).run.Reports k (f ∘ Fault.ofCause)
  | .admitted _ task => task.Reporting f

theorem lawful_proceed (hjudge : ∀ e n, judge (f e) n = g.retry.verdict e n) (now : Instant)
    (permit : Breaker.Permit) {task : Retry.Task (Observed σ ν) Fault α} (h : task.Reporting f)
    (s : Observed σ ν) :
    (proceed permit task g now s).1.Obeys (Reporting f) status Answer.status
      (Lawful judge now task.status.unpaid) s (proceed permit task g now s).2.2 := by
  have hpoll := Retry.Task.lawful_poll hjudge now h s
  unfold proceed
  split
  · rename_i task' retry s' hp
    rw [hp] at hpoll
    obtain ⟨ht, failed, hs, hlaw⟩ := hpoll
    exact ⟨ht, failed, hs, hlaw.unpaid⟩
  · rename_i ending retry s' hp
    rw [hp] at hpoll
    obtain ⟨failed, hs, hlaw⟩ := hpoll
    exact ⟨failed, hs, hlaw.unpaid⟩

/-- **A poll of a guarded call** is lawful. -/
theorem lawful_poll (hjudge : ∀ e n, judge (f e) n = g.retry.verdict e n) (now : Instant)
    {call : Guard.Call (Observed σ ν) α} (h : call.Reporting f) (s : Observed σ ν) :
    (call.poll g now s).1.Obeys (Reporting f) status Answer.status (Lawful judge now call.status) s
      (call.poll g now s).2.2 := by
  cases call with
  | admitted permit task => exact lawful_proceed hjudge now permit h s
  | unstarted work =>
    unfold poll
    simp only
    split
    · exact ⟨[], (List.append_nil _).symm, .refused _⟩
    · rename_i permit breaker _
      have htask : (Retry.Task.start fun n => (work n).mapError .ofCause).Reporting f :=
        ⟨fun k => Attempt.reports_mapError (h k), rfl⟩
      exact lawful_proceed (g := ⟨breaker, g.retry⟩) hjudge now permit htask s

theorem wakesAt_of_waiting {call : Guard.Call σ α} {due : Instant}
    (h : call.status.posture = .waiting due) : call.wakesAt? = some due := by
  cases call with
  | unstarted work => simp [status] at h
  | admitted permit task => exact Retry.Task.wakesAt_of_waiting h

end Guard.Call

/-! ## Retried streams -/

namespace Retrying

variable {r : Retry ε} {f : ε → ν} {inner : Source σ τ ε α} {subscribe : Nat → Nat × τ}

/-- Where a retried stream stands. It keeps no account of its waits. -/
def status (t : Retrying τ) : Status :=
  match t.stage with
  | .unsubscribed => ⟨t.attempts, .idle, none⟩
  | .streaming _ => ⟨t.attempts, .busy, none⟩
  | .waiting due => ⟨t.attempts, .waiting due, none⟩
  | .done => ⟨t.attempts, .finished, none⟩

/-- A retried stream whose inner streams know their numbers. -/
def Reporting (t : Retrying (Nat × τ)) : Prop :=
  (∀ k, (t.subscribe k).1 = k) ∧
  match t.stage with
  | .unsubscribed => t.attempts = 0
  | .streaming inner => inner.1 + 1 = t.attempts
  | _ => True

/-- What a poll of a retried stream comes to, by the failures reported. -/
def Result (law : List (Incident ν) → Status → Prop) (s s' : Observed σ ν)
    (t : Retrying (Nat × τ)) : Prop :=
  t.Reporting ∧ ∃ failed, s'.incidents = s.incidents ++ failed ∧ law failed t.status

theorem observed_poll {t t' : Nat × τ} {s s' : Observed σ ν} {signal : Signal ε α}
    (h : (inner.observed f).poll t s = (signal, t', s')) :
    t'.1 = t.1 ∧ s'.incidents = s.incidents ++ signal.incidents t.1 f := by
  simp only [Source.observed, Prod.mk.injEq] at h
  obtain ⟨rfl, rfl, rfl⟩ := h
  exact ⟨rfl, rfl⟩

/-- **The subscriptions of one poll** of a retried stream are a stretch. -/
theorem stretch_follow (inner : Source σ τ ε α) (now : Instant)
    (hjudge : ∀ e n, judge (f e) n = r.verdict e n) (hsub : ∀ k, (subscribe k).1 = k)
    {left attempts : Nat} {t : Nat × τ} (ht : t.1 + 1 = attempts) (hleft : left = r.left t.1)
    (s : Observed σ ν) :
    Result (Stretch judge now t.1 none) s
      (follow (inner.observed f) now subscribe left attempts t r s).2.2.2
      (follow (inner.observed f) now subscribe left attempts t r s).2.1 := by
  fun_induction follow (inner.observed f) now subscribe left attempts t r s with
  | case1 left attempts t r s t' s' hp =>
    obtain ⟨hnumber, hs⟩ := observed_poll hp
    obtain rfl := ht
    exact ⟨⟨hsub, congrArg (· + 1) hnumber⟩, _, hs, .stays ..⟩
  | case2 left attempts t r s a t' s' hp =>
    obtain ⟨hnumber, hs⟩ := observed_poll hp
    obtain rfl := ht
    exact ⟨⟨hsub, congrArg (· + 1) hnumber⟩, _, hs, .stays ..⟩
  | case3 left attempts t r s t' s' hp =>
    obtain ⟨-, hs⟩ := observed_poll hp
    obtain rfl := ht
    exact ⟨⟨hsub, trivial⟩, _, hs, .succeeds ..⟩
  | case4 attempts t r s e t' s' hp d left hv hzero ih =>
    obtain ⟨-, hs⟩ := observed_poll hp
    obtain rfl := ht
    have hnext : left = r.left (subscribe (t.1 + 1)).1 := by
      rw [hsub]
      exact Retry.eq_left_of_wait hleft hv
    obtain ⟨hreporting, failed, hfailed, hrest⟩ :=
      ih hjudge (congrArg (· + 1) (hsub (t.1 + 1))) hnext
    rw [hsub] at hrest
    refine ⟨hreporting, _, ?_, .goesOn _ _ _ d ((hjudge e _).trans hv) hzero hrest⟩
    have hdrop : ((inner.observed f).drop t' s').incidents = s'.incidents := rfl
    rw [hfailed, hdrop, hs, List.append_assoc]
    rfl
  | case5 attempts t r s e t' s' hp d left hv hd =>
    obtain ⟨-, hs⟩ := observed_poll hp
    obtain rfl := ht
    exact ⟨⟨hsub, trivial⟩, _, hs,
      .rests _ none _ d ((hjudge e _).trans hv) (Bool.eq_false_iff.mpr hd)⟩
  | case6 left attempts t r s e t' s' hp hno =>
    obtain ⟨-, hs⟩ := observed_poll hp
    obtain rfl := ht
    have hv := Retry.giveUp_of_left hleft hno
    exact ⟨⟨hsub, trivial⟩, _, hs, .givesUp _ _ _ ((hjudge e _).trans hv)⟩

/-- **A poll of a retried stream** is lawful. -/
theorem lawful_poll (inner : Source σ τ ε α) (now : Instant)
    (hjudge : ∀ e n, judge (f e) n = r.verdict e n) {t : Retrying (Nat × τ)}
    (h : t.Reporting) (s : Observed σ ν) :
    Result (Lawful judge now t.status) s (t.poll (inner.observed f) now r s).2.2.2
      (t.poll (inner.observed f) now r s).2.1 := by
  obtain ⟨subscribe, attempts, stage⟩ := t
  obtain ⟨hsub, h⟩ := h
  cases stage with
  | unsubscribed =>
    obtain rfl : attempts = 0 := h
    have hfollow := stretch_follow inner now hjudge hsub
      (congrArg (· + 1) (hsub 0)) (congrArg r.left (hsub 0)).symm s
    rw [hsub] at hfollow
    obtain ⟨hreporting, failed, hs, hstretch⟩ := hfollow
    exact ⟨hreporting, failed, hs, .first hstretch⟩
  | streaming t =>
    obtain rfl : t.1 + 1 = attempts := h
    obtain ⟨hreporting, failed, hs, hstretch⟩ :=
      stretch_follow inner now hjudge hsub rfl rfl s
    exact ⟨hreporting, failed, hs, .goesOn hstretch⟩
  | waiting due =>
    unfold poll
    simp only
    split
    · rename_i hlt
      exact ⟨⟨hsub, trivial⟩, [], (List.append_nil _).symm, .early _ _ hlt⟩
    · rename_i hdue
      have hfollow := stretch_follow inner now hjudge hsub
        (congrArg (· + 1) (hsub attempts)) (congrArg r.left (hsub attempts)).symm s
      rw [hsub] at hfollow
      obtain ⟨hreporting, failed, hs, hstretch⟩ := hfollow
      exact ⟨hreporting, failed, hs, .fired hdue hstretch⟩
  | done => exact ⟨⟨hsub, trivial⟩, [], (List.append_nil _).symm, .finished ..⟩

theorem wakesAt_of_waiting {t : Retrying τ} {due : Instant}
    (h : t.status.posture = .waiting due) : t.wakesAt? = some due := by
  obtain ⟨subscribe, attempts, stage⟩ := t
  cases stage with
  | unsubscribed => simp [status] at h
  | streaming t => simp [status] at h
  | waiting due' => simpa [status, wakesAt?] using h
  | done => simp [status] at h

theorem poll_of_early {w : Type} {source : Source w τ ε α} {t : Retrying τ} {due : Instant}
    (hw : t.wakesAt? = some due) (hlt : now < due) (r : Retry ε) (s : w) :
    t.poll source now r s = (.pending, t, r, s) := by
  obtain ⟨subscribe, attempts, stage⟩ := t
  cases stage with
  | unsubscribed => cases hw
  | streaming t => cases hw
  | waiting due' =>
    obtain rfl : due' = due := by simpa [wakesAt?] using hw
    exact if_pos hlt
  | done => cases hw

end Retrying

end ClusterGuard
