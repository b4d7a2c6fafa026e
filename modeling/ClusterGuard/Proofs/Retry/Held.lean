import ClusterGuard.Proofs.Retry.Loop
import Mathlib.Data.List.Induction

/-!
# Held calls of one retry

A `Session` is a retry with any number of held calls, each with a `Plan` of its own: what its
attempts come to, how often each of them stays pending, and what each does to the surroundings. The
calls are polled in any order and as often as anybody likes, while time passes; some are given up.
Whatever happens, every call that ends does so as if it had been `blocking`, and the retry has
counted what it would have counted if the calls that ended had been run one after the other.

Results:
* `pursue_alike`: results foretold come to the same ending in any surroundings.
* `comes_step`: a poll leaves the ending of a task as it is, or reaches it.
* `faithful_poll`: what one poll of one call comes to.
* `faithful_step`, `faithful_run`: what is true of a session at any time.
* **`held_calls_agree_with_blocking_ones`**: all of it.
-/

namespace ClusterGuard

variable {σ ε α : Type}

/-- A wait in surroundings that keep a journal. -/
def Scene.pausing (pause : Duration → σ → σ) (d : Duration) (s : Scene σ) : Scene σ :=
  { s with around := pause d s.around }

theorem Scene.journal_pausing (pause : Duration → σ → σ) (d : Duration) (s : Scene σ) :
    (s.pausing pause d).journal = s.journal := rfl

namespace Retry

/-! ## Retries that decide alike -/

/-- Whether two retries decide alike about every failure. -/
structure Alike (r r' : Retry ε) : Prop where
  maxAttempts : r'.config.maxAttempts = r.config.maxAttempts
  verdict (e : ε) (attempts : Nat) : r'.verdict e attempts = r.verdict e attempts

/-- Without jitter, neither chance nor the counters have a say. -/
theorem alike_of_no_jitter {r : Retry ε} (hj : r.config.backoff.jitter = .none)
    (draw : Nat → Binary .double) (tally : Tally) : Alike r { r with draw, tally } := by
  refine ⟨rfl, fun e attempts => ?_⟩
  unfold verdict
  simp only [Backoff.delay_of_no_jitter hj]

theorem Alike.count {r r' : Retry ε} (h : Alike r r') (succeeded : Bool) (attempts : Nat) :
    Alike r (r'.count succeeded attempts) := ⟨h.maxAttempts, h.verdict⟩

/-- **Results foretold come to the same ending**, whatever the surroundings and the waits. -/
theorem pursue_alike {τ : Type} {r r' : Retry ε} (h : Alike r r') {results : Nat → Except ε α}
    {work : Nat → Act σ ε α} {work' : Nat → Act τ ε α} (hw : ∀ k s, (work k s).1 = results k)
    (hw' : ∀ k s, (work' k s).1 = results k) (pause : Duration → σ → σ) (pause' : Duration → τ → τ)
    (left made : Nat) (waited : Duration) (s : σ) (s' : τ) :
    (r.pursue work pause left made waited s).1
      = (r'.pursue work' pause' left made waited s').1 := by
  induction left generalizing made waited s s' with
  | zero => simp only [pursue, hw, hw']
  | succ left ih =>
    have hattempt : work made s = (results made, (work made s).2) := Prod.ext (hw made s) rfl
    have hattempt' : work' made s' = (results made, (work' made s').2) := Prod.ext (hw' made s') rfl
    simp only [pursue]
    rw [hattempt, hattempt']
    cases results made with
    | ok a => rfl
    | error e =>
      simp only [h.verdict]
      cases r.verdict e (made + 1) with
      | giveUp => rfl
      | wait d => exact ih ..

/-! ## Plans -/

/-- What a call will do. -/
structure Plan (σ ε α : Type) where
  results : Nat → Except ε α
  /-- How often each attempt stays pending if it is polled. -/
  waits : Nat → Nat
  touch : Nat → σ → σ

namespace Plan

variable {p : Plan σ ε α} {r r' : Retry ε} {place : Nat}

/-- The attempts of a call, which keep a journal. -/
def acts (p : Plan σ ε α) (place k : Nat) : Act (Scene σ) ε α :=
  (foretold p.results p.touch k).noted ⟨place, k⟩

theorem acts_fst (p : Plan σ ε α) (place k : Nat) (s : Scene σ) :
    (p.acts place k s).1 = p.results k := rfl

/-- The call as work that can be polled. -/
def work (p : Plan σ ε α) (place : Nat) : Work (Scene σ) ε α := fun k => ⟨p.waits k, p.acts place k⟩

/-- The call run to its end at once, without moments at which nothing is ready. -/
def blocking (p : Plan σ ε α) (place : Nat) (pause : Duration → σ → σ) (r : Retry ε) (around : σ) :
    Ending ε α × Retry ε × Scene σ :=
  r.run (p.acts place) (Scene.pausing pause) ⟨around, []⟩

/-- The ending of the call. -/
def ending (p : Plan σ ε α) (r : Retry ε) : Ending ε α :=
  (r.pursue (foretold p.results fun _ u => u) (fun _ u => u) (r.left 0) 0 .zero ()).1

/-- All retries that decide alike bring the call to this ending, whatever the surroundings. -/
theorem pursue_acts (h : Alike r r') (p : Plan σ ε α) (place : Nat)
    (pause : Duration → Scene σ → Scene σ) (s : Scene σ) :
    (r'.pursue (p.acts place) pause (r'.left 0) 0 .zero s).1 = p.ending r := by
  have hunit (k : Nat) (u : Unit) : (foretold p.results (fun _ u => u) k u).1 = p.results k := rfl
  have hleft : r.left 0 = r'.left 0 := congrArg (· - 0 - 1) h.maxAttempts.symm
  unfold ending
  rw [hleft]
  exact .symm (pursue_alike h hunit (p.acts_fst place) ..)

/-- A blocking call comes to this ending, is counted, and has made all its attempts. -/
theorem blocking_spec (h : Alike r r') (p : Plan σ ε α) (place : Nat) (pause : Duration → σ → σ)
    (around : σ) :
    (p.blocking place pause r' around).1 = p.ending r ∧
      (p.blocking place pause r' around).2.1
        = r'.count (succeeded (p.ending r).result) (p.ending r).attempts ∧
      (p.blocking place pause r' around).2.2.journal
        = invocations place 0 (p.ending r).attempts := by
  have hending : (p.blocking place pause r' around).1 = p.ending r := pursue_acts h ..
  have hcount : (p.blocking place pause r' around).2.1
      = r'.count (succeeded (p.blocking place pause r' around).1.result)
        (p.blocking place pause r' around).1.attempts := rfl
  refine ⟨hending, by rw [hcount, hending], ?_⟩
  obtain ⟨n, hn, hjournal⟩ := journal_pursue r' (fun k => Act.notes_noted ⟨place, k⟩ _)
    (Scene.journal_pausing pause) (r'.left 0) 0 .zero ⟨around, []⟩
  have hattempts : (p.ending r).attempts = n :=
    (congrArg Ending.attempts hending).symm.trans (hn.trans (Nat.zero_add n))
  rw [hattempts]
  exact hjournal

end Plan

/-! ## Polls -/

namespace Task

variable {r r' : Retry ε} {now : Instant}

/-- A poll leaves the work as it is. -/
theorem work_advance (r : Retry ε) (now : Instant) (work : Work σ ε α) (left made : Nat)
    (waited : Duration) (attempt : Attempt σ ε α) (s : σ) {t : Task σ ε α}
    (h : (advance r now work left made waited attempt s).1 = .pending t) : t.work = work := by
  fun_induction advance r now work left made waited attempt s with
  | case1 =>
    obtain rfl := Progress.pending.inj h
    rfl
  | case2 => cases h
  | case3 made waited attempt s hwaits e s' hr d left hv hzero ih => exact ih h
  | case4 =>
    obtain rfl := Progress.pending.inj h
    rfl
  | case5 => cases h

theorem work_step {t t' : Task σ ε α} {s : σ} (h : (t.step r now s).1 = .pending t') :
    t'.work = t.work := by
  unfold step at h
  split at h
  · exact work_advance _ _ _ _ _ _ _ _ h
  · exact work_advance _ _ _ _ _ _ _ _ h
  · split at h
    · obtain rfl := Progress.pending.inj h
      rfl
    · exact work_advance _ _ _ _ _ _ _ _ h

/-- Whether something was reached that comes to this ending, or is the ending itself. -/
def Comes (r : Retry ε) (target : Ending ε α × σ) :
    Progress (Task σ ε α) (Ending ε α) × σ → Prop
  | (.pending t, s) => t.Sane r ∧ t.ending r s = target
  | (.ready ending, s) => (ending, s) = target

/-- Every poll leaves the ending as it is, or reaches it. -/
theorem comes_step {t : Task σ ε α} (h : t.Sane r) (now : Instant) (s : σ) :
    Comes r (t.ending r s) (t.step r now s) := by
  by_cases hearly : ∃ due, t.wakesAt? = some due ∧ now < due
  · obtain ⟨due, hw, hlt⟩ := hearly
    rw [step_of_early hw hlt]
    exact ⟨h, rfl⟩
  · have hleads := leads_step h (fun due hw hlt => hearly ⟨due, hw, hlt⟩) s
    rcases hstep : t.step r now s with ⟨progress, s'⟩
    rw [hstep] at hleads
    cases progress with
    | pending t' => exact ⟨hleads.1, hleads.2.2.2⟩
    | ready ending => exact hleads

theorem sane_alike (h : Alike r r') {t : Task σ ε α} (hs : t.Sane r) : t.Sane r' := by
  obtain ⟨work, attempts, waited, stage⟩ := t
  cases stage with
  | unstarted => exact hs
  | attempting => exact hs
  | waiting => exact Nat.lt_of_lt_of_eq hs h.maxAttempts.symm

/-- What a task comes to does not depend on its surroundings if its results are foretold. -/
theorem ending_alike (h : Alike r r') {t : Task σ ε α} {results : Nat → Except ε α}
    (hw : ∀ k s, ((t.work k).run s).1 = results k) (s s' : σ) :
    (t.ending r' s').1 = (t.ending r s).1 := by
  have hahead (made : Nat) (waited : Duration) :
      (ahead r' t.work made waited s').1 = (ahead r t.work made waited s).1 := by
    have hleft : r'.left made = r.left made := congrArg (· - made - 1) h.maxAttempts
    unfold ahead
    rw [hleft]
    exact .symm (pursue_alike h hw hw ..)
  unfold ending
  cases t.stage with
  | unstarted => exact hahead ..
  | attempting => exact hahead ..
  | waiting => exact hahead ..

end Task

/-! ## Sessions -/

/-- How far somebody has come with a call. -/
inductive Hold (σ ε α : Type) where
  | unfinished (task : Task (Scene σ) ε α)
  | finished (ending : Ending ε α)
  | dropped

/-- A held call. -/
structure HeldCall (σ ε α : Type) where
  plan : Plan σ ε α
  hold : Hold σ ε α

/-- A retry in use. -/
structure Session (σ ε α : Type) where
  retry : Retry ε
  now : Instant
  scene : Scene σ
  /-- All calls, in the order they were begun. -/
  calls : List (HeldCall σ ε α)
  /-- The calls that have ended, in the order in which they did, with their places. -/
  ended : List (Nat × Plan σ ε α)

/-- What happens to the calls of a retry. A call is named by its place among them. -/
inductive Event (σ ε α : Type) where
  | begin (plan : Plan σ ε α)
  | poll (place : Nat)
  | drop (place : Nat)
  | advance (d : Duration)

namespace Session

/-- A retry with no calls. -/
def start (r : Retry ε) (now : Instant) (around : σ) : Session σ ε α :=
  ⟨r, now, ⟨around, []⟩, [], []⟩

/-- The session after one event. A call that has ended or was given up is not polled again. -/
def step (s : Session σ ε α) : Event σ ε α → Session σ ε α
  | .begin plan =>
    { s with calls := s.calls ++ [⟨plan, .unfinished (.start (plan.work s.calls.length))⟩] }
  | .poll place =>
    match s.calls[place]? with
    | some ⟨plan, .unfinished task⟩ =>
      match task.poll s.retry s.now s.scene with
      | (.pending task, retry, scene) =>
        { s with retry, scene, calls := s.calls.set place ⟨plan, .unfinished task⟩ }
      | (.ready ending, retry, scene) =>
        { s with
          retry, scene
          calls := s.calls.set place ⟨plan, .finished ending⟩
          ended := s.ended ++ [(place, plan)] }
    | _ => s
  | .drop place =>
    match s.calls[place]? with
    | some ⟨plan, .unfinished _⟩ => { s with calls := s.calls.set place ⟨plan, .dropped⟩ }
    | _ => s
  | .advance d => { s with now := s.now + d }

/-- The session after some events. -/
def run (s : Session σ ε α) (events : List (Event σ ε α)) : Session σ ε α := events.foldl step s

end Session

/-- The retry after some calls were run to their ends, one after the other. -/
def serially (pause : Duration → σ → σ) (around : σ) (r : Retry ε)
    (calls : List (Nat × Plan σ ε α)) : Retry ε :=
  calls.foldl (fun r call => (call.2.blocking call.1 pause r around).2.1) r

/-! ## What is true of the calls -/

/-- What is true of call number `place` at any time: it is on the way to its ending, or has come to
it, and the journal has an entry for every attempt it has made. -/
def HeldCall.Faithful (r : Retry ε) (place : Nat) (retry : Retry ε) (scene : Scene σ)
    (call : HeldCall σ ε α) : Prop :=
  match call.hold with
  | .unfinished task =>
    task.work = call.plan.work place ∧ task.Sane retry ∧
      (task.ending retry scene).1 = call.plan.ending r ∧
      ∃ n, task.Kept r.config.maxAttempts place n ∧
        invocationsOf place scene.journal = invocations place 0 n
  | .finished ending =>
    ending = call.plan.ending r ∧
      invocationsOf place scene.journal = invocations place 0 ending.attempts
  | .dropped => True

variable {r retry retry' : Retry ε} {place : Nat} {scene scene' : Scene σ} {plan : Plan σ ε α}

/-- What others do to the counters, the surroundings and the journal, does not matter to a call. -/
theorem HeldCall.Faithful.transport {call : HeldCall σ ε α}
    (h : call.Faithful r place retry scene) (halike : Alike retry retry')
    (hjournal : invocationsOf place scene'.journal = invocationsOf place scene.journal) :
    call.Faithful r place retry' scene' := by
  obtain ⟨plan, hold⟩ := call
  cases hold with
  | unfinished task =>
    obtain ⟨hw, hs, hending, n, hk, hj⟩ := h
    have hresults (k : Nat) (s : Scene σ) : ((task.work k).run s).1 = plan.results k := by
      rw [hw]
      rfl
    have hsame := Task.ending_alike halike hresults scene scene'
    exact ⟨hw, Task.sane_alike halike hs, hsame.trans hending, n, hk, hjournal.trans hj⟩
  | finished ending => exact ⟨h.1, hjournal.trans h.2⟩
  | dropped => exact trivial

/-- The journal of one call grows without those of the others. -/
theorem invocationsOf_grown {n k : Nat}
    (h : scene'.journal = scene.journal ++ invocations place n k) :
    (∀ other, other ≠ place →
      invocationsOf other scene'.journal = invocationsOf other scene.journal) ∧
    (invocationsOf place scene.journal = invocations place 0 n →
      invocationsOf place scene'.journal = invocations place 0 (n + k)) := by
  rw [h]
  refine ⟨fun other hne => ?_, fun hj => ?_⟩
  · rw [invocationsOf_append, invocationsOf_other hne.symm, List.append_nil]
  · rw [invocationsOf_append, invocationsOf_self, hj, ← invocations_append, Nat.zero_add]

/-- **One poll of a call** makes the next attempts of that call only, and counts it if it ends. -/
theorem faithful_poll (hpos : 0 < r.config.maxAttempts) (halike : Alike r retry)
    {task : Task (Scene σ) ε α}
    (h : HeldCall.Faithful r place retry scene ⟨plan, .unfinished task⟩) (now : Instant) :
    (∀ other, other ≠ place → invocationsOf other (task.poll retry now scene).2.2.journal
      = invocationsOf other scene.journal) ∧
    match task.poll retry now scene with
    | (.pending task', retry', scene') => retry' = retry ∧
        HeldCall.Faithful r place retry scene' ⟨plan, .unfinished task'⟩
    | (.ready ending, retry', scene') =>
        retry' = retry.count (succeeded ending.result) ending.attempts ∧
        HeldCall.Faithful r place retry scene' ⟨plan, .finished ending⟩ := by
  obtain ⟨hw, hs, hending, n, hk, hj⟩ := h
  have hpolled := Task.polled_step now halike.maxAttempts hpos hk scene
  have hcomes := Task.comes_step hs now scene
  rcases hstep : task.step retry now scene with ⟨progress, scene'⟩
  rw [hstep] at hpolled hcomes
  simp only [Task.poll, hstep]
  cases progress with
  | pending task' =>
    obtain ⟨k, hjournal, hk'⟩ := hpolled
    obtain ⟨hs', hending'⟩ := hcomes
    obtain ⟨hothers, hown⟩ := invocationsOf_grown hjournal
    have hw' : task'.work = task.work := Task.work_step (congrArg Prod.fst hstep)
    exact ⟨hothers, rfl, hw'.trans hw, hs', (congrArg Prod.fst hending').trans hending, _, hk',
      hown hj⟩
  | ready ending =>
    obtain ⟨k, hjournal, hattempts, -, -⟩ := hpolled
    obtain ⟨hothers, hown⟩ := invocationsOf_grown hjournal
    have hended : ending = (task.ending retry scene).1 := congrArg Prod.fst hcomes
    exact ⟨hothers, rfl, hended.trans hending, hattempts.symm ▸ hown hj⟩

namespace Session

variable {s : Session σ ε α}

/-! ## What is true of a session -/

/-- What is true of a session at any time. -/
structure Faithful (r : Retry ε) (s : Session σ ε α) : Prop where
  alike : Alike r s.retry
  calls (place : Nat) (call : HeldCall σ ε α) (h : s.calls[place]? = some call) :
    call.Faithful r place s.retry s.scene
  /-- Nobody has made an attempt for a call that was not begun. -/
  quiet (place : Nat) (h : s.calls.length ≤ place) : invocationsOf place s.scene.journal = []
  /-- No call ends twice. -/
  nodup : (s.ended.map Prod.fst).Nodup
  mem_ended (place : Nat) (plan : Plan σ ε α) :
    (place, plan) ∈ s.ended ↔ ∃ ending, s.calls[place]? = some ⟨plan, .finished ending⟩
  counted (pause : Duration → σ → σ) (around : σ) : s.retry = serially pause around r s.ended

theorem faithful_start (r : Retry ε) (now : Instant) (around : σ) :
    Faithful r (start r now around : Session σ ε α) where
  alike := ⟨rfl, fun _ _ => rfl⟩
  calls place call h := by cases h
  quiet place h := rfl
  nodup := List.nodup_nil
  mem_ended place plan := by simp [start]
  counted pause around := rfl

/-- A call that has not begun is on its way. -/
theorem faithful_begun (halike : Alike r retry) (plan : Plan σ ε α)
    (hj : invocationsOf place scene.journal = []) :
    HeldCall.Faithful r place retry scene ⟨plan, .unfinished (.start (plan.work place))⟩ :=
  ⟨rfl, rfl, plan.pursue_acts halike place (fun _ s => s) scene, 0,
    ⟨fun _ => Act.notes_noted _ _, rfl, rfl⟩, hj⟩

/-- Whether number `place` of the calls, which had not ended, stands like this now, and nothing has
happened to the other ones. -/
structure Changed (s : Session σ ε α) (place : Nat) (call : HeldCall σ ε α)
    (calls : List (HeldCall σ ε α)) (scene : Scene σ) : Prop where
  unended (plan : Plan σ ε α) (ending : Ending ε α) :
    s.calls[place]? ≠ some ⟨plan, .finished ending⟩
  call : calls[place]? = some call
  others (other : Nat) (h : other ≠ place) : calls[other]? = s.calls[other]?
  journal (other : Nat) (h : other ≠ place) :
    invocationsOf other scene.journal = invocationsOf other s.scene.journal

theorem changed_begin (s : Session σ ε α) (call : HeldCall σ ε α) :
    s.Changed s.calls.length call (s.calls ++ [call]) s.scene where
  unended plan ending := by simp
  call := List.getElem?_concat_length
  others other hne := by
    rcases Nat.lt_or_gt_of_ne hne with hlt | hgt
    · exact List.getElem?_append_left hlt
    · rw [List.getElem?_eq_none (Nat.le_of_lt hgt), List.getElem?_eq_none]
      exact List.length_append ▸ hgt
  journal other hne := rfl

theorem changed_set {task : Task (Scene σ) ε α}
    (h : s.calls[place]? = some ⟨plan, .unfinished task⟩) (call : HeldCall σ ε α)
    (hjournal : ∀ other, other ≠ place →
      invocationsOf other scene.journal = invocationsOf other s.scene.journal) :
    s.Changed place call (s.calls.set place call) scene where
  unended plan ending := by simp [h]
  call := List.getElem?_set_self (List.getElem?_eq_some_iff.mp h).1
  others other hne := List.getElem?_set_ne hne.symm
  journal := hjournal

variable {hold : Hold σ ε α} {ending : Ending ε α} {calls : List (HeldCall σ ε α)}

theorem calls_changed {call : HeldCall σ ε α} (h : Faithful r s)
    (hc : s.Changed place call calls scene) (halike : Alike s.retry retry)
    (hcall : call.Faithful r place retry scene) (other : Nat) (call' : HeldCall σ ε α)
    (hother : calls[other]? = some call') : call'.Faithful r other retry scene := by
  by_cases hne : other = place
  · subst hne
    obtain rfl := Option.some.inj (hc.call.symm.trans hother)
    exact hcall
  · rw [hc.others other hne] at hother
    exact (h.calls other call' hother).transport halike (hc.journal other hne)

theorem quiet_changed {call : HeldCall σ ε α} (h : Faithful r s)
    (hc : s.Changed place call calls scene) (other : Nat) (hle : calls.length ≤ other) :
    invocationsOf other scene.journal = [] := by
  have hnone := List.getElem?_eq_none hle
  have hne : other ≠ place := by
    rintro rfl
    rw [hc.call] at hnone
    cases hnone
  rw [hc.journal other hne]
  exact h.quiet other (List.getElem?_eq_none_iff.mp ((hc.others other hne).symm.trans hnone))

/-- A call begins, or goes on without coming to its end. -/
theorem faithful_continued (h : Faithful r s) (hc : s.Changed place ⟨plan, hold⟩ calls scene)
    (hcall : HeldCall.Faithful r place s.retry scene ⟨plan, hold⟩)
    (hnot : ∀ ending, hold ≠ .finished ending) : Faithful r { s with scene, calls } where
  alike := h.alike
  calls := calls_changed h hc ⟨rfl, fun _ _ => rfl⟩ hcall
  quiet := quiet_changed h hc
  nodup := h.nodup
  mem_ended other plan' := by
    refine (h.mem_ended other plan').trans ?_
    by_cases hne : other = place
    · subst hne
      constructor
      · rintro ⟨ending, hended⟩
        exact absurd hended (hc.unended plan' ending)
      · rintro ⟨ending, hended⟩
        have hcall := Option.some.inj (hc.call.symm.trans hended)
        exact absurd (congrArg HeldCall.hold hcall) (hnot ending)
    · rw [← hc.others other hne]
  counted := h.counted

/-- A call comes to its end. -/
theorem faithful_ended (h : Faithful r s)
    (hc : s.Changed place ⟨plan, .finished ending⟩ calls scene)
    (hcall : HeldCall.Faithful r place s.retry scene ⟨plan, .finished ending⟩) :
    Faithful r { s with
      retry := s.retry.count (succeeded ending.result) ending.attempts
      scene, calls, ended := s.ended ++ [(place, plan)] } where
  alike := h.alike.count _ _
  calls := calls_changed h hc ⟨rfl, fun _ _ => rfl⟩ hcall
  quiet := quiet_changed h hc
  nodup := by
    rw [List.map_append]
    refine List.nodup_append.mpr
      ⟨h.nodup, List.pairwise_singleton .., fun other hother last hlast => ?_⟩
    obtain rfl := List.mem_singleton.mp hlast
    obtain ⟨⟨other, plan'⟩, hmem, rfl⟩ := List.mem_map.mp hother
    rintro rfl
    obtain ⟨ending', hended⟩ := (h.mem_ended _ _).mp hmem
    exact hc.unended _ _ hended
  mem_ended other plan' := by
    rw [List.mem_append, h.mem_ended, List.mem_singleton, Prod.mk.injEq]
    by_cases hne : other = place
    · subst hne
      rw [hc.call]
      constructor
      · rintro (⟨ending', hended⟩ | ⟨-, rfl⟩)
        · exact absurd hended (hc.unended plan' ending')
        · exact ⟨ending, rfl⟩
      · rintro ⟨ending', hended⟩
        cases hended
        exact .inr ⟨rfl, rfl⟩
    · rw [← hc.others other hne]
      exact ⟨fun h => h.resolve_right fun heq => hne heq.1, .inl⟩
  counted pause around := by
    have hblocking := (plan.blocking_spec h.alike place pause around).2.1
    rw [← hcall.1] at hblocking
    simp only [serially, List.foldl_append, List.foldl_cons, List.foldl_nil]
    exact hblocking.symm.trans (congrArg (fun r => (plan.blocking place pause r around).2.1)
      (h.counted pause around))

/-- **What is true of a session** stays true with every event. -/
theorem faithful_step (hpos : 0 < r.config.maxAttempts) (h : Faithful r s) (event : Event σ ε α) :
    Faithful r (s.step event) := by
  cases event with
  | begin plan =>
    have hquiet := h.quiet _ (Nat.le_refl s.calls.length)
    exact faithful_continued h (changed_begin s _) (faithful_begun h.alike plan hquiet)
      fun ending hended => by cases hended
  | poll place =>
    simp only [step]
    split
    · rename_i plan task hplace
      obtain ⟨hothers, hpoll⟩ := faithful_poll hpos h.alike (h.calls _ _ hplace) s.now
      split
      · rename_i task' retry scene hp
        rw [hp] at hothers hpoll
        obtain ⟨rfl, hcall⟩ := hpoll
        exact faithful_continued h (changed_set hplace _ hothers) hcall
          fun ending hended => by cases hended
      · rename_i ending retry scene hp
        rw [hp] at hothers hpoll
        obtain ⟨rfl, hcall⟩ := hpoll
        exact faithful_ended h (changed_set hplace _ hothers) hcall
    · exact h
  | drop place =>
    simp only [step]
    split
    · rename_i plan task hplace
      exact faithful_continued h (changed_set hplace _ fun _ _ => rfl) trivial
        fun ending hended => by cases hended
    · exact h
  | advance d => exact ⟨h.alike, h.calls, h.quiet, h.nodup, h.mem_ended, h.counted⟩

/-- **What is true of a session**, after any events. -/
theorem faithful_run (hpos : 0 < r.config.maxAttempts) (now : Instant) (around : σ)
    (events : List (Event σ ε α)) : Faithful r ((start r now around).run events) := by
  induction events using List.reverseRecOn with
  | nil => exact faithful_start r now around
  | append_singleton events event ih =>
    have hrun : (start r now around).run (events ++ [event])
        = ((start r now around).run events).step event := by
      simp [run, List.foldl_append]
    rw [hrun]
    exact faithful_step hpos ih event

/-- **Held calls agree with blocking ones.** Many calls of one valid retry without jitter are polled
or given up at any time and in any order. A call that has ended has the ending and the attempts of
the blocking call with the same plan, of whatever retry with the same configuration and policy. The
retry has counted at any time what it would have counted if exactly the calls that have ended had
been blocking ones, one after the other; so a poll that ends no call counts nothing. -/
theorem held_calls_agree_with_blocking_ones (hr : r.config.validate = .ok ())
    (hj : r.config.backoff.jitter = .none) (now : Instant) (around : σ)
    (events : List (Event σ ε α)) :
    let s := (start r now around).run events
    (∀ place plan ending, s.calls[place]? = some ⟨plan, .finished ending⟩ →
      ∀ draw tally pause around',
        let called := plan.blocking place pause { r with draw, tally } around'
        ending = called.1 ∧ invocationsOf place s.scene.journal = called.2.2.journal ∧
          called.2.2.journal = invocations place 0 ending.attempts) ∧
    ((s.ended.map Prod.fst).Nodup ∧ ∀ place plan,
      (place, plan) ∈ s.ended ↔ ∃ ending, s.calls[place]? = some ⟨plan, .finished ending⟩) ∧
    (∀ pause around', s.retry = serially pause around' r s.ended) ∧
    ∀ event, (s.step event).ended = s.ended → (s.step event).retry = s.retry := by
  intro s
  have hpos : 0 < r.config.maxAttempts := (r.config.validate_ok_iff.mp hr).1
  have h : Faithful r s := faithful_run hpos now around events
  refine ⟨fun place plan ending hcall draw tally pause around' => ?_, ⟨h.nodup, h.mem_ended⟩,
    h.counted, fun event hended => ?_⟩
  · obtain ⟨hending, hjournal⟩ := h.calls place _ hcall
    obtain ⟨hcalled, -, hmade⟩ :=
      plan.blocking_spec (alike_of_no_jitter hj draw tally) place pause around'
    rw [← hending] at hcalled hmade
    exact ⟨hcalled.symm, hjournal.trans hmade.symm, hmade⟩
  · have hstep := (faithful_step hpos h event).counted (fun _ a => a) around
    rw [hstep, hended, ← h.counted]

/-- The first attempt fails, the second one succeeds, and each of them takes a second poll. -/
def secondTime : Plan Unit String Nat :=
  ⟨fun k => if k = 0 then .error "busy" else .ok 7, fun _ => 1, fun _ world => world⟩

/-- The first attempt succeeds with the third poll. -/
def thirdPoll : Plan Unit String Nat := ⟨fun _ => .ok 9, fun _ => 2, fun _ world => world⟩

/-- Two calls that are polled in turns, once too early, agree with blocking ones, although the
second one ends while the first one waits. -/
theorem agreement_of_hasty :
    let s := (start hasty .zero ()).run [.begin secondTime, .begin thirdPoll, .poll 0, .poll 1,
      .poll 0, .poll 1, .poll 0, .poll 1, .advance (.ofMillis 7), .poll 0, .poll 0]
    hasty.config.validate = .ok () ∧ hasty.config.backoff.jitter = .none ∧
      s.calls[0]? = some ⟨secondTime, .finished ⟨.ok 7, 2, .ofMillis 7⟩⟩ ∧
      s.calls[1]? = some ⟨thirdPoll, .finished ⟨.ok 9, 1, .zero⟩⟩ ∧
      s.ended = [(1, thirdPoll), (0, secondTime)] ∧
      invocationsOf 0 s.scene.journal = invocations 0 0 2 ∧
      s.retry.tally.counters = [1, 1, 0, 0] := by
  intro s
  have hr : hasty.config.validate = .ok () := rfl
  obtain ⟨hcalls, -, hcounted, -⟩ := held_calls_agree_with_blocking_ones hr rfl .zero ()
    [.begin secondTime, .begin thirdPoll, .poll 0, .poll 1, .poll 0, .poll 1, .poll 0, .poll 1,
      .advance (.ofMillis 7), .poll 0, .poll 0]
  have hfirst : s.calls[0]? = some ⟨secondTime, .finished ⟨.ok 7, 2, .ofMillis 7⟩⟩ := by rfl
  have hsecond : s.calls[1]? = some ⟨thirdPoll, .finished ⟨.ok 9, 1, .zero⟩⟩ := by rfl
  have hended : s.ended = [(1, thirdPoll), (0, secondTime)] := by rfl
  refine ⟨hr, rfl, hfirst, hsecond, hended, ?_, ?_⟩
  · obtain ⟨-, hjournal, hmade⟩ := hcalls 0 _ _ hfirst hasty.draw hasty.tally (fun _ a => a) ()
    exact hjournal.trans hmade
  · rw [hcounted (fun _ a => a) (), hended]
    rfl

end Session

end Retry

end ClusterGuard
