import ClusterGuard.Proofs.Guard.Invocations
import ClusterGuard.Proofs.Stream.Schedule

/-!
# What polled work comes to

A task can be polled at any instants, and each of its attempts may stay pending as often as it
likes. What it comes to, its `ending`, is what the attempts would come to in one go: a poll leaves
the ending as it is, or reaches it.

Results:
* `pursue_of_last`, `pursue_of_wait`: a call, unrolled by one attempt.
* `ahead_of_result`, `ahead_of_wait`: the same for the attempts to come.
* **`leads_advance`**, **`leads_step`**: every poll leads on to the ending, and gets nearer to it
  unless it is too early.
-/

namespace ClusterGuard.Retry

variable {σ ε α : Type} {r : Retry ε} {now : Instant}

/-- A wait of no time adds nothing. -/
theorem add_of_isZero {d : Duration} (h : d.isZero = true) (waited : Duration) :
    waited + d = waited := by
  have hle := waited.le_max
  have hd : d.nanos = 0 := by simpa [Duration.isZero] using h
  refine Duration.ext_nanos ?_
  rw [Duration.nanos_add, hd]
  omega

section Pursue

variable {work : Nat → Act σ ε α} {pause : Duration → σ → σ} {made : Nat} {waited : Duration}
  {s s' : σ}

/-- A call is over where an attempt succeeds, and where nothing follows its failure. -/
theorem pursue_of_last {result : Except ε α} (h : work made s = (result, s'))
    (hlast : ∀ e, result = .error e → r.verdict e (made + 1) = .giveUp) (left : Nat) :
    r.pursue work pause left made waited s = (⟨result, made + 1, waited⟩, s') := by
  cases left with
  | zero => simp only [pursue, h]
  | succ left =>
    cases result with
    | ok a => simp only [pursue, h]
    | error e => simp only [pursue, h, hlast e rfl]

/-- Otherwise the next attempt follows. -/
theorem pursue_of_wait {e : ε} {d : Duration} (h : work made s = (.error e, s'))
    (hv : r.verdict e (made + 1) = .wait d) :
    r.pursue work pause (r.left made) made waited s
      = r.pursue work pause (r.left (made + 1)) (made + 1) (waited + d)
          (if d.isZero then s' else pause d s') := by
  rw [left_of_lt (lt_of_wait hv)]
  simp only [pursue, h, hv]

end Pursue

/-- After a wait there is one attempt less to come. -/
theorem eq_left_of_wait {e : ε} {d : Duration} {made left : Nat} (hleft : left + 1 = r.left made)
    (hv : r.verdict e (made + 1) = .wait d) : left = r.left (made + 1) := by
  have hmade := left_of_lt (lt_of_wait hv)
  omega

/-- Without a wait, or without an attempt to come after it, there is no other attempt. -/
theorem giveUp_of_left {e : ε} {made left : Nat} (hleft : left = r.left made)
    (hno : ∀ d k, r.verdict e (made + 1) = .wait d → left = k + 1 → False) :
    r.verdict e (made + 1) = .giveUp := by
  cases hv : r.verdict e (made + 1) with
  | giveUp => rfl
  | wait d => exact (hno d _ hv (hleft.trans (left_of_lt (lt_of_wait hv)))).elim

namespace Task

variable {work : Work σ ε α} {made : Nat} {waited : Duration} {s s' : σ}

/-! ## Endings -/

/-- What the attempts from number `made` on come to, if waits do nothing to the surroundings. -/
def ahead (r : Retry ε) (work : Work σ ε α) (made : Nat) (waited : Duration) (s : σ) :
    Ending ε α × σ :=
  r.pursue (fun n => (work n).run) (fun _ s => s) (r.left made) made waited s

/-- What a task comes to. -/
def ending (r : Retry ε) (t : Task σ ε α) (s : σ) : Ending ε α × σ :=
  match t.stage with
  | .unstarted => ahead r t.work t.attempts t.waited s
  | .attempting _ => ahead r t.work (t.attempts - 1) t.waited s
  | .waiting _ wait => ahead r t.work t.attempts (t.waited + wait) s

/-- The work is over where an attempt succeeds, and where nothing follows its failure. -/
theorem ahead_of_result {result : Except ε α} (h : (work made).run s = (result, s'))
    (hlast : ∀ e d, result = .error e → r.verdict e (made + 1) ≠ .wait d) :
    ahead r work made waited s = (⟨result, made + 1, waited⟩, s') := by
  refine pursue_of_last h (fun e he => ?_) _
  cases hv : r.verdict e (made + 1) with
  | giveUp => rfl
  | wait d => exact absurd hv (hlast e d he)

/-- Otherwise the next attempt follows. -/
theorem ahead_of_wait {e : ε} {d : Duration} (h : (work made).run s = (.error e, s'))
    (hv : r.verdict e (made + 1) = .wait d) :
    ahead r work made waited s = ahead r work (made + 1) (waited + d) s' := by
  unfold ahead
  rw [pursue_of_wait h hv, ite_self]

/-! ## Polls -/

/-- What holds of a task that was polled: its attempts are those of its work, and it waits only for
attempts that are allowed. -/
def Sane (r : Retry ε) (t : Task σ ε α) : Prop :=
  match t.stage with
  | .unstarted => t.attempts = 0
  | .attempting attempt => 0 < t.attempts ∧ attempt.run = (t.work (t.attempts - 1)).run
  | .waiting .. => t.attempts < r.config.maxAttempts

/-- How far a task is from its end: the attempts not begun, and how often the one that was begun can
still stay pending. -/
def rank (r : Retry ε) (t : Task σ ε α) : Nat ×ₗ Nat :=
  toLex (r.config.maxAttempts + 1 - t.attempts, match t.stage with
    | .attempting attempt => attempt.waits + 1
    | _ => 0)

/-- Whether something was reached that leads on to this ending: a task with this ending and a lower
rank, which waits for nothing but a timer set now, or the ending itself. -/
def Leads (r : Retry ε) (now : Instant) (bound : Nat ×ₗ Nat) (target : Ending ε α × σ) :
    Progress (Task σ ε α) (Ending ε α) × σ → Prop
  | (.pending t, s) => t.Sane r ∧ rank r t < bound ∧
      (∀ due, t.wakesAt? = some due → ∃ d, due = deadline now d) ∧ t.ending r s = target
  | (.ready ending, s) => (ending, s) = target

theorem Leads.trans {bound bound' : Nat ×ₗ Nat} {target : Ending ε α × σ}
    {reached : Progress (Task σ ε α) (Ending ε α) × σ} (hlt : bound' < bound)
    (h : Leads r now bound' target reached) : Leads r now bound target reached := by
  obtain ⟨progress, s⟩ := reached
  cases progress with
  | pending t =>
    obtain ⟨hs, hrank, hw, hending⟩ := h
    exact ⟨hs, hrank.trans hlt, hw, hending⟩
  | ready ending => exact h

/-- **The attempts of one poll** lead on to what is ahead. -/
theorem leads_advance {left : Nat} {attempt : Attempt σ ε α} (hleft : left = r.left made)
    (hrun : attempt.run = (work made).run) (waited : Duration) (s : σ) :
    Leads r now (toLex (r.config.maxAttempts - made, attempt.waits + 1))
      (ahead r work made waited s) (advance r now work left made waited attempt s) := by
  fun_induction advance r now work left made waited attempt s with
  | case1 left made waited attempt s waits hwaits =>
    refine ⟨⟨Nat.succ_pos _, hrun⟩, Prod.Lex.toLex_lt_toLex.mpr (.inr ⟨?_, ?_⟩),
      fun due hdue => (by cases hdue), rfl⟩
    · exact Nat.succ_sub_succ ..
    · simp only [hwaits]
      omega
  | case2 left made waited attempt s hwaits value s' hr =>
    rw [hrun] at hr
    exact (ahead_of_result hr fun e d he => by cases he).symm
  | case3 made waited attempt s hwaits e s' hr d left hv hzero ih =>
    rw [hrun] at hr
    have hlt := lt_of_wait hv
    rw [ahead_of_wait hr hv, add_of_isZero hzero]
    exact .trans (Prod.Lex.toLex_lt_toLex.mpr (.inl (by omega))) (ih (eq_left_of_wait hleft hv) rfl)
  | case4 made waited attempt s hwaits e s' hr d left hv hd =>
    rw [hrun] at hr
    refine ⟨lt_of_wait hv, Prod.Lex.toLex_lt_toLex.mpr (.inr ⟨?_, Nat.succ_pos _⟩),
      fun due hdue => ⟨d, (Option.some.inj hdue).symm⟩, (ahead_of_wait hr hv).symm⟩
    exact Nat.succ_sub_succ ..
  | case5 left made waited attempt s hwaits e s' hr hno =>
    rw [hrun] at hr
    refine (ahead_of_result hr fun e' d he hv => ?_).symm
    obtain rfl := Except.error.inj he
    rw [giveUp_of_left hleft hno] at hv
    cases hv

/-- A poll that comes too early changes nothing. -/
theorem step_of_early {t : Task σ ε α} {due : Instant} (hw : t.wakesAt? = some due)
    (hlt : now < due) (s : σ) : t.step r now s = (.pending t, s) := by
  obtain ⟨work, attempts, waited, stage⟩ := t
  cases stage with
  | waiting due' wait =>
    obtain rfl : due' = due := Option.some.inj hw
    exact if_pos hlt
  | unstarted => cases hw
  | attempting => cases hw

/-- **Every other poll leads on** to the ending of the task. -/
theorem leads_step {t : Task σ ε α} (h : t.Sane r)
    (hfired : ∀ due, t.wakesAt? = some due → ¬now < due) (s : σ) :
    Leads r now (rank r t) (t.ending r s) (t.step r now s) := by
  obtain ⟨work, attempts, waited, stage⟩ := t
  cases stage with
  | unstarted =>
    obtain rfl : attempts = 0 := h
    refine .trans ?_ (leads_advance rfl rfl waited s)
    exact Prod.Lex.toLex_lt_toLex.mpr (.inl (Nat.lt_succ_self _))
  | attempting attempt =>
    obtain ⟨hpos, hrun⟩ := h
    obtain ⟨made, rfl⟩ := Nat.exists_eq_succ_of_ne_zero (Nat.ne_of_gt hpos)
    have hleads : Leads r now _ _ _ := leads_advance (rfl : r.left made = _) hrun waited s
    unfold rank
    simp only [Nat.succ_sub_succ]
    exact hleads
  | waiting due wait =>
    have hlt : attempts < r.config.maxAttempts := h
    have hstep : step r now ⟨work, attempts, waited, .waiting due wait⟩ s
        = advance r now work (r.left attempts) attempts (waited + wait) (work attempts) s :=
      if_neg (hfired due rfl)
    rw [hstep]
    refine .trans ?_ (leads_advance rfl rfl (waited + wait) s)
    exact Prod.Lex.toLex_lt_toLex.mpr (.inl (by simp only; omega))

end Task

end ClusterGuard.Retry
