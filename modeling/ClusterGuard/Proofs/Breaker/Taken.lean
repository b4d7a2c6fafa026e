import ClusterGuard.Proofs.Breaker.Opening
import ClusterGuard.Proofs.Breaker.Window

/-!
# The outcomes a breaker took

The outcomes `counted` are those of permits granted since the last transition. A breaker knows only
the epochs, and those repeat; what it takes for an outcome of its own is what it `takes`. Told by
the outcomes taken since the latest transition, the window of a closed breaker needs no bound on
the number of transitions.

Results:
* `breaker_step_of_takes`: an outcome taken is recorded.
* **`windowed_taken`**: the window, in every run, by the outcomes taken.
* **`opened_step_of_takes_iff`**: when an outcome taken opens the circuit.
* `taken_eq_counted`: below `2 ^ 64` transitions, what was taken is what counts.
-/

namespace ClusterGuard.Breaker

theorem length_rtake {α : Type} (l : List α) (n : Nat) : (l.rtake n).length = min l.length n := by
  rw [List.rtake, List.length_drop]
  omega

theorem rtake_of_length_le {α : Type} {l : List α} {n : Nat} (h : l.length ≤ n) :
    l.rtake n = l := by
  rw [List.rtake, Nat.sub_eq_zero_of_le h, List.drop_zero]

namespace Session

variable {s : Session} {c : Config} {l : List Outcome} {o : Outcome}

/-! ## Taking outcomes -/

/-- The outcomes taken since the latest transition, after one more operation. -/
def takenAfter (s : Session) (l : List Outcome) (op : Operation) : List Outcome :=
  if (s.step op).transitions = s.transitions then l ++ (s.takes op).toList else []

/-- One more operation, with the outcomes taken since the latest transition. -/
def takeStep (x : Session × List Outcome) (op : Operation) : Session × List Outcome :=
  (x.1.step op, x.1.takenAfter x.2 op)

/-- The outcomes that a run made the breaker take since the latest transition. -/
def taken (s : Session) (ops : List Operation) : List Outcome := (ops.foldl takeStep (s, [])).2

theorem fst_foldl_takeStep (s : Session) (l : List Outcome) (ops : List Operation) :
    (ops.foldl takeStep (s, l)).1 = s.run ops := by
  induction ops generalizing s l with
  | nil => rfl
  | cons op ops ih => exact ih _ _

theorem taken_concat (s : Session) (ops : List Operation) (op : Operation) :
    s.taken (ops ++ [op]) = (s.run ops).takenAfter (s.taken ops) op := by
  unfold taken
  rw [List.foldl_append, ← fst_foldl_takeStep s [] ops]
  rfl

/-- An outcome taken is recorded. -/
theorem breaker_step_of_takes {op : Operation} (h : s.takes op = some o) :
    (s.step op).breaker = s.breaker.record o := by
  cases op with
  | finish place o' =>
    cases hl : s.live[place]? with
    | none => simp [takes, hl] at h
    | some l =>
      by_cases he : l.permit.epoch = s.breaker.epoch
      · obtain rfl : o' = o := by simpa [takes, hl, he] using h
        simp [step, hl, finish_of_current he]
      · simp [takes, hl, he] at h
  | record o' =>
    obtain rfl : o' = o := by simpa [takes] using h
    exact breaker_note ..
  | acquire => simp [takes] at h
  | tryAcquire => simp [takes] at h
  | drop place => simp [takes] at h
  | reset => simp [takes] at h
  | advance d => simp [takes] at h

/-! ## The window by the outcomes taken -/

theorem windowed_congr {t : Session} (h : Windowed c s) (hb : t.breaker = s.breaker)
    (hn : t.breaker.state = .closed → t.counted = s.counted) : Windowed c t where
  failures := by
    rw [hb]
    exact h.failures
  outcomes hs := by
    rw [hn hs, hb]
    exact h.outcomes (hb ▸ hs)
  quiet hs := by
    rw [hb]
    exact h.quiet (hb ▸ hs)
  cleared hs := by
    rw [hb]
    exact h.cleared (hb ▸ hs)

/-- Every step is noted down, and only closing the circuit by hand as such. -/
theorem transitions_step (s : Session) (op : Operation) :
    (s.step op).transitions = (s.note (s.step op).breaker (decide (op = .reset))).transitions := by
  have hask := step_ask
    (P := fun t => t.transitions = (s.note s.breaker.request.2 false).transitions)
    (fun _ _ _ h => h) rfl
  cases op with
  | acquire =>
    rw [(breaker_step_ask s).1]
    exact hask.1
  | tryAcquire =>
    rw [(breaker_step_ask s).2]
    exact hask.2
  | finish place o =>
    cases hl : s.live[place]? with
    | none => simp [step, hl, note]
    | some l =>
      simp only [step, hl, breaker_note]
      unfold note tally without
      split <;> simp_all
  | drop place =>
    cases hl : s.live[place]? with
    | none => simp [step, hl, note]
    | some l =>
      simp only [step, hl, breaker_note]
      unfold note without
      split <;> simp_all
  | record o =>
    simp only [step, breaker_note]
    unfold note tally
    split <;> simp_all
  | reset => simp [step]
  | advance d => simp [step]

/-- A note that makes no transition finds the state it was in. -/
theorem state_of_transitions_note {b : Breaker} {byHand : Bool}
    (h : (s.note b byHand).transitions = s.transitions) : b.state = s.breaker.state := by
  unfold note at h
  split at h
  · simp at h
  · rename_i hm
    simpa using (not_or.mp hm).2

/-- An outcome taken that leaves the state makes no transition. -/
theorem transitions_step_of_takes {op : Operation} (ht : s.takes op = some o)
    (hs : (s.step op).breaker.state = s.breaker.state) :
    (s.step op).transitions = s.transitions := by
  have hop : op ≠ .reset := by
    rintro rfl
    simp [takes] at ht
  rw [transitions_step]
  simp [note, hop, hs]

/-- A transition to `closed` leaves nothing counted. -/
theorem counted_note {b : Breaker} (hb : b.state = .closed) (byHand : Bool) :
    (s.note b byHand).counted
      = if (s.note b byHand).transitions = s.transitions then s.counted else [] := by
  unfold note
  by_cases hm : byHand = true ∨ b.state ≠ s.breaker.state
  · rw [if_pos hm, if_pos hb, if_neg (Nat.succ_ne_self _)]
  · rw [if_neg hm, if_pos rfl]

/-- What is noted down with any outcomes counted. -/
theorem windowed_of_note {b : Breaker} {byHand : Bool} {t : Session}
    (h : Windowed c (Session.note { s with counted := l } b byHand)) (hb : t.breaker = b)
    (hn : b.state = .closed →
      t.counted = if (s.note b byHand).transitions = s.transitions then l else []) :
    Windowed c t := by
  refine windowed_congr h (by rw [hb, breaker_note]) fun hs => ?_
  have hs := hb ▸ hs
  rw [hn hs, counted_note hs]
  simp only [note]
  split <;> rfl

/-- A step leaves the window up to date if what it notes down does. -/
theorem windowed_step_of_note {op : Operation} {b : Breaker} {k : List Outcome}
    (hstep : (s.step op).breaker = b)
    (hw : Windowed c (Session.note { s with counted := k } b (decide (op = .reset))))
    (hk : (s.note b (decide (op = .reset))).transitions = s.transitions → b.state = .closed →
      k = l ++ (s.takes op).toList) :
    Windowed c { s.step op with counted := s.takenAfter l op } := by
  refine windowed_of_note hw hstep fun hclosed => ?_
  simp only [takenAfter, transitions_step, hstep]
  split
  · rw [hk ‹_› hclosed]
  · rfl

/-- An outcome that is taken joins those taken before. -/
theorem windowed_step_of_takes (hc : c.Valid) (hb : Booked c s)
    (h : Windowed c { s with counted := l }) {op : Operation} (ht : s.takes op = some o) :
    Windowed c { s.step op with counted := s.takenAfter l op } := by
  have hbooked : Booked c { s with counted := l } := ⟨hb.config, hb.epoch, hb.live⟩
  have hop : op ≠ .reset := by
    rintro rfl
    simp [takes] at ht
  have hrecorded : Windowed c
      (Session.note { s with counted := l ++ (s.counts (.record o)).toList }
        (s.breaker.record o) false) := windowed_recorded hc hbooked h (recorded s.breaker o)
  refine windowed_step_of_note (breaker_step_of_takes ht) (by simpa [hop] using hrecorded) ?_
  intro hsame hclosed
  rw [counts_record (state_of_transitions_note hsame ▸ hclosed), ht]

/-- A request leaves the window up to date. -/
theorem windowed_step_of_request (hc : c.Valid) (hb : Booked c s)
    (h : Windowed c { s with counted := l }) {op : Operation} (ht : s.takes op = none)
    (hop : op ≠ .reset) (hstep : (s.step op).breaker = s.breaker.request.2) :
    Windowed c { s.step op with counted := s.takenAfter l op } := by
  have hbooked : Booked c { s with counted := l } := ⟨hb.config, hb.epoch, hb.live⟩
  have hrequested := windowed_requested hc h (requested_of_booked hc.2.2.2 hbooked)
  refine windowed_step_of_note hstep (by simpa [hop] using hrequested) ?_
  simp [ht]

/-- So does what changes neither the window nor the state. -/
theorem windowed_step_of_same (h : Windowed c { s with counted := l }) {op : Operation}
    (ht : s.takes op = none) (hop : op ≠ .reset) {b : Breaker}
    (hstep : (s.step op).breaker = b) (hs : b.state = s.breaker.state)
    (hw : b.window = s.breaker.window) :
    Windowed c { s.step op with counted := s.takenAfter l op } := by
  refine windowed_step_of_note hstep (by simpa [hop] using windowed_note_of_same h hs hw) ?_
  simp [ht]

/-- **Taking outcomes keeps the window up to date**, whatever the operation. -/
theorem windowed_takenAfter (hc : c.Valid) (hb : Booked c s)
    (h : Windowed c { s with counted := l }) (op : Operation) :
    Windowed c { s.step op with counted := s.takenAfter l op } := by
  cases ht : s.takes op with
  | some o => exact windowed_step_of_takes hc hb h ht
  | none =>
    cases op with
    | acquire => exact windowed_step_of_request hc hb h ht (by simp) (breaker_step_ask s).1
    | tryAcquire => exact windowed_step_of_request hc hb h ht (by simp) (breaker_step_ask s).2
    | finish place o =>
      refine windowed_step_of_same h ht (by simp) ?_ rfl rfl
      cases hl : s.live[place]? with
      | none => simp [step, hl]
      | some p =>
        have he : p.permit.epoch ≠ s.breaker.epoch := by
          simpa [takes, hl] using ht
        simp [step, hl, finish_of_stale he]
    | drop place =>
      cases hl : s.live[place]? with
      | none =>
        refine windowed_step_of_same (b := s.breaker) h ht (by simp) ?_ rfl rfl
        simp [step, hl]
      | some p =>
        refine windowed_step_of_same (b := s.breaker.release p.permit) h ht (by simp) ?_ ?_ ?_
        · simp [step, hl]
        · exact state_release ..
        · exact window_release ..
    | record o => simp [takes] at ht
    | reset =>
      refine windowed_step_of_note (b := s.breaker.reset) (k := []) (by simp [step]) ?_ ?_
      · exact windowed_of_empty hc (by simp [reset, enter]) (by simp [reset, note])
      · intro hsame
        simp [note] at hsame
    | advance d =>
      exact windowed_step_of_same (b := s.breaker.advance d) h ht (by simp) (breaker_note ..) rfl rfl

/-- **The window of a breaker in use**, by the outcomes taken, in every run. -/
theorem windowed_taken (hc : c.Valid) (name : String) (clock : Instant) (ops : List Operation) :
    Windowed c { (start name c clock).run ops with counted := (start name c clock).taken ops } := by
  induction ops using List.reverseRecOn with
  | nil => exact windowed_start hc name clock
  | append_singleton ops op ih =>
    rw [taken_concat, run_concat]
    exact windowed_takenAfter hc (booked_run hc.2.2.2 name clock ops) ih op

/-- **When an outcome taken opens the circuit.** -/
theorem opened_step_of_takes_iff (hc : c.Valid) (hb : Booked c s)
    (h : Windowed c { s with counted := l }) (hs : s.breaker.state = .closed) {op : Operation}
    (ht : s.takes op = some o) :
    (s.step op).breaker.state = .opened ↔ Trips c ((l ++ [o]).rtake c.window) := by
  have hbooked : Booked c { s with counted := l } := ⟨hb.config, hb.epoch, hb.live⟩
  rw [breaker_step_of_takes ht]
  exact opened_recorded_iff hc hbooked h hs (recorded s.breaker o)

/-- An outcome taken by a closed circuit opens it or is kept. -/
theorem closed_of_takes {o : Outcome} (hs : s.breaker.state = .closed) {op : Operation}
    (ht : s.takes op = some o) (hne : (s.step op).breaker.state ≠ .opened) :
    (s.step op).breaker.state = .closed := by
  rw [breaker_step_of_takes ht] at hne ⊢
  have hr := recorded s.breaker o
  generalize s.breaker.record o = b at hne hr ⊢
  cases hr with
  | kept => exact hs
  | tripped => exact absurd (state_enter ..) hne
  | ignored _ h => simp [hs] at h
  | succeeded h => simp [hs] at h
  | failed h => simp [hs] at h

/-- An outcome taken that does not open the circuit joins those taken before. -/
theorem windowed_of_takes (hc : c.Valid) (hb : Booked c s)
    (h : Windowed c { s with counted := l }) (hs : s.breaker.state = .closed) {op : Operation}
    (ht : s.takes op = some o) (hne : (s.step op).breaker.state ≠ .opened) :
    (s.step op).breaker.state = .closed ∧
      Windowed c { s.step op with counted := l ++ [o] } := by
  have hclosed := closed_of_takes hs ht hne
  have hsame := transitions_step_of_takes ht (hclosed.trans hs.symm)
  have hnext : s.takenAfter l op = l ++ [o] := by
    unfold takenAfter
    rw [if_pos hsame, ht, Option.toList_some]
  refine ⟨hclosed, ?_⟩
  rw [← hnext]
  exact windowed_takenAfter hc hb h op

/-! ## What is taken and what counts -/

/-- What a step that ends with a closed circuit counts. -/
theorem counted_step {op : Operation} (h : (s.step op).breaker.state = .closed) :
    (s.step op).counted =
      if (s.step op).transitions = s.transitions then s.counted ++ (s.counts op).toList else [] := by
  have hask (h : s.breaker.request.2.state = .closed) :
      ((s.step .acquire).counted =
        if (s.step .acquire).transitions = s.transitions then s.counted else []) ∧
      ((s.step .tryAcquire).counted =
        if (s.step .tryAcquire).transitions = s.transitions then s.counted else []) :=
    step_ask (P := fun t => t.counted = if t.transitions = s.transitions then s.counted else [])
      (fun _ _ _ h => h) (counted_note h false)
  cases op with
  | acquire =>
    rw [(breaker_step_ask s).1] at h
    simpa [counts] using (hask h).1
  | tryAcquire =>
    rw [(breaker_step_ask s).2] at h
    simpa [counts] using (hask h).2
  | finish place o =>
    cases hl : s.live[place]? with
    | none => simp [step, hl, counts]
    | some p =>
      simp only [step, hl, breaker_note] at h ⊢
      exact counted_note h false
  | drop place =>
    cases hl : s.live[place]? with
    | none => simp [step, hl, counts]
    | some p =>
      simp only [step, hl, breaker_note, counts, Option.toList_none, List.append_nil] at h ⊢
      exact counted_note h false
  | record o =>
    simp only [step, breaker_note] at h ⊢
    exact counted_note h false
  | reset => simp [step, note, reset]
  | advance d =>
    simp only [step, breaker_note, counts, Option.toList_none, List.append_nil] at h ⊢
    exact counted_note h false

/-- Below `2 ^ 64` transitions, a closed breaker takes what counts. -/
theorem takes_eq_counts (hb : Booked c s) (hn : s.transitions < 2 ^ 64)
    (hs : s.breaker.state = .closed) (op : Operation) : s.takes op = s.counts op := by
  cases op with
  | finish place o =>
    cases hl : s.live[place]? with
    | none => simp [takes, counts, hl]
    | some p => simp [takes, counts, hl, hs, epoch_eq_iff hb hn (List.mem_of_getElem? hl)]
  | record o => simp [takes, counts, hs]
  | acquire => rfl
  | tryAcquire => rfl
  | drop place => rfl
  | reset => rfl
  | advance d => rfl

/-- **What was taken is what counts**, below `2 ^ 64` transitions. -/
theorem taken_eq_counted (hc : 0 < c.trials) (name : String) (clock : Instant)
    (ops : List Operation) (hn : ((start name c clock).run ops).transitions < 2 ^ 64)
    (hs : ((start name c clock).run ops).breaker.state = .closed) :
    (start name c clock).taken ops = ((start name c clock).run ops).counted := by
  induction ops using List.reverseRecOn with
  | nil => rfl
  | append_singleton ops op ih =>
    rw [run_concat] at hn hs
    rw [taken_concat, run_concat, takenAfter, counted_step hs]
    split
    · rename_i hsame
      have hclosed := hs
      rw [transitions_step] at hsame
      rw [state_of_transitions_note hsame] at hclosed
      have hn := Nat.lt_of_le_of_lt (transitions_le_step _ op) hn
      rw [ih hn hclosed, takes_eq_counts (booked_run hc name clock ops) hn hclosed]
    · rfl

end Session

end ClusterGuard.Breaker
