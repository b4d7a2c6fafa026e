import ClusterGuard.Guard.Call
import ClusterGuard.Guard.Stream

/-!
# Who was invoked, and how often

A `Scene` is some surroundings together with a journal, in which every attempt of a piece of work,
when it is over, and every subscription of a stream, when it begins, leaves an `Invocation`. The
journal is compared with the attempts that retried work and retried streams count for themselves,
one poll at a time.

Results:
* **`Task.kept_poll`**: a poll of retried work makes the next attempts in order, never more than are
  allowed, and the call is counted when it ends.
* **`Retrying.kept_poll`**: the same for the subscriptions of a retried stream.
-/

namespace ClusterGuard

/-- An attempt made, or a subscription begun, for a call. -/
structure Invocation where
  caller : Nat
  /-- How many the call had before. -/
  number : Nat
deriving DecidableEq

/-- Surroundings with a journal of invocations. -/
structure Scene (σ : Type) where
  around : σ
  journal : List Invocation

/-- A number of invocations of one call in a row. -/
def invocations (caller first count : Nat) : List Invocation :=
  (List.range' first count).map (Invocation.mk caller)

theorem invocations_append (caller first m n : Nat) :
    invocations caller first m ++ invocations caller (first + m) n
      = invocations caller first (m + n) := by
  simp only [invocations, ← List.map_append, List.range'_append_1]

/-- The invocations of one call, in order. -/
def invocationsOf (caller : Nat) (journal : List Invocation) : List Invocation :=
  journal.filter fun i => i.caller = caller

theorem invocationsOf_append (caller : Nat) (l l' : List Invocation) :
    invocationsOf caller (l ++ l') = invocationsOf caller l ++ invocationsOf caller l' :=
  List.filter_append ..

theorem invocationsOf_self (caller first count : Nat) :
    invocationsOf caller (invocations caller first count) = invocations caller first count := by
  rw [invocationsOf, List.filter_eq_self]
  intro i hi
  obtain ⟨k, -, rfl⟩ := List.mem_map.mp hi
  exact decide_eq_true rfl

theorem invocationsOf_other {caller other : Nat} (h : other ≠ caller) (first count : Nat) :
    invocationsOf caller (invocations other first count) = [] := by
  rw [invocationsOf, List.filter_eq_nil_iff]
  intro i hi
  obtain ⟨k, -, rfl⟩ := List.mem_map.mp hi
  simpa using h

variable {σ τ ε α : Type} {caller n : Nat}

/-! ## Work that keeps a journal -/

/-- An act that leaves an entry in the journal. -/
def Act.noted (entry : Invocation) (act : Act σ ε α) : Act (Scene σ) ε α :=
  fun s => ((act s.around).1, ⟨(act s.around).2, s.journal ++ [entry]⟩)

/-- Whether an act leaves an entry in the journal. -/
def Act.Notes (entry : Invocation) (act : Act (Scene σ) ε α) : Prop :=
  ∀ s, (act s).2.journal = s.journal ++ [entry]

theorem Act.notes_noted (entry : Invocation) (act : Act σ ε α) : (act.noted entry).Notes entry :=
  fun _ => rfl

namespace Retry

/-- The attempts made, the next one and those left are all there are. -/
theorem left_add {r : Retry ε} {max : Nat} (hmax : r.config.maxAttempts = max) (hn : n < max) :
    n + r.left n + 1 = max := by
  unfold left
  omega

/-- A call that is run to its end leaves an entry in the journal for every attempt. -/
theorem journal_pursue (r : Retry ε) {work : Nat → Act (Scene σ) ε α} {caller : Nat}
    {pause : Duration → Scene σ → Scene σ} (hw : ∀ k, (work k).Notes ⟨caller, k⟩)
    (hp : ∀ d s, (pause d s).journal = s.journal) (left made : Nat) (waited : Duration)
    (s : Scene σ) :
    ∃ n, (r.pursue work pause left made waited s).1.attempts = made + n ∧
      (r.pursue work pause left made waited s).2.journal
        = s.journal ++ invocations caller made n := by
  induction left generalizing made waited s with
  | zero => exact ⟨1, rfl, hw made s⟩
  | succ left ih =>
    have hj := hw made s
    rcases hattempt : work made s with ⟨result, t⟩
    rw [hattempt] at hj
    simp only [pursue, hattempt]
    cases result with
    | ok a => exact ⟨1, rfl, hj⟩
    | error e =>
      cases hv : r.verdict e (made + 1) with
      | giveUp =>
        simp only [hv]
        exact ⟨1, rfl, hj⟩
      | wait d =>
        simp only [hv]
        obtain ⟨n, hn, hjournal⟩ := ih (made + 1) (waited + d) (if d.isZero then t else pause d t)
        have hpause : (if d.isZero then t else pause d t).journal = t.journal := by
          split
          · rfl
          · exact hp d t
        refine ⟨1 + n, hn.trans (Nat.add_assoc ..), hjournal.trans ?_⟩
        rw [hpause, hj, List.append_assoc, ← invocations_append]
        rfl

/-- Retried work that keeps a journal, `n` of whose attempts are over. -/
def Task.Kept (max caller n : Nat) (t : Task (Scene σ) ε α) : Prop :=
  (∀ k, (t.work k).run.Notes ⟨caller, k⟩) ∧
  match t.stage with
  | .unstarted => t.attempts = 0 ∧ n = 0
  | .attempting attempt => attempt.run.Notes ⟨caller, n⟩ ∧ t.attempts = n + 1 ∧ n < max
  | .waiting .. => t.attempts = n ∧ n < max

/-- No more attempts are over than are allowed. -/
theorem Task.Kept.le {max : Nat} {t : Task (Scene σ) ε α} (h : t.Kept max caller n) : n ≤ max := by
  obtain ⟨work, attempts, waited, stage⟩ := t
  obtain ⟨-, h⟩ := h
  cases stage with
  | unstarted => exact h.2 ▸ Nat.zero_le max
  | attempting => exact Nat.le_of_lt h.2.2
  | waiting => exact Nat.le_of_lt h.2

/-- What a poll of retried work comes to, `n` of whose attempts were over before. -/
def Task.Polled (max caller n : Nat) (s s' : Scene σ) :
    Progress (Task (Scene σ) ε α) (Ending ε α) → Prop
  | .pending t => ∃ k, s'.journal = s.journal ++ invocations caller n k ∧ t.Kept max caller (n + k)
  | .ready ending => ∃ k, s'.journal = s.journal ++ invocations caller n k ∧
      ending.attempts = n + k ∧ 0 < ending.attempts ∧ ending.attempts ≤ max

namespace Task

variable {r : Retry ε} {now : Instant} {work : Work (Scene σ) ε α}

/-- Invocations made before a poll went on belong to it. -/
theorem Polled.trans {max m : Nat} {s s' s'' : Scene σ}
    {q : Progress (Task (Scene σ) ε α) (Ending ε α)}
    (hs : s'.journal = s.journal ++ invocations caller n m)
    (h : Polled max caller (n + m) s' s'' q) : Polled max caller n s s'' q := by
  have hj {k : Nat} (h : s''.journal = s'.journal ++ invocations caller (n + m) k) :
      s''.journal = s.journal ++ invocations caller n (m + k) := by
    rw [h, hs, List.append_assoc, invocations_append]
  cases q with
  | pending t =>
    obtain ⟨k, h, hk⟩ := h
    exact ⟨m + k, hj h, by rwa [← Nat.add_assoc]⟩
  | ready ending =>
    obtain ⟨k, h, he, hpos, hle⟩ := h
    exact ⟨m + k, hj h, by rw [he, Nat.add_assoc], hpos, hle⟩

/-- The attempts are made in order, and there are no more than are left. -/
theorem polled_advance {max left made : Nat} (hleft : made + left + 1 = max)
    (hw : ∀ k, (work k).run.Notes ⟨caller, k⟩) (waited : Duration)
    {attempt : Attempt (Scene σ) ε α} (ha : attempt.run.Notes ⟨caller, made⟩) (s : Scene σ) :
    Polled max caller made s (advance r now work left made waited attempt s).2
      (advance r now work left made waited attempt s).1 := by
  fun_induction Task.advance r now work left made waited attempt s with
  | case1 left made waited attempt s waits hwaits =>
    exact ⟨0, (List.append_nil _).symm, hw, ha, rfl, by omega⟩
  | case2 left made waited attempt s hwaits value s' hr =>
    have hj := ha s
    rw [hr] at hj
    exact ⟨1, hj, rfl, Nat.succ_pos _, by simp only; omega⟩
  | case3 made waited attempt s hwaits error s' hr d left hv hzero ih =>
    have hj := ha s
    rw [hr] at hj
    exact .trans (m := 1) hj (ih (by omega) (hw _))
  | case4 made waited attempt s hwaits error s' hr d left hv hd =>
    have hj := ha s
    rw [hr] at hj
    exact ⟨1, hj, hw, rfl, by omega⟩
  | case5 left made waited attempt s hwaits error s' hr hno =>
    have hj := ha s
    rw [hr] at hj
    exact ⟨1, hj, rfl, Nat.succ_pos _, by simp only; omega⟩

theorem polled_step {max : Nat} (now : Instant) (hmax : r.config.maxAttempts = max) (hpos : 0 < max)
    {t : Task (Scene σ) ε α} (h : t.Kept max caller n) (s : Scene σ) :
    Polled max caller n s (t.step r now s).2 (t.step r now s).1 := by
  obtain ⟨work, attempts, waited, stage⟩ := t
  obtain ⟨hw, h⟩ := h
  cases stage with
  | unstarted =>
    obtain ⟨-, rfl⟩ := h
    exact polled_advance (left_add hmax hpos) hw _ (hw 0) s
  | attempting attempt =>
    obtain ⟨ha, rfl, hn⟩ := h
    exact polled_advance (left_add hmax hn) hw _ ha s
  | waiting due wait =>
    obtain ⟨rfl, hn⟩ := h
    simp only [step]
    split
    · exact ⟨0, (List.append_nil _).symm, hw, rfl, hn⟩
    · exact polled_advance (left_add hmax hn) hw _ (hw _) s

/-- **A poll of retried work** makes the next attempts in order. The call is counted when it ends,
and only then. -/
theorem kept_poll {max : Nat} (now : Instant) (hmax : r.config.maxAttempts = max) (hpos : 0 < max)
    {t : Task (Scene σ) ε α} (h : t.Kept max caller n) (s : Scene σ) :
    Polled max caller n s (t.poll r now s).2.2 (t.poll r now s).1 ∧
      (t.poll r now s).2.1 = match (t.poll r now s).1 with
        | .pending _ => r
        | .ready ending => r.count (succeeded ending.result) ending.attempts := by
  have hstep := polled_step now hmax hpos h s
  unfold poll
  split
  all_goals
    rename_i hs
    rw [hs] at hstep
    exact ⟨hstep, rfl⟩

end Task

end Retry

/-! ## Streams that keep a journal -/

/-- Streams that leave an entry in the journal, if they carry one, when they are first polled. A
retried stream polls every inner stream as soon as it has subscribed. -/
def Source.noted (inner : Source σ τ ε α) : Source (Scene σ) (Option Invocation × τ) ε α where
  poll t s :=
    let (signal, rest, around) := inner.poll t.2 s.around
    (signal, (none, rest), ⟨around, s.journal ++ t.1.toList⟩)
  drop t s := { s with around := inner.drop t.2 s.around }

namespace Retrying

/-- A retried stream that keeps a journal and has begun `n` subscriptions. -/
def Kept (max caller n : Nat) (t : Retrying (Option Invocation × τ)) : Prop :=
  (∀ k, (t.subscribe k).1 = some ⟨caller, k⟩) ∧ t.attempts = n ∧
  match t.stage with
  | .unsubscribed => n = 0
  | .streaming inner => inner.1 = none ∧ 0 < n ∧ n ≤ max
  | .waiting _ => n < max
  | .done => 0 < n ∧ n ≤ max

/-- No more subscriptions were begun than are allowed. -/
theorem Kept.le {max : Nat} {t : Retrying (Option Invocation × τ)} (h : t.Kept max caller n) :
    n ≤ max := by
  obtain ⟨subscribe, attempts, stage⟩ := t
  obtain ⟨-, -, h⟩ := h
  cases stage with
  | unsubscribed => exact (show n = 0 from h) ▸ Nat.zero_le max
  | streaming => exact h.2.2
  | waiting => exact Nat.le_of_lt h
  | done => exact h.2

/-- What a poll of a retried stream comes to, which had begun `n` subscriptions before. It is
counted with its last item. -/
def Polled (max caller n : Nat) (r r' : Retry ε) (s s' : Scene σ)
    (t : Retrying (Option Invocation × τ)) (signal : Signal ε α) : Prop :=
  ∃ k, s'.journal = s.journal ++ invocations caller n k ∧ t.Kept max caller (n + k) ∧
    match signal with
    | .pending | .value _ => r' = r ∧ t.isTerminated = false
    | .ended => r' = r.count true t.attempts ∧ 0 < t.attempts ∧ t.attempts ≤ max
    | .failure _ => r' = r.count false t.attempts ∧ 0 < t.attempts ∧ t.attempts ≤ max

variable {inner : Source σ τ ε α} {now : Instant} {subscribe : Nat → Option Invocation × τ}

theorem noted_poll {t t' : Option Invocation × τ} {s s' : Scene σ} {signal : Signal ε α}
    (h : inner.noted.poll t s = (signal, t', s')) :
    s'.journal = s.journal ++ t.1.toList ∧ t'.1 = none := by
  simp only [Source.noted, Prod.mk.injEq] at h
  obtain ⟨-, rfl, rfl⟩ := h
  exact ⟨rfl, rfl⟩

/-- Subscriptions made before a poll went on belong to it. -/
theorem Polled.trans {max m : Nat} {r r' : Retry ε} {s s' s'' : Scene σ}
    {t : Retrying (Option Invocation × τ)} {signal : Signal ε α}
    (hs : s'.journal = s.journal ++ invocations caller n m)
    (h : Polled max caller (n + m) r r' s' s'' t signal) :
    Polled max caller n r r' s s'' t signal := by
  obtain ⟨k, hj, hk, hr⟩ := h
  refine ⟨m + k, ?_, by rwa [← Nat.add_assoc], hr⟩
  rw [hj, hs, List.append_assoc, invocations_append]

/-- The subscriptions are made in order, and there are no more than are left. -/
theorem polled_follow {max left attempts n m : Nat} (hleft : attempts + left = max)
    (hsub : ∀ k, (subscribe k).1 = some ⟨caller, k⟩) {t : Option Invocation × τ}
    (ht : t.1.toList = invocations caller n m) (hn : attempts = n + m) (hpos : 0 < attempts)
    (r : Retry ε) (s : Scene σ) :
    let (signal, t', r', s') := follow inner.noted now subscribe left attempts t r s
    Polled max caller n r r' s s' t' signal := by
  fun_induction follow inner.noted now subscribe left attempts t r s generalizing n m with
  | case1 left attempts t r s t' s' hp =>
    obtain ⟨hj, hnone⟩ := noted_poll hp
    rw [ht] at hj
    exact ⟨m, hj, ⟨hsub, hn, hnone, by omega, by omega⟩, rfl, rfl⟩
  | case2 left attempts t r s a t' s' hp =>
    obtain ⟨hj, hnone⟩ := noted_poll hp
    rw [ht] at hj
    exact ⟨m, hj, ⟨hsub, hn, hnone, by omega, by omega⟩, rfl, rfl⟩
  | case3 left attempts t r s t' s' hp =>
    obtain ⟨hj, -⟩ := noted_poll hp
    rw [ht] at hj
    exact ⟨m, hj, ⟨hsub, hn, by omega, by omega⟩, rfl, hpos, by simp only; omega⟩
  | case4 attempts t r s e t' s' hp d left hv hzero ih =>
    obtain ⟨hj, -⟩ := noted_poll hp
    rw [ht] at hj
    have hnext : (subscribe attempts).1.toList = invocations caller attempts 1 := by
      rw [hsub]
      rfl
    have h := ih (by omega) hnext rfl (Nat.succ_pos _)
    rcases hf : follow inner.noted now subscribe left (attempts + 1) (subscribe attempts) r
      (inner.noted.drop t' s') with ⟨signal, t'', r', s''⟩
    rw [hf, hn] at h
    exact .trans hj h
  | case5 attempts t r s e t' s' hp d left hv hd =>
    obtain ⟨hj, -⟩ := noted_poll hp
    rw [ht] at hj
    exact ⟨m, hj, ⟨hsub, hn, by omega⟩, rfl, rfl⟩
  | case6 left attempts t r s e t' s' hp hno =>
    obtain ⟨hj, -⟩ := noted_poll hp
    rw [ht] at hj
    exact ⟨m, hj, ⟨hsub, hn, by omega, by omega⟩, rfl, hpos, by simp only; omega⟩

/-- **A poll of a retried stream** makes the next subscriptions in order. The stream is counted with
its last item, and only then. -/
theorem kept_poll {max : Nat} {r : Retry ε} (inner : Source σ τ ε α) (now : Instant)
    (hmax : r.config.maxAttempts = max) (hpos : 0 < max) {t : Retrying (Option Invocation × τ)}
    (h : t.Kept max caller n) (hdone : t.isTerminated = false) (s : Scene σ) :
    let (signal, t', r', s') := t.poll inner.noted now r s
    Polled max caller n r r' s s' t' signal := by
  obtain ⟨subscribe, attempts, stage⟩ := t
  obtain ⟨hsub, hn, h⟩ := h
  obtain rfl : attempts = n := hn
  have hfresh : (subscribe attempts).1.toList = invocations caller attempts 1 := by
    rw [hsub]
    rfl
  cases stage with
  | unsubscribed =>
    obtain rfl : attempts = 0 := h
    have hleft := Retry.left_add hmax hpos
    exact polled_follow (by simp only; omega) hsub hfresh rfl (Nat.succ_pos _) r s
  | streaming t =>
    obtain ⟨hnone, hpos, hle⟩ := h
    have hleft := Retry.left_add hmax (n := attempts - 1) (by omega)
    have hnothing : t.1.toList = invocations caller attempts 0 := by
      rw [hnone]
      rfl
    exact polled_follow (by simp only; omega) hsub hnothing rfl hpos r s
  | waiting due =>
    have hlt : attempts < max := h
    simp only [poll]
    split
    · exact ⟨0, (List.append_nil _).symm, ⟨hsub, rfl, hlt⟩, rfl, rfl⟩
    · have hleft := Retry.left_add hmax hlt
      exact polled_follow (by omega) hsub hfresh rfl (Nat.succ_pos _) r s
  | done => simp [isTerminated] at hdone

end Retrying

end ClusterGuard
