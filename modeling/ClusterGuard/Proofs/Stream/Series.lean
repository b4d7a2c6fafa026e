import ClusterGuard.Proofs.Stream.Books
import ClusterGuard.Proofs.Stream.Subscriptions

/-!
# Retried streams with books

A retried stream over gated ones has its subscriptions numbered, so that each keeps a book of its
own. At any time all of them are over but the current one, and those to come are not begun.
`Charged` says what is true then of the stream and of the books, and every round of a poll keeps it.

Results:
* `Charged.subscribe`, `Charged.goes_on`, `Charged.fails`, `Charged.ends`: what one round keeps.
* **`charged_loop`**: so a poll keeps it, `charged_round` and `charged_ask` a part of one.
* `Charged.live_own`, `Charged.single`: the current subscription holds the only live permit.
* `Charged.isTerminated_iff`, `Charged.continued_of_rejected`: when a stream is done, and that a
  rejection is a failed attempt.
-/

namespace ClusterGuard

open Breaker (Permit Outcome Action)

variable {w τ ε α : Type}

/-- Whether no attempt follows when attempt number `k`, counted from zero, has failed with this
error: the policy says stop, or all the attempts allowed are used up. -/
def Retry.GivesUp (r : Retry ε) (e : ε) (k : Nat) : Prop :=
  r.policy e k = .stop ∨ r.config.maxAttempts ≤ k + 1

theorem Retry.givesUp_iff (r : Retry ε) (e : ε) (k : Nat) :
    r.GivesUp e k ↔ r.verdict e (k + 1) = .giveUp := (r.verdict_eq_giveUp_iff e (k + 1)).symm

/-- A retried stream over gated subscriptions with numbers. -/
abbrev Series (τ : Type) := Retrying (Nat × Gated τ)

namespace Series

open Gated (Office booked Balanced Account balanced_poll number_booked_poll signals_booked_poll
  books_booked_poll_of_ne booked_poll_of_ask booked_drop_of_done)

/-- The gates of subscriptions of which `n` are over and the others are to come. -/
def settled (n k : Nat) : Gate := if n ≤ k then .pending else .done

theorem settled_of_lt {n k : Nat} (h : k < n) : settled n k = .done := if_neg (Nat.not_le_of_lt h)

theorem settled_of_le {n k : Nat} (h : n ≤ k) : settled n k = .pending := if_pos h

/-- A subscription that is over is one of those that are over. -/
theorem update_settled_done (k : Nat) :
    Function.update (settled (k + 1)) k .done = settled (k + 1) := by
  rw [Function.update_eq_self_iff, settled_of_lt (Nat.lt_succ_self k)]

/-- A subscription that was not polled is one of those to come. -/
theorem update_settled_pending (k : Nat) :
    Function.update (settled (k + 1)) k .pending = settled k := by
  funext j
  by_cases hj : j = k
  · subst hj
    rw [Function.update_self, settled_of_le (Nat.le_refl j)]
  · rw [Function.update_of_ne hj]
    by_cases hlt : j < k
    · rw [settled_of_lt hlt, settled_of_lt (Nat.lt_succ_of_lt hlt)]
    · rw [settled_of_le (Nat.le_of_not_lt hlt), settled_of_le (by omega)]

/-- The gate of each subscription of a retried stream. -/
def gates (t : Series τ) : Nat → Gate :=
  match t.stage with
  | .streaming (k, s) => Function.update (settled t.attempts) k s.gate
  | _ => settled t.attempts

theorem gates_streaming (numbered : Nat → Nat × Gated τ) (k : Nat) (s : Gated τ) :
    gates ⟨numbered, k + 1, .streaming (k, s)⟩
      = Function.update (settled (k + 1)) k s.gate := rfl

/-- Whether a stream is between two attempts. -/
def IsBetween (t : Series τ) : Prop :=
  match t.stage with
  | .unsubscribed | .waiting _ => True
  | _ => False

theorem stage_of_isBetween {t : Series τ} (h : t.IsBetween) :
    t.stage = .unsubscribed ∨ ∃ due, t.stage = .waiting due := by
  unfold IsBetween at h
  split at h
  · exact .inl ‹_›
  · exact .inr ⟨_, ‹_›⟩
  · cases h

/-- Whether another attempt has followed subscription number `k`, or is due. -/
def Continued (t : Series τ) (k : Nat) : Prop :=
  k + 1 < t.attempts ∨ k + 1 = t.attempts ∧ t.IsBetween

/-- Between two attempts, another one follows whatever was subscribed to. -/
theorem continued_of_isBetween {t : Series τ} (h : t.IsBetween) (k : Nat) :
    t.Continued k ↔ k < t.attempts := by
  simp only [Continued, h, and_true]
  omega

theorem continued_of_not_isBetween {t : Series τ} (h : ¬t.IsBetween) (k : Nat) :
    t.Continued k ↔ k + 1 < t.attempts := by
  simp only [Continued, h, and_false, or_false]

/-- Whether subscription number `k` has failed with an error after which another attempt is
allowed. -/
def FailsOn (r : Retry ε) (o : Office w ε α) (k : Nat) : Prop :=
  ∃ e, .failure e ∈ (o.books k).signals ∧ ¬r.GivesUp e k

/-- The values of the first `n` subscriptions, in order. -/
def passed (o : Office w ε α) (n : Nat) : List (Except ε α) :=
  (List.range n).flatMap fun k => ((o.books k).signals.filterMap (·.value?)).map .ok

/-- What a reader has been given: all values, and the error of the last subscription once nothing
follows it. -/
def delivered (t : Series τ) (o : Office w ε α) : List (Except ε α) :=
  passed o t.attempts ++
    if t.isTerminated then
      ((o.books (t.attempts - 1)).signals.filterMap (·.error?)).map .error
    else []

/-- What is true of a retried stream over gated ones and of its books, at any time. -/
structure Charged (r : Retry ε) (refused : Rejection → ε) (b₀ : Breaker) (streams : Nat → τ)
    (held : Bool) (actions : List Action) (results : List (Except ε α)) (t : Series τ)
    (o : Office w ε α) : Prop where
  books : Balanced refused b₀ held actions t.attempts t.gates o
  sane : t.Sane r
  subscribes : t.subscribe = fun k => (k, .start (streams k))
  current : ∀ k s, t.stage = .streaming (k, s) → k + 1 = t.attempts ∧ s.gate ≠ .done
  again : ∀ k, t.Continued k ↔ FailsOn r o k
  delivers : results = delivered t o

variable {inner : Source w τ ε α} {refused : Rejection → ε} {b₀ : Breaker} {streams : Nat → τ}
  {held : Bool} {actions : List Action} {results : List (Except ε α)} {r : Retry ε}
  {o o' : Office w ε α} {n k : Nat} {s s' : Gated τ} {signal : Signal ε α} {now : Instant}
  {numbered : Nat → Nat × Gated τ} {t t' : Series τ}

/-- The values of one more subscription. -/
theorem passed_succ (o : Office w ε α) (k : Nat) :
    passed o (k + 1) = passed o k ++ ((o.books k).signals.filterMap (·.value?)).map .ok :=
  flatMap_range_succ ..

theorem passed_congr (h : ∀ j, j < n → (o'.books j).signals = (o.books j).signals) :
    passed o' n = passed o n := by
  refine List.flatMap_congr fun j hj => ?_
  rw [h j (List.mem_range.mp hj)]

/-- A stream subscribes: nothing happens yet. -/
theorem Charged.subscribe
    (h : Charged r refused b₀ streams held actions results ⟨numbered, n, .unsubscribed⟩ o) :
    Charged r refused b₀ streams held actions results ⟨numbered, n + 1, .streaming (numbered n)⟩
      o := by
  obtain rfl : numbered = fun k => (k, .start (streams k)) := h.subscribes
  have hgates : gates ⟨fun k => (k, .start (streams k)), n + 1, .streaming (n, .start (streams n))⟩
      = settled n := update_settled_pending n
  have haccount : Account refused (settled n n) held _ _ _ := h.books.accounts n
  rw [settled_of_le (Nat.le_refl n)] at haccount
  obtain ⟨hsignals, -, hdeeds⟩ := haccount.of_pending
  have hpassed : passed o (n + 1) = passed o n := by simp [passed_succ, hsignals]
  refine ⟨⟨h.books.linked, h.books.others, ?_, ?_⟩, Nat.succ_pos n, rfl, ?_, fun k => ?_, ?_⟩
  · simp only [h.books.own, flatMap_range_succ, hdeeds, List.append_nil]
  · rw [hgates]
    exact h.books.accounts
  · intro k s hstage
    cases hstage
    exact ⟨rfl, nofun⟩
  · have hbefore : IsBetween ⟨fun k => (k, .start (streams k)), n, .unsubscribed⟩ := trivial
    rw [← h.again k, continued_of_isBetween hbefore, continued_of_not_isBetween id]
    exact Nat.succ_lt_succ_iff
  · rw [h.delivers]
    simp [delivered, hpassed, Retrying.isTerminated]

/-- What a poll of the current subscription comes to. -/
structure Polled (r : Retry ε) (refused : Rejection → ε) (b₀ : Breaker) (actions : List Action)
    (k : Nat) (o : Office w ε α) (signal : Signal ε α) (s' : Gated τ) (o' : Office w ε α) :
    Prop where
  books : Balanced refused b₀ true actions (k + 1) (Function.update (settled (k + 1)) k s'.gate) o'
  done_iff : s'.gate = .done ↔ signal.IsLast
  failsOn_iff : ∀ j, FailsOn r o' j ↔
    FailsOn r o j ∨ j = k ∧ ∃ e, signal = .failure e ∧ ¬r.GivesUp e k
  passed_eq : passed o' (k + 1) = passed o (k + 1) ++ signal.value?.toList.map .ok
  errors_eq : (o'.books k).signals.filterMap (·.error?) = signal.error?.toList

theorem Charged.polled
    (h : Charged r refused b₀ streams true actions results ⟨numbered, k + 1, .streaming (k, s)⟩ o)
    (hp : (booked inner refused).poll (k, s) o = (signal, (k, s'), o')) :
    Polled r refused b₀ actions k o signal s' o' := by
  obtain ⟨-, hlive⟩ := h.current k s rfl
  have hbalanced := balanced_poll (s := s) inner h.books (Function.update_self ..)
  rw [hp] at hbalanced
  simp only [gates_streaming, Function.update_idem] at hbalanced
  have hsignals := signals_booked_poll hp
  have hother (j : Nat) (hj : j ≠ k) : o'.books j = o.books j := books_booked_poll_of_ne hp hj
  have haccount := h.books.accounts k
  rw [gates_streaming, Function.update_self] at haccount
  have haccount' := hbalanced.accounts k
  rw [Function.update_self] at haccount'
  have hnone := haccount.not_isLast hlive
  refine ⟨hbalanced, ?_, fun j => ?_, ?_, ?_⟩
  · rw [haccount'.isLast_iff, hsignals]
    constructor
    · rintro ⟨signal', hmem, hl⟩
      rcases List.mem_append.mp hmem with hmem | hmem
      · exact absurd hl (hnone signal' hmem)
      · exact List.mem_singleton.mp hmem ▸ hl
    · intro hl
      exact ⟨signal, List.mem_append_right _ (List.mem_singleton_self signal), hl⟩
  · by_cases hj : j = k
    · subst hj
      have hbefore (e : ε) : .failure e ∉ (o.books j).signals :=
        fun hmem => hnone (.failure e) hmem trivial
      simp [FailsOn, hsignals, hbefore, eq_comm]
    · simp [FailsOn, hother j hj, hj]
  · have hearlier : passed o' k = passed o k :=
      passed_congr fun j hj => congrArg Gated.Book.signals (hother j (Nat.ne_of_lt hj))
    rw [passed_succ, passed_succ, hearlier, hsignals]
    cases signal <;> simp [Signal.value?]
  · have hbefore : (o.books k).signals.filterMap (·.error?) = [] :=
      List.filterMap_eq_nil_iff.mpr fun signal hmem =>
        Signal.error?_of_not_isLast (hnone signal hmem)
    rw [hsignals, List.filterMap_append, hbefore]
    cases signal <;> rfl

/-- The subscription delivers something, and goes on. -/
theorem Charged.goes_on
    (h : Charged r refused b₀ streams true actions results ⟨numbered, k + 1, .streaming (k, s)⟩ o)
    (hp : (booked inner refused).poll (k, s) o = (signal, (k, s'), o')) (hl : ¬signal.IsLast) :
    Charged r refused b₀ streams true actions (results ++ signal.result?.toList)
      ⟨numbered, k + 1, .streaming (k, s')⟩ o' := by
  have hpolled := h.polled hp
  refine ⟨hpolled.books, Nat.succ_pos k, h.subscribes, ?_, fun j => ?_, ?_⟩
  · intro k' s'' hstage
    cases hstage
    exact ⟨rfl, fun hdone => hl (hpolled.done_iff.mp hdone)⟩
  · have hno : ¬∃ e, signal = .failure e ∧ ¬r.GivesUp e k := by
      rintro ⟨e, rfl, -⟩
      exact hl trivial
    rw [hpolled.failsOn_iff, ← h.again j]
    simp only [hno, and_false, or_false]
    exact Iff.rfl
  · rw [h.delivers, signal.toList_result?, Signal.error?_of_not_isLast hl]
    simp only [delivered, hpolled.passed_eq, Retrying.isTerminated, Bool.false_eq_true, if_false,
      Option.toList_none, List.map_nil, List.append_nil]

/-- A subscription that is over leaves the books as they are when it is dropped. -/
theorem Polled.drop (h : Polled r refused b₀ actions k o signal s' o') (hl : signal.IsLast)
    (inner : Source w τ ε α) :
    ∃ world, (booked inner refused).drop (k, s') o' = { o' with world } ∧
      Balanced refused b₀ true actions (k + 1) (settled (k + 1)) o' := by
  have hdone := h.done_iff.mpr hl
  have hbooks := h.books
  rw [hdone, update_settled_done] at hbooks
  exact ⟨_, booked_drop_of_done inner refused k hdone o', hbooks⟩

/-- The subscription fails, and another attempt is allowed. -/
theorem Charged.fails {e : ε} {stage : Retrying.Stage (Nat × Gated τ)}
    (h : Charged r refused b₀ streams true actions results ⟨numbered, k + 1, .streaming (k, s)⟩ o)
    (hp : (booked inner refused).poll (k, s) o = (.failure e, (k, s'), o'))
    (hv : ¬r.GivesUp e k) (hb : IsBetween ⟨numbered, k + 1, stage⟩)
    (hs : Retrying.Sane r ⟨numbered, k + 1, stage⟩) :
    Charged r refused b₀ streams true actions results ⟨numbered, k + 1, stage⟩
      ((booked inner refused).drop (k, s') o') := by
  have hpolled := h.polled hp
  obtain ⟨world, hdrop, hbooks⟩ := hpolled.drop trivial inner
  have hgates : gates ⟨numbered, k + 1, stage⟩ = settled (k + 1) := by
    cases stage <;> first | rfl | cases hb
  have hlive : Retrying.isTerminated ⟨numbered, k + 1, stage⟩ = false := by
    cases stage <;> first | rfl | cases hb
  rw [hdrop]
  refine ⟨?_, hs, h.subscribes, ?_, fun j => ?_, ?_⟩
  · rw [hgates]
    exact ⟨hbooks.linked, hbooks.others, hbooks.own, hbooks.accounts⟩
  · intro k' s'' hstage
    cases hstage
    cases hb
  · have hfails : FailsOn r { o' with world } j ↔ FailsOn r o j ∨ j = k := by
      refine (hpolled.failsOn_iff j).trans (or_congr_right (and_iff_left ?_))
      exact ⟨e, rfl, hv⟩
    rw [hfails, ← h.again j, continued_of_isBetween hb, continued_of_not_isBetween id]
    simp only
    omega
  · have hpassed : passed { o' with world } (k + 1) = passed o (k + 1) :=
      hpolled.passed_eq.trans (List.append_nil _)
    rw [h.delivers]
    simp only [delivered, hlive, hpassed]
    rfl

/-- The subscription ends, or fails for the last time. -/
theorem Charged.ends
    (h : Charged r refused b₀ streams true actions results ⟨numbered, k + 1, .streaming (k, s)⟩ o)
    (hp : (booked inner refused).poll (k, s) o = (signal, (k, s'), o')) (hl : signal.IsLast)
    (hv : ∀ e, signal = .failure e → r.GivesUp e k) :
    Charged r refused b₀ streams true actions (results ++ signal.result?.toList)
      ⟨numbered, k + 1, .done⟩ ((booked inner refused).drop (k, s') o') := by
  have hpolled := h.polled hp
  obtain ⟨world, hdrop, hbooks⟩ := hpolled.drop hl inner
  rw [hdrop]
  refine ⟨⟨hbooks.linked, hbooks.others, hbooks.own, hbooks.accounts⟩, trivial, h.subscribes, nofun,
    fun j => ?_, ?_⟩
  · have hno : ¬(j = k ∧ ∃ e, signal = .failure e ∧ ¬r.GivesUp e k) := by
      rintro ⟨-, e, he, hnot⟩
      exact hnot (hv e he)
    have hfails : FailsOn r { o' with world } j ↔ FailsOn r o j :=
      (hpolled.failsOn_iff j).trans (or_iff_left hno)
    rw [hfails, ← h.again j]
    exact Iff.rfl
  · have hpassed : passed { o' with world } (k + 1) = passed o (k + 1) := by
      refine hpolled.passed_eq.trans ?_
      rw [Signal.value?_of_isLast hl]
      exact List.append_nil _
    rw [h.delivers, signal.toList_result?, Signal.value?_of_isLast hl]
    simp only [delivered, hpassed, Retrying.isTerminated, Bool.false_eq_true, if_false, if_true,
      List.append_nil, Nat.add_sub_cancel, hpolled.errors_eq]
    rfl

/-- What the current subscription is, and that it is still that one after a poll. -/
theorem Charged.current_poll {x x' : Nat × Gated τ}
    (h : Charged r refused b₀ streams held actions results ⟨numbered, n, .streaming x⟩ o)
    (hp : (booked inner refused).poll x o = (signal, x', o')) :
    ∃ k s s', n = k + 1 ∧ x = (k, s) ∧ x' = (k, s') := by
  obtain ⟨k, s⟩ := x
  obtain ⟨k', s'⟩ := x'
  obtain rfl : k' = k := number_booked_poll hp
  exact ⟨k', s, s', (h.current k' s rfl).1.symm, rfl, rfl⟩

/-- What a retry has counted is nothing to its streams. -/
theorem Charged.with_tally (h : Charged r refused b₀ streams held actions results t o)
    (tally : Retry.Tally) :
    Charged { r with tally } refused b₀ streams held actions results t o :=
  ⟨h.books, h.sane, h.subscribes, h.current, h.again, h.delivers⟩

/-- A wait that is over leaves a stream between two attempts. -/
theorem Charged.fired {due : Instant}
    (h : Charged r refused b₀ streams held actions results ⟨numbered, n, .waiting due⟩ o) :
    Charged r refused b₀ streams held actions results ⟨numbered, n, .unsubscribed⟩ o := by
  have hlt : n < r.config.maxAttempts := h.sane
  exact ⟨h.books, Nat.le_of_lt hlt, h.subscribes, nofun, h.again, h.delivers⟩

theorem not_givesUp_of_wait {e : ε} {d : Duration} (hv : r.verdict e (k + 1) = .wait d) :
    ¬r.GivesUp e k := by
  rw [r.givesUp_iff, hv]
  nofun

/-- **The rounds of a poll keep the books.** -/
theorem charged_loop {reply : Retrying.Reply (Office w ε α) (Nat × Gated τ) ε α}
    (hloop : Retrying.Loop (booked inner refused) now r t o reply)
    (h : Charged r refused b₀ streams true actions results t o) :
    Charged reply.2.2.1 refused b₀ streams true actions (results ++ reply.1.result?.toList)
        reply.2.1 reply.2.2.2 ∧
      ∃ tally, reply.2.2.1 = { r with tally } := by
  induction hloop with
  | subscribe _ ih => exact ih h.subscribe
  | early hd => exact ⟨by simpa [Signal.result?] using h, _, rfl⟩
  | fired _ _ ih => exact ih h.fired
  | pending hp =>
    obtain ⟨k, s, s', rfl, rfl, rfl⟩ := h.current_poll hp
    exact ⟨h.goes_on hp id, _, rfl⟩
  | value hp =>
    obtain ⟨k, s, s', rfl, rfl, rfl⟩ := h.current_poll hp
    exact ⟨h.goes_on hp id, _, rfl⟩
  | ended hp =>
    obtain ⟨k, s, s', rfl, rfl, rfl⟩ := h.current_poll hp
    refine ⟨(h.ends hp trivial fun e he => ?_).with_tally _, _, rfl⟩
    cases he
  | broken hp hv =>
    obtain ⟨k, s, s', rfl, rfl, rfl⟩ := h.current_poll hp
    refine ⟨(h.ends hp trivial fun e he => ?_).with_tally _, _, rfl⟩
    cases he
    exact (r.givesUp_iff _ k).mpr hv
  | again hp hv hd _ ih =>
    obtain ⟨k, s, s', rfl, rfl, rfl⟩ := h.current_poll hp
    have hlt := Retry.lt_of_wait hv
    exact ih (h.fails hp (not_givesUp_of_wait hv) trivial (Nat.le_of_lt hlt))
  | @wait subscribe n _ _ _ _ e d hp hv hd =>
    obtain ⟨k, s, s', rfl, rfl, rfl⟩ := h.current_poll hp
    have hsane : Retrying.Sane r ⟨subscribe, k + 1, .waiting (deadline now d)⟩ :=
      Retry.lt_of_wait hv
    have hbetween : IsBetween ⟨subscribe, k + 1, .waiting (deadline now d)⟩ := trivial
    have hfails := h.fails hp (not_givesUp_of_wait hv) hbetween hsane
    exact ⟨by simpa [Signal.result?] using hfails, _, rfl⟩
  | done => exact ⟨by simpa [Signal.result?] using h, _, rfl⟩

/-- A round that goes on keeps the books. -/
theorem charged_round (hround : Retrying.Round (booked inner refused) now r t o t' o')
    (h : Charged r refused b₀ streams true actions results t o) :
    Charged r refused b₀ streams true actions results t' o' := by
  cases hround with
  | subscribe => exact h.subscribe
  | fired hd => exact h.fired
  | again hp hv =>
    obtain ⟨k, s, s', rfl, rfl, rfl⟩ := h.current_poll hp
    have hlt := Retry.lt_of_wait hv
    exact h.fails hp (not_givesUp_of_wait hv) trivial (Nat.le_of_lt hlt)

/-- The request of a subscription that is polled first and let through. -/
def ask? (t : Series τ) (o : Office w ε α) : Option (Series τ × Office w ε α) :=
  match t.stage with
  | .streaming (k, s) =>
    (s.ask? o.breaker).map fun (p, b) =>
      (⟨t.subscribe, t.attempts, .streaming (k, ⟨.admitted p, s.inner⟩)⟩,
        o.enter k [] [.ask (.ok p)] (b, o.world, (o.books k).log))
  | _ => none

theorem ask?_eq_some (h : t.ask? o = some (t', o')) :
    ∃ k s p b, t.stage = .streaming (k, s) ∧ s.ask? o.breaker = some (p, b) ∧
      t' = ⟨t.subscribe, t.attempts, .streaming (k, ⟨.admitted p, s.inner⟩)⟩ ∧
      o' = o.enter k [] [.ask (.ok p)] (b, o.world, (o.books k).log) := by
  obtain ⟨numbered, n, stage⟩ := t
  cases stage with
  | streaming x =>
    obtain ⟨k, s⟩ := x
    obtain ⟨⟨p, b⟩, hask, heq⟩ := Option.map_eq_some_iff.mp h
    cases heq
    exact ⟨k, s, p, b, rfl, hask, rfl, rfl⟩
  | unsubscribed => cases h
  | waiting due => cases h
  | done => cases h

/-- **A poll that asks the breaker first is that request, and the rest of it.** -/
theorem poll_of_ask? (h : t.ask? o = some (t', o')) :
    t.poll (booked inner refused) now r o = t'.poll (booked inner refused) now r o' := by
  obtain ⟨numbered, n, stage⟩ := t
  obtain ⟨k, s, p, b, hstage, hask, rfl, rfl⟩ := ask?_eq_some h
  cases hstage
  exact Retrying.follow_congr (booked_poll_of_ask hask)

theorem failsOn_congr (h : ∀ j, (o'.books j).signals = (o.books j).signals) :
    FailsOn r o' k ↔ FailsOn r o k := by
  unfold FailsOn
  rw [h]

theorem delivered_congr (h : ∀ j, (o'.books j).signals = (o.books j).signals) :
    delivered t o' = delivered t o := by
  unfold delivered
  rw [passed_congr fun j _ => h j, h]

/-- Where nothing is signalled, the books have to be in order. -/
theorem Charged.noted {held' : Bool} {actions' : List Action}
    (h : Charged r refused b₀ streams held actions results t o)
    (hbooks : Balanced refused b₀ held' actions' t.attempts t.gates o')
    (hsame : ∀ j, (o'.books j).signals = (o.books j).signals) :
    Charged r refused b₀ streams held' actions' results t o' where
  books := hbooks
  sane := h.sane
  subscribes := h.subscribes
  current := h.current
  again k := (h.again k).trans (failsOn_congr hsame).symm
  delivers := h.delivers.trans (delivered_congr hsame).symm

/-- The request of a subscription keeps the books. -/
theorem charged_ask (h : Charged r refused b₀ streams true actions results t o)
    (hasked : t.ask? o = some (t', o')) :
    Charged r refused b₀ streams true actions results t' o' := by
  obtain ⟨numbered, n, stage⟩ := t
  obtain ⟨k, s, p, b, hstage, hask, rfl, rfl⟩ := ask?_eq_some hasked
  cases hstage
  obtain ⟨hlast, -⟩ := h.current k s rfl
  obtain rfl : k + 1 = n := hlast
  have hsame := o.signals_enter_nil k [.ask (.ok p)] (b, o.world, (o.books k).log)
  have hbooks := h.books.ask (Function.update_self ..) hask
  rw [gates_streaming, Function.update_idem] at hbooks
  refine ⟨hbooks, h.sane, h.subscribes, ?_, fun j => ?_, ?_⟩
  · intro k' s' hstage
    cases hstage
    exact ⟨rfl, nofun⟩
  · rw [failsOn_congr hsame, ← h.again j]
    exact Iff.rfl
  · rw [delivered_congr hsame, h.delivers]
    rfl

theorem permit?_settled (n k : Nat) : (settled n k).permit? = none := by
  unfold settled
  split <;> rfl

/-- No subscription but the current one holds a permit. -/
theorem permit?_gates (t : Series τ) (j : Nat) :
    (t.gates j).permit? = none ∨ ∃ s, t.stage = .streaming (j, s) := by
  obtain ⟨numbered, n, stage⟩ := t
  cases stage with
  | streaming x =>
    obtain ⟨k, s⟩ := x
    by_cases hj : j = k
    · subst hj
      exact .inr ⟨s, rfl⟩
    · refine .inl ((congrArg Gate.permit? (Function.update_of_ne hj ..)).trans ?_)
      exact permit?_settled n j
  | unsubscribed => exact .inl (permit?_settled n j)
  | waiting due => exact .inl (permit?_settled n j)
  | done => exact .inl (permit?_settled n j)

/-- So does dropping the stream. -/
theorem charged_drop (h : Charged r refused b₀ streams true actions results t o) :
    Charged r refused b₀ streams false actions results t (t.drop (booked inner refused) o) := by
  obtain ⟨numbered, n, stage⟩ := t
  cases stage with
  | streaming x =>
    obtain ⟨k, s⟩ := x
    obtain ⟨hlast, -⟩ := h.current k s rfl
    obtain rfl : k + 1 = n := hlast
    refine h.noted ?_ (Gated.signals_booked_drop inner refused s k o)
    refine h.books.drop inner (Function.update_self ..) fun j hj => ?_
    refine (permit?_gates _ j).resolve_right ?_
    rintro ⟨s', hstage⟩
    cases hstage
    exact hj rfl
  | unsubscribed => exact h.noted (h.books.left (permit?_settled n)) fun _ => rfl
  | waiting due => exact h.noted (h.books.left (permit?_settled n)) fun _ => rfl
  | done => exact h.noted (h.books.left (permit?_settled n)) fun _ => rfl

/-- The permit that a stream holds through its current subscription. -/
def permit? (t : Series τ) : Option Permit :=
  match t.stage with
  | .streaming (_, s) => s.gate.permit?
  | _ => none

/-- A subscription that is not the current one leaves no permit live. -/
theorem Charged.live_of_ne (h : Charged r refused b₀ streams held actions results t o)
    (hne : ¬∃ s, t.stage = .streaming (k, s)) :
    (o.books k).deeds.foldl Gated.Deed.hold [] = [] := by
  rw [(h.books.accounts k).live, (permit?_gates t k).resolve_right hne]
  exact ite_self _

/-- Between its subscriptions and after them, a stream leaves no permit live. -/
theorem Charged.live_of_idle (h : Charged r refused b₀ streams held actions results t o)
    (hidle : ∀ x, t.stage ≠ .streaming x) :
    (Gated.own o.deeds).foldl Gated.Deed.hold [] = [] := by
  rw [h.books.own]
  refine Gated.live_flatMap_range fun j _ => h.live_of_ne ?_
  rintro ⟨s, hstage⟩
  exact hidle _ hstage

/-- **What is live is the permit of the current subscription.** -/
theorem Charged.live_own (h : Charged r refused b₀ streams held actions results t o) :
    (Gated.own o.deeds).foldl Gated.Deed.hold [] = if held then t.permit?.toList else [] := by
  obtain ⟨numbered, n, stage⟩ := t
  cases stage with
  | streaming x =>
    obtain ⟨k, s⟩ := x
    obtain ⟨hlast, -⟩ := h.current k s rfl
    obtain rfl : k + 1 = n := hlast
    have hbefore :
        ((List.range k).flatMap fun j => (o.books j).deeds).foldl Gated.Deed.hold [] = [] := by
      refine Gated.live_flatMap_range fun j hj => h.live_of_ne ?_
      rintro ⟨s', hstage⟩
      cases hstage
      exact Nat.lt_irrefl _ hj
    have haccount := h.books.accounts k
    rw [gates_streaming, Function.update_self] at haccount
    rw [h.books.own, flatMap_range_succ, List.foldl_append, hbefore, haccount.live]
    rfl
  | unsubscribed => exact (h.live_of_idle nofun).trans (ite_self _).symm
  | waiting due => exact (h.live_of_idle nofun).trans (ite_self _).symm
  | done => exact (h.live_of_idle nofun).trans (ite_self _).symm

/-- Never are two permits live. -/
theorem Charged.single (h : Charged r refused b₀ streams held actions results t o) :
    Gated.Single (Gated.own o.deeds) := by
  rw [h.books.own]
  refine Gated.single_flatMap_range (fun j => (h.books.accounts j).single) fun j hj => ?_
  refine h.live_of_ne ?_
  rintro ⟨s, hstage⟩
  have hlast := (h.current j s hstage).1
  omega

/-- **A stream is done once its last subscription is over** and the retry allows no other. -/
theorem Charged.isTerminated_iff (h : Charged r refused b₀ streams held actions results t o)
    (hlast : k + 1 = t.attempts) :
    t.isTerminated = true ↔ t.gates k = .done ∧ ¬FailsOn r o k := by
  have hagain := h.again k
  obtain ⟨numbered, n, stage⟩ := t
  obtain rfl : k + 1 = n := hlast
  have hover : settled (k + 1) k = .done := settled_of_lt (Nat.lt_succ_self k)
  cases stage with
  | unsubscribed =>
    have hfails : FailsOn r o k := hagain.mp (.inr ⟨rfl, trivial⟩)
    exact ⟨nofun, fun ⟨_, hno⟩ => absurd hfails hno⟩
  | waiting due =>
    have hfails : FailsOn r o k := hagain.mp (.inr ⟨rfl, trivial⟩)
    exact ⟨nofun, fun ⟨_, hno⟩ => absurd hfails hno⟩
  | streaming x =>
    obtain ⟨k', s⟩ := x
    obtain ⟨hcurrent, hlive⟩ := h.current k' s rfl
    obtain rfl : k' = k := Nat.succ_injective hcurrent
    refine ⟨nofun, fun ⟨hdone, _⟩ => absurd ?_ hlive⟩
    rwa [gates_streaming, Function.update_self] at hdone
  | done =>
    refine ⟨fun _ => ⟨hover, fun hfails => ?_⟩, fun _ => rfl⟩
    exact Nat.lt_irrefl _ ((continued_of_not_isBetween id k).mp (hagain.mpr hfails))

/-- A rejection is a failed attempt like any other. -/
theorem Charged.continued_of_rejected (h : Charged r refused b₀ streams held actions results t o)
    {rejection : Rejection} (hask : .ask (.error rejection) ∈ (o.books k).deeds) :
    t.Continued k ↔ ¬r.GivesUp (refused rejection) k := by
  obtain ⟨-, -, n, hsignals⟩ := (h.books.accounts k).rejection hask
  rw [h.again k]
  constructor
  · rintro ⟨e, hmem, hv⟩
    obtain rfl : e = refused rejection := by simpa [hsignals] using hmem
    exact hv
  · intro hv
    refine ⟨refused rejection, ?_, hv⟩
    rw [hsignals]
    exact List.mem_cons_self

end Series

end ClusterGuard
