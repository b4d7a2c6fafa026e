import ClusterGuard.Proofs.Stream.Series

/-!
# A permit for every subscription

With the breaker inside the retry, every subscription of a retried stream asks for a permit of its
own. A `Session` is such a stream, about which nothing is assumed: inner streams may go on after an
error, the retry may have any policy, the polls may come at any time. Others use the breaker
meanwhile: between the polls, between two rounds of one poll, and between the request of a
subscription and its inner stream.

Results:
* **`inOrder_step`**: whatever happens, the books stay in order.
* `step_round_poll`, `step_ask_poll`: the events that are smaller than a poll are parts of one.
* **`every_subscription_is_charged`**: one request for each subscription that is polled, one outcome
  for each that is let through, one live permit at most, and a rejection is a failed attempt.
-/

namespace ClusterGuard

open Breaker (Permit Outcome Action)

variable {w τ ε α : Type}

namespace Series

open Gated (Office booked Linked Account)

/-- What happens to a stream, the breaker of its subscriptions, and its surroundings. -/
inductive Event (w : Type) where
  | poll (now : Instant)
  /-- A poll comes as far as its next round. What comes before the next `poll` happens meanwhile. -/
  | round (now : Instant)
  /-- A first poll of a subscription comes as far as the inner stream, in the same way. -/
  | ask
  | drop
  | other (a : Action)
  | stir (change : w → w)

/-- The action of somebody else, if it is one. -/
def Event.other? : Event w → Option Action
  | other a => some a
  | _ => none

/-- A retried stream over gated subscriptions in use. -/
structure Session (w τ ε α : Type) where
  /-- What its polls gave. -/
  signals : List (Signal ε α)
  stream : Series τ
  /-- Whether it was not dropped yet. -/
  held : Bool
  retry : Retry ε
  office : Office w ε α

namespace Session

/-- A stream over these subscriptions that was not polled yet. -/
def start (streams : Nat → τ) (r : Retry ε) (b : Breaker) (world : w) : Session w τ ε α :=
  ⟨[], .start fun k => (k, .start (streams k)), true, r, ⟨b, world, fun _ => ⟨[], [], []⟩, []⟩⟩

/-- The session after an event. -/
def step (inner : Source w τ ε α) (refused : Rejection → ε) (s : Session w τ ε α) :
    Event w → Session w τ ε α
  | .poll now =>
    if s.held then
      let (signal, stream, retry, office) :=
        s.stream.poll (booked inner refused) now s.retry s.office
      { s with signals := s.signals ++ [signal], stream, retry, office }
    else s
  | .round now =>
    match s.held, s.stream.round? (booked inner refused) now s.retry s.office with
    | true, some (stream, office) => { s with stream, office }
    | _, _ => s
  | .ask =>
    match s.held, s.stream.ask? s.office with
    | true, some (stream, office) => { s with stream, office }
    | _, _ => s
  | .drop =>
    if s.held then
      { s with held := false, office := s.stream.drop (booked inner refused) s.office }
    else s
  | .other a => { s with office := s.office.act a }
  | .stir change => { s with office := { s.office with world := change s.office.world } }

/-- The session after some events. -/
def run (inner : Source w τ ε α) (refused : Rejection → ε) (s : Session w τ ε α)
    (events : List (Event w)) : Session w τ ε α := events.foldl (step inner refused) s

/-- The results that the polls of a session gave. -/
def results (s : Session w τ ε α) : List (Except ε α) := s.signals.filterMap (·.result?)

theorem results_concat (s : Session w τ ε α) (signal : Signal ε α) :
    (s.signals ++ [signal]).filterMap (·.result?) = s.results ++ signal.result?.toList := by
  cases h : signal.result? <;> simp [results, h]

variable {inner : Source w τ ε α} {refused : Rejection → ε} {r : Retry ε} {b₀ : Breaker}
  {streams : Nat → τ} {actions : List Action} {s : Session w τ ε α}

/-- What a round comes to: nothing, or a stream that the next poll goes on from. -/
theorem step_round (inner : Source w τ ε α) (refused : Rejection → ε) (s : Session w τ ε α)
    (now : Instant) :
    s.step inner refused (.round now) = s ∨
      ∃ stream office, s.held = true ∧
        Retrying.Round (booked inner refused) now s.retry s.stream s.office stream office ∧
        s.step inner refused (.round now) = { s with stream, office } := by
  simp only [step]
  split
  · rename_i stream office hheld hround
    exact .inr ⟨stream, office, hheld, Retrying.round_of_round? hround, rfl⟩
  · exact .inl rfl

/-- So it is with a request. -/
theorem step_ask (inner : Source w τ ε α) (refused : Rejection → ε) (s : Session w τ ε α) :
    s.step inner refused .ask = s ∨
      ∃ stream office, s.held = true ∧ s.stream.ask? s.office = some (stream, office) ∧
        s.step inner refused .ask = { s with stream, office } := by
  simp only [step]
  split
  · rename_i stream office hheld hask
    exact .inr ⟨stream, office, hheld, hask, rfl⟩
  · exact .inl rfl

/-- Whether the books of a session are in order, after so much was done by others. -/
structure InOrder (r : Retry ε) (refused : Rejection → ε) (b₀ : Breaker) (streams : Nat → τ)
    (actions : List Action) (s : Session w τ ε α) : Prop where
  charged : Charged s.retry refused b₀ streams s.held actions s.results s.stream s.office
  retry : ∃ tally, s.retry = { r with tally }

/-- What the retry has counted in the meantime makes no difference. -/
theorem InOrder.charged_fixed (h : s.InOrder r refused b₀ streams actions) :
    Charged r refused b₀ streams s.held actions s.results s.stream s.office := by
  obtain ⟨tally, hretry⟩ := h.retry
  have hfixed := h.charged.with_tally r.tally
  rw [hretry] at hfixed
  exact hfixed

theorem inOrder_start (streams : Nat → τ) (r : Retry ε) (refused : Rejection → ε) (b : Breaker)
    (world : w) :
    InOrder r refused b streams [] (start streams r b world : Session w τ ε α) where
  charged :=
    { books := ⟨rfl, rfl, rfl, fun _ => .idle true⟩
      sane := Nat.zero_le _
      subscribes := rfl
      current := nofun
      again := fun k => by
        refine iff_of_false ?_ ?_
        · rintro (hlt | ⟨hlast, -⟩)
          · exact Nat.not_lt_zero _ hlt
          · exact Nat.succ_ne_zero k hlast
        · rintro ⟨e, hmem, -⟩
          cases hmem
      delivers := rfl }
  retry := ⟨r.tally, rfl⟩

theorem inOrder_poll (h : s.InOrder r refused b₀ streams actions) (hheld : s.held = true)
    (now : Instant) : (s.step inner refused (.poll now)).InOrder r refused b₀ streams actions := by
  obtain ⟨tally, hretry⟩ := h.retry
  have hcharged := h.charged
  rw [hheld] at hcharged
  have hloop := Retrying.loop_poll (booked inner refused) now hcharged.sane s.office
  obtain ⟨hpolled, tally', hretry'⟩ := charged_loop hloop hcharged
  simp only [step, if_pos hheld]
  refine ⟨?_, tally', hretry'.trans (by rw [hretry])⟩
  simp only [results, results_concat, hheld]
  exact hpolled

theorem inOrder_round (h : s.InOrder r refused b₀ streams actions) (now : Instant) :
    (s.step inner refused (.round now)).InOrder r refused b₀ streams actions := by
  rcases step_round inner refused s now with hsame | ⟨stream, office, hheld, hround, hstep⟩
  · rwa [hsame]
  · have hcharged := h.charged
    rw [hheld] at hcharged
    rw [hstep]
    refine ⟨?_, h.retry⟩
    simp only [hheld]
    exact charged_round hround hcharged

theorem inOrder_ask (h : s.InOrder r refused b₀ streams actions) :
    (s.step inner refused .ask).InOrder r refused b₀ streams actions := by
  rcases step_ask inner refused s with hsame | ⟨stream, office, hheld, hask, hstep⟩
  · rwa [hsame]
  · have hcharged := h.charged
    rw [hheld] at hcharged
    rw [hstep]
    refine ⟨?_, h.retry⟩
    simp only [hheld]
    exact charged_ask hcharged hask

theorem inOrder_drop (h : s.InOrder r refused b₀ streams actions) :
    (s.step inner refused .drop).InOrder r refused b₀ streams actions := by
  have hcharged := h.charged
  simp only [step]
  by_cases hheld : s.held = true
  · rw [if_pos hheld]
    rw [hheld] at hcharged
    exact ⟨charged_drop hcharged, h.retry⟩
  · rw [if_neg hheld]
    exact h

/-- **Every event leaves the books in order.** -/
theorem inOrder_step (h : s.InOrder r refused b₀ streams actions) (e : Event w) :
    (s.step inner refused e).InOrder r refused b₀ streams (actions ++ e.other?.toList) := by
  have hnobody {s : Session w τ ε α} (h : s.InOrder r refused b₀ streams actions) :
      s.InOrder r refused b₀ streams (actions ++ []) := by
    rwa [List.append_nil]
  cases e with
  | poll now =>
    by_cases hheld : s.held = true
    · exact hnobody (inOrder_poll h hheld now)
    · refine hnobody ?_
      simp only [step, if_neg hheld]
      exact h
  | round now => exact hnobody (inOrder_round h now)
  | ask => exact hnobody (inOrder_ask h)
  | drop => exact hnobody (inOrder_drop h)
  | other a => exact ⟨h.charged.noted (h.charged.books.act a) fun _ => rfl, h.retry⟩
  | stir change =>
    have hbooks := h.charged.books
    exact hnobody ⟨h.charged.noted ⟨hbooks.linked, hbooks.others, hbooks.own, hbooks.accounts⟩
      fun _ => rfl, h.retry⟩

theorem inOrder_run (h : s.InOrder r refused b₀ streams actions) (events : List (Event w)) :
    (s.run inner refused events).InOrder r refused b₀ streams
      (actions ++ events.filterMap (·.other?)) := by
  induction events generalizing s actions with
  | nil =>
    rw [List.filterMap_nil, List.append_nil]
    exact h
  | cons e events ih =>
    have hnext : (s.step inner refused e).InOrder r refused b₀ streams
        (actions ++ e.other?.toList) := inOrder_step h e
    have hrun := ih hnext
    rw [List.append_assoc] at hrun
    rw [List.filterMap_cons]
    cases e <;> exact hrun

/-! ## What a session comes to -/

/-- **What is true at any time** of a retried stream whose subscriptions stand behind the breaker
each. -/
structure PerSubscription (inner : Source w τ ε α) (refused : Rejection → ε) (r : Retry ε)
    (b : Breaker) (events : List (Event w)) (s : Session w τ ε α) : Prop where
  /-- The deeds written down are what happened to the breaker. -/
  linked : Linked b s.office.deeds s.office.breaker
  others : Gated.others s.office.deeds = events.filterMap (·.other?)
  /-- The retry has counted, and that is all. -/
  retry : ∃ tally, s.retry = { r with tally }
  /-- The stream did to the breaker what its subscriptions did, one after the other. -/
  in_turn : Gated.own s.office.deeds
    = (List.range s.stream.attempts).flatMap fun k => (s.office.books k).deeds
  accounts : ∀ k, Account refused (s.stream.gates k) s.held (s.office.books k).signals
    (s.office.books k).log (s.office.books k).deeds
  /-- A subscription asks once, when it is first polled. -/
  asks : ∀ k, ((s.office.books k).deeds.filterMap (·.answer?)).length
    = if s.stream.gates k = .pending then 0 else 1
  /-- At no moment are two permits live. -/
  single : Gated.Single (Gated.own s.office.deeds)
  /-- Now it is that of the current subscription at most. -/
  live : (Gated.own s.office.deeds).foldl Gated.Deed.hold []
    = if s.held then s.stream.permit?.toList else []
  /-- While the stream waits, and once it is done, none is. -/
  idle : (∀ x, s.stream.stage ≠ .streaming x) →
    (Gated.own s.office.deeds).foldl Gated.Deed.hold [] = []
  /-- A subscription that is over was rejected, or has handed in one outcome, that of its inner
  stream. -/
  settles : ∀ k, s.stream.gates k = .done →
    (∃ rejection, (s.office.books k).deeds = [.ask (.error rejection)]) ∨
      ∃ p outcome, (s.office.books k).deeds = [.ask (.ok p), .settle p outcome] ∧
        (s.office.books k).log.filterMap (·.outcome?) = [outcome]
  /-- The inner stream of one that was rejected is never polled; the attempt has failed with the
  rejection, after which the retry goes on or gives up. -/
  rejects : ∀ k rejection, .ask (.error rejection) ∈ (s.office.books k).deeds →
    (s.office.books k).deeds = [.ask (.error rejection)] ∧ (s.office.books k).log = [] ∧
      (∃ n, (s.office.books k).signals = .failure (refused rejection) :: .replicate n .ended) ∧
      (s.stream.Continued k ↔ ¬r.GivesUp (refused rejection) k)
  /-- Another attempt follows exactly the failures that the retry allows it after. -/
  again : ∀ k, s.stream.Continued k ↔ FailsOn r s.office k
  /-- Any other last item of a subscription is the last one of the stream. -/
  final : ∀ k, k + 1 = s.stream.attempts →
    (s.stream.isTerminated = true ↔ s.stream.gates k = .done ∧ ¬FailsOn r s.office k)
  delivers : s.results = delivered s.stream s.office
  /-- An attempt that is due begins with the next poll. -/
  resumes : s.held = true → ∀ now, s.stream.IsBetween →
    (∀ due, s.stream.wakesAt? = some due → ¬now < due) →
      s.stream.attempts < (s.step inner refused (.poll now)).stream.attempts
  /-- The finer events are parts of polls. -/
  parts : ∀ now,
    (s.step inner refused (.round now)).step inner refused (.poll now)
        = s.step inner refused (.poll now) ∧
      (s.step inner refused .ask).step inner refused (.poll now) = s.step inner refused (.poll now)
  /-- Books aside, a poll is one of the stream as it is. -/
  plain : s.held = true → ∀ now, ∃ signal,
    let after := s.step inner refused (.poll now)
    after.signals = s.signals ++ [signal] ∧
      (s.stream.map Prod.snd).poll (Gated.source inner refused) now s.retry
          (s.office.breaker, s.office.world)
        = (signal, after.stream.map Prod.snd, after.retry, after.office.breaker, after.office.world)
  /-- So is dropping the stream. -/
  plain_drop : s.held = true →
    let after := s.step inner refused .drop
    (s.stream.map Prod.snd).drop (Gated.source inner refused) (s.office.breaker, s.office.world)
      = (after.office.breaker, after.office.world)

/-- An event that is a part of a poll leaves the rest of it to the next poll. -/
theorem step_poll_congr {stream : Series τ} {office : Office w ε α} {now : Instant}
    (hheld : s.held = true)
    (h : s.stream.poll (booked inner refused) now s.retry s.office
      = stream.poll (booked inner refused) now s.retry office) :
    ({ s with stream, office } : Session w τ ε α).step inner refused (.poll now)
      = s.step inner refused (.poll now) := by
  simp only [step, if_pos hheld, h]

theorem step_round_poll (h : s.InOrder r refused b₀ streams actions) (now : Instant) :
    (s.step inner refused (.round now)).step inner refused (.poll now)
      = s.step inner refused (.poll now) := by
  rcases step_round inner refused s now with hsame | ⟨stream, office, hheld, hround, hstep⟩
  · rw [hsame]
  · rw [hstep]
    exact step_poll_congr hheld (Retrying.poll_of_round h.charged.sane hround)

theorem step_ask_poll (s : Session w τ ε α) (now : Instant) :
    (s.step inner refused .ask).step inner refused (.poll now)
      = s.step inner refused (.poll now) := by
  rcases step_ask inner refused s with hsame | ⟨stream, office, hheld, hask, hstep⟩
  · rw [hsame]
  · rw [hstep]
    exact step_poll_congr hheld (poll_of_ask? hask)

/-- Where an attempt is due, the next poll begins it. -/
theorem lt_attempts_step (h : s.InOrder r refused b₀ streams actions) (hheld : s.held = true)
    {now : Instant} (hbetween : s.stream.IsBetween)
    (hfired : ∀ due, s.stream.wakesAt? = some due → ¬now < due) :
    s.stream.attempts < (s.step inner refused (.poll now)).stream.attempts := by
  simp only [step, if_pos hheld]
  refine Retrying.lt_attempts_poll _ h.charged.sane _ ?_
  rcases stage_of_isBetween hbetween with hstage | ⟨due, hstage⟩
  · exact .inl hstage
  · refine .inr ⟨due, hstage, hfired due ?_⟩
    unfold Retrying.wakesAt?
    rw [hstage]

/-- Books aside, a poll of the session is a poll of the stream. -/
theorem step_poll_plain (inner : Source w τ ε α) (refused : Rejection → ε) (hheld : s.held = true)
    (now : Instant) :
    ∃ signal,
      let after := s.step inner refused (.poll now)
      after.signals = s.signals ++ [signal] ∧
        (s.stream.map Prod.snd).poll (Gated.source inner refused) now s.retry
            (s.office.breaker, s.office.world)
          = (signal, after.stream.map Prod.snd, after.retry, after.office.breaker,
              after.office.world) := by
  simp only [step, if_pos hheld]
  refine ⟨_, rfl, ?_⟩
  exact Retrying.poll_of_shows (Gated.booked_shows inner refused) now s.stream s.retry s.office

theorem step_drop_plain (inner : Source w τ ε α) (refused : Rejection → ε) (hheld : s.held = true) :
    let after := s.step inner refused .drop
    (s.stream.map Prod.snd).drop (Gated.source inner refused) (s.office.breaker, s.office.world)
      = (after.office.breaker, after.office.world) := by
  simp only [step, if_pos hheld]
  exact Retrying.drop_of_shows (Gated.booked_shows inner refused) s.stream s.office

/-- **Every subscription is charged on its own**, whatever its inner stream and the others do. The
breaker gets one request for each subscription that is polled, in their order. A subscription that
is let through hands in one outcome, its own, when it fails or ends, so that no permit outlives it
into a wait or the next attempt. One that is rejected leaves its inner stream alone, and counts as
an attempt that failed with the rejection. -/
theorem every_subscription_is_charged (inner : Source w τ ε α) (refused : Rejection → ε)
    (streams : Nat → τ) (r : Retry ε) (b : Breaker) (world : w) (events : List (Event w)) :
    ((start streams r b world).run inner refused events).PerSubscription inner refused r b
      events := by
  have hstart : (start streams r b world : Session w τ ε α).InOrder r refused b streams [] :=
    inOrder_start streams r refused b world
  have h : ((start streams r b world).run inner refused events).InOrder r refused b streams
      (events.filterMap (·.other?)) := inOrder_run hstart events
  have hbooks := h.charged.books
  have hfixed := h.charged_fixed
  exact
    { linked := hbooks.linked
      others := hbooks.others
      retry := h.retry
      in_turn := hbooks.own
      accounts := hbooks.accounts
      asks := fun k => (hbooks.accounts k).answers
      single := hfixed.single
      live := hfixed.live_own
      idle := hfixed.live_of_idle
      settles := fun k hdone => (hbooks.accounts k).settled hdone
      rejects := fun k rejection hask => by
        obtain ⟨hdeeds, hlog, hsignals⟩ := (hbooks.accounts k).rejection hask
        exact ⟨hdeeds, hlog, hsignals, hfixed.continued_of_rejected hask⟩
      again := hfixed.again
      final := fun k => hfixed.isTerminated_iff
      delivers := hfixed.delivers
      resumes := fun hheld now => lt_attempts_step h hheld
      parts := fun now => ⟨step_round_poll h now, step_ask_poll _ now⟩
      plain := step_poll_plain inner refused
      plain_drop := step_drop_plain inner refused }

/-- The first subscription opens the circuit, so that the other attempts are rejected. -/
example :
    let r : Retry String := ⟨"again", {}, fun _ _ => .retryAfter .zero, fun _ => .zero false, {}⟩
    let s := (start (fun _ => [.of (.error "lost")]) r
        (.fresh "gate" { window := 1, minimum := 1 } .zero) ()).run
      (Script.source Unit String Nat) (fun _ => "refused") [.poll .zero]
    s.results = [.error "refused"] ∧ s.stream.attempts = 3 ∧ (s.office.books 1).log = [] :=
  ⟨rfl, rfl, rfl⟩

end Session

end Series

end ClusterGuard
