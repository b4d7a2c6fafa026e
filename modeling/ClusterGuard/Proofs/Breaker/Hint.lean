import ClusterGuard.Proofs.Breaker.Opening

/-!
# The hint of a rejection

An open circuit tells whoever it rejects how long it stays open. It does not know what happens until
then, and need not: an outcome that comes late is ignored, permits end without a trace, and the time
it opened is only forgotten when the state changes. Until somebody asks after the wait, or closes
the circuit by hand, it is `Shut` as it was, and the clock alone tells what is left of the wait.

Results:
* `shut_run`: what does not end the wait leaves the circuit shut.
* **`retry_hint_is_exact`**: who asks before the time hinted at is rejected with what is left of it,
  and the first to ask later makes a trial call.
-/

namespace ClusterGuard.Breaker

variable {b b' : Breaker}

/-- The breaker `b'`, some time later, is still in the opening that `b` was in. -/
structure Shut (b b' : Breaker) : Prop where
  name : b'.name = b.name
  config : b'.config = b.config
  state : b'.state = .opened
  openedAt : b'.openedAt = b.openedAt
  clock : b.clock ≤ b'.clock

/-- What is left of the wait of a breaker that opened at a known time. -/
theorem left_eq {since : Instant} (h : Shut b b') (ho : b.openedAt = some since)
    (hs : since ≤ b.clock) :
    b'.config.wait - b'.openFor = b.config.wait - b.openFor - (b'.clock - b.clock) := by
  have hclock := h.clock
  rw [openFor_of_openedAt ho, openFor_of_openedAt (h.openedAt.trans ho), h.config]
  apply Duration.ext_nanos
  simp only [Duration.nanos_sub, Duration.le_iff] at hs hclock ⊢
  omega

/-- When the wait of a breaker that opened at a known time is over. -/
theorem wait_le_iff {since : Instant} (h : Shut b b') (ho : b.openedAt = some since)
    (hs : since ≤ b.clock) (hw : ¬b.config.wait ≤ b.openFor) :
    b'.config.wait ≤ b'.openFor ↔ b.config.wait - b.openFor ≤ b'.clock - b.clock := by
  have hclock := h.clock
  rw [openFor_of_openedAt ho] at hw ⊢
  rw [openFor_of_openedAt (h.openedAt.trans ho), h.config]
  simp only [Duration.nanos_sub, Duration.le_iff] at hs hclock hw ⊢
  omega

/-- Whether an operation asks for permission. -/
def Operation.asks : Operation → Bool
  | .acquire | .tryAcquire => true
  | _ => false

/-- Where an operation moves a clock that shows `now`. -/
def Operation.passed (now : Instant) : Operation → Instant
  | .advance d => now + d
  | _ => now

theorem Requested.clock {r : Except Rejection Permit × Breaker} (h : Requested b r) :
    r.2.clock = b.clock := by
  cases h <;> simp [reject]

theorem Recorded.clock {o : Outcome} (h : Recorded b o b') : b'.clock = b.clock := by
  cases h <;> simp

/-- Who rejects a request, and with what hint. -/
theorem Requested.rejection {r : Except Rejection Permit × Breaker} (h : Requested b r)
    {rejection : Rejection} (hr : r.1 = .error rejection) :
    (b.state = .opened ∧ ¬b.config.wait ≤ b.openFor ∧
      rejection = ⟨b.name, .opened, some (b.config.wait - b.openFor)⟩) ∨
    (b.state = .halfOpen ∧ rejection = ⟨b.name, .halfOpen, none⟩) := by
  cases h with
  | closed => simp at hr
  | waiting hs hw =>
    obtain rfl := Except.error.inj hr
    exact .inl ⟨hs, hw, by rw [hs]⟩
  | probed => simp at hr
  | free => simp at hr
  | full hs =>
    obtain rfl := Except.error.inj hr
    exact .inr ⟨hs, by rw [hs]⟩

namespace Session

variable {s : Session} {c : Config}

/-! ## The clock -/

/-- Only advances move the clock. -/
theorem clock_step (hc : 0 < c.trials) (hb : Booked c s) (op : Operation) :
    (s.step op).breaker.clock = op.passed s.breaker.clock := by
  have hreq := (requested_of_booked hc hb).clock
  cases op with
  | acquire =>
    rw [(breaker_step_ask s).1]
    exact hreq
  | tryAcquire =>
    rw [(breaker_step_ask s).2]
    exact hreq
  | finish place o =>
    cases hl : s.live[place]? with
    | none => simp [step, hl, Operation.passed]
    | some l =>
      simp only [step, hl, breaker_note, Operation.passed]
      by_cases he : l.permit.epoch = s.breaker.epoch
      · rw [finish_of_current he]
        exact (recorded ..).clock
      · rw [finish_of_stale he]
  | drop place =>
    cases hl : s.live[place]? with
    | none => simp [step, hl, Operation.passed]
    | some l => simp [step, hl, Operation.passed]
  | record o =>
    simp only [step, breaker_note]
    exact (recorded ..).clock
  | reset => simp [step, reset, Operation.passed]
  | advance d => simp [step, advance, Operation.passed]

/-- The clock never turns back. -/
theorem clock_le_run (hc : 0 < c.trials) (hb : Booked c s) (ops : List Operation) :
    s.breaker.clock ≤ (s.run ops).breaker.clock := by
  refine (run_induction (P := fun t => Booked c t ∧ s.breaker.clock ≤ t.breaker.clock)
    ⟨hb, Duration.le_rfl⟩ ops ?_).2
  rintro t op - ⟨ht, hle⟩
  refine ⟨booked_step hc ht op, Duration.le_trans hle ?_⟩
  rw [clock_step hc ht]
  cases op with
  | advance d => exact Duration.self_le_add ..
  | acquire => exact Duration.le_rfl
  | tryAcquire => exact Duration.le_rfl
  | finish place o => exact Duration.le_rfl
  | drop place => exact Duration.le_rfl
  | record o => exact Duration.le_rfl
  | reset => exact Duration.le_rfl

/-! ## While the circuit is shut -/

/-- What leaves the name, the configuration, the state, and the time of the opening. -/
theorem shut_of_same {b₁ b₂ : Breaker} (h : Shut b b₁) (hname : b₂.name = b₁.name)
    (hconfig : b₂.config = b₁.config) (hstate : b₂.state = b₁.state)
    (hopened : b₂.openedAt = b₁.openedAt) (hclock : b₁.clock ≤ b₂.clock) : Shut b b₂ :=
  ⟨hname.trans h.name, hconfig.trans h.config, hstate.trans h.state, hopened.trans h.openedAt,
    Duration.le_trans h.clock hclock⟩

/-- Neither outcomes nor permits that end, nor requests before the wait is over, nor time that
passes open a shut circuit. -/
theorem shut_step (h : Shut b s.breaker) {op : Operation} (hreset : op ≠ .reset)
    (hasks : op.asks = true → ¬s.breaker.config.wait ≤ s.breaker.openFor) :
    Shut b (s.step op).breaker := by
  cases op with
  | acquire =>
    rw [(breaker_step_ask s).1, request_of_waiting h.state (hasks rfl)]
    exact shut_of_same h rfl rfl rfl rfl Duration.le_rfl
  | tryAcquire =>
    rw [(breaker_step_ask s).2, request_of_waiting h.state (hasks rfl)]
    exact shut_of_same h rfl rfl rfl rfl Duration.le_rfl
  | finish place o =>
    cases hl : s.live[place]? with
    | none => simpa [step, hl] using h
    | some l =>
      simp only [step, hl, breaker_note]
      by_cases he : l.permit.epoch = s.breaker.epoch
      · rwa [finish_of_current he, record_of_opened h.state]
      · rwa [finish_of_stale he]
  | drop place =>
    cases hl : s.live[place]? with
    | none => simpa [step, hl] using h
    | some l =>
      simp only [step, hl, breaker_note]
      refine shut_of_same h ?_ (config_release ..) (state_release ..) (openedAt_release ..) ?_
      · unfold release
        split <;> rfl
      · rw [clock_release]
        exact Duration.le_rfl
  | record o =>
    simp only [step, breaker_note]
    rwa [record_of_opened h.state]
  | reset => exact absurd rfl hreset
  | advance d =>
    simp only [step, breaker_note]
    exact shut_of_same h rfl rfl rfl rfl (Duration.self_le_add ..)

/-- **What does not end the wait leaves the circuit shut.** -/
theorem shut_run {since : Instant} (hs : s.breaker.state = .opened)
    (ho : s.breaker.openedAt = some since) (hle : since ≤ s.breaker.clock)
    (hw : ¬s.breaker.config.wait ≤ s.breaker.openFor) {later : List Operation}
    (hreset : Operation.reset ∉ later)
    (hasks : ∀ before op, before ++ [op] <+: later → op.asks = true →
      (s.run before).breaker.clock - s.breaker.clock
        < s.breaker.config.wait - s.breaker.openFor) :
    Shut s.breaker (s.run later).breaker := by
  induction later using List.reverseRecOn with
  | nil => exact ⟨rfl, rfl, hs, rfl, Duration.le_rfl⟩
  | append_singleton later op ih =>
    rw [List.mem_append, not_or, List.mem_singleton] at hreset
    have hshut := ih hreset.1 fun before op' hinit =>
      hasks before op' (hinit.trans (List.prefix_append ..))
    rw [run_concat]
    refine shut_step hshut (Ne.symm hreset.2) fun hop => ?_
    rw [wait_le_iff hshut ho hle hw]
    exact Nat.not_le_of_lt (hasks later op (List.prefix_rfl) hop)

/-! ## What the hint promises -/

/-- What a rejection by an open circuit promises: a trial call, `r` from now on. What happens
`later` may begin with the request that was rejected. -/
structure Promised (s : Session) (r : Duration) : Prop where
  /-- Whoever asks before that is turned down, and told what is left. -/
  early : ∀ later, Operation.reset ∉ later →
    (s.run later).breaker.clock - s.breaker.clock < r →
    Rejects (s.run later).breaker
      ⟨s.breaker.name, .opened, some (r - ((s.run later).breaker.clock - s.breaker.clock))⟩
  /-- The first to ask later makes a trial call of the half-open circuit. -/
  late : ∀ later, Operation.reset ∉ later →
    (∀ before op, before ++ [op] <+: later → op.asks = true →
      (s.run before).breaker.clock - s.breaker.clock < r) →
    r ≤ (s.run later).breaker.clock - s.breaker.clock →
    (s.run later).breaker.request =
      (.ok ⟨(s.run later).breaker.epoch + 1, true⟩,
        { (s.run later).breaker.enter .halfOpen with inFlight := 1 })

/-- An open circuit keeps its promise. -/
theorem promised_of_waiting (hc : c.Valid) (hb : Booked c s) (hs : s.breaker.state = .opened)
    {since : Instant} (ho : s.breaker.openedAt = some since) (hle : since ≤ s.breaker.clock)
    (hw : ¬s.breaker.config.wait ≤ s.breaker.openFor) :
    s.Promised (s.breaker.config.wait - s.breaker.openFor) where
  early later hreset hearly := by
    have hshut : Shut s.breaker (s.run later).breaker := by
      refine shut_run hs ho hle hw hreset fun before op hinit _ => ?_
      -- The clock has not turned back since.
      obtain ⟨rest, rfl⟩ := hinit
      have hbefore : Booked c (s.run before) :=
        run_induction hb before fun _ op _ h => booked_step hc.2.2.2 h op
      have hclock := clock_le_run hc.2.2.2 hbefore ([op] ++ rest)
      have hrun : (s.run before).run ([op] ++ rest) = s.run (before ++ [op] ++ rest) := by
        rw [List.append_assoc]
        exact (List.foldl_append ..).symm
      rw [hrun] at hclock
      simp only [Duration.lt_iff, Duration.le_iff, Duration.nanos_sub] at hearly hclock ⊢
      omega
    have hwaits : ¬(s.run later).breaker.config.wait ≤ (s.run later).breaker.openFor := by
      rw [wait_le_iff hshut ho hle hw]
      exact Nat.not_le_of_lt hearly
    refine rejects_of_request ?_
    rw [request_of_waiting hshut.state hwaits, left_eq hshut ho hle, ← hshut.name]
    unfold reject
    rw [hshut.state]
  late later hreset hasks hover := by
    have hshut := shut_run hs ho hle hw hreset hasks
    refine request_of_over hshut.state ((wait_le_iff hshut ho hle hw).mpr hover) ?_
    have hbooked : Booked c (s.run later) :=
      run_induction hb later fun _ op _ h => booked_step hc.2.2.2 h op
    rw [hbooked.config]
    exact hc.2.2.2

/-- **The hint of a rejection is exact.** After any run of operations of a breaker with an accepted
configuration, a request is only rejected by an open circuit, with a hint that is positive, at most
the configured wait, and kept whatever happens short of closing the circuit by hand; or by a
half-open circuit, without a hint. -/
theorem retry_hint_is_exact (hv : c.validate = .ok ()) (name : String) (clock : Instant)
    (ops : List Operation) {rejection : Rejection} {b : Breaker}
    (hr : ((start name c clock).run ops).breaker.request = (.error rejection, b)) :
    let s := (start name c clock).run ops
    (s.breaker.state = .opened ∧ ∃ r, rejection = ⟨s.breaker.name, .opened, some r⟩ ∧
      .zero < r ∧ r ≤ c.wait ∧ s.Promised r) ∨
    (s.breaker.state = .halfOpen ∧ rejection = ⟨s.breaker.name, .halfOpen, none⟩) := by
  intro s
  have hc := (c.validate_ok_iff).mp hv
  have hb : Booked c s := booked_run hc.2.2.2 name clock ops
  have hd : Dated c s := dated_run hc name clock ops
  rcases (requested_of_booked hc.2.2.2 hb).rejection (congrArg Prod.fst hr) with
    ⟨hs, hw, hrejection⟩ | hfull
  · obtain ⟨since, hsince⟩ := Option.ne_none_iff_exists'.mp (hd.known (by simp [hs]))
    have ho : s.breaker.openedAt = some since := by
      rw [hd.openedAt, hs, ← hsince]
      rfl
    refine .inl ⟨hs, _, hrejection, ?_, ?_, ?_⟩
    · rw [Duration.lt_iff, Duration.nanos_sub]
      exact Nat.sub_pos_of_lt (Nat.lt_of_not_le hw)
    · rw [hb.config, Duration.le_iff, Duration.nanos_sub]
      exact Nat.sub_le ..
    · exact promised_of_waiting hc hb hs ho (hd.past since hsince) hw
  · exact .inr hfull

/-- Two seconds after the circuit opened, three are left. A late outcome is ignored, a second later
two are left, and another two later a trial call is made. -/
theorem hint_of_brittle :
    let s := (start "brittle" brittle .zero).run
      [.acquire, .record .failure, .advance (.ofSeconds 2)]
    brittle.validate = .ok () ∧
      s.breaker.request.1 = .error ⟨"brittle", .opened, some (.ofSeconds 3)⟩ ∧
      Rejects (s.run [.finish 0 .success, .tryAcquire, .advance (.ofSeconds 1)]).breaker
        ⟨"brittle", .opened, some (.ofSeconds 2)⟩ ∧
      (s.run [.tryAcquire, .advance (.ofSeconds 3)]).breaker.request.1 = .ok ⟨2, true⟩ := by
  have hv : brittle.validate = .ok () := brittle.validate_ok_iff.mpr (by decide +kernel)
  have hr : ((start "brittle" brittle .zero).run
      [.acquire, .record .failure, .advance (.ofSeconds 2)]).breaker.request.1
        = .error ⟨"brittle", .opened, some (.ofSeconds 3)⟩ := by
    decide +kernel
  refine ⟨hv, hr, ?_⟩
  rcases retry_hint_is_exact hv "brittle" .zero
      [.acquire, .record .failure, .advance (.ofSeconds 2)] (Prod.ext hr rfl) with
    ⟨-, r, hrejection, -, -, hpromised⟩ | ⟨hhalf, -⟩
  · obtain rfl : Duration.ofSeconds 3 = r := by
      simpa using congrArg Rejection.retryAfter hrejection
    refine ⟨?_, ?_⟩
    · exact hpromised.early [.finish 0 .success, .tryAcquire, .advance (.ofSeconds 1)]
        (by decide) (by decide +kernel)
    · rw [hpromised.late [.tryAcquire, .advance (.ofSeconds 3)] (by decide) ?_ (by decide +kernel)]
      · decide +kernel
      · rintro before op ⟨rest, hrun⟩ hop
        cases before with
        | nil => decide +kernel
        | cons first before =>
          cases before with
          | nil =>
            simp only [List.cons_append, List.nil_append, List.cons.injEq] at hrun
            obtain ⟨-, rfl, -⟩ := hrun
            exact absurd hop (by decide)
          | cons second before =>
            have hlength := congrArg List.length hrun
            simp at hlength
  · exact absurd hhalf (by decide +kernel)

end Session

end ClusterGuard.Breaker
