import ClusterGuard.Breaker.Call
import ClusterGuard.Proofs.Breaker.Session
import ClusterGuard.Stream.Gated

/-!
# How a circuit changes its state, and what an open one lets through

`Edge` lists the ways from one state to another. `Dated` ties the state to the time the circuit last
opened: as long as the wait since then is not over, and nobody has closed the circuit by hand, the
state cannot have left `opened`.

None of this needs a bound on the number of transitions. A permit that survives until the epochs
repeat may hand in an outcome that is not its own, but it is an outcome all the same.

Results:
* `dated_run`: the times of the openings, in every run.
* **`open_state_safety`**: every change of the state is an edge, the breaker knows when it opened,
  and nothing passes before the wait is over.
-/

namespace ClusterGuard.Breaker

variable {c : Config}

/-! ## Turning everybody down -/

/-- Every way to ask for permission ends in the same rejection, and only the rejection is counted:
the operation of a call is not run, and a stream delivers the rejection. -/
structure Rejects (b : Breaker) (r : Rejection) : Prop where
  request : b.request = (.error r, { b with refused := b.refused + 1 })
  call {σ ε α : Type} (s : σ) (operation : Breaker → σ → Except ε α × Breaker × σ) :
    b.call s operation = (.error (.rejected r), { b with refused := b.refused + 1 }, s)
  held {σ ε α : Type} (s : σ) (operation : Attempt σ ε α) :
    (Held.unstarted operation).poll b s
      = (.ready (.error (.rejected r)), { b with refused := b.refused + 1 }, s)
  stream {w τ ε α : Type} (source : Source w τ ε α) (refused : Rejection → ε) (inner : τ)
      (world : w) :
    (Gated.start inner).poll source refused b world
      = (.failure (refused r), ⟨.done, inner⟩, { b with refused := b.refused + 1 }, world)

/-- All of them ask the same question. -/
theorem rejects_of_request {b : Breaker} {r : Rejection}
    (h : b.request = (.error r, { b with refused := b.refused + 1 })) : Rejects b r where
  request := h
  call s operation := by simp only [call, h]
  held s operation := by simp only [Held.poll, h]
  stream source refused inner world := by simp only [Gated.start, Gated.poll, h]

namespace Session

variable {s : Session}

/-! ## The edges between the states -/

/-- The outcome that an operation makes the breaker take: one without a permit, or one that comes
with a permit of the epoch of the breaker. -/
def takes (s : Session) : Operation → Option Outcome
  | .record o => some o
  | .finish place o =>
    match s.live[place]? with
    | some l => if l.permit.epoch = s.breaker.epoch then some o else none
    | none => none
  | _ => none

/-- The ways an operation may change the state of the circuit. -/
inductive Edge (c : Config) (s : Session) (op : Operation) : CircuitState → CircuitState → Prop
  /-- An outcome opens a closed circuit; it is one counted. -/
  | trip (o : Outcome) (h : s.takes op = some o)
      (hc : s.transitions < 2 ^ 64 → s.counts op = some o) : Edge c s op .closed .opened
  /-- A request finds the wait over. -/
  | probe (t₀ : Instant) (h : op = .acquire ∨ op = .tryAcquire) (ho : s.opening = some t₀)
      (hw : t₀.nanos + c.wait.nanos ≤ s.breaker.clock.nanos) : Edge c s op .opened .halfOpen
  | recover (h : s.takes op = some .success) : Edge c s op .halfOpen .closed
  | relapse (h : s.takes op = some .failure) : Edge c s op .halfOpen .opened
  | reset (source : CircuitState) (h : op = .reset) : Edge c s op source .closed

/-! ## The time of the latest opening -/

/-- What holds of the time the circuit last opened. -/
structure Dated (c : Config) (s : Session) : Prop where
  openedAt : s.breaker.openedAt = if s.breaker.state = .closed then none else s.opening
  known : s.breaker.state ≠ .closed → s.opening ≠ none
  past : ∀ t₀, s.opening = some t₀ → t₀ ≤ s.breaker.clock
  waits : ∀ t₀, s.opening = some t₀ → s.resetSince = false →
    s.breaker.clock.nanos < t₀.nanos + c.wait.nanos → s.breaker.state = .opened

/-- While the state stays, only the clock may move. -/
theorem dated_note_of_same {b : Breaker} (h : Dated c s) (hs : b.state = s.breaker.state)
    (ho : b.openedAt = s.breaker.openedAt) (ht : s.breaker.clock ≤ b.clock) :
    Dated c (s.note b false) := by
  rw [note_of_same hs]
  refine ⟨?_, ?_, ?_, ?_⟩
  · simpa only [hs, ho] using h.openedAt
  · simpa only [hs] using h.known
  · intro t₀ h₀
    exact Duration.le_trans (h.past t₀ h₀) ht
  · intro t₀ h₀ hr hw
    have hw' := Nat.lt_of_le_of_lt (Duration.le_iff.mp ht) hw
    exact hs.trans (h.waits t₀ h₀ hr hw')

/-- A circuit that opens begins to wait. -/
theorem dated_note_of_opened {b : Breaker} (hs : s.breaker.state ≠ .opened)
    (hb : b.state = .opened) (ho : b.openedAt = some b.clock) : Dated c (s.note b false) := by
  rw [note_of_ne (by rw [hb]; exact hs.symm)]
  refine ⟨?_, ?_, ?_, ?_⟩
  · simp [hb, ho]
  · simp [hb]
  · intro t₀ h₀
    obtain rfl : b.clock = t₀ := by simpa [hb] using h₀
    exact Duration.le_rfl
  · exact fun _ _ _ _ => hb

/-- A circuit that leaves `opened` has waited, and keeps the time it opened unless it closes. -/
theorem dated_note_of_left {b : Breaker} (h : Dated c s) (hs : b.state ≠ s.breaker.state)
    (hb : b.state ≠ .opened) (ht : b.clock = s.breaker.clock)
    (ho : b.openedAt = if b.state = .closed then none else s.opening)
    (hk : b.state ≠ .closed → s.opening ≠ none)
    (hw : ∀ t₀, s.opening = some t₀ → s.resetSince = false →
      ¬s.breaker.clock.nanos < t₀.nanos + c.wait.nanos) : Dated c (s.note b false) := by
  rw [note_of_ne hs]
  simp only [hb, if_false]
  refine ⟨ho, hk, ?_, ?_⟩
  · intro t₀ h₀
    rw [ht]
    exact h.past t₀ h₀
  · intro t₀ h₀ hr hlt
    rw [ht] at hlt
    exact absurd hlt (hw t₀ h₀ (by simpa [hb] using hr))

theorem dated_start (name : String) (clock : Instant) : Dated c (start name c clock) := by
  refine ⟨rfl, fun h => absurd rfl h, ?_, ?_⟩ <;> intro t₀ h₀ <;> simp [start] at h₀

theorem dated_without (h : Dated c s) (place : Nat) : Dated c (s.without place) :=
  ⟨h.openedAt, h.known, h.past, h.waits⟩

theorem dated_tally (h : Dated c s) (op : Operation) : Dated c (s.tally op) :=
  ⟨h.openedAt, h.known, h.past, h.waits⟩

/-- An open breaker compares its wait with the time that passed since the latest opening. -/
theorem wait_le_openFor_iff (hb : Booked c s) (h : Dated c s) (hs : s.breaker.state = .opened)
    {t₀ : Instant} (h₀ : s.opening = some t₀) :
    s.breaker.config.wait ≤ s.breaker.openFor ↔
      t₀.nanos + c.wait.nanos ≤ s.breaker.clock.nanos := by
  have ho : s.breaker.openedAt = some t₀ := by
    rw [h.openedAt, hs, ← h₀]
    rfl
  rw [hb.config, openFor_of_openedAt ho]
  exact Duration.le_sub_iff (h.past t₀ h₀)

theorem dated_requested (hb : Booked c s) (h : Dated c s)
    {r : Except Rejection Permit × Breaker} (hr : Requested s.breaker r) :
    Dated c (s.note r.2 false) := by
  cases hr with
  | closed => exact dated_note_of_same h rfl rfl Duration.le_rfl
  | waiting => exact dated_note_of_same h rfl rfl Duration.le_rfl
  | probed hs hw =>
    refine dated_note_of_left h (by simp [hs]) (by simp) (by simp) ?_ ?_ ?_
    · have ho := h.openedAt
      rw [hs] at ho
      exact ho
    · exact fun _ => h.known (by simp [hs])
    · intro t₀ h₀ _
      have := (wait_le_openFor_iff hb h hs h₀).mp hw
      omega
  | free => exact dated_note_of_same h rfl rfl Duration.le_rfl
  | full => exact dated_note_of_same h rfl rfl Duration.le_rfl

theorem dated_recorded (h : Dated c s) {o : Outcome} {b : Breaker}
    (hr : Recorded s.breaker o b) : Dated c (s.note b false) := by
  -- No closed or half-open circuit is still waiting.
  have hover : s.breaker.state ≠ .opened → ∀ t₀, s.opening = some t₀ → s.resetSince = false →
      ¬s.breaker.clock.nanos < t₀.nanos + c.wait.nanos :=
    fun hs t₀ h₀ hr hlt => hs (h.waits t₀ h₀ hr hlt)
  cases hr with
  | kept => exact dated_note_of_same h rfl rfl Duration.le_rfl
  | tripped o hs => exact dated_note_of_opened (by simp [hs]) rfl rfl
  | ignored => exact dated_note_of_same h rfl rfl Duration.le_rfl
  | succeeded hs =>
    exact dated_note_of_left h (by simp [hs]) (by simp) (by simp) rfl (by simp)
      (hover (by simp [hs]))
  | failed hs => exact dated_note_of_opened (by simp [hs]) rfl rfl

theorem dated_step (hc : c.Valid) (hb : Booked c s) (h : Dated c s) (op : Operation) :
    Dated c (s.step op) := by
  have hask := step_ask (P := Dated c) (fun _ _ _ h => ⟨h.openedAt, h.known, h.past, h.waits⟩)
    (dated_requested hb h (requested_of_booked hc.2.2.2 hb))
  cases op with
  | acquire => exact hask.1
  | tryAcquire => exact hask.2
  | finish place o =>
    simp only [step]
    split
    · rename_i l _
      have h' := dated_without (dated_tally h (.finish place o)) place
      by_cases he : l.permit.epoch = s.breaker.epoch
      · rw [finish_of_current he]
        exact dated_recorded h' (recorded ..)
      · rw [finish_of_stale he]
        exact dated_note_of_same h' rfl rfl Duration.le_rfl
    · exact h
  | drop place =>
    simp only [step]
    split
    · rename_i l _
      refine dated_note_of_same (dated_without h place) (state_release ..) ?_ ?_
      · exact openedAt_release ..
      · rw [clock_release]
        exact Duration.le_rfl
    · exact h
  | record o => exact dated_recorded (dated_tally h _) (recorded ..)
  | reset =>
    refine ⟨rfl, fun hne => absurd rfl hne, h.past, ?_⟩
    intro t₀ _ hr
    exact absurd hr (by simp [step, note])
  | advance d => exact dated_note_of_same h rfl rfl (Duration.self_le_add ..)

/-- **The times of the openings**, in every run. -/
theorem dated_run (hc : c.Valid) (name : String) (clock : Instant) (ops : List Operation) :
    Dated c ((start name c clock).run ops) := by
  refine (run_induction (P := fun s => Booked c s ∧ Dated c s) ?_ ops ?_).2
  · exact ⟨booked_start name c clock, dated_start name clock⟩
  · rintro s op - ⟨hb, hd⟩
    exact ⟨booked_step hc.2.2.2 hb op, dated_step hc hb hd op⟩

/-! ## Every change of the state is an edge -/

theorem edge_requested (hb : Booked c s) (h : Dated c s) {op : Operation}
    (hop : op = .acquire ∨ op = .tryAcquire) {r : Except Rejection Permit × Breaker}
    (hr : Requested s.breaker r) (hne : r.2.state ≠ s.breaker.state) :
    Edge c s op s.breaker.state r.2.state := by
  cases hr with
  | closed => exact absurd rfl hne
  | waiting => exact absurd rfl hne
  | probed hs hw =>
    obtain ⟨t₀, h₀⟩ := Option.ne_none_iff_exists'.mp (h.known (by simp [hs]))
    rw [hs]
    exact .probe t₀ hop h₀ ((wait_le_openFor_iff hb h hs h₀).mp hw)
  | free => exact absurd rfl hne
  | full => exact absurd rfl hne

theorem edge_recorded {op : Operation} {o : Outcome} (ht : s.takes op = some o)
    (hcount : s.breaker.state = .closed → s.transitions < 2 ^ 64 → s.counts op = some o)
    {b : Breaker} (hr : Recorded s.breaker o b) (hne : b.state ≠ s.breaker.state) :
    Edge c s op s.breaker.state b.state := by
  cases hr with
  | kept => exact absurd rfl hne
  | tripped o hs =>
    rw [hs]
    exact .trip o ht (hcount hs)
  | ignored => exact absurd rfl hne
  | succeeded hs =>
    rw [hs]
    exact .recover ht
  | failed hs =>
    rw [hs]
    exact .relapse ht

/-- **Every change of the state is an edge.** -/
theorem edge_step (hc : c.Valid) (hb : Booked c s) (h : Dated c s) (op : Operation)
    (hne : (s.step op).breaker.state ≠ s.breaker.state) :
    Edge c s op s.breaker.state (s.step op).breaker.state := by
  have hreq := requested_of_booked hc.2.2.2 hb
  cases op with
  | acquire =>
    rw [(breaker_step_ask s).1] at hne ⊢
    exact edge_requested hb h (.inl rfl) hreq hne
  | tryAcquire =>
    rw [(breaker_step_ask s).2] at hne ⊢
    exact edge_requested hb h (.inr rfl) hreq hne
  | finish place o =>
    cases hl : s.live[place]? with
    | none =>
      rw [step_finish_of_none hl] at hne
      exact absurd rfl hne
    | some l =>
      have hstep : (s.step (.finish place o)).breaker = s.breaker.finish l.permit o := by
        simp [step, hl]
      rw [hstep] at hne ⊢
      by_cases he : l.permit.epoch = s.breaker.epoch
      · rw [finish_of_current he] at hne ⊢
        refine edge_recorded (by simp [takes, hl, he]) (fun hs hn => ?_) (recorded ..) hne
        have hcur := (epoch_eq_iff hb hn (List.mem_of_getElem? hl)).mp he
        simp [counts, hl, hs, hcur]
      · rw [finish_of_stale he] at hne
        exact absurd rfl hne
  | drop place =>
    refine absurd ?_ hne
    simp only [step]
    split <;> simp
  | record o =>
    have hstep : (s.step (.record o)).breaker = s.breaker.record o := breaker_note ..
    rw [hstep] at hne ⊢
    exact edge_recorded rfl (fun hs _ => counts_record hs o) (recorded ..) hne
  | reset =>
    have hstep : (s.step .reset).breaker.state = .closed := by simp [step, reset]
    rw [hstep]
    exact .reset _ rfl
  | advance d =>
    have hstep : (s.step (.advance d)).breaker.state = s.breaker.state := by simp [step, advance]
    exact absurd hstep hne

/-! ## Open circuits -/

/-- **Nothing passes an open circuit before its wait is over.** -/
theorem rejects_of_waiting (hb : Booked c s) (h : Dated c s) {t₀ : Instant}
    (h₀ : s.opening = some t₀) (hr : s.resetSince = false)
    (hw : s.breaker.clock.nanos < t₀.nanos + c.wait.nanos) :
    ∃ r, Rejects s.breaker r := by
  have hs := h.waits t₀ h₀ hr hw
  have hlt : ¬s.breaker.config.wait ≤ s.breaker.openFor := by
    rw [wait_le_openFor_iff hb h hs h₀]
    omega
  exact ⟨_, rejects_of_request (request_of_waiting hs hlt)⟩

/-- **Open circuits are safe.** After any run of operations of a breaker with an accepted
configuration: whatever operation comes next changes the state along an edge or not at all; the
breaker holds a time of opening exactly while it is not closed, and it is the time of the latest
opening; and from that time on, unless the circuit is closed by hand, until the wait is over, nobody
is granted permission in any way. -/
theorem open_state_safety (hv : c.validate = .ok ()) (name : String) (clock : Instant)
    (ops : List Operation) :
    let s := (start name c clock).run ops
    (∀ op, (s.step op).breaker.state ≠ s.breaker.state →
      Edge c s op s.breaker.state (s.step op).breaker.state) ∧
    (s.breaker.openedAt.isSome ↔ s.breaker.state ≠ .closed) ∧
    (s.breaker.state ≠ .closed → s.breaker.openedAt = s.opening) ∧
    ∀ t₀, s.opening = some t₀ → s.resetSince = false →
      s.breaker.clock.nanos < t₀.nanos + c.wait.nanos →
      (∃ r, Rejects s.breaker r) ∧
      (s.step .acquire).live = s.live ∧ (s.step .tryAcquire).loose = s.loose := by
  intro s
  have hc := (c.validate_ok_iff).mp hv
  have hb : Booked c s := booked_run hc.2.2.2 name clock ops
  have hd : Dated c s := dated_run hc name clock ops
  refine ⟨fun op => edge_step hc hb hd op, ?_, ?_, ?_⟩
  · rw [hd.openedAt, Option.isSome_iff_ne_none]
    split
    · rename_i hs
      simp [hs]
    · rename_i hs
      exact ⟨fun _ => hs, fun _ => hd.known hs⟩
  · intro hs
    rw [hd.openedAt, if_neg hs]
  · intro t₀ h₀ hr hw
    obtain ⟨r, hrej⟩ := rejects_of_waiting hb hd h₀ hr hw
    have hsame : s.note { s.breaker with refused := s.breaker.refused + 1 } false
        = { s with breaker := { s.breaker with refused := s.breaker.refused + 1 } } :=
      note_of_same rfl
    refine ⟨⟨r, hrej⟩, ?_, ?_⟩
    · simp only [step, hrej.request, hsame]
    · simp only [step, hrej.request, hsame]

/-- A breaker that opens at the first failure and waits for five seconds. -/
def brittle : Config := { window := 1, minimum := 1, wait := .ofSeconds 5, trials := 1 }

/-- The circuit opens at once and again after five seconds, when the trial call fails. Four seconds
later, nine after the first opening, it still rejects everybody. -/
theorem open_state_of_brittle :
    let s := (start "brittle" brittle .zero).run
      [.record .failure, .advance (.ofSeconds 5), .acquire, .finish 0 .failure,
        .advance (.ofSeconds 4)]
    brittle.validate = .ok () ∧ s.opening = some (.ofSeconds 5) ∧
      s.breaker.clock = .ofSeconds 9 ∧ ∃ r, Rejects s.breaker r := by
  have hv : brittle.validate = .ok () := brittle.validate_ok_iff.mpr (by decide +kernel)
  obtain ⟨-, -, -, hwaits⟩ := open_state_safety hv "brittle" .zero
    [.record .failure, .advance (.ofSeconds 5), .acquire, .finish 0 .failure,
      .advance (.ofSeconds 4)]
  obtain ⟨hrejects, -⟩ := hwaits (.ofSeconds 5) (by decide +kernel) (by decide +kernel)
    (by decide +kernel)
  exact ⟨hv, by decide +kernel, by decide +kernel, hrejects⟩

end Session

end ClusterGuard.Breaker
