import ClusterGuard.Proofs.Breaker.Opening
import Mathlib.Data.List.Perm.Basic

/-!
# The trial slots of a half-open breaker

Each slot that is taken belongs to somebody: to a live permit granted since the last transition, or
to a permission granted without a permit. `Slotted` says so; since permits end once, no slot is
given back that was not taken, and none is lost.

Results:
* `slotted_run`: who holds the slots, in every run.
* **`trial_slots_are_accounted`**: the number of slots taken, and who is let through once nobody
  holds a permit.
-/

namespace ClusterGuard.Breaker

variable {c : Config}

namespace Session

variable {s : Session}

/-! ## Who holds a slot -/

/-- How many live permits were granted since the last transition. -/
def holders (s : Session) : Nat := s.live.countP fun l => decide (s.Current l)

/-- Who holds the trial slots of a breaker in use. The holders of `pending` slots are still to be
noted. -/
structure Slotted (c : Config) (pending : Nat) (s : Session) : Prop where
  trial : ∀ l ∈ s.live, s.Current l → (l.permit.trial = true ↔ s.breaker.state = .halfOpen)
  free : s.breaker.state ≠ .halfOpen → s.breaker.inFlight = 0
  taken : s.breaker.state = .halfOpen → s.breaker.inFlight = s.holders + s.loose + pending
  bounded : s.breaker.inFlight ≤ c.trials

/-- The permit that ends was one of the holders, if it was current. -/
theorem holders_without {place : Nat} {l : Live} (hl : s.live[place]? = some l) :
    s.holders = (s.without place).holders + if s.Current l then 1 else 0 := by
  obtain ⟨hlt, rfl⟩ := List.getElem?_eq_some_iff.mp hl
  have hperm := List.getElem_cons_eraseIdx_perm hlt
  have hcount := hperm.countP_eq fun l => decide (s.Current l)
  simp only [List.countP_cons, decide_eq_true_eq] at hcount
  exact hcount.symm

/-- A transition makes every permit one of the past. -/
theorem not_current_note_of_ne (hb : Booked c s) {b : Breaker} (hs : b.state ≠ s.breaker.state)
    {l : Live} (hl : l ∈ s.live) : ¬(s.note b false).Current l := by
  have hle := (hb.live l hl).2
  rw [note_of_ne hs]
  unfold Current
  simp only
  omega

theorem holders_note_of_ne (hb : Booked c s) {b : Breaker} (hs : b.state ≠ s.breaker.state) :
    (s.note b false).holders = 0 := by
  rw [holders, live_note, List.countP_eq_zero]
  intro l hl
  simpa using not_current_note_of_ne hb hs hl

/-! ## Each operation keeps the account -/

theorem slotted_start (name : String) (clock : Instant) : Slotted c 0 (start name c clock) where
  trial _ hl := absurd hl List.not_mem_nil
  free _ := rfl
  taken h := by simp [start, fresh] at h
  bounded := Nat.zero_le _

/-- While the state stays, the slots newly taken are the ones still to be noted. -/
theorem slotted_note_of_same {b : Breaker} {taken : Nat} (h : Slotted c 0 s)
    (hs : b.state = s.breaker.state) (hn : b.inFlight = s.breaker.inFlight + taken)
    (hk : b.state ≠ .halfOpen → taken = 0) (hle : b.inFlight ≤ c.trials) :
    Slotted c taken (s.note b false) := by
  rw [note_of_same hs]
  refine ⟨?_, ?_, ?_, hle⟩
  · intro l hl hcur
    rw [h.trial l hl hcur, hs]
  · intro hne
    rw [hn, h.free (hs ▸ hne), hk hne]
  · intro hh
    rw [hn, h.taken (hs ▸ hh)]
    rfl

/-- After a transition all slots are free, whoever is still at work. -/
theorem slotted_note_of_ne {b : Breaker} {taken : Nat} (hb : Booked c s)
    (hs : b.state ≠ s.breaker.state) (hn : b.inFlight = taken)
    (hk : b.state ≠ .halfOpen → taken = 0) (hle : b.inFlight ≤ c.trials) :
    Slotted c taken (s.note b false) := by
  refine ⟨?_, ?_, ?_, ?_⟩
  · intro l hl hcur
    rw [live_note] at hl
    exact absurd hcur (not_current_note_of_ne hb hs hl)
  · intro hne
    rw [breaker_note] at hne ⊢
    rw [hn, hk hne]
  · intro _
    have hloose : (s.note b false).loose = 0 := by
      rw [note_of_ne hs]
    rw [holders_note_of_ne hb hs, hloose, breaker_note, hn, Nat.zero_add]
  · rwa [breaker_note]

/-- An outcome leaves no slot taken, so the permit it may have come with is not missed. -/
theorem slotted_recorded (hb : Booked c s)
    (ht : ∀ l ∈ s.live, s.Current l → (l.permit.trial = true ↔ s.breaker.state = .halfOpen))
    (hf : s.breaker.state ≠ .halfOpen → s.breaker.inFlight = 0) {o : Outcome} {b : Breaker}
    (hr : Recorded s.breaker o b) : Slotted c 0 (s.note b false) := by
  have hkeep (hs : s.breaker.state ≠ .halfOpen) {b : Breaker} (hsame : b.state = s.breaker.state)
      (hn : b.inFlight = s.breaker.inFlight) : Slotted c 0 (s.note b false) := by
    have hzero := hn.trans (hf hs)
    have h : Slotted c 0 s := ⟨ht, hf, fun h => absurd h hs, by rw [hf hs]; exact Nat.zero_le _⟩
    exact slotted_note_of_same h hsame hn (fun _ => rfl) (by rw [hzero]; exact Nat.zero_le _)
  have hleave {target : CircuitState} (hs : target ≠ s.breaker.state) :
      Slotted c 0 (s.note (s.breaker.enter target) false) :=
    slotted_note_of_ne hb (by simpa using hs) (by simp) (fun _ => rfl) (by simp)
  cases hr with
  | kept o hs => exact hkeep (by simp [hs]) rfl rfl
  | tripped o hs => exact hleave (by simp [hs])
  | ignored o hs => exact hkeep (by simp [hs]) rfl rfl
  | succeeded hs => exact hleave (by simp [hs])
  | failed hs => exact hleave (by simp [hs])

/-- A rejection takes no slot. -/
theorem slotted_rejected (h : Slotted c 0 s) {e : Rejection} {b : Breaker}
    (hr : Requested s.breaker (.error e, b)) : Slotted c 0 (s.note b false) := by
  cases hr with
  | waiting => exact slotted_note_of_same h rfl rfl (fun _ => rfl) h.bounded
  | full => exact slotted_note_of_same h rfl rfl (fun _ => rfl) h.bounded

/-- A permission takes a slot of a half-open breaker. -/
theorem slotted_granted (hc : 0 < c.trials) (hb : Booked c s) (h : Slotted c 0 s) {p : Permit}
    {b : Breaker} (hr : Requested s.breaker (.ok p, b)) : Slotted c 1 (s.note b false) := by
  cases hr with
  | closed hs =>
    rw [note_of_same rfl]
    exact ⟨h.trial, h.free, fun hh => by simp [hs] at hh, h.bounded⟩
  | probed hs => exact slotted_note_of_ne hb (by simp [hs]) rfl (fun hne => by simp at hne) hc
  | free hs hn =>
    rw [hb.config] at hn
    exact slotted_note_of_same h rfl rfl (fun hne => absurd hs hne) hn

/-- A permit holds the slot it was granted with. -/
theorem slotted_acquire (h : Slotted c 1 s) {p : Permit}
    (hp : p.trial = true ↔ s.breaker.state = .halfOpen) :
    Slotted c 0 { s with live := s.live ++ [⟨p, s.transitions⟩] } := by
  refine ⟨?_, h.free, ?_, h.bounded⟩
  · intro l hl hcur
    rcases List.mem_append.mp hl with hl | hl
    · exact h.trial l hl hcur
    · rw [List.mem_singleton.mp hl]
      exact hp
  · intro hs
    have hone : [(⟨p, s.transitions⟩ : Live)].countP (fun l => decide (s.Current l)) = 1 := by
      simp [Current]
    have htaken : s.breaker.inFlight = s.holders + s.loose + 1 := h.taken hs
    have hcount : Session.holders { s with live := s.live ++ [⟨p, s.transitions⟩] }
        = s.holders + 1 := by
      rw [← hone]
      exact List.countP_append
    show s.breaker.inFlight = Session.holders _ + s.loose + 0
    omega

/-- A permission without a permit takes its slot for good. -/
theorem slotted_tryAcquire (h : Slotted c 1 s) :
    Slotted c 0 { s with loose := s.loose + 1 } :=
  ⟨h.trial, h.free, h.taken, h.bounded⟩

/-- Which of the permits that stay take a slot. -/
theorem trial_without (h : Slotted c 0 s) (place : Nat) : ∀ l ∈ (s.without place).live,
    s.Current l → (l.permit.trial = true ↔ s.breaker.state = .halfOpen) :=
  fun l hl => h.trial l (List.mem_of_mem_eraseIdx hl)

/-- A permit of the past holds no slot that could be missed. -/
theorem slotted_without (h : Slotted c 0 s) {place : Nat} {l : Live}
    (hl : s.live[place]? = some l) (hcur : ¬s.Current l) : Slotted c 0 (s.without place) := by
  have hcount := holders_without hl
  rw [if_neg hcur] at hcount
  refine ⟨trial_without h place, h.free, fun hs => ?_, h.bounded⟩
  have htaken := h.taken hs
  show s.breaker.inFlight = (s.without place).holders + s.loose + 0
  omega

/-- A permit that is dropped gives back the slot it holds, if it holds one. -/
theorem slotted_drop (hb : Booked c s) (hn : s.transitions < 2 ^ 64) (h : Slotted c 0 s)
    {place : Nat} {l : Live} (hl : s.live[place]? = some l) :
    Slotted c 0 ((s.without place).note (s.breaker.release l.permit) false) := by
  have hmem := List.mem_of_getElem? hl
  have hiff := epoch_eq_iff hb hn hmem
  have hcount := holders_without hl
  have hnote : (s.without place).note (s.breaker.release l.permit) false
      = { s.without place with breaker := s.breaker.release l.permit } :=
    note_of_same (state_release ..)
  rw [hnote]
  have htrial := trial_without h place
  by_cases hcur : s.Current l
  · by_cases hs : s.breaker.state = .halfOpen
    · have hslot : s.breaker.release l.permit
          = { s.breaker with inFlight := s.breaker.inFlight - 1 } :=
        if_pos ⟨(h.trial l hmem hcur).mpr hs, hiff.mpr hcur⟩
      rw [if_pos hcur] at hcount
      have htaken := h.taken hs
      rw [hslot]
      refine ⟨htrial, fun hne => absurd hs hne, fun _ => ?_, ?_⟩
      · show s.breaker.inFlight - 1 = (s.without place).holders + s.loose + 0
        omega
      · exact Nat.le_trans (Nat.sub_le ..) h.bounded
    · have hslot : s.breaker.release l.permit = s.breaker :=
        if_neg fun hp => hs ((h.trial l hmem hcur).mp hp.1)
      rw [hslot]
      exact ⟨htrial, h.free, fun hh => absurd hh hs, h.bounded⟩
  · rw [release_of_stale fun he => hcur (hiff.mp he)]
    exact slotted_without h hl hcur

theorem slotted_step (hc : 0 < c.trials) (hb : Booked c s) (hn : s.transitions < 2 ^ 64)
    (h : Slotted c 0 s) (op : Operation) : Slotted c 0 (s.step op) := by
  have hreq := requested_of_booked hc hb
  cases op with
  | acquire =>
    simp only [step]
    split
    · rename_i p b hr
      rw [hr] at hreq
      have hp := hreq.permit rfl
      refine slotted_acquire (slotted_granted hc hb h hreq) ?_
      rw [breaker_note, hp]
      exact decide_eq_true_iff
    · rename_i hr
      rw [hr] at hreq
      exact slotted_rejected h hreq
  | tryAcquire =>
    simp only [step]
    split
    · rename_i hr
      rw [hr] at hreq
      exact slotted_tryAcquire (slotted_granted hc hb h hreq)
    · rename_i hr
      rw [hr] at hreq
      exact slotted_rejected h hreq
  | finish place o =>
    cases hl : s.live[place]? with
    | none => rwa [step_finish_of_none hl]
    | some l =>
      rw [step_finish hb hn hl]
      by_cases hcur : s.Current l
      · rw [if_pos hcur]
        exact slotted_recorded (booked_tally (booked_without hb place) _) (trial_without h place)
          h.free (recorded ..)
      · rw [if_neg hcur]
        exact slotted_without h hl hcur
  | drop place =>
    cases hl : s.live[place]? with
    | none =>
      simp only [step, hl]
      exact h
    | some l =>
      simp only [step, hl]
      exact slotted_drop hb hn h hl
  | record o => exact slotted_recorded (booked_tally hb _) h.trial h.free (recorded ..)
  | reset =>
    refine ⟨?_, fun _ => rfl, fun hs => by simp [step, reset] at hs, Nat.zero_le _⟩
    intro l hl hcur
    have hle := (hb.live l hl).2
    have hera : l.era = s.transitions + 1 := hcur
    omega
  | advance d => exact slotted_note_of_same h rfl rfl (fun _ => rfl) h.bounded

/-- **Who holds the trial slots**, in every run. -/
theorem slotted_run (hc : 0 < c.trials) (name : String) (clock : Instant) (ops : List Operation)
    (hn : ((start name c clock).run ops).transitions < 2 ^ 64) :
    Slotted c 0 ((start name c clock).run ops) := by
  refine (run_induction (P := fun s => s.transitions < 2 ^ 64 → Booked c s ∧ Slotted c 0 s)
    ?_ ops ?_ hn).2
  · exact fun _ => ⟨booked_start name c clock, slotted_start name clock⟩
  · intro s op _ ih hn
    have hn := Nat.lt_of_le_of_lt (transitions_le_step s op) hn
    obtain ⟨hb, hs⟩ := ih hn
    exact ⟨booked_step hc hb op, slotted_step hc hb hn hs op⟩

/-! ## Nobody is kept out for good -/

theorem loose_note (h : s.loose = 0) (b : Breaker) (byHand : Bool) :
    (s.note b byHand).loose = 0 := by
  unfold note
  split
  · rfl
  · exact h

theorem loose_step {op : Operation} (hop : op ≠ .tryAcquire) (h : s.loose = 0) :
    (s.step op).loose = 0 := by
  cases op with
  | acquire =>
    simp only [step]
    split <;> exact loose_note h ..
  | tryAcquire => exact absurd rfl hop
  | finish place o =>
    simp only [step]
    split
    · exact loose_note (s := (s.tally _).without place) h ..
    · exact h
  | drop place =>
    simp only [step]
    split
    · exact loose_note (s := s.without place) h ..
    · exact h
  | record o => exact loose_note (s := s.tally _) h ..
  | reset => exact loose_note h ..
  | advance d => exact loose_note h ..

/-- Without permissions that bear no permit, nobody holds a slot but the live permits. -/
theorem loose_run {ops : List Operation} (hops : .tryAcquire ∉ ops) (name : String)
    (clock : Instant) : ((start name c clock).run ops).loose = 0 :=
  run_induction (P := fun s => s.loose = 0) rfl ops fun _ _ hop h =>
    loose_step (fun he => hops (he ▸ hop)) h

/-- A breaker whose slots are free lets the next caller through, once it has waited. -/
theorem granted_of_free (hb : Booked c s) (hc : 0 < c.trials) (hf : s.breaker.inFlight = 0)
    (hw : s.breaker.state = .opened → s.breaker.config.wait ≤ s.breaker.openFor) :
    ∃ p b, s.breaker.request = (.ok p, b) := by
  cases hs : s.breaker.state with
  | closed => exact ⟨_, _, request_of_closed hs⟩
  | opened => exact ⟨_, _, request_of_over hs (hw hs) (by rw [hb.config]; exact hc)⟩
  | halfOpen =>
    have hlt : s.breaker.inFlight < s.breaker.config.trials := by
      rw [hb.config, hf]
      exact hc
    exact ⟨_, _, (request_of_halfOpen hs).trans (if_pos hlt)⟩

/-- **The trial slots are accounted for.** After any run of operations of a breaker with an accepted
configuration: the slots taken are those of the live permits granted since the last transition and
of the permissions granted since without a permit, never more than there are, and none unless the
circuit is half open; whoever gives a slot back holds one; and if every permission bore a permit and
none granted since the last transition is live, then the next caller is let through, at once or, if
the circuit is open, once its wait is over. -/
theorem trial_slots_are_accounted (hv : c.validate = .ok ()) (name : String) (clock : Instant)
    (ops : List Operation) (hn : ((start name c clock).run ops).transitions < 2 ^ 64) :
    let s := (start name c clock).run ops
    (s.breaker.state = .halfOpen →
      s.breaker.inFlight = (s.live.countP fun l => decide (s.Current l)) + s.loose) ∧
    s.breaker.inFlight ≤ c.trials ∧
    (s.breaker.state ≠ .halfOpen → s.breaker.inFlight = 0) ∧
    (∀ l ∈ s.live, l.permit.epoch = s.breaker.epoch →
      l.permit.trial = true ∨ s.breaker.state = .halfOpen → 0 < s.breaker.inFlight) ∧
    (.tryAcquire ∉ ops → (∀ l ∈ s.live, ¬s.Current l) →
      (s.breaker.state = .opened → ∀ t₀, s.opening = some t₀ →
        t₀.nanos + c.wait.nanos ≤ s.breaker.clock.nanos) →
      ∃ p b, s.breaker.request = (.ok p, b)) := by
  intro s
  have hc := (c.validate_ok_iff).mp hv
  have hb : Booked c s := booked_run hc.2.2.2 name clock ops
  have hd : Dated c s := dated_run hc name clock ops
  have hs : Slotted c 0 s := slotted_run hc.2.2.2 name clock ops hn
  refine ⟨hs.taken, hs.bounded, hs.free, ?_, ?_⟩
  · intro l hl he htrial
    have hcur := (epoch_eq_iff hb hn hl).mp he
    have hhalf : s.breaker.state = .halfOpen := htrial.elim (hs.trial l hl hcur).mp id
    have hpos : 0 < s.holders := List.countP_pos_iff.mpr ⟨l, hl, decide_eq_true hcur⟩
    have htaken := hs.taken hhalf
    omega
  · intro hops hnone hwait
    have hloose : s.loose = 0 := loose_run hops name clock
    have hholders : s.holders = 0 := by
      rw [holders, List.countP_eq_zero]
      exact fun l hl => by simpa using hnone l hl
    refine granted_of_free hb hc.2.2.2 ?_ fun hopen => ?_
    · by_cases hhalf : s.breaker.state = .halfOpen
      · rw [hs.taken hhalf, hholders, hloose]
      · exact hs.free hhalf
    · obtain ⟨t₀, h₀⟩ := Option.ne_none_iff_exists'.mp (hd.known (by simp [hopen]))
      exact (wait_le_openFor_iff hb hd hopen h₀).mpr (hwait hopen t₀ h₀)

/-- One caller is still at work when the circuit opens. Five seconds later another one gets the
only trial slot and drops its permit. The slot is free again, although the first caller is still
there. -/
theorem trial_slot_of_brittle :
    let s := (start "brittle" brittle .zero).run
      [.acquire, .record .failure, .advance (.ofSeconds 5), .acquire, .drop 1]
    brittle.validate = .ok () ∧ s.transitions < 2 ^ 64 ∧ s.breaker.state = .halfOpen ∧
      s.live.length = 1 ∧ ∃ p b, s.breaker.request = (.ok p, b) := by
  have hv : brittle.validate = .ok () := brittle.validate_ok_iff.mpr (by decide +kernel)
  have hn : ((start "brittle" brittle .zero).run
      [.acquire, .record .failure, .advance (.ofSeconds 5), .acquire, .drop 1]).transitions
        < 2 ^ 64 := by
    decide +kernel
  obtain ⟨-, -, -, -, hgranted⟩ := trial_slots_are_accounted hv "brittle" .zero
    [.acquire, .record .failure, .advance (.ofSeconds 5), .acquire, .drop 1] hn
  refine ⟨hv, hn, by decide +kernel, by decide +kernel, ?_⟩
  refine hgranted (by decide) (by decide +kernel) fun hopen => ?_
  exact absurd hopen (by decide +kernel)

end Session

end ClusterGuard.Breaker
