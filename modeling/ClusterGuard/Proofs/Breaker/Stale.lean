import ClusterGuard.Proofs.Breaker.Opening
import Mathlib.Algebra.Group.Nat.Defs

/-!
# Permits that have outlived their epoch

A permit is stale once a transition was made after it was granted, even if the circuit is back in
the state it had then. Nothing that becomes of it changes the breaker. So a session can forget its
stale permits: `pruned` is what is left, and `essence` what is left of a run, with permits named by
their places among the current ones. Runs of the same essence differ only in how and when stale
permits end, and come to the same.

Results:
* `inert_of_stale`: every way to end a stale permit leaves the breaker alone.
* `inert_of_shifted`, `inert_of_granted`: a permit is stale after any actions with a transition
  among them.
* **`pruned_step`**, `pruned_run`: what a session comes to, told without its stale permits.
* **`stale_permits_are_inert`**: all of it, in every run.
-/

namespace ClusterGuard.Breaker

variable {c : Config}

/-! ## Permits that no longer matter -/

/-- Whatever becomes of a permit, the breaker stays exactly as it is: if its holder finishes or
drops it, or if it belongs to a held call or to a stream that is polled or given up. -/
structure Inert (b : Breaker) (p : Permit) : Prop where
  finish (o : Outcome) : b.finish p o = b
  release : b.release p = b
  poll {σ ε α : Type} (operation : Attempt σ ε α) (s : σ) :
    ((Held.admitted p operation).poll b s).2.1 = b
  abandon {σ ε α : Type} (operation : Attempt σ ε α) : (Held.admitted p operation).abandon b = b
  next {w τ ε α : Type} (source : Source w τ ε α) (refused : Rejection → ε) (inner : τ)
      (world : w) :
    ((⟨.admitted p, inner⟩ : Gated τ).poll source refused b world).2.2.1 = b
  drop {w τ ε α : Type} (source : Source w τ ε α) (inner : τ) (world : w) :
    ((⟨.admitted p, inner⟩ : Gated τ).drop source b world).1 = b

/-- **A permit of another epoch is inert.** -/
theorem inert_of_stale {b : Breaker} {p : Permit} (h : p.epoch ≠ b.epoch) : Inert b p where
  finish o := finish_of_stale h o
  release := release_of_stale h
  poll operation s := by
    simp only [Held.poll, Held.proceed]
    split
    · rfl
    · exact finish_of_stale h _
  abandon operation := release_of_stale h
  next source refused inner world := by
    simp only [Gated.poll, Gated.pass]
    split
    · rfl
    · rfl
    · exact finish_of_stale h _
    · exact finish_of_stale h _
  drop source inner world := release_of_stale h

/-! ## What happens while a call runs -/

namespace Action

/-- The breaker after some actions, one after the other. -/
def runAll (b : Breaker) (actions : List Action) : Breaker := actions.foldl run b

/-- How many of some actions make a transition. -/
def shifts : Breaker → List Action → Nat
  | _, [] => 0
  | b, a :: actions => (if a.Shifts b then 1 else 0) + shifts (a.run b) actions

/-- **The epoch counts the transitions.** -/
theorem epoch_runAll {b : Breaker} (ht : 0 < b.config.trials) (actions : List Action) :
    (runAll b actions).epoch = b.epoch + .ofNat (shifts b actions) := by
  induction actions generalizing b with
  | nil => exact (UInt64.add_zero _).symm
  | cons a actions ih =>
    have hconfig := config_run ht a
    have hrest := ih (b := a.run b) (by rw [hconfig]; exact ht)
    have hcons : runAll b (a :: actions) = runAll (a.run b) actions := rfl
    rw [hcons, hrest, epoch_run ht a, shifts, UInt64.ofNat_add]
    split
    · exact UInt64.add_assoc ..
    · exact congrArg (b.epoch + ·) (UInt64.zero_add _).symm

end Action

/-- A permit outlives its epoch with the first transition. -/
theorem inert_of_shifted {b : Breaker} {p : Permit} (ht : 0 < b.config.trials)
    (hp : p.epoch = b.epoch) {actions : List Action} (hpos : 0 < Action.shifts b actions)
    (hlt : Action.shifts b actions < 2 ^ 64) : Inert (Action.runAll b actions) p := by
  refine inert_of_stale fun he => ?_
  rw [Action.epoch_runAll ht, hp] at he
  have hnone : Action.shifts b actions = 0 := (add_ofNat_eq_self_iff hlt).mp he.symm
  exact absurd hnone (Nat.ne_of_gt hpos)

/-- A permit granted now outlives its epoch with the first transition to come. -/
theorem inert_of_granted {b b' : Breaker} {p : Permit} (ht : 0 < b.config.trials)
    (hr : b.request = (.ok p, b')) {actions : List Action} (hpos : 0 < Action.shifts b' actions)
    (hlt : Action.shifts b' actions < 2 ^ 64) : Inert (Action.runAll b' actions) p := by
  have hreq := requested ht
  rw [hr] at hreq
  have hp : p.epoch = b'.epoch := congrArg Permit.epoch (hreq.permit rfl)
  have hconfig : b'.config = b.config := hreq.config
  exact inert_of_shifted (by rw [hconfig]; exact ht) hp hpos hlt

/-- A call leaves the breaker as its operation does if its permit is inert by then. -/
theorem call_of_inert {σ ε α : Type} {b b' : Breaker} {p : Permit} (hr : b.request = (.ok p, b'))
    {operation : Breaker → σ → Except ε α × Breaker × σ} {s : σ}
    (h : Inert (operation b' s).2.1 p) :
    b.call s operation
      = ((operation b' s).1.mapError .failed, (operation b' s).2.1, (operation b' s).2.2) := by
  simp only [call, hr, h.finish]

namespace Session

variable {s : Session}

/-! ## What is left without stale permits -/

/-- The session without its stale permits. -/
def pruned (s : Session) : Session :=
  { s with live := s.live.filter fun l => decide (s.Current l) }

/-- The place of a permit among the current ones, if it is one of them. -/
def seat? (s : Session) (place : Nat) : Option Nat :=
  match s.live[place]? with
  | some l =>
    if s.Current l then some ((s.live.take place).countP fun l => decide (s.Current l)) else none
  | none => none

/-- An operation, told without the stale permits. -/
def essential? (s : Session) : Operation → Option Operation
  | .finish place o => (s.seat? place).map (.finish · o)
  | .drop place => (s.seat? place).map .drop
  | op => some op

/-- A run, told without the stale permits. -/
def essence (s : Session) : List Operation → List Operation
  | [] => []
  | op :: ops => (s.essential? op).toList ++ (s.step op).essence ops

/-- One operation more, and nobody remembers the permits that have become stale. -/
def turn (s : Session) (op : Operation) : Session := (s.step op).pruned

@[simp] theorem breaker_pruned (s : Session) : s.pruned.breaker = s.breaker := rfl

theorem booked_pruned (h : Booked c s) : Booked c s.pruned :=
  ⟨h.config, h.epoch, fun l hl => h.live l (List.mem_filter.mp hl).1⟩

theorem note_pruned (s : Session) (b : Breaker) (byHand : Bool) :
    s.pruned.note b byHand = { s.note b byHand with live := s.pruned.live } := by
  by_cases hm : byHand = true ∨ b.state ≠ s.breaker.state
  · rw [show s.note b byHand = _ from if_pos hm]
    exact if_pos hm
  · rw [show s.note b byHand = _ from if_neg hm]
    exact if_neg hm

/-- What is noted does not depend on the stale permits: whoever is current afterwards was current
before. -/
theorem pruned_note (h : ∀ l ∈ s.live, l.era ≤ s.transitions) (b : Breaker) (byHand : Bool) :
    (s.note b byHand).pruned = (s.pruned.note b byHand).pruned := by
  have hle := transitions_le_note s b byHand
  have hlive : s.live.filter (fun l => decide (l.era = (s.note b byHand).transitions))
      = s.pruned.live.filter (fun l => decide (l.era = (s.note b byHand).transitions)) := by
    simp only [pruned, List.filter_filter]
    refine List.filter_congr fun l hl => ?_
    have hera := h l hl
    rw [Bool.eq_iff_iff]
    simp only [Bool.and_eq_true, decide_eq_true_eq]
    unfold Current
    omega
  rw [note_pruned]
  unfold pruned
  rw [live_note]
  exact congrArg (fun live => { s.note b byHand with live }) hlive

/-! ## Lists without some of their entries -/

section Filter

variable {α : Type} {p : α → Bool} {l : List α} {x : α} {i : Nat}

/-- An entry that is left out anyway can be taken away before. -/
theorem filter_eraseIdx_of_neg (h : l[i]? = some x) (hx : p x = false) :
    (l.eraseIdx i).filter p = l.filter p := by
  obtain ⟨hi, rfl⟩ := List.getElem?_eq_some_iff.mp h
  conv_rhs => rw [← List.take_append_drop i l, List.drop_eq_getElem_cons hi]
  rw [List.eraseIdx_eq_take_drop_succ, List.filter_append, List.filter_append,
    List.filter_cons_of_neg (by simp [hx])]

/-- An entry that is not left out stands behind those that are not left out before it. -/
theorem filter_split (h : l[i]? = some x) (hx : p x = true) :
    l.filter p = (l.take i).filter p ++ x :: (l.drop (i + 1)).filter p := by
  obtain ⟨hi, rfl⟩ := List.getElem?_eq_some_iff.mp h
  conv_lhs => rw [← List.take_append_drop i l, List.drop_eq_getElem_cons hi]
  rw [List.filter_append, List.filter_cons_of_pos hx]

theorem getElem?_filter (h : l[i]? = some x) (hx : p x = true) :
    (l.filter p)[(l.take i).countP p]? = some x := by
  rw [filter_split h hx, List.countP_eq_length_filter,
    List.getElem?_append_right (Nat.le_refl _), Nat.sub_self]
  rfl

theorem filter_eraseIdx_of_pos (h : l[i]? = some x) (hx : p x = true) :
    (l.eraseIdx i).filter p = (l.filter p).eraseIdx ((l.take i).countP p) := by
  rw [filter_split h hx, List.countP_eq_length_filter,
    List.eraseIdx_append_of_length_le (Nat.le_refl _), Nat.sub_self,
    List.eraseIdx_eq_take_drop_succ, List.filter_append]
  rfl

end Filter

/-! ## Operations without stale permits -/

theorem seat?_eq {place : Nat} {l : Live} (hl : s.live[place]? = some l) :
    s.seat? place = if s.Current l then
      some ((s.live.take place).countP fun l => decide (s.Current l)) else none := by
  simp only [seat?, hl]

/-- The end of a stale permit leaves nothing behind. -/
theorem pruned_without_of_stale {place : Nat} {l : Live} (hl : s.live[place]? = some l)
    (hcur : ¬s.Current l) : (s.without place).pruned = s.pruned :=
  congrArg (fun live => { s with live }) (filter_eraseIdx_of_neg hl (decide_eq_false hcur))

/-- The end of a current permit is that of its place among the current ones. -/
theorem pruned_without {place : Nat} {l : Live} (hl : s.live[place]? = some l)
    (hcur : s.Current l) {seat : Nat} (hseat : s.seat? place = some seat) :
    s.pruned.live[seat]? = some l ∧ (s.without place).pruned = s.pruned.without seat := by
  rw [seat?_eq hl, if_pos hcur] at hseat
  obtain rfl := Option.some.inj hseat
  have hpos : decide (s.Current l) = true := decide_eq_true hcur
  have hlive := filter_eraseIdx_of_pos (p := fun l => decide (s.Current l)) hl hpos
  exact ⟨getElem?_filter hl hpos, congrArg (fun live => { s with live }) hlive⟩

/-- The session with one more live permit. -/
def granted (p : Permit) (s : Session) : Session :=
  { s with live := s.live ++ [⟨p, s.transitions⟩] }

/-- A new permit is current, so that it is the last of those kept. -/
theorem pruned_granted (p : Permit) (s : Session) : (s.granted p).pruned = s.pruned.granted p := by
  have hlive : (s.live ++ [(⟨p, s.transitions⟩ : Live)]).filter (fun l => decide (s.Current l))
      = s.pruned.live ++ [⟨p, s.transitions⟩] := by
    have hnew : [(⟨p, s.transitions⟩ : Live)].filter (fun l => decide (s.Current l))
        = [⟨p, s.transitions⟩] := List.filter_eq_self.mpr (by simp [Current])
    rw [List.filter_append, hnew]
    rfl
  exact congrArg (fun live => { s with live }) hlive

/-- A request is answered without a look at the permits. -/
theorem pruned_ask (h : ∀ l ∈ s.live, l.era ≤ s.transitions) :
    (s.step .acquire).pruned = s.pruned.turn .acquire ∧
      (s.step .tryAcquire).pruned = s.pruned.turn .tryAcquire := by
  have hnote (b : Breaker) := pruned_note h b false
  simp only [turn, step, breaker_pruned]
  rcases s.breaker.request with ⟨answer, b⟩
  cases answer with
  | error r => exact ⟨hnote b, hnote b⟩
  | ok p =>
    refine ⟨?_, congrArg (fun t : Session => { t with loose := t.loose + 1 }) (hnote b)⟩
    calc ((s.note b false).granted p).pruned
        = (s.note b false).pruned.granted p := pruned_granted ..
      _ = (s.pruned.note b false).pruned.granted p := congrArg (granted p) (hnote b)
      _ = ((s.pruned.note b false).granted p).pruned := (pruned_granted ..).symm

/-- An outcome without a permit is taken without a look at the permits. -/
theorem pruned_record (h : ∀ l ∈ s.live, l.era ≤ s.transitions) (o : Outcome) :
    (s.step (.record o)).pruned = s.pruned.turn (.record o) :=
  pruned_note (s := s.tally (.record o)) h (s.breaker.record o) false

/-- **An operation, told without the stale permits**, comes to the same. -/
theorem pruned_step (hb : Booked c s) (hn : s.transitions < 2 ^ 64) (op : Operation) :
    (s.step op).pruned = match s.essential? op with
      | some op => s.pruned.turn op
      | none => s.pruned := by
  have heras : ∀ l ∈ s.live, l.era ≤ s.transitions := fun l hl => (hb.live l hl).2
  have heras' (place : Nat) : ∀ l ∈ (s.without place).live, l.era ≤ s.transitions :=
    fun l hl => heras l (List.mem_of_mem_eraseIdx hl)
  cases op with
  | acquire => exact (pruned_ask heras).1
  | tryAcquire => exact (pruned_ask heras).2
  | finish place o =>
    cases hl : s.live[place]? with
    | none => simp [step_finish_of_none hl, essential?, seat?, hl]
    | some l =>
      rw [step_finish hb hn hl]
      by_cases hcur : s.Current l
      · have hseat := (seat?_eq hl).trans (if_pos hcur)
        obtain ⟨hlive, hwithout⟩ := pruned_without hl hcur hseat
        have hfinish := step_finish (booked_pruned hb) hn hlive o
        rw [if_pos (show s.pruned.Current l from hcur)] at hfinish
        simp only [if_pos hcur, essential?, hseat, Option.map_some, turn, hfinish]
        rw [pruned_record (heras' place), hwithout]
        rfl
      · have hseat := (seat?_eq hl).trans (if_neg hcur)
        simp only [if_neg hcur, essential?, hseat, Option.map_none]
        exact pruned_without_of_stale hl hcur
  | drop place =>
    cases hl : s.live[place]? with
    | none => simp [step, essential?, seat?, hl]
    | some l =>
      by_cases hcur : s.Current l
      · have hseat := (seat?_eq hl).trans (if_pos hcur)
        obtain ⟨hlive, hwithout⟩ := pruned_without hl hcur hseat
        simp only [essential?, hseat, Option.map_some, turn, step, hl, hlive]
        rw [pruned_note (heras' place), hwithout]
        rfl
      · have hseat := (seat?_eq hl).trans (if_neg hcur)
        have hstale : l.permit.epoch ≠ s.breaker.epoch :=
          fun he => hcur ((epoch_eq_iff hb hn (List.mem_of_getElem? hl)).mp he)
        have hsame : (s.without place).note s.breaker false = s.without place := note_of_same rfl
        simp only [essential?, hseat, Option.map_none, step, hl, release_of_stale hstale, hsame]
        exact pruned_without_of_stale hl hcur
  | record o => exact pruned_record heras o
  | reset => exact pruned_note heras s.breaker.reset true
  | advance d => exact pruned_note heras (s.breaker.advance d) false

/-- What the requests of a run are told, if nobody remembers the stale permits. -/
def turnAnswers (s : Session) : List Operation → List (Except Rejection Permit)
  | [] => []
  | op :: ops => (s.told op).toList ++ (s.turn op).turnAnswers ops

/-- Requests are told the same, and no other operation is told anything. -/
theorem told_eq (s : Session) (op : Operation) :
    (s.told op).toList = (s.essential? op).toList.flatMap fun op => (s.pruned.told op).toList := by
  cases op with
  | acquire => rfl
  | tryAcquire => rfl
  | finish place o => cases h : s.seat? place <;> simp [told, essential?, h]
  | drop place => cases h : s.seat? place <;> simp [told, essential?, h]
  | record o => rfl
  | reset => rfl
  | advance d => rfl

/-- **A run, told without the stale permits**, comes to the same, and its requests are told the
same. -/
theorem pruned_run (hc : 0 < c.trials) (hb : Booked c s) (ops : List Operation)
    (hn : (s.run ops).transitions < 2 ^ 64) :
    (s.run ops).pruned = (s.essence ops).foldl turn s.pruned ∧
      s.answers ops = s.pruned.turnAnswers (s.essence ops) := by
  induction ops generalizing s with
  | nil => exact ⟨rfl, rfl⟩
  | cons op ops ih =>
    have hn' : s.transitions < 2 ^ 64 := Nat.lt_of_le_of_lt (transitions_le_run s (op :: ops)) hn
    obtain ⟨hrun, hanswers⟩ := ih (booked_step hc hb op) hn
    have hstep := pruned_step hb hn' op
    have htold := told_eq s op
    refine ⟨hrun.trans ?_, ?_⟩
    · simp only [essence]
      cases hop : s.essential? op with
      | none => simp [hstep, hop]
      | some op' => simp [hstep, hop]
    · simp only [answers, essence, hanswers, htold]
      cases hop : s.essential? op with
      | none => simp [hstep, hop]
      | some op' => simp [hstep, hop, turnAnswers]

/-- **Stale permits are inert.** After any run of a breaker with an accepted configuration: a live
permit is inert if a transition was made since it was granted; any other run of the same essence,
which differs only in how and when stale permits end, is given the same answers and leaves the same
breaker; a permit granted now is inert as soon as anybody has made a transition, be it the operation
it was granted for, in the middle of a poll; and a blocking call whose operation, or somebody else
meanwhile, makes a transition leaves the breaker as it is by then. -/
theorem stale_permits_are_inert (hv : c.validate = .ok ()) (name : String) (clock : Instant)
    (ops : List Operation) (hn : ((start name c clock).run ops).transitions < 2 ^ 64) :
    let s := (start name c clock).run ops
    (∀ l ∈ s.live, ¬s.Current l → Inert s.breaker l.permit) ∧
    (∀ ops', ((start name c clock).run ops').transitions < 2 ^ 64 →
      (start name c clock).essence ops' = (start name c clock).essence ops →
      (start name c clock).answers ops' = (start name c clock).answers ops ∧
        ((start name c clock).run ops').breaker = s.breaker) ∧
    ∀ (p : Permit) (b : Breaker) (actions : List Action), s.breaker.request = (.ok p, b) →
      0 < Action.shifts b actions → Action.shifts b actions < 2 ^ 64 →
      Inert (Action.runAll b actions) p ∧
      ∀ {σ ε α : Type} (operation : Breaker → σ → Except ε α × Breaker × σ) (world : σ),
        (operation b world).2.1 = Action.runAll b actions →
        s.breaker.call world operation = ((operation b world).1.mapError .failed,
          (operation b world).2.1, (operation b world).2.2) := by
  intro s
  have hc := (c.validate_ok_iff).mp hv
  have hb : Booked c s := booked_run hc.2.2.2 name clock ops
  have hrun := pruned_run hc.2.2.2 (booked_start name c clock) ops hn
  refine ⟨fun l hl hcur => ?_, fun ops' hn' he => ?_, fun p b actions hr hpos hlt => ?_⟩
  · exact inert_of_stale fun he => hcur ((epoch_eq_iff hb hn hl).mp he)
  · have hrun' := pruned_run hc.2.2.2 (booked_start name c clock) ops' hn'
    rw [he] at hrun'
    refine ⟨hrun'.2.trans hrun.2.symm, ?_⟩
    have hpruned : ((start name c clock).run ops').pruned = s.pruned := hrun'.1.trans hrun.1.symm
    rw [← breaker_pruned, hpruned, breaker_pruned]
  · have hinert := inert_of_granted (by rw [hb.config]; exact hc.2.2.2) hr hpos hlt
    refine ⟨hinert, fun operation world hact => call_of_inert hr ?_⟩
    rw [hact]
    exact hinert

/-- Two callers are at work when somebody closes the circuit by hand, although it is closed. Neither
the failure of the first nor the success of the second is recorded: the breaker, which opens at the
first failure, is the same as if both were still at work. -/
theorem inert_of_brittle :
    let s := (start "brittle" brittle .zero).run [.acquire, .acquire, .reset]
    let s' := (start "brittle" brittle .zero).run
      [.acquire, .acquire, .reset, .finish 0 .failure, .drop 0]
    brittle.validate = .ok () ∧ s.transitions < 2 ^ 64 ∧ s'.transitions < 2 ^ 64 ∧
      s.live.length = 2 ∧ s'.live.length = 0 ∧ s'.breaker = s.breaker := by
  have hv : brittle.validate = .ok () := brittle.validate_ok_iff.mpr (by decide +kernel)
  have hn : ((start "brittle" brittle .zero).run
      [.acquire, .acquire, .reset]).transitions < 2 ^ 64 := by
    decide +kernel
  have hn' : ((start "brittle" brittle .zero).run
      [.acquire, .acquire, .reset, .finish 0 .failure, .drop 0]).transitions < 2 ^ 64 := by
    decide +kernel
  obtain ⟨-, hessence, -⟩ := stale_permits_are_inert hv "brittle" .zero _ hn
  obtain ⟨-, hsame⟩ := hessence _ hn' (by decide +kernel)
  exact ⟨hv, hn, hn', by decide +kernel, by decide +kernel, hsame⟩

end Session

end ClusterGuard.Breaker
