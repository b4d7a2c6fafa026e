import ClusterGuard.Proofs.Breaker.Opening
import Mathlib.Data.List.InsertIdx

/-!
# A breaker that has recovered

A circuit that becomes closed, by the success of a trial, by one recorded without a permit, or by
hand, forgets its past: what is left of it is the number of its epoch and of the calls it rejected.
Up to these numbers it is a new breaker, and whatever it is asked from then on, it answers as one.
Permits of the past may be finished or dropped meanwhile; they belong to epochs that are over.

Results:
* `request_renumbered`, `finish_renumbered`: a breaker does not care how its epochs are numbered,
  nor how many calls it has rejected.
* `recovers_iff`: the ways to become closed.
* `renewed_run`: a recovered breaker follows a new one.
* **`recovery_is_complete`**: nobody who comes after the recovery can tell the two apart.
-/

namespace ClusterGuard.Breaker

variable {c : Config}

/-! ## Numbers that do not matter -/

/-- The permit with its epoch counted from `e` on. -/
def Permit.renumbered (e : UInt64) (p : Permit) : Permit := { p with epoch := e + p.epoch }

/-- The live permit with its era counted from `base` on, and its epoch with it. -/
def Live.renumbered (base : Nat) (l : Live) : Live :=
  ⟨l.permit.renumbered (.ofNat base), base + l.era⟩

/-- The breaker with its epochs counted from `e` on, and with `n` rejections more. -/
def renumbered (e : UInt64) (n : Nat) (b : Breaker) : Breaker :=
  { b with epoch := e + b.epoch, refused := b.refused + n }

section Renumbered

variable (e : UInt64) (n : Nat) (b : Breaker)

theorem enter_renumbered (target : CircuitState) :
    (b.renumbered e n).enter target = (b.enter target).renumbered e n := by
  cases target <;> simp [enter, renumbered, UInt64.add_assoc]

theorem probe_renumbered : (b.renumbered e n).probe = b.probe.renumbered e n := by
  unfold probe
  rw [enter_renumbered]
  exact (apply_ite (renumbered e n) _ _ _).symm

theorem reject_renumbered (retryAfter : Option Duration) :
    (b.renumbered e n).reject retryAfter
      = ((b.reject retryAfter).1.map (·.renumbered e),
        (b.reject retryAfter).2.renumbered e n) := by
  simp only [reject, renumbered, Nat.add_right_comm]
  rfl

theorem answer_renumbered :
    (b.renumbered e n).answer
      = (b.answer.1.map (·.renumbered e), b.answer.2.renumbered e n) := by
  have hstate : (b.renumbered e n).state = b.state := rfl
  unfold answer
  rw [hstate]
  cases b.state with
  | closed => rfl
  | opened => exact reject_renumbered e n b none
  | halfOpen =>
    have hslot : (b.renumbered e n).inFlight < (b.renumbered e n).config.trials
        ↔ b.inFlight < b.config.trials := Iff.rfl
    simp only [hslot]
    split
    · rfl
    · exact reject_renumbered e n b none

theorem request_renumbered :
    (b.renumbered e n).request
      = (b.request.1.map (·.renumbered e), b.request.2.renumbered e n) := by
  have hopen : (b.renumbered e n).state = .opened
        ∧ (b.renumbered e n).openFor < (b.renumbered e n).config.wait
      ↔ b.state = .opened ∧ b.openFor < b.config.wait := Iff.rfl
  unfold request
  simp only [hopen]
  split
  · exact reject_renumbered e n b _
  · rw [probe_renumbered, answer_renumbered]

theorem record_renumbered (o : Outcome) :
    (b.renumbered e n).record o = (b.record o).renumbered e n := by
  have hstate : (b.renumbered e n).state = b.state := rfl
  unfold record
  rw [hstate]
  cases b.state with
  | closed =>
    simp only
    rw [apply_ite (renumbered e n), ← enter_renumbered]
    rfl
  | opened => rfl
  | halfOpen =>
    cases o with
    | success => exact enter_renumbered e n { b with inFlight := b.inFlight - 1 } .closed
    | failure => exact enter_renumbered e n { b with inFlight := b.inFlight - 1 } .opened

theorem epoch_renumbered_iff (p : Permit) :
    (p.renumbered e).epoch = (b.renumbered e n).epoch ↔ p.epoch = b.epoch :=
  UInt64.add_right_inj e

theorem finish_renumbered (p : Permit) (o : Outcome) :
    (b.renumbered e n).finish (p.renumbered e) o = (b.finish p o).renumbered e n := by
  unfold finish
  rw [record_renumbered, apply_ite (renumbered e n)]
  simp only [epoch_renumbered_iff]

theorem release_renumbered (p : Permit) :
    (b.renumbered e n).release (p.renumbered e) = (b.release p).renumbered e n := by
  unfold release
  rw [apply_ite (renumbered e n)]
  simp only [epoch_renumbered_iff]
  rfl

end Renumbered

theorem metrics_renumbered (e : UInt64) (n : Nat) (b : Breaker) :
    (b.renumbered e n).metrics = { b.metrics with refused := b.metrics.refused + n } := rfl

/-- What is left of a breaker that becomes closed: a new one, but for the numbers. -/
theorem enter_closed (b : Breaker) :
    b.enter .closed = (fresh b.name b.config b.clock).renumbered (b.epoch + 1) b.refused := by
  simp [enter, fresh, renumbered]

/-! ## Those who come after -/

/-- An operation as it looks to those who came after the first `old` live permits were granted. The
end of one of these permits is none of theirs. -/
def Operation.since (old : Nat) : Operation → Option Operation
  | finish place o => if place < old then none else some (finish (place - old) o)
  | drop place => if place < old then none else some (drop (place - old))
  | op => some op

/-- A run as it looks to those who came after the first `old` live permits were granted. -/
def since : Nat → List Operation → List Operation
  | _, [] => []
  | old, op :: ops =>
    match op.since old with
    | some op => op :: since old ops
    | none => since (old - 1) ops

namespace Session

variable {s f : Session}

/-! ## The ways to become closed -/

/-- Whether an operation closes the circuit: by hand, even where it is closed, or because the state
changes. -/
def Recovers (s : Session) (op : Operation) : Prop :=
  op = .reset ∨ s.breaker.state ≠ .closed ∧ (s.step op).breaker.state = .closed

/-- The breaker takes a success while it is half open, or is closed by hand. -/
inductive Recovery (s : Session) : Operation → Prop
  | trial {place : Nat} {l : Live} (hl : s.live[place]? = some l)
      (he : l.permit.epoch = s.breaker.epoch) (hs : s.breaker.state = .halfOpen) :
      Recovery s (.finish place .success)
  | record (hs : s.breaker.state = .halfOpen) : Recovery s (.record .success)
  | reset : Recovery s .reset

/-- A half-open breaker that takes a success was told one directly, or by a trial. -/
theorem recovery_of_takes {op : Operation} (hs : s.breaker.state = .halfOpen)
    (ht : s.takes op = some .success) : Recovery s op := by
  cases op with
  | record o =>
    obtain rfl : o = .success := Option.some.inj ht
    exact .record hs
  | finish place o =>
    simp only [takes] at ht
    split at ht
    · rename_i l hl
      split at ht
      · rename_i he
        obtain rfl : o = .success := Option.some.inj ht
        exact .trial hl he hs
      · cases ht
    · cases ht
  | acquire => cases ht
  | tryAcquire => cases ht
  | drop place => cases ht
  | reset => cases ht
  | advance d => cases ht

theorem record_of_halfOpen {b : Breaker} (hs : b.state = .halfOpen) :
    b.record .success = b.enter .closed := by
  have hr := recorded b .success
  generalize b.record .success = b' at hr ⊢
  cases hr with
  | kept _ h => simp [hs] at h
  | tripped _ h => simp [hs] at h
  | ignored _ h => simp [hs] at h
  | succeeded => rfl

/-- **The ways to become closed.** -/
theorem recovers_iff (hc : c.Valid) (hb : Booked c s) (hd : Dated c s) (op : Operation) :
    s.Recovers op ↔ Recovery s op := by
  constructor
  · rintro (rfl | ⟨hne, hclosed⟩)
    · exact .reset
    · have hedge := edge_step hc hb hd op (by rw [hclosed]; exact hne.symm)
      rw [hclosed] at hedge
      generalize hstate : s.breaker.state = state at hedge
      cases hedge with
      | recover ht => exact recovery_of_takes hstate ht
      | reset _ hop => exact hop ▸ .reset
  · intro h
    cases h with
    | @trial place l hl he hs =>
      refine .inr ⟨by simp [hs], ?_⟩
      simp [step, hl, finish_of_current he, record_of_halfOpen hs]
    | record hs =>
      refine .inr ⟨by simp [hs], ?_⟩
      simp [step, record_of_halfOpen hs]
    | reset => exact .inl rfl

/-- A transition to closed, whatever else is noted. -/
theorem note_enter_closed (s : Session) {byHand : Bool}
    (h : byHand = true ∨ s.breaker.state ≠ .closed) :
    (s.note (s.breaker.enter .closed) byHand).transitions = s.transitions + 1 := by
  unfold note
  rw [if_pos (h.imp id fun hne => by simpa using hne.symm)]

/-- What a recovery leaves: the permits of the past, and a breaker that has forgotten them. -/
theorem step_of_recovery {op : Operation} (h : Recovery s op) :
    (s.step op).breaker = s.breaker.enter .closed ∧
      (s.step op).transitions = s.transitions + 1 ∧ ∀ l ∈ (s.step op).live, l ∈ s.live := by
  cases h with
  | @trial place l hl he hs =>
    simp only [step, hl, finish_of_current he, record_of_halfOpen hs]
    refine ⟨breaker_note .., ?_, fun l' hl' => ?_⟩
    · exact note_enter_closed ((s.tally _).without place) (.inr (by simp [hs]))
    · rw [live_note] at hl'
      exact List.mem_of_mem_eraseIdx hl'
  | record hs =>
    simp only [step, record_of_halfOpen hs]
    refine ⟨breaker_note .., ?_, fun l' hl' => ?_⟩
    · exact note_enter_closed (s.tally _) (.inr (by simp [hs]))
    · rwa [live_note] at hl'
  | reset =>
    simp only [step, Breaker.reset]
    refine ⟨breaker_note .., note_enter_closed s (.inl rfl), fun l' hl' => ?_⟩
    rwa [live_note] at hl'

/-! ## A recovered breaker follows a new one -/

/-- How a recovered breaker in use compares with a new one, if `base` transitions had been made and
`n` calls rejected by then, and the permits `old` are left from before. -/
structure Renewed (base n : Nat) (old : List Live) (s f : Session) : Prop where
  breaker : s.breaker = f.breaker.renumbered (.ofNat base) n
  live : s.live = old ++ f.live.map (·.renumbered base)
  transitions : s.transitions = base + f.transitions
  past : ∀ l ∈ old, l.era < base

variable {base n : Nat} {old : List Live}

/-- Both note the same. -/
theorem renewed_note (h : Renewed base n old s f) {b b' : Breaker}
    (hb : b = b'.renumbered (.ofNat base) n) (byHand : Bool) :
    Renewed base n old (s.note b byHand) (f.note b' byHand) := by
  have hstate : s.breaker.state = f.breaker.state := by
    rw [h.breaker]
    rfl
  have hstate' : b.state = b'.state := by
    rw [hb]
    rfl
  refine ⟨by simpa using hb, by simpa using h.live, ?_, h.past⟩
  unfold note
  simp only [hstate, hstate']
  split
  · exact (congrArg (· + 1) h.transitions).trans (Nat.add_assoc ..)
  · exact h.transitions

/-- A permit of the past no longer matters. -/
theorem Renewed.stale (h : Renewed base n old s f) (hb : Booked c s) (hn : s.transitions < 2 ^ 64)
    {l : Live} (hl : l ∈ old) : l.permit.epoch ≠ s.breaker.epoch := by
  intro he
  have hmem : l ∈ s.live := by
    rw [h.live]
    exact List.mem_append_left _ hl
  have hcur : l.era = s.transitions := (epoch_eq_iff hb hn hmem).mp he
  have hpast := h.past l hl
  have htransitions := h.transitions
  omega

/-- The first live permits are those of the past. -/
theorem Renewed.getElem?_of_lt (h : Renewed base n old s f) {place : Nat}
    (hlt : place < old.length) : s.live[place]? = some old[place] := by
  rw [h.live, List.getElem?_append_left hlt]
  exact List.getElem?_eq_getElem hlt

/-- The others are those of the new breaker. -/
theorem Renewed.getElem?_of_le (h : Renewed base n old s f) {place : Nat}
    (hle : old.length ≤ place) :
    s.live[place]? = (f.live[place - old.length]?).map (·.renumbered base) := by
  rw [h.live, List.getElem?_append_right hle, List.getElem?_map]

/-- A permit of the past ends, and the new breaker need not know. -/
theorem Renewed.without_of_lt (h : Renewed base n old s f) {place : Nat}
    (hlt : place < old.length) : Renewed base n (old.eraseIdx place) (s.without place) f := by
  refine ⟨h.breaker, ?_, h.transitions, fun l hl => h.past l (List.mem_of_mem_eraseIdx hl)⟩
  show s.live.eraseIdx place = _
  rw [h.live, List.eraseIdx_append_of_lt_length hlt]

/-- Any other permit ends for both. -/
theorem Renewed.without_of_le (h : Renewed base n old s f) {place : Nat}
    (hle : old.length ≤ place) :
    Renewed base n old (s.without place) (f.without (place - old.length)) := by
  refine ⟨h.breaker, ?_, h.transitions, h.past⟩
  show s.live.eraseIdx place = _
  rw [h.live, List.eraseIdx_append_of_length_le hle, List.eraseIdx_map]
  rfl

/-- The outcomes counted do not enter the comparison. -/
theorem renewed_tally (h : Renewed base n old s f) (op op' : Operation) :
    Renewed base n old (s.tally op) (f.tally op') := ⟨h.breaker, h.live, h.transitions, h.past⟩

/-- Both answer a request alike. -/
theorem Renewed.request (h : Renewed base n old s f) :
    s.breaker.request = (f.breaker.request.1.map (·.renumbered (.ofNat base)),
      f.breaker.request.2.renumbered (.ofNat base) n) := by
  rw [h.breaker, request_renumbered]

theorem renewed_acquire (h : Renewed base n old s f) :
    Renewed base n old (s.step .acquire) (f.step .acquire) := by
  have hreq := h.request
  simp only [step, hreq]
  rcases f.breaker.request with ⟨answer, b⟩
  have hnote : Renewed base n old (s.note (b.renumbered (.ofNat base) n) false) (f.note b false) :=
    renewed_note h rfl false
  cases answer with
  | error r => exact hnote
  | ok p =>
    refine ⟨hnote.breaker, ?_, hnote.transitions, h.past⟩
    show (s.note _ false).live ++ [_] = old ++ ((f.note b false).live ++ [_]).map _
    rw [hnote.live, List.map_append, List.append_assoc, hnote.transitions]
    rfl

theorem renewed_tryAcquire (h : Renewed base n old s f) :
    Renewed base n old (s.step .tryAcquire) (f.step .tryAcquire) := by
  have hreq := h.request
  simp only [step, hreq]
  rcases f.breaker.request with ⟨answer, b⟩
  have hnote : Renewed base n old (s.note (b.renumbered (.ofNat base) n) false) (f.note b false) :=
    renewed_note h rfl false
  cases answer with
  | error r => exact hnote
  | ok p => exact ⟨hnote.breaker, hnote.live, hnote.transitions, h.past⟩

/-- The end of a permit of the past changes nothing but the list of permits left. -/
theorem renewed_past (h : Renewed base n old s f) (hb : Booked c s) (hn : s.transitions < 2 ^ 64)
    {place : Nat} (hlt : place < old.length) (o : Outcome) :
    Renewed base n (old.eraseIdx place) (s.step (.finish place o)) f ∧
      Renewed base n (old.eraseIdx place) (s.step (.drop place)) f := by
  have hl := h.getElem?_of_lt hlt
  have hstale := h.stale hb hn (List.getElem_mem hlt)
  have hwithout := h.without_of_lt hlt
  simp only [step, hl, finish_of_stale hstale, release_of_stale hstale]
  have hsame (t : Session) : t.note t.breaker false = t := note_of_same rfl
  have hkept := hsame ((s.tally (.finish place o)).without place)
  have hkept' := hsame (s.without place)
  rw [breaker_without, breaker_tally] at hkept
  rw [breaker_without] at hkept'
  rw [hkept, hkept']
  exact ⟨⟨hwithout.breaker, hwithout.live, hwithout.transitions, hwithout.past⟩, hwithout⟩

/-- The end of any other permit does the same to both. -/
theorem renewed_finish (h : Renewed base n old s f) {place : Nat} (hle : old.length ≤ place)
    (o : Outcome) :
    Renewed base n old (s.step (.finish place o)) (f.step (.finish (place - old.length) o)) := by
  have hl := h.getElem?_of_le hle
  simp only [step, hl]
  cases hf : f.live[place - old.length]? with
  | none => exact h
  | some l =>
    refine renewed_note ((renewed_tally h _ _).without_of_le hle) ?_ false
    rw [h.breaker]
    exact finish_renumbered ..

theorem renewed_drop (h : Renewed base n old s f) {place : Nat} (hle : old.length ≤ place) :
    Renewed base n old (s.step (.drop place)) (f.step (.drop (place - old.length))) := by
  have hl := h.getElem?_of_le hle
  simp only [step, hl]
  cases hf : f.live[place - old.length]? with
  | none => exact h
  | some l =>
    refine renewed_note (h.without_of_le hle) ?_ false
    rw [h.breaker]
    exact release_renumbered ..

/-- What those who come after see of an answer: a rejection, or whether the call is a trial. -/
def seen : Except Rejection Permit → Except Rejection Bool := Except.map (·.trial)

theorem seen_renumbered (e : UInt64) (answer : Except Rejection Permit) :
    seen (answer.map (·.renumbered e)) = seen answer := by
  cases answer <;> rfl

/-- **An operation of those who come after** does the same to both breakers, and is told the
same. -/
theorem renewed_step (h : Renewed base n old s f) {op op' : Operation}
    (hop : op.since old.length = some op') :
    Renewed base n old (s.step op) (f.step op') ∧
      (s.told op).map seen = (f.told op').map seen := by
  have htold : seen s.breaker.request.1 = seen f.breaker.request.1 := by
    rw [h.request]
    exact seen_renumbered ..
  cases op with
  | acquire =>
    obtain rfl := Option.some.inj hop
    exact ⟨renewed_acquire h, congrArg some htold⟩
  | tryAcquire =>
    obtain rfl := Option.some.inj hop
    exact ⟨renewed_tryAcquire h, congrArg some htold⟩
  | finish place o =>
    simp only [Operation.since] at hop
    split at hop
    · cases hop
    · rename_i hle
      obtain rfl := Option.some.inj hop
      exact ⟨renewed_finish h (Nat.le_of_not_lt hle) o, rfl⟩
  | drop place =>
    simp only [Operation.since] at hop
    split at hop
    · cases hop
    · rename_i hle
      obtain rfl := Option.some.inj hop
      exact ⟨renewed_drop h (Nat.le_of_not_lt hle), rfl⟩
  | record o =>
    obtain rfl := Option.some.inj hop
    refine ⟨renewed_note (renewed_tally h _ _) ?_ false, rfl⟩
    rw [h.breaker]
    exact record_renumbered ..
  | reset =>
    obtain rfl := Option.some.inj hop
    refine ⟨renewed_note h ?_ true, rfl⟩
    rw [h.breaker]
    exact enter_renumbered ..
  | advance d =>
    obtain rfl := Option.some.inj hop
    refine ⟨renewed_note h ?_ false, rfl⟩
    rw [h.breaker]
    rfl

/-- Any other operation ends a permit of the past. -/
theorem renewed_step_past (h : Renewed base n old s f) (hb : Booked c s)
    (hn : s.transitions < 2 ^ 64) {op : Operation} (hop : op.since old.length = none) :
    s.told op = none ∧
      ∃ left, left.length = old.length - 1 ∧ Renewed base n left (s.step op) f := by
  cases op with
  | finish place o =>
    simp only [Operation.since] at hop
    split at hop
    · rename_i hlt
      exact ⟨rfl, _, List.length_eraseIdx_of_lt hlt, (renewed_past h hb hn hlt o).1⟩
    · cases hop
  | drop place =>
    simp only [Operation.since] at hop
    split at hop
    · rename_i hlt
      exact ⟨rfl, _, List.length_eraseIdx_of_lt hlt, (renewed_past h hb hn hlt .success).2⟩
    · cases hop
  | acquire => cases hop
  | tryAcquire => cases hop
  | record o => cases hop
  | reset => cases hop
  | advance d => cases hop

/-- **A recovered breaker follows a new one**, whatever happens to the permits of the past. -/
theorem renewed_run (hc : 0 < c.trials) (hb : Booked c s) (h : Renewed base n old s f)
    (ops : List Operation) (hn : (s.run ops).transitions < 2 ^ 64) :
    (∃ left, Renewed base n left (s.run ops) (f.run (since old.length ops))) ∧
      (s.answers ops).map seen = (f.answers (since old.length ops)).map seen := by
  induction ops generalizing s f old with
  | nil => exact ⟨⟨old, h⟩, rfl⟩
  | cons op ops ih =>
    have hb' := booked_step hc hb op
    have hrun : s.run (op :: ops) = (s.step op).run ops := rfl
    rw [hrun] at hn ⊢
    cases hop : op.since old.length with
    | some op' =>
      obtain ⟨hnext, htold⟩ := renewed_step h hop
      obtain ⟨hlater, hanswers⟩ := ih hb' hnext hn
      have hsince : since old.length (op :: ops) = op' :: since old.length ops := by
        simp only [since, hop]
      have htold' := congrArg Option.toList htold
      rw [Option.toList_map, Option.toList_map] at htold'
      rw [hsince]
      refine ⟨hlater, ?_⟩
      simp only [answers, List.map_append, htold', hanswers]
    | none =>
      have hn' : s.transitions < 2 ^ 64 := Nat.lt_of_le_of_lt (transitions_le_run s (op :: ops)) hn
      obtain ⟨htold, left, hleft, hnext⟩ := renewed_step_past h hb hn' hop
      have hsince : since old.length (op :: ops) = since left.length ops := by
        simp only [since, hop, hleft]
      rw [hsince]
      obtain ⟨hlater, hanswers⟩ := ih hb' hnext hn
      refine ⟨hlater, ?_⟩
      simpa only [answers, htold, Option.toList_none, List.nil_append] using hanswers

/-- A breaker that recovers begins as a new one. -/
theorem renewed_of_recovery (hc : 0 < c.trials) (hb : Booked c s) {op : Operation}
    (h : Recovery s op) :
    Renewed (s.step op).transitions (s.step op).breaker.refused (s.step op).live (s.step op)
      (start (s.step op).breaker.name c (s.step op).breaker.clock) := by
  obtain ⟨hclosed, htransitions, hlive⟩ := step_of_recovery h
  have hepoch := (booked_step hc hb op).epoch
  refine ⟨?_, (List.append_nil _).symm, rfl, fun l hl => ?_⟩
  · rw [← hepoch, hclosed]
    have hforgotten := enter_closed s.breaker
    rw [hb.config] at hforgotten
    exact hforgotten
  · rw [htransitions]
    exact Nat.lt_succ_of_le (hb.live l (hlive l hl)).2

/-- **Recovery is complete.** Wherever a run of a breaker with an accepted configuration recovers,
compare it with a new breaker of the same name and configuration whose clock shows the same. All
who come after the recovery are told the same by both, grants and rejections alike, and both report
the same, up to the calls rejected before the recovery; those who still hold permits of the past may
end them whenever they like. -/
theorem recovery_is_complete (hv : c.validate = .ok ()) (name : String) (clock : Instant)
    (before : List Operation) (op : Operation)
    (hr : ((start name c clock).run before).Recovers op) (after : List Operation)
    (hn : ((start name c clock).run (before ++ op :: after)).transitions < 2 ^ 64) :
    let s := ((start name c clock).run before).step op
    let new := start s.breaker.name c s.breaker.clock
    let later := since s.live.length after
    (s.answers after).map seen = (new.answers later).map seen ∧
      (s.run after).breaker.metrics = { (new.run later).breaker.metrics with
        refused := (new.run later).breaker.metrics.refused + s.breaker.refused } := by
  intro s new later
  have hc := (c.validate_ok_iff).mp hv
  have hb : Booked c ((start name c clock).run before) := booked_run hc.2.2.2 name clock before
  have hd : Dated c ((start name c clock).run before) := dated_run hc name clock before
  have hrenewed := renewed_of_recovery hc.2.2.2 hb ((recovers_iff hc hb hd op).mp hr)
  have hrun : (start name c clock).run (before ++ op :: after) = s.run after := by
    simp [run, s, List.foldl_append]
  rw [hrun] at hn
  obtain ⟨⟨left, hlater⟩, hanswers⟩ :=
    renewed_run hc.2.2.2 (booked_step hc.2.2.2 hb op) hrenewed after hn
  refine ⟨hanswers, ?_⟩
  rw [hlater.breaker]
  exact metrics_renumbered ..

/-- One caller is still at work when the circuit opens, somebody is turned down, and five seconds
later a trial closes the circuit. Now a failure opens it again, and the first caller ends. Whoever
asks next has to wait for five seconds, as with a new breaker; only the rejection of the past is
counted with the new one. -/
theorem recovery_of_brittle :
    let before : List Operation :=
      [.acquire, .record .failure, .acquire, .advance (.ofSeconds 5), .acquire]
    let s := ((start "brittle" brittle .zero).run before).step (.finish 1 .success)
    let after : List Operation := [.record .failure, .finish 0 .failure, .acquire]
    brittle.validate = .ok () ∧
      ((start "brittle" brittle .zero).run before).Recovers (.finish 1 .success) ∧
      ((start "brittle" brittle .zero).run
        (before ++ .finish 1 .success :: after)).transitions < 2 ^ 64 ∧
      s.live.length = 1 ∧
      (s.answers after).map seen = [.error ⟨"brittle", .opened, some (.ofSeconds 5)⟩] ∧
      (s.run after).breaker.metrics = ⟨.opened, 0, 0, none, 2⟩ := by
  intro before s after
  have hv : brittle.validate = .ok () := brittle.validate_ok_iff.mpr (by decide +kernel)
  have hr : ((start "brittle" brittle .zero).run before).Recovers (.finish 1 .success) :=
    .inr (by decide +kernel)
  have hn : ((start "brittle" brittle .zero).run
      (before ++ .finish 1 .success :: after)).transitions < 2 ^ 64 := by
    decide +kernel
  obtain ⟨hanswers, hmetrics⟩ :=
    recovery_is_complete hv "brittle" .zero before (.finish 1 .success) hr after hn
  refine ⟨hv, hr, hn, by decide +kernel, hanswers.trans ?_, hmetrics.trans ?_⟩
  · decide +kernel
  · decide +kernel

end Session

end ClusterGuard.Breaker
