import ClusterGuard.Proofs.Guard.Traffic
import ClusterGuard.Stream.Taken

/-!
# What every attempt keeps, every call keeps

A property `P` of the surroundings that no attempt destroys survives the whole call, in whatever
shape it is made and however it is cut into steps: guard and retry themselves do not touch the
surroundings. And where `P` lets attempts come to results of one kind `Q` only, the call comes to no
other result, but for the rejections of its guard.

What a call may still do is judged once, when it is made: a turn does not change the judgement,
whether `P` holds at the time or not.

Results:
* `keeps_run`: a call that is run to its end.
* `Source.Keeps`: sources whose polls and drops keep a property, and the ways to build them up.
* **`keeps_turn`**, `keeps_drop`: a turn of a call of any shape, and the end of one that is dropped.
-/

namespace ClusterGuard

variable {σ τ β ε α : Type} {P : σ → Prop} {Q : Except ε α → Prop}

/-- Whether an act that begins where `P` holds also ends there, with a result of the kind `Q`. -/
def Act.Keeps (P : σ → Prop) (Q : Except ε α → Prop) (act : Act σ ε α) : Prop :=
  ∀ s, P s → Q (act s).1 ∧ P (act s).2

/-- The act with its error replaced. -/
def Act.mapError {ε' : Type} (f : ε → ε') (act : Act σ ε α) : Act σ ε' α :=
  fun s => ((act s).1.mapError f, (act s).2)

/-- Whether a poll has kept what it had to: what is left is as `inv` says, and if a property held
`before`, it does so `after`, and the final value is of the kind `R`. -/
def Progress.Kept (inv : τ → Prop) (R : β → Prop) (before after : Prop) : Progress τ β → Prop
  | pending rest => inv rest ∧ (before → after)
  | ready value => before → R value ∧ after

theorem Progress.Kept.imp {inv : τ → Prop} {R : β → Prop} {before before' after : Prop}
    {progress : Progress τ β} (h : progress.Kept inv R before after) (hb : before' → before) :
    progress.Kept inv R before' after := by
  cases progress with
  | pending rest => exact ⟨h.1, fun hbefore => h.2 (hb hbefore)⟩
  | ready value => exact fun hbefore => h (hb hbefore)

/-! ## Retried work -/

namespace Retry

theorem keeps_pursue (r : Retry ε) {work : Nat → Act σ ε α} {pause : Duration → σ → σ}
    (hw : ∀ n, (work n).Keeps P Q) (hp : ∀ d s, P s → P (pause d s)) (left made : Nat)
    (waited : Duration) {s : σ} (h : P s) :
    Q (r.pursue work pause left made waited s).1.result ∧
      P (r.pursue work pause left made waited s).2 := by
  induction left generalizing made waited s with
  | zero => exact hw made s h
  | succ left ih =>
    have hnext := hw made s h
    unfold pursue
    rcases hr : work made s with ⟨result, s'⟩
    rw [hr] at hnext
    cases result with
    | ok value => exact hnext
    | error e =>
      simp only
      cases r.verdict e (made + 1) with
      | giveUp => exact hnext
      | wait d =>
        refine ih (made + 1) (waited + d) ?_
        split
        · exact hnext.2
        · exact hp d s' hnext.2

namespace Task

/-- Whether all that a task may still do keeps a property. -/
def Keeps (P : σ → Prop) (Q : Except ε α → Prop) (t : Task σ ε α) : Prop :=
  (∀ n, (t.work n).run.Keeps P Q) ∧ ∀ a, t.stage = .attempting a → a.run.Keeps P Q

theorem keeps_advance (r : Retry ε) (now : Instant) {work : Work σ ε α}
    (hw : ∀ n, (work n).run.Keeps P Q) (left made : Nat) (waited : Duration)
    {attempt : Attempt σ ε α} (ha : attempt.run.Keeps P Q) (s : σ) :
    (advance r now work left made waited attempt s).1.Kept (Keeps P Q) (fun e => Q e.result)
      (P s) (P (advance r now work left made waited attempt s).2) := by
  fun_induction advance r now work left made waited attempt s with
  | case1 left made waited attempt s waits hwaits =>
    refine ⟨⟨hw, fun a hstage => ?_⟩, id⟩
    obtain rfl := Stage.attempting.inj hstage
    exact ha
  | case2 left made waited attempt s hwaits value s' hr =>
    have hnext := ha s
    rw [hr] at hnext
    exact hnext
  | case3 made waited attempt s hwaits e s' hr d left hv hzero ih =>
    -- the poll goes on from where the failed attempt left the surroundings
    have hnext := ha s
    rw [hr] at hnext
    exact (ih (hw _)).imp fun h => (hnext h).2
  | case4 made waited attempt s hwaits e s' hr d left hv hd =>
    have hnext := ha s
    rw [hr] at hnext
    exact ⟨⟨hw, fun attempt hstage => by cases hstage⟩, fun h => (hnext h).2⟩
  | case5 left made waited attempt s hwaits e s' hr hno =>
    have hnext := ha s
    rw [hr] at hnext
    exact hnext

theorem keeps_step (r : Retry ε) (now : Instant) {t : Task σ ε α} (ht : t.Keeps P Q) (s : σ) :
    (t.step r now s).1.Kept (Keeps P Q) (fun e => Q e.result) (P s) (P (t.step r now s).2) := by
  obtain ⟨work, attempts, waited, stage⟩ := t
  obtain ⟨hw, ha⟩ := ht
  cases stage with
  | unstarted => exact keeps_advance r now hw _ _ _ (hw 0) s
  | attempting attempt => exact keeps_advance r now hw _ _ _ (ha attempt rfl) s
  | waiting due wait =>
    simp only [step]
    split
    · exact ⟨⟨hw, ha⟩, id⟩
    · exact keeps_advance r now hw _ _ _ (hw attempts) s

end Task

end Retry

/-! ## Sources -/

/-- Whether a signal gives no result but of the kind `Q`. -/
def Signal.Gives (Q : Except ε α → Prop) : Signal ε α → Prop
  | value a => Q (.ok a)
  | failure e => Q (.error e)
  | pending | ended => True

/-- Whether the polls and drops of a source keep a property, for streams that are as `inv` says, and
stay so. -/
structure Source.Keeps (source : Source σ τ ε α) (P : σ → Prop) (Q : Except ε α → Prop)
    (inv : τ → Prop) : Prop where
  poll : ∀ {t}, inv t → ∀ s, inv (source.poll t s).2.1 ∧
    (P s → (source.poll t s).1.Gives Q ∧ P (source.poll t s).2.2)
  drop : ∀ {t}, inv t → ∀ s, P s → P (source.drop t s)

/-- Whether what an item does, if anything, is as `R` says. -/
def Item.All (R : Act σ ε α → Prop) : Item σ ε α → Prop
  | .pause => True
  | .emit run => R run

/-- Whether all that a script does is as `R` says. -/
def Script.All (R : Act σ ε α → Prop) (script : Script σ ε α) : Prop :=
  ∀ item ∈ script, item.All R

theorem Script.All.imp {R R' : Act σ ε α → Prop} {script : Script σ ε α} (h : script.All R)
    (hR : ∀ run, R run → R' run) : script.All R' := by
  intro item hitem
  have hitem := h item hitem
  cases item with
  | pause => trivial
  | emit run => exact hR run hitem

theorem Script.all_mapError {ε' : Type} {f : ε → ε'} {R : Act σ ε' α → Prop}
    {script : Script σ ε α} :
    (script.mapError f).All R ↔ script.All fun run => R (Act.mapError f run) := by
  refine List.forall_mem_map.trans (forall₂_congr fun item _ => ?_)
  cases item <;> exact Iff.rfl

theorem Signal.gives_of {result : Except ε α} (h : Q result) : (Signal.of result).Gives Q := by
  cases result <;> exact h

theorem Script.keeps_source (P : σ → Prop) (Q : Except ε α → Prop) :
    (Script.source σ ε α).Keeps P Q (Script.All (Act.Keeps P Q)) where
  poll := by
    intro script hscript s
    cases script with
    | nil => exact ⟨hscript, fun h => ⟨trivial, h⟩⟩
    | cons item rest =>
      have hrest : Script.All (Act.Keeps P Q) rest :=
        fun i hi => hscript i (List.mem_cons_of_mem item hi)
      have hitem := hscript item (List.mem_cons_self ..)
      cases item with
      | pause => exact ⟨hrest, fun h => ⟨trivial, h⟩⟩
      | emit run => exact ⟨hrest, fun h => ⟨Signal.gives_of (hitem s h).1, (hitem s h).2⟩⟩
  drop _ _ h := h

variable {source : Source σ τ ε α} {inv : τ → Prop}

namespace Retrying

/-- Whether every subscription of a retried stream, present or future, is as `inv` says. -/
def Keeps (inv : τ → Prop) (t : Retrying τ) : Prop :=
  (∀ n, inv (t.subscribe n)) ∧ ∀ inner, t.stage = .streaming inner → inv inner

theorem keeps_follow (hsource : source.Keeps P Q inv) (now : Instant) {subscribe : Nat → τ}
    (hsub : ∀ n, inv (subscribe n)) (left attempts : Nat) {inner : τ} (hinner : inv inner)
    (r : Retry ε) (s : σ) :
    Keeps inv (follow source now subscribe left attempts inner r s).2.1 ∧
      (P s → (follow source now subscribe left attempts inner r s).1.Gives Q ∧
        P (follow source now subscribe left attempts inner r s).2.2.2) := by
  fun_induction follow source now subscribe left attempts inner r s with
  | case1 left attempts t r s t' s' hp =>
    have hnext := hsource.poll hinner s
    rw [hp] at hnext
    refine ⟨⟨hsub, fun inner hstage => ?_⟩, hnext.2⟩
    obtain rfl := Stage.streaming.inj hstage
    exact hnext.1
  | case2 left attempts t r s a t' s' hp =>
    have hnext := hsource.poll hinner s
    rw [hp] at hnext
    refine ⟨⟨hsub, fun inner hstage => ?_⟩, hnext.2⟩
    obtain rfl := Stage.streaming.inj hstage
    exact hnext.1
  | case3 left attempts t r s t' s' hp =>
    have hnext := hsource.poll hinner s
    rw [hp] at hnext
    exact ⟨⟨hsub, fun inner hstage => by cases hstage⟩,
      fun h => ⟨trivial, hsource.drop hnext.1 s' (hnext.2 h).2⟩⟩
  | case4 attempts t r s e t' s' hp d left hv hzero ih =>
    have hnext := hsource.poll hinner s
    rw [hp] at hnext
    obtain ⟨hkept, hgives⟩ := ih (hsub attempts)
    exact ⟨hkept, fun h => hgives (hsource.drop hnext.1 s' (hnext.2 h).2)⟩
  | case5 attempts t r s e t' s' hp d left hv hd =>
    have hnext := hsource.poll hinner s
    rw [hp] at hnext
    exact ⟨⟨hsub, fun inner hstage => by cases hstage⟩,
      fun h => ⟨trivial, hsource.drop hnext.1 s' (hnext.2 h).2⟩⟩
  | case6 left attempts t r s e t' s' hp hno =>
    have hnext := hsource.poll hinner s
    rw [hp] at hnext
    exact ⟨⟨hsub, fun inner hstage => by cases hstage⟩,
      fun h => ⟨(hnext.2 h).1, hsource.drop hnext.1 s' (hnext.2 h).2⟩⟩

theorem keeps_source (hsource : source.Keeps P Q inv) (now : Instant) :
    (Retrying.source source now).Keeps (fun w => P w.2) Q (Keeps inv) where
  poll := by
    rintro ⟨subscribe, attempts, stage⟩ ⟨hsub, hinner⟩ ⟨r, s⟩
    cases stage with
    | unsubscribed => exact keeps_follow hsource now hsub _ _ (hsub attempts) r s
    | streaming inner => exact keeps_follow hsource now hsub _ _ (hinner inner rfl) r s
    | waiting due =>
      simp only [Retrying.source, poll]
      split
      · exact ⟨⟨hsub, hinner⟩, fun h => ⟨trivial, h⟩⟩
      · exact keeps_follow hsource now hsub _ _ (hsub attempts) r s
    | done => exact ⟨⟨hsub, hinner⟩, fun h => ⟨trivial, h⟩⟩
  drop := by
    rintro ⟨subscribe, attempts, stage⟩ ⟨hsub, hinner⟩ ⟨r, s⟩ h
    cases stage with
    | streaming inner => exact hsource.drop (hinner inner rfl) s h
    | unsubscribed => exact h
    | waiting => exact h
    | done => exact h

end Retrying

namespace Gated

theorem keeps_pass (hsource : source.Keeps P Q inv) (p : Breaker.Permit) {t : τ} (ht : inv t)
    (b : Breaker) (s : σ) :
    inv (pass source p t b s).2.1.inner ∧
      (P s → (pass source p t b s).1.Gives Q ∧ P (pass source p t b s).2.2.2) := by
  have hnext := hsource.poll ht s
  unfold pass
  rcases hp : source.poll t s with ⟨signal, t', s'⟩
  rw [hp] at hnext
  cases signal <;> exact hnext

theorem keeps_source (hsource : source.Keeps P Q inv) {refused : Rejection → ε}
    (hq : ∀ rejection, Q (.error (refused rejection))) :
    (Gated.source source refused).Keeps (fun w => P w.2) Q (fun s => inv s.inner) where
  poll := by
    rintro ⟨gate, t⟩ ht ⟨b, s⟩
    cases gate with
    | done => exact ⟨ht, fun h => ⟨trivial, h⟩⟩
    | admitted p => exact keeps_pass hsource p ht b s
    | pending =>
      simp only [Gated.source, poll]
      rcases b.request with ⟨answer, b'⟩
      cases answer with
      | error rejection => exact ⟨ht, fun h => ⟨hq rejection, h⟩⟩
      | ok p => exact keeps_pass hsource p ht b' s
  drop := by
    rintro ⟨gate, t⟩ ht ⟨b, s⟩ h
    cases gate <;> exact hsource.drop ht s h

end Gated

theorem Taken.keeps_source (hsource : source.Keeps P Q inv) :
    (Taken.source source).Keeps P Q (fun s => inv s.inner) where
  poll := by
    rintro ⟨left, t⟩ ht s
    cases left with
    | zero => exact ⟨ht, fun h => ⟨trivial, h⟩⟩
    | succ left =>
      have hnext := hsource.poll ht s
      simp only [Taken.source, poll]
      rcases hp : source.poll t s with ⟨signal, t', s'⟩
      rw [hp] at hnext
      cases signal <;> exact hnext
  drop ht s h := hsource.drop ht s h

/-- A stream that is run to its end keeps what its polls keep. -/
theorem keeps_drain [Timed τ] {source : Instant → Source σ τ ε α}
    (hsource : ∀ now, (source now).Keeps P Q inv) (polls : Nat) (now : Instant) {t : τ}
    (ht : inv t) {s : σ} (h : P s) :
    (∀ result ∈ (drain source polls now t s).1, Q result) ∧
      inv (drain source polls now t s).2.2.1 ∧ P (drain source polls now t s).2.2.2 := by
  induction polls generalizing now t s with
  | zero => exact ⟨nofun, ht, h⟩
  | succ polls ih =>
    have hnext := (hsource now).poll ht s
    unfold drain
    rcases hp : (source now).poll t s with ⟨signal, t', s'⟩
    rw [hp] at hnext
    obtain ⟨hgives, h'⟩ := hnext.2 h
    cases signal with
    | ended => exact ⟨nofun, hnext.1, h'⟩
    | pending => exact ih _ hnext.1 h'
    | value a =>
      obtain ⟨hall, hrest⟩ := ih now hnext.1 h'
      exact ⟨List.forall_mem_cons.mpr ⟨hgives, hall⟩, hrest⟩
    | failure e =>
      obtain ⟨hall, hrest⟩ := ih now hnext.1 h'
      exact ⟨List.forall_mem_cons.mpr ⟨hgives, hall⟩, hrest⟩

/-! ## Guarded calls -/

namespace Guard

variable {Q : Except Fault α → Prop}

/-- A call that is run to its end keeps what its attempts keep. -/
theorem keeps_run (hq : ∀ rejection, Q (.error (.circuitOpen rejection))) (g : Guard)
    {work : Nat → Act σ Cause α} {pause : Duration → σ → σ}
    (hw : ∀ n, Act.Keeps P Q (reported work n)) (hp : ∀ d s, P s → P (pause d s)) {s : σ}
    (h : P s) : Q (g.run work pause s).1.result ∧ P (g.run work pause s).2.2 := by
  unfold Guard.run
  rcases g.breaker.request with ⟨answer, b⟩
  cases answer with
  | error rejection => exact ⟨hq rejection, h⟩
  | ok p => exact g.retry.keeps_pursue hw hp (g.retry.left 0) 0 .zero h

namespace Call

/-- Whether all that a held call may still do keeps a property. -/
def Keeps (P : σ → Prop) (Q : Except Fault α → Prop) : Call σ α → Prop
  | unstarted work => ∀ n, ((work n).mapError Fault.ofCause).run.Keeps P Q
  | admitted _ task => task.Keeps P Q

theorem keeps_proceed (p : Breaker.Permit) {task : Retry.Task σ Fault α} (ht : task.Keeps P Q)
    (g : Guard) (now : Instant) (s : σ) :
    (proceed p task g now s).1.Kept (Keeps P Q) (fun answer => Q answer.result) (P s)
      (P (proceed p task g now s).2.2) := by
  have hkept := Retry.Task.keeps_step g.retry now ht s
  rcases hstep : task.step g.retry now s with ⟨progress, s'⟩
  rw [hstep] at hkept
  simp only [proceed, Retry.Task.poll, hstep]
  cases progress with
  | pending task' => exact hkept
  | ready ending => exact hkept

theorem keeps_poll (hq : ∀ rejection, Q (.error (.circuitOpen rejection))) {call : Call σ α}
    (hc : call.Keeps P Q) (g : Guard) (now : Instant) (s : σ) :
    (call.poll g now s).1.Kept (Keeps P Q) (fun answer => Q answer.result) (P s)
      (P (call.poll g now s).2.2) := by
  cases call with
  | admitted p task => exact keeps_proceed p hc g now s
  | unstarted work =>
    simp only [poll]
    rcases g.breaker.request with ⟨answer, b⟩
    cases answer with
    | error rejection => exact fun h => ⟨hq rejection, h⟩
    | ok p =>
      have hstart : (Retry.Task.start fun n => (work n).mapError Fault.ofCause).Keeps P Q :=
        ⟨hc, nofun⟩
      exact keeps_proceed p hstart _ now s

end Call

namespace Blocking

/-- Whether all that a blocking call may still do keeps a property. -/
def Keeps (P : σ → Prop) (Q : Except Fault α → Prop) (call : Blocking σ α) : Prop :=
  (∀ n, Act.Keeps P Q (reported call.work n)) ∧ ∀ d s, P s → P (call.pause d s)

/-- Whether the result that a call is about to return, if it has one, is of the kind `Q`. -/
def Holds (Q : Except Fault α → Prop) (call : Blocking σ α) : Prop :=
  match call.stage with
  | .returning _ ending | .counted _ ending => Q ending.result
  | .unstarted | .working .. => True

theorem keeps_next {call : Blocking σ α} (hc : call.Keeps P Q) (g : Guard) (p : Breaker.Permit)
    (made : Nat) (waited : Duration) (result : Except Fault α) (s : σ) :
    (call.next g p made waited result s).1.Keeps P Q ∧
      (Q result → P s → (call.next g p made waited result s).1.Holds Q ∧
        P (call.next g p made waited result s).2) := by
  cases result with
  | ok value => exact ⟨hc, fun hresult h => ⟨hresult, h⟩⟩
  | error e =>
    simp only [next]
    split
    · rename_i d _ _ _
      refine ⟨hc, fun _ h => ⟨trivial, ?_⟩⟩
      simp only
      split
      · exact h
      · exact hc.2 d s h
    · exact ⟨hc, fun hresult h => ⟨hresult, h⟩⟩

/-- A step leaves a call as it should be, and one that returns has the right result. -/
theorem keeps_step (hq : ∀ rejection, Q (.error (.circuitOpen rejection))) {call : Blocking σ α}
    (hc : call.Keeps P Q) (g : Guard) (s : σ) :
    match call.step g s with
    | (.pending call', _, s') =>
      call'.Keeps P Q ∧ (P s → call.Holds Q → call'.Holds Q ∧ P s')
    | (.ready answer, _, s') => P s → call.Holds Q → Q answer.result ∧ P s' := by
  obtain ⟨work, pause, stage⟩ := call
  cases stage with
  | unstarted =>
    simp only [step]
    rcases g.breaker.request with ⟨answer, b⟩
    cases answer with
    | error rejection => exact fun h _ => ⟨hq rejection, h⟩
    | ok p => exact ⟨hc, fun h _ => ⟨trivial, h⟩⟩
  | working p made waited =>
    -- the only step that runs an attempt
    obtain ⟨hkeeps, hholds⟩ :=
      keeps_next hc g p made waited (reported work made s).1 (reported work made s).2
    refine ⟨hkeeps, fun h _ => ?_⟩
    obtain ⟨hresult, h'⟩ := hc.1 made s h
    exact hholds hresult h'
  | returning p ending => exact ⟨hc, fun h hresult => ⟨hresult, h⟩⟩
  | counted p ending => exact fun h hresult => ⟨hresult, h⟩

end Blocking

theorem keeps_sourceOf (hq : ∀ rejection, Q (.error (.circuitOpen rejection)))
    {source : Source σ τ Fault α} (hsource : source.Keeps P Q inv) (now : Instant) :
    (sourceOf source now).Keeps (fun w => P w.2) Q (fun s => Retrying.Keeps inv s.inner) where
  poll ht world :=
    (Gated.keeps_source (Retrying.keeps_source hsource now) hq).poll ht
      (world.1.breaker, world.1.retry, world.2)
  drop ht world h :=
    (Gated.keeps_source (Retrying.keeps_source hsource now) hq).drop ht
      (world.1.breaker, world.1.retry, world.2) h

namespace Handle

/-- Whether all that a call may still do keeps a property. -/
def Keeps (P : σ → Prop) (Q : Except Fault α → Prop) (inv : τ → Prop) : Handle σ τ α → Prop
  | .blocking call => call.Keeps P Q
  | .future call => call.Keeps P Q
  | .stream call => Retrying.Keeps inv call.inner
  | .finished | .dropped => True

/-- Whether the result that a call is about to return, if it has one, is of the kind `Q`. -/
def Holds (Q : Except Fault α → Prop) : Handle σ τ α → Prop
  | .blocking call => call.Holds Q
  | _ => True

theorem holds_of_forall (h : ∀ result, Q result) (handle : Handle σ τ α) : handle.Holds Q := by
  cases handle with
  | blocking call =>
    obtain ⟨work, pause, stage⟩ := call
    cases stage with
    | returning p ending => exact h ending.result
    | counted p ending => exact h ending.result
    | unstarted => trivial
    | working => trivial
  | _ => trivial

end Handle

/-- Whether a call has kept what it had to when it had its turn. -/
def Turn.Kept (P : σ → Prop) (Q : Except Fault α → Prop) (inv : τ → Prop) (handle : Handle σ τ α)
    (s : σ) (turn : Turn σ τ α) : Prop :=
  turn.handle.Keeps P Q inv ∧
    (P s → handle.Holds Q →
      (∀ result ∈ turn.result, Q result) ∧ turn.handle.Holds Q ∧ P turn.scene)

variable {handle : Handle σ τ α} {turn : Turn σ τ α} {source : Source σ τ Fault α}

/-- **A turn of a call keeps** what its attempts and subscriptions keep. -/
theorem keeps_turn (hq : ∀ rejection, Q (.error (.circuitOpen rejection)))
    (hsource : source.Keeps P Q inv) (hc : handle.Keeps P Q inv) {g : Guard} {now : Instant} {s : σ}
    (ht : handle.turn? source g now s = some turn) : turn.Kept P Q inv handle s := by
  cases handle with
  | blocking call =>
    obtain rfl := Option.some.inj ht
    have hkept := Blocking.keeps_step hq hc g s
    unfold Blocking.turn
    rcases hstep : call.step g s with ⟨progress, g', s'⟩
    rw [hstep] at hkept
    cases progress with
    | pending call' => exact ⟨hkept.1, fun h hholds => ⟨nofun, hkept.2 h hholds⟩⟩
    | ready answer =>
      refine ⟨trivial, fun h hholds => ?_⟩
      obtain ⟨hresult, h'⟩ := hkept h hholds
      exact ⟨fun result hr => Option.some.inj hr ▸ hresult, trivial, h'⟩
  | future call =>
    obtain rfl := Option.some.inj ht
    have hkept := Call.keeps_poll hq hc g now s
    unfold Call.turn
    rcases hpoll : call.poll g now s with ⟨progress, g', s'⟩
    rw [hpoll] at hkept
    cases progress with
    | pending call' => exact ⟨hkept.1, fun h _ => ⟨nofun, trivial, hkept.2 h⟩⟩
    | ready answer =>
      refine ⟨trivial, fun h _ => ?_⟩
      obtain ⟨hresult, h'⟩ := hkept h
      exact ⟨fun result hr => Option.some.inj hr ▸ hresult, trivial, h'⟩
  | stream call =>
    obtain rfl := Option.some.inj ht
    obtain ⟨hkept, hgives⟩ := (keeps_sourceOf hq hsource now).poll (t := call) hc (g, s)
    unfold Stream.turn
    rcases hpoll : (sourceOf source now).poll call (g, s) with ⟨signal, call', g', s'⟩
    rw [hpoll] at hkept hgives
    refine ⟨by cases signal <;> exact hkept, fun h _ => ?_⟩
    obtain ⟨hresult, h'⟩ := hgives h
    cases signal with
    | pending => exact ⟨nofun, trivial, h'⟩
    | ended => exact ⟨nofun, trivial, h'⟩
    | value a => exact ⟨fun result hr => Option.some.inj hr ▸ hresult, trivial, h'⟩
    | failure e => exact ⟨fun result hr => Option.some.inj hr ▸ hresult, trivial, h'⟩
  | finished => cases ht
  | dropped => cases ht

/-- **So does dropping a call**, which delivers nothing. -/
theorem keeps_drop (hq : ∀ rejection, Q (.error (.circuitOpen rejection)))
    (hsource : source.Keeps P Q inv) (hc : handle.Keeps P Q inv) {g : Guard} {now : Instant} {s : σ}
    (ht : handle.drop? source g now s = some turn) : turn.Kept P Q inv handle s := by
  cases handle with
  | blocking call =>
    obtain ⟨work, pause, stage⟩ := call
    cases stage with
    | unstarted =>
      obtain rfl := Option.some.inj ht
      exact ⟨trivial, fun h _ => ⟨nofun, trivial, h⟩⟩
    | working =>
      obtain rfl := Option.some.inj ht
      exact ⟨trivial, fun h _ => ⟨nofun, trivial, h⟩⟩
    | returning => cases ht
    | counted => cases ht
  | future call =>
    obtain rfl := Option.some.inj ht
    exact ⟨trivial, fun h _ => ⟨nofun, trivial, h⟩⟩
  | stream call =>
    have hkept := (keeps_sourceOf hq hsource now).drop (t := call) hc (g, s)
    obtain ⟨gate, t⟩ := call
    cases gate with
    | pending =>
      obtain rfl := Option.some.inj ht
      exact ⟨trivial, fun h _ => ⟨nofun, trivial, hkept h⟩⟩
    | admitted p =>
      obtain rfl := Option.some.inj ht
      exact ⟨trivial, fun h _ => ⟨nofun, trivial, hkept h⟩⟩
    | done =>
      obtain rfl := Option.some.inj ht
      exact ⟨trivial, fun h _ => ⟨nofun, trivial, hkept h⟩⟩
  | finished => cases ht
  | dropped => cases ht

end Guard

end ClusterGuard
