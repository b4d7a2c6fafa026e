import ClusterGuard.Proofs.Guard.Keeping
import ClusterGuard.Proofs.PubSub.Session

/-!
# The scheduler and one listener

The dispatch context of a connection polls the listeners in turns. As long as the others are civil,
whatever it does is a run of the session of one of them: it polls this listener, or does something
else that leaves it alone.

Results:
* `civil_events`, `civil_topology`: listeners that are civil.
* **`exists_turn`**, **`exists_step`**, `exists_settle`: what the scheduler does is a run.
* `rest_of_step?`: where the scheduler has come to rest, nobody is due and nobody waits.
-/

namespace ClusterGuard.PubSub

open Memory (Hub)

variable {ω : Type} {n : Nat}

/-! ## Civil listeners -/

/-- Whether a listener, however often it is polled, leaves the stream and the diary of another one
alone, and lets the context run: it belongs to listeners that do so and stay among themselves. -/
def Listener.Civil (n : Nat) (l : Listener (Diary ω)) : Prop :=
  ∃ C : Listener (Diary ω) → Prop, C l ∧ ∀ l, C l → l.feed ≠ n ∧
    ∀ now (desk : Desk (World (Diary ω))), desk.world.Keeps n (l.poll now desk).2.world ∧
      (l.poll now desk).2 = { desk with world := (l.poll now desk).2.world } ∧
      ∀ l', (l.poll now desk).1 = some l' → C l'

theorem Listener.Civil.feed_ne {l : Listener (Diary ω)} (h : l.Civil n) : l.feed ≠ n := by
  obtain ⟨C, hl, hC⟩ := h
  exact (hC l hl).1

theorem Listener.Civil.poll {l : Listener (Diary ω)} (h : l.Civil n) (now : Instant)
    (desk : Desk (World (Diary ω))) :
    desk.world.Keeps n (l.poll now desk).2.world ∧
      (l.poll now desk).2 = { desk with world := (l.poll now desk).2.world } ∧
      ∀ l', (l.poll now desk).1 = some l' → l'.Civil n := by
  obtain ⟨C, hl, hC⟩ := h
  obtain ⟨hkeeps, hdesk, hleft⟩ := (hC l hl).2 now desk
  exact ⟨hkeeps, hdesk, fun l' hl' => ⟨C, hleft l' hl', hC⟩⟩

/-- Reading one stream leaves the others alone. -/
theorem World.Keeps.takeAll {m : Nat} (hm : m ≠ n) (w : World (Diary ω)) :
    w.Keeps n (w.withHub (w.hub.takeAll m).2) := by
  have hop : Hub.Op.read m ≠ .read n ∧ Hub.Op.read m ≠ .drop n :=
    ⟨fun h => hm (Hub.Op.read.inj h), nofun⟩
  exact ⟨⟨.act hop w.hub, rfl⟩, rfl, rfl⟩

/-- What a listener leaves over reads the same stream. -/
theorem Listener.eq_of_remains {l l' : Listener (Diary ω)} {w : World (Diary ω)}
    (h : l.remains w = some l') : l' = l := by
  unfold Listener.remains at h
  split at h
  · cases h
  · exact (Option.some.inj h).symm

/-- An event listener is civil if what it does with the events is. -/
theorem civil_events {feed : Nat} (hfeed : feed ≠ n)
    {listen : Event → Desk (World (Diary ω)) → Desk (World (Diary ω))}
    (hworld : ∀ e (desk : Desk (World (Diary ω))), desk.world.Keeps n (listen e desk).world)
    (hdesk : ∀ e (desk : Desk (World (Diary ω))),
      listen e desk = { desk with world := (listen e desk).world }) :
    (Listener.events feed listen).Civil n := by
  refine ⟨(· = .events feed listen), rfl, ?_⟩
  rintro l rfl
  refine ⟨hfeed, fun now desk => ?_⟩
  have hfold (news : List Event) (desk : Desk (World (Diary ω))) :
      desk.world.Keeps n (news.foldl (fun desk e => listen e desk) desk).world ∧
        news.foldl (fun desk e => listen e desk) desk
          = { desk with world := (news.foldl (fun desk e => listen e desk) desk).world } := by
    induction news generalizing desk with
    | nil => exact ⟨.refl .., rfl⟩
    | cons e news ih =>
      obtain ⟨hkeeps, hsame⟩ := ih (listen e desk)
      refine ⟨(hworld e desk).trans hkeeps, ?_⟩
      rw [List.foldl_cons, hsame, hdesk e desk]
  obtain ⟨hkeeps, hsame⟩ := hfold (desk.world.hub.takeAll feed).1
    { desk with world := desk.world.withHub (desk.world.hub.takeAll feed).2 }
  exact ⟨(World.Keeps.takeAll hfeed desk.world).trans hkeeps, hsame,
    fun l' hl' => Listener.eq_of_remains hl'⟩

section Watch

open ClusterGuard.PubSub.Watch

/-- Whether a handler leaves a stream and a diary alone. -/
def Handler.Keeps (n : Nat) (handler : Handler (Diary ω)) : Prop :=
  ∀ k (s : Surroundings (Diary ω)), s.Keeps n (handler k s).2

/-- Whether all that a watch may still do does so. -/
structure Watch.Keeps (n : Nat) (handler : Handler (Diary ω)) (v : Watch (Diary ω)) : Prop where
  same : v.handler = handler
  current : ∀ t, v.current = some t → ∀ x : Surroundings (Diary ω),
    t.Keeps (x.Keeps n) (fun _ => True)

variable {handler : Handler (Diary ω)} {now : Instant}
  {t : Retry.Task (Surroundings (Diary ω)) Fault Unit} {inbox : List Event}

theorem keeps_start (hh : handler.Keeps n) (calls : Nat) (x : Surroundings (Diary ω)) :
    (Retry.Task.start (work handler calls)).Keeps (x.Keeps n) (fun _ => True) :=
  ⟨fun k s hs => ⟨trivial, hs.trans (hh (calls + k) s)⟩, nofun⟩

theorem keeps_attend {w : World (Diary ω)}
    (ht : ∀ x : Surroundings (Diary ω), t.Keeps (x.Keeps n) (fun _ => True))
    (ih : ∀ calls (w : World (Diary ω)), w.Keeps n (proceed now handler inbox calls w).2 ∧
      (proceed now handler inbox calls w).1.Keeps n handler) (calls : Nat) :
    w.Keeps n (attend now handler inbox calls t w).2 ∧
      (attend now handler inbox calls t w).1.Keeps n handler := by
  have hstep := fun x => Retry.Task.keeps_step w.topology now (ht x) w.surroundings
  unfold attend Retry.Task.poll
  generalize t.step w.topology now w.surroundings = reached at hstep
  obtain ⟨t' | ending, s⟩ := reached
  · exact ⟨⟨(hstep w.surroundings).2 (.refl ..), rfl, rfl⟩, rfl,
      fun t hv => Option.some.inj hv ▸ fun x => (hstep x).1⟩
  · have hcounted : w.Keeps n ⟨s, w.topology.count (Retry.succeeded ending.result) ending.attempts⟩ :=
      ⟨(hstep w.surroundings (.refl ..)).2, rfl, rfl⟩
    obtain ⟨hkeeps, hv⟩ := ih (calls + ending.attempts)
      ⟨s, w.topology.count (Retry.succeeded ending.result) ending.attempts⟩
    exact ⟨hcounted.trans hkeeps, hv⟩

theorem keeps_proceed (hh : handler.Keeps n) (now : Instant) (inbox : List Event)
    (calls : Nat) (w : World (Diary ω)) :
    w.Keeps n (proceed now handler inbox calls w).2 ∧
      (proceed now handler inbox calls w).1.Keeps n handler := by
  induction inbox generalizing calls w with
  | nil => exact ⟨.refl .., rfl, nofun⟩
  | cons e inbox ih =>
    cases he : e.isTopologyChange with
    | true =>
      rw [proceed_of_change he]
      exact keeps_attend (keeps_start hh calls) ih calls
    | false =>
      simp only [proceed, he, Bool.false_eq_true, if_false]
      exact ih calls w

theorem keeps_poll (hh : handler.Keeps n) (now : Instant) {v : Watch (Diary ω)}
    (hv : v.Keeps n handler) (w : World (Diary ω)) :
    w.Keeps n (v.poll now w).2 ∧ (v.poll now w).1.Keeps n handler := by
  cases hcurrent : v.current with
  | none =>
    simp only [poll, hcurrent, hv.same]
    exact keeps_proceed hh now ..
  | some t =>
    rw [poll_of_current hcurrent, hv.same]
    exact keeps_attend (hv.current t hcurrent) (keeps_proceed hh now v.inbox) v.calls

/-- **A topology listener is civil** if its handler is. -/
theorem civil_topology {feed : Nat} (hfeed : feed ≠ n) (hh : handler.Keeps n) :
    (Listener.topology feed { handler }).Civil n := by
  refine ⟨fun l => ∃ v, l = .topology feed v ∧ v.Keeps n handler, ⟨_, rfl, rfl, nofun⟩, ?_⟩
  rintro l ⟨v, rfl, hv⟩
  refine ⟨hfeed, fun now desk => ?_⟩
  have hread : { v with inbox := v.inbox ++ desk.world.hub.held feed }.Keeps n handler :=
    ⟨hv.same, hv.current⟩
  obtain ⟨hkeeps, hv'⟩ := keeps_poll hh now hread
    (desk.world.withHub (desk.world.hub.takeAll feed).2)
  exact ⟨(World.Keeps.takeAll hfeed desk.world).trans hkeeps, rfl,
    fun l' hl' => ⟨_, Listener.eq_of_remains hl', hv'⟩⟩

end Watch

/-! ## Turns -/

/-- Whether a listener is one that was registered to hear of changes of the topology on stream `n`,
or a civil one. -/
def Listener.Fits (n : Nat) (l : Listener (Diary ω)) : Prop := (∃ v, l = .topology n v) ∨ l.Civil n

namespace Session

/-- Whether a session is that of a connection with this context and these surroundings. -/
structure At (c : Connection (Diary ω)) (d : Dispatch (Listener (Diary ω))) (w : World (Diary ω))
    (s : Session ω) : Prop where
  connection : s.connection = { c with hub := w.hub, dispatch := d }
  world : s.world = w

variable {s : Session ω} {c : Connection (Diary ω)} {d : Dispatch (Listener (Diary ω))}
  {w w' : World (Diary ω)} {l : Listener (Diary ω)} {before after ts : List (Listener (Diary ω))}

/-- The session after something that left the listener alone. -/
def moved (c : Connection (Diary ω)) (d : Dispatch (Listener (Diary ω))) (w : World (Diary ω))
    (s : Session ω) : Session ω :=
  { s with connection := (c.afterwards d w).1, shared := (c.afterwards d w).2 }

theorem at_moved (c : Connection (Diary ω)) (d : Dispatch (Listener (Diary ω)))
    (w : World (Diary ω)) (s : Session ω) : (s.moved c d w).At c d w := ⟨rfl, rfl⟩

/-- The scheduler leaves a listener alone when it does something to others. -/
theorem At.step {d' : Dispatch (Listener (Diary ω))} (hat : s.At c d w) (hkeeps : w.Keeps n w')
    (htasks : d'.tasks.filter (·.feed == n) = d.tasks.filter (·.feed == n)) :
    Step n s (s.moved c d' w') := by
  refine .other ?_ ?_
  · rw [hat.world]
    exact hkeeps
  · rw [hat.connection]
    exact htasks

/-- The poll of one listener is a step. -/
theorem exists_poll (hat : s.At c { d with tasks := before ++ l :: after } w) (hl : l.Fits n) :
    ∃ left w' s', l.poll d.now ⟨d.name, d.accepting, w⟩ = (left, ⟨d.name, d.accepting, w'⟩) ∧
      (∀ l', left = some l' → l'.Fits n) ∧ Step n s s' ∧
      s'.At c { d with tasks := before ++ (left.toList ++ after) } w' := by
  rcases hl with ⟨v, rfl⟩ | hl
  · have hpoll := poll_topology n v s
    rw [hat.connection, hat.world] at hpoll
    refine ⟨_, _, s.polled n before (.topology n v) after, hpoll,
      fun l' hl' => .inl ⟨_, Listener.eq_of_remains hl'⟩, .poll ?_ rfl, ?_, ?_⟩
    · rw [hat.connection]
    · rw [polled_topology, hat.connection]
    · rfl
  · obtain ⟨hkeeps, hdesk, hleft⟩ := hl.poll d.now ⟨d.name, d.accepting, w⟩
    generalize l.poll d.now ⟨d.name, d.accepting, w⟩ = polled at hkeeps hdesk hleft ⊢
    obtain ⟨left, context, accepting, w'⟩ := polled
    obtain ⟨rfl, rfl⟩ : context = d.name ∧ accepting = d.accepting := by simpa using hdesk
    refine ⟨left, w', _, rfl, fun l' hl' => .inr (hleft l' hl'), hat.step hkeeps ?_, at_moved ..⟩
    have hnot : left.toList.filter (·.feed == n) = [] := by
      cases left with
      | none => rfl
      | some l' => simpa using (hleft l' rfl).feed_ne
    simp [hnot, hl.feed_ne]

/-- **A turn** is a run. -/
theorem exists_turn (hat : s.At c { d with tasks := before ++ ts } w) (hts : ∀ l ∈ ts, l.Fits n) :
    ∃ ts' w' s', Dispatch.turn (Listener.conduct (Diary ω)) d.now ts ⟨d.name, d.accepting, w⟩
        = (ts', ⟨d.name, d.accepting, w'⟩) ∧
      (∀ l ∈ ts', l.Fits n) ∧ Relation.ReflTransGen (Step n) s s' ∧
      s'.At c { d with tasks := before ++ ts' } w' := by
  induction ts generalizing before w s with
  | nil => exact ⟨[], w, s, rfl, nofun, .refl, hat⟩
  | cons l ts ih =>
    have hl := hts l List.mem_cons_self
    have hts' : ∀ l ∈ ts, l.Fits n := fun l' hl' => hts l' (List.mem_cons_of_mem _ hl')
    unfold Dispatch.turn
    split
    · obtain ⟨left, w', s', hpoll, hleft, hstep, hat'⟩ := exists_poll hat hl
      rw [← List.append_assoc] at hat'
      obtain ⟨ts', w'', s'', hturn, hfits, hrun, hat''⟩ := ih hat' hts'
      refine ⟨left.toList ++ ts', w'', s'', ?_, ?_, .head hstep hrun, ?_⟩
      · have hpoll' : (Listener.conduct (Diary ω)).poll d.now l ⟨d.name, d.accepting, w⟩ = _ := hpoll
        simp only [hpoll', hturn]
      · intro l' hl'
        rcases List.mem_append.mp hl' with hl' | hl'
        · exact hleft l' (Option.mem_toList.mp hl')
        · exact hfits l' hl'
      · rwa [← List.append_assoc]
    · have hat' : s.At c { d with tasks := before ++ [l] ++ ts } w := by simpa using hat
      obtain ⟨ts', w', s', hturn, hfits, hrun, hat''⟩ := ih hat' hts'
      refine ⟨l :: ts', w', s', by rw [hturn], ?_, hrun, by simpa using hat''⟩
      intro l' hl'
      rcases List.mem_cons.mp hl' with rfl | hl'
      · exact hl
      · exact hfits l' hl'

/-- **Every step of the scheduler** is a run, as long as the context takes tasks. -/
theorem exists_step {d' : Dispatch (Listener (Diary ω))} (hat : s.At c d w)
    (haccepting : d.accepting = true) (htasks : ∀ l ∈ d.tasks, l.Fits n)
    (hstep : d.step? (Listener.conduct (Diary ω)) w = some (d', w')) :
    d'.accepting = true ∧ (∀ l ∈ d'.tasks, l.Fits n) ∧
      ∃ s', Relation.ReflTransGen (Step n) s s' ∧ s'.At c d' w' := by
  unfold Dispatch.step? at hstep
  split at hstep
  · have hall : s.At c { d with tasks := [] ++ d.tasks } w := hat
    obtain ⟨ts', w'', s', hturn, hfits, hrun, hat'⟩ := exists_turn hall htasks
    rw [hturn] at hstep
    obtain ⟨rfl, rfl⟩ := Prod.mk.inj (Option.some.inj hstep)
    exact ⟨haccepting, hfits, s', hrun, hat'⟩
  · split at hstep
    · cases hstep
    · obtain ⟨now, -, hmoved⟩ := Option.map_eq_some_iff.mp hstep
      obtain ⟨rfl, rfl⟩ := Prod.mk.inj hmoved
      exact ⟨haccepting, htasks, s.moved c { d with now } w,
        .single (hat.step (.refl n w) rfl), at_moved ..⟩

/-- **Any number of steps of the scheduler** is a run. -/
theorem exists_settle (steps : Nat) (hat : s.At c d w) (haccepting : d.accepting = true)
    (htasks : ∀ l ∈ d.tasks, l.Fits n) :
    ∃ s' d' w', Dispatch.settle (Listener.conduct (Diary ω)) steps d w = (d', w') ∧
      d'.accepting = true ∧ (∀ l ∈ d'.tasks, l.Fits n) ∧
      Relation.ReflTransGen (Step n) s s' ∧ s'.At c d' w' := by
  induction steps generalizing s d w with
  | zero => exact ⟨s, d, w, rfl, haccepting, htasks, .refl, hat⟩
  | succ steps ih =>
    unfold Dispatch.settle
    split
    · exact ⟨s, d, w, rfl, haccepting, htasks, .refl, hat⟩
    · rename_i d' w' hstep
      obtain ⟨haccepting', htasks', s', hrun, hat'⟩ := exists_step hat haccepting htasks hstep
      obtain ⟨s'', d'', w'', hsettle, haccepting'', htasks'', hrun', hat''⟩ :=
        ih hat' haccepting' htasks'
      exact ⟨s'', d'', w'', hsettle, haccepting'', htasks'', hrun.trans hrun', hat''⟩

end Session

/-! ## Rest -/

section Rest

variable {σ τ : Type} {c : Dispatch.Conduct σ τ} {d : Dispatch τ} {world : σ}

/-- Where no timer is next, nobody waits. -/
theorem wakesAt?_of_nextTimer (h : d.nextTimer c = none) : ∀ t ∈ d.tasks, c.wakesAt? t = none := by
  have hsome (next : Option Instant → Instant → Option Instant)
      (hnext : ∀ best t, ∃ best', next (some best) t = some best') (timers : List Instant)
      (best : Instant) : timers.foldl next (some best) ≠ none := by
    induction timers generalizing best with
    | nil => exact Option.some_ne_none best
    | cons t timers ih =>
      obtain ⟨best', hbest⟩ := hnext best t
      rw [List.foldl_cons, hbest]
      exact ih best'
  unfold Dispatch.nextTimer at h
  cases htimers : d.tasks.filterMap c.wakesAt? with
  | nil => exact List.filterMap_eq_nil_iff.mp htimers
  | cons t timers =>
    rw [htimers] at h
    exact (hsome _ (fun _ _ => ⟨_, rfl⟩) timers t h).elim

/-- Where there is no step, no task is due and none waits. -/
theorem rest_of_step? (haccepting : d.accepting = true) (h : d.step? c world = none) :
    ∀ t ∈ d.tasks, c.due d.now t world = false ∧ c.wakesAt? t = none := by
  intro t ht
  have hne : d.tasks.isEmpty = false := by
    rw [List.isEmpty_eq_false_iff]
    exact List.ne_nil_of_mem ht
  unfold Dispatch.step? at h
  split at h
  · cases h
  · rename_i hdue
    simp only [hne, haccepting, Bool.false_eq_true, if_false, Option.map_eq_none_iff] at h
    refine ⟨?_, wakesAt?_of_nextTimer h t ht⟩
    simp only [Dispatch.isDue, List.any_eq_true, not_exists, not_and, Bool.not_eq_true] at hdue
    exact hdue t ht

end Rest

end ClusterGuard.PubSub
