import ClusterGuard.Proofs.Client.Lifecycle
import ClusterGuard.Proofs.PubSub.Turns

/-!
# Every change of the topology is handled, once

A handler is registered for the changes of the topology. From then on anything may happen: the
driver reports events of all kinds, listeners come and go, commands are run under the guard, other
connections handle changes under the same retry, and time passes. The handler fails as often as its
script says, in which no run of failures is as long as the attempts that count as unbounded.

Results:
* `numbered_create`, `Readied.numbered`: the numbers of streams to come are free.
* `Serves`, `Goes`, `Attended`: what can be seen of a handler at any time.
* `Inv.serves`, `Inv.goes`, `Inv.exists_settle`, `Inv.idle`: that it is so.
* **`topology_changes_are_handled_once`**: every change gets exactly one successful call, in order.
* `attended_of_create`: so does every change that a client is told of which construction returns.
-/

namespace ClusterGuard

namespace PubSub

open Memory (Hub)
open Retry (succeeded)

variable {ω : Type}

/-! ## Registration -/

/-- Whether the numbers of the streams to come are free. -/
structure Connection.Numbered (c : Connection ω) : Prop where
  hub : c.hub.Numbered
  tasks : ∀ l ∈ c.dispatch.tasks, l.feed < c.hub.opened

theorem numbered_create {hub : Hub} (h : hub.Numbered) (name context : String) :
    (Connection.create (ω := ω) name context hub).Numbered := ⟨h, nofun⟩

theorem opened_le_act (h : Hub) (op : Hub.Op) : h.opened ≤ (h.act op).opened := by
  cases op with
  | events => exact Nat.le_succ _
  | subscribe channel =>
    simp only [Hub.act, Hub.subscribe]
    split <;> exact Nat.le_refl _
  | _ => exact Nat.le_refl _

theorem Connection.Numbered.driven {c : Connection ω} (h : c.Numbered) (op : Hub.Op) :
    (c.driven (·.act op)).Numbered where
  hub := Hub.numbered_act h.hub op
  tasks l hl := Nat.lt_of_lt_of_le (h.tasks l hl) (opened_le_act c.hub op)

theorem attach_of_accepting {c : Connection ω} (h : c.dispatch.accepting = true)
    (listener : Nat → Listener ω) :
    c.attach listener = (.ok (), { c with
      hub := c.hub.openFeed.2
      dispatch := { c.dispatch with
        tasks := c.dispatch.tasks ++ [listener c.hub.opened] } }) := by
  simp [Connection.attach, Dispatch.spawn, Dispatch.entry, h, Except.map, Hub.openFeed]

theorem Connection.Numbered.attach {c : Connection ω} (h : c.Numbered)
    {listener : Nat → Listener ω} (hlistener : ∀ n, (listener n).feed = n) :
    (c.attach listener).2.Numbered := by
  cases haccepting : c.dispatch.accepting with
  | false =>
    -- the stream was opened in vain, and its number is not given again
    have hrefused : (c.attach listener).2
        = (c.driven (·.act .events)).driven (·.act (.drop c.hub.opened)) := by
      simp [Connection.attach, Dispatch.spawn_of_stopped haccepting, Connection.driven,
        Hub.openFeed, Hub.act]
    rw [hrefused]
    exact (h.driven .events).driven (.drop c.hub.opened)
  | true =>
    rw [attach_of_accepting haccepting]
    refine ⟨Hub.numbered_act h.hub .events, fun l hl => ?_⟩
    rcases List.mem_append.mp hl with hl | hl
    · exact Nat.lt_succ_of_lt (h.tasks l hl)
    · rw [List.mem_singleton.mp hl, hlistener]
      exact Nat.lt_succ_self _

/-- What a connection can become before a handler is registered: the driver acts on it, and others
register listeners. -/
inductive Connection.Readied (c : Connection ω) : Connection ω → Prop
  | refl : Readied c c
  | driven {c₁ : Connection ω} (h : c.Readied c₁) (op : Hub.Op) : Readied c (c₁.driven (·.act op))
  | attach {c₁ : Connection ω} (h : c.Readied c₁) (listener : Nat → Listener ω)
      (hlistener : ∀ n, (listener n).feed = n) : Readied c (c₁.attach listener).2

theorem Connection.Readied.numbered {c c₁ : Connection ω} (h : c.Readied c₁) (hc : c.Numbered) :
    c₁.Numbered := by
  induction h with
  | refl => exact hc
  | driven _ op ih => exact ih.driven op
  | attach _ listener hlistener ih => exact ih.attach hlistener

namespace Session

variable {n : Nat} {results : Nat → Except Cause Unit}
  {act : Nat → Surroundings (Diary ω) → Surroundings (Diary ω)} {spans : List Nat} {tried : Nat}
  {s : Session ω} {c c₁ : Connection (Diary ω)} {shared : Shared (Diary ω)}

/-- **Where a handler begins**: nothing was called, nothing was given. -/
theorem inv_watch (hc : c.Numbered) (hr : shared.topology.Persistent)
    (hdiary : shared.own.calls = [])
    (hwatch : c.watch (.noted results act) = (.ok (), c₁)) :
    (⟨c₁, shared, [], 0⟩ : Session ω).Inv c.hub.opened results act [] 0 := by
  have haccepting : c.dispatch.accepting = true := by
    by_contra hstopped
    have hrefused := Connection.watch_of_stopped (by simpa using hstopped)
      (Handler.noted results act)
    rw [hwatch] at hrefused
    cases hrefused
  have hattach := attach_of_accepting haccepting fun feed =>
    Listener.topology feed { handler := Handler.noted results act }
  obtain rfl := (Prod.mk.inj (hwatch.symm.trans hattach)).2
  have hothers : c.dispatch.tasks.filter (·.feed == c.hub.opened) = [] := by
    refine List.filter_eq_nil_iff.mpr fun l hl => ?_
    simpa using Nat.ne_of_lt (hc.tasks l hl)
  have hpick : ((Listener.topology c.hub.opened { handler := Handler.noted results act }).feed
      == c.hub.opened) = true := beq_self_eq_true _
  refine ⟨hr, .nil, .zero, hdiary, rfl, ⟨{ number := c.hub.opened, attached := c.hub.isOpen }, ?_,
    rfl⟩, .here (v := { handler := Handler.noted results act }) ?_
      ⟨rfl, .nil, rfl, fun _ => rfl, nofun⟩ rfl fun _ => rfl⟩
  · simp [hc.hub c.hub.opened (Nat.le_refl _)]
  · simp [hothers, hpick]

/-! ## What can be seen -/

/-- Whether a listener waits for nothing but news. -/
def Rested (n : Nat) (s : Session ω) : Prop :=
  ∀ l ∈ s.connection.dispatch.tasks, l.feed = n → l.wakesAt? = none

/-- Whether nothing is left to be done for a listener. -/
def Idle (n : Nat) (s : Session ω) : Prop := s.connection.hub.held n = [] ∧ s.Rested n

/-- What can be said of a handler at any time. The changes dealt with took as many calls each as
`spans` says, and `tried` calls were made for the next one. -/
structure Serves (n : Nat) (results : Nat → Except Cause Unit) (spans : List Nat) (tried : Nat)
    (s : Session ω) : Prop where
  /-- Each change was handled up to the first success. -/
  dealt : Spans results spans
  /-- The next one has not been handled with success. -/
  fails : Fails results spans.sum tried
  /-- There were no other calls. -/
  calls : s.shared.own.calls = List.range (spans.sum + tried)
  /-- One call succeeded for each change dealt with. -/
  successes : s.shared.own.calls.countP (fun k => succeeded (results k)) = spans.length
  /-- The handler runs only because of changes: each has come before the first call for it. -/
  because : spans.length + min tried 1 ≤ (s.events n).countP (·.isTopologyChange)
  /-- Each change dealt with was counted as one success, with or without retry, and nothing else
  was counted. -/
  counted : s.counted = credit spans ∧ s.counted.1 + s.counted.2.1 = spans.length
  /-- It was counted with retry where the first call for it had failed. -/
  retried : ∀ before n after, spans = before ++ n :: after →
    (1 < n ↔ succeeded (results before.sum) = false)
  /-- Unless it waits for another call, every change it was told of has been dealt with. -/
  current : s.Rested n → tried = 0 ∧ spans.length = s.given.countP (·.isTopologyChange)
  /-- When nothing is left to be done, every change that came has been dealt with. -/
  complete : s.Idle n → tried = 0 ∧ spans.length = (s.events n).countP (·.isTopologyChange)
  /-- The listener stays as long as something is left to be done, or may come. -/
  stays : (∃ l ∈ s.connection.dispatch.tasks, l.feed = n) ∨
    s.Idle n ∧ s.connection.hub.isOver n = true

/-- What the poll of a listener `l` does. -/
structure Goes (n : Nat) (results : Nat → Except Cause Unit)
    (act : Nat → Surroundings (Diary ω) → Surroundings (Diary ω)) (l : Listener (Diary ω))
    (s s' : Session ω) : Prop where
  /-- What is done to the surroundings is done by the calls that are noted, whatever their
  results. -/
  calls : ∃ a b, s.shared.own.calls = List.range a ∧ s'.shared.own.calls = List.range b ∧
    (Handler.noted results act).Calls a b
      (s.world.withHub (s.connection.hub.takeAll n).2).surroundings s'.world.surroundings
  /-- So failures do not reach the guard: only the handler's own commands do. -/
  guard : (∀ k x, (act k x).guard = x.guard) → s'.shared.guard = s.shared.guard
  /-- When a wait is over, the handler is called again. -/
  resumes : l.wakesAt?.isSome → l.due s.connection.dispatch.now s.world = true →
    s.shared.own.calls.length < s'.shared.own.calls.length

/-- As many calls succeed as changes are dealt with. -/
theorem countP_succeeded (hs : Spans results spans) (hf : Fails results spans.sum tried) :
    (List.range (spans.sum + tried)).countP (fun k => succeeded (results k)) = spans.length := by
  have hsplit := range_append_range' (Nat.le_add_right spans.sum tried)
  rw [Nat.add_sub_cancel_left] at hsplit
  rw [← hsplit, List.countP_append, hs.countP_range, hf.countP_range', Nat.add_zero]

theorem countP_events (n : Nat) (s : Session ω) : (s.events n).countP (·.isTopologyChange)
    = s.given.countP (·.isTopologyChange)
      + (s.connection.hub.held n).countP (·.isTopologyChange) := List.countP_append

/-- The one entry that is picked from a list is in the list. -/
theorem mem_of_filter_eq_singleton {α : Type} {p : α → Bool} {entries : List α} {x : α}
    (h : entries.filter p = [x]) : x ∈ entries := by
  have hpicked := List.mem_singleton_self x
  rw [← h] at hpicked
  exact (List.mem_filter.mp hpicked).1

theorem Inv.because (h : s.Inv n results act spans tried) :
    spans.length + min tried 1 ≤ (s.events n).countP (·.isTopologyChange) := by
  rw [countP_events]
  cases h.listening with
  | here _ hstands hgiven =>
    have hbehind := hstands.min_le_behind
    omega
  | ended _ htried hgiven =>
    rw [htried]
    omega

theorem Inv.current (h : s.Inv n results act spans tried) (hrested : s.Rested n) :
    tried = 0 ∧ spans.length = s.given.countP (·.isTopologyChange) := by
  cases h.listening with
  | here htasks hstands hgiven hrest =>
    have hnone := hstands.current_of_wakesAt?
      (hrested _ (mem_of_filter_eq_singleton htasks) rfl)
    rw [hgiven, Watch.behind_of_idle hnone (hrest hnone)]
    exact ⟨hstands.idle hnone, rfl⟩
  | ended _ htried hgiven => exact ⟨htried, hgiven.symm⟩

theorem Inv.stays (h : s.Inv n results act spans tried) :
    (∃ l ∈ s.connection.dispatch.tasks, l.feed = n) ∨
      s.Idle n ∧ s.connection.hub.isOver n = true := by
  cases h.listening with
  | here htasks => exact .inl ⟨_, mem_of_filter_eq_singleton htasks, rfl⟩
  | ended htasks _ _ hover =>
    obtain ⟨f, hf, -⟩ := h.feed
    refine .inr ⟨⟨?_, fun l hl hfeed => ?_⟩, hover⟩
    · rw [Hub.held_of_some hf, ((Hub.isOver_of_some hf).mp hover).2]
    · have hnot := List.filter_eq_nil_iff.mp htasks l hl
      simp [hfeed] at hnot

theorem Inv.serves (h : s.Inv n results act spans tried) : s.Serves n results spans tried where
  dealt := h.dealt
  fails := h.fails
  calls := h.calls
  successes := by rw [h.calls, countP_succeeded h.dealt h.fails]
  because := h.because
  counted := ⟨h.counted, h.counted ▸ credit_total h.dealt⟩
  retried _ _ _ hspans := h.dealt.one_lt_iff hspans
  current := h.current
  complete hidle := by
    obtain ⟨htried, hlength⟩ := h.current hidle.2
    rw [countP_events, hidle.1]
    exact ⟨htried, hlength⟩
  stays := h.stays

theorem Inv.goes (hact : Tactful n act) (hrelent : Relenting results)
    (h : s.Inv n results act spans tried) {before after : List (Listener (Diary ω))}
    {l : Listener (Diary ω)} (htasks : s.connection.dispatch.tasks = before ++ l :: after)
    (hl : l.feed = n) : Goes n results act l s (s.polled n before l after) := by
  obtain ⟨new, tried', h', hcalls, hresumes⟩ := inv_polled hact hrelent h htasks hl
  refine ⟨⟨_, _, h.calls, h'.calls, hcalls⟩, fun hguard => ?_, fun hwaits hdue => ?_⟩
  · exact hcalls.keeps (P := fun x => x.guard = s.shared.guard)
      (fun k x hx => (hguard k (x.note k)).trans hx) rfl
  · rw [h.calls, h'.calls, List.length_range, List.length_range]
    exact hresumes hwaits hdue

/-- The events that come are those that the driver reports. -/
theorem Inv.events_driven (h : s.Inv n results act spans tried) {op : Hub.Op}
    (hop : op ≠ .read n ∧ op ≠ .drop n) :
    ({ s with connection := s.connection.driven (·.act op) } : Session ω).events n
      = s.events n ++ if s.connection.hub.isOpen then op.emits s.connection.hub else [] := by
  obtain ⟨f, hf, hopen⟩ := h.feed
  obtain ⟨f', hf', hheard⟩ := Hub.feed_act hop hf
  have hheld : (s.connection.hub.act op).held n = f'.queue := Hub.held_of_some hf'
  simp only [events, Connection.driven, hheld, Hub.held_of_some hf, hheard.queue, hopen,
    List.append_assoc]

/-- A listener that reads the stream is the one that was registered. -/
theorem Inv.fits (h : s.Inv n results act spans tried)
    (hcivil : ∀ l ∈ s.connection.dispatch.tasks, l.feed ≠ n → l.Civil n) :
    ∀ l ∈ s.connection.dispatch.tasks, l.Fits n := by
  intro l hl
  by_cases hfeed : l.feed = n
  · have hpicked : l ∈ s.connection.dispatch.tasks.filter (·.feed == n) :=
      List.mem_filter.mpr ⟨hl, beq_iff_eq.mpr hfeed⟩
    cases h.listening with
    | @here v htasks =>
      rw [htasks] at hpicked
      exact .inl ⟨v, List.mem_singleton.mp hpicked⟩
    | ended htasks =>
      rw [htasks] at hpicked
      cases hpicked
  · exact .inr (hcivil l hl hfeed)

/-- **The scheduler's work** is a run. -/
theorem Inv.exists_settle (h : s.Inv n results act spans tried)
    (haccepting : s.connection.dispatch.accepting = true)
    (hcivil : ∀ l ∈ s.connection.dispatch.tasks, l.feed ≠ n → l.Civil n) (steps : Nat) :
    ∃ s', Relation.ReflTransGen (Step n) s s' ∧
      (s'.connection, s'.shared) = s.connection.settle steps s.shared := by
  obtain ⟨s', d', w', hsettle, -, -, hrun, hat⟩ :=
    Session.exists_settle steps (⟨rfl, rfl⟩ : s.At s.connection s.connection.dispatch s.world)
      haccepting (h.fits hcivil)
  refine ⟨s', hrun, ?_⟩
  unfold Connection.settle
  change _ = (let (dispatch, w) := Dispatch.settle _ steps s.connection.dispatch s.world
    s.connection.afterwards dispatch w)
  rw [hsettle]
  obtain ⟨hconnection, rfl⟩ := hat
  exact Prod.ext hconnection rfl

/-- Where the scheduler is at rest, nothing is left to be done. -/
theorem Inv.idle (h : s.Inv n results act spans tried)
    (haccepting : s.connection.dispatch.accepting = true)
    (hrest : s.connection.dispatch.step? (Listener.conduct (Diary ω)) s.world = none) :
    s.Idle n := by
  have hnone := rest_of_step? haccepting hrest
  rcases h.stays with ⟨l, hl, rfl⟩ | ⟨hidle, -⟩
  · refine ⟨?_, fun l' hl' _ => (hnone l' hl').2⟩
    obtain ⟨hdue, hwaits⟩ := hnone l hl
    obtain ⟨f, hf, -⟩ := h.feed
    have hnews : s.world.hub.hasNews l.feed = false := by
      simp only [Listener.conduct] at hdue hwaits
      simpa [Listener.due, hwaits] using hdue
    have hf' : s.world.hub.feed? l.feed = some f := hf
    rw [Hub.held_of_some hf]
    simp only [Hub.hasNews, hf', Option.all_some, Bool.or_eq_false_iff, Bool.not_eq_false',
      List.isEmpty_iff] at hnews
    exact hnews.2
  · exact hidle

/-- What holds of a registered handler at any time. -/
structure Attended (n : Nat) (results : Nat → Except Cause Unit)
    (act : Nat → Surroundings (Diary ω) → Surroundings (Diary ω)) (s : Session ω) : Prop where
  serves : ∃ spans tried, s.Serves n results spans tried
  goes : ∀ before l after, s.connection.dispatch.tasks = before ++ l :: after → l.feed = n →
    Goes n results act l s (s.polled n before l after)
  /-- The events that come are those that the driver reports. -/
  hears : ∀ op : Hub.Op, op ≠ .read n ∧ op ≠ .drop n →
    ({ s with connection := s.connection.driven (·.act op) } : Session ω).events n
      = s.events n ++ if s.connection.hub.isOpen then op.emits s.connection.hub else []
  /-- Where the scheduler is at rest, nothing is left to be done. -/
  rests : s.connection.dispatch.accepting = true →
    s.connection.dispatch.step? (Listener.conduct (Diary ω)) s.world = none → s.Idle n
  /-- What the scheduler does next is one of the things that may happen. -/
  scheduled : s.connection.dispatch.accepting = true →
    (∀ l ∈ s.connection.dispatch.tasks, l.feed ≠ n → l.Civil n) →
      ∀ steps, ∃ s', Relation.ReflTransGen (Step n) s s' ∧
        (s'.connection, s'.shared) = s.connection.settle steps s.shared

/-- What holds where a handler begins holds from then on. -/
theorem attended_of_watch (hc : c.Numbered) (hr : shared.topology.Persistent)
    (hdiary : shared.own.calls = []) (hrelent : Relenting results)
    (hact : Tactful c.hub.opened act) (hwatch : c.watch (.noted results act) = (.ok (), c₁))
    (hrun : Relation.ReflTransGen (Step c.hub.opened) ⟨c₁, shared, [], 0⟩ s) :
    s.Attended c.hub.opened results act := by
  obtain ⟨spans, tried, h⟩ := inv_run hact hrelent (inv_watch hc hr hdiary hwatch) hrun
  exact ⟨⟨spans, tried, h.serves⟩, fun _ _ _ htasks hl => h.goes hact hrelent htasks hl,
    fun _ hop => h.events_driven hop, h.idle, h.exists_settle⟩

/-- **Every change of the topology is handled, once and in order.** From the registration of a
handler on, whatever else happens: it is called for one change after the other, for each of them up
to its first success, and for nothing else; none is lost and none is counted twice, and where
nothing is left to be done, there were as many successful calls as changes. Its failures reach
neither the tally of the retry nor the guard. -/
theorem topology_changes_are_handled_once (hc : c.Numbered) (hr : shared.topology.Persistent)
    (hdiary : shared.own.calls = []) (hrelent : Relenting results)
    (hact : Tactful c.hub.opened act) (hwatch : c.watch (.noted results act) = (.ok (), c₁))
    (hrun : Relation.ReflTransGen (Step c.hub.opened) ⟨c₁, shared, [], 0⟩ s) :
    s.Attended c.hub.opened results act := by
  exact attended_of_watch hc hr hdiary hrelent hact hwatch hrun

/-- A handler whose first call fails. -/
def reluctant (k : Nat) : Except Cause Unit := if k = 0 then .error (.foreign "not yet") else .ok ()

/-- What the connections of a client with a short backoff share. -/
def quick : Shared (Diary Unit) where
  guard := ⟨.fresh "quick-breaker" {} .zero,
    ⟨"quick-retry", {}, Guard.policy, fun _ => .zero false, {}⟩⟩
  topology := ⟨"quick-topology",
    { maxAttempts := Retry.unbounded, backoff := .fixed (.ofMillis 5) }, .always,
    fun _ => .zero false, {}⟩
  own := ⟨(), []⟩

theorem relenting_reluctant : Relenting reluctant := by
  intro k
  refine ⟨1, by decide, ?_⟩
  rw [reluctant, if_neg (Nat.succ_ne_zero k)]
  rfl

/-- A new connection on which such a handler was registered. -/
def watching : Connection (Diary Unit) :=
  ((Connection.create "c" "c-events" {}).watch (.noted reluctant fun _ s => s)).2

/-- The connection after an event listener and another handler were registered, and two changes were
reported. -/
def changed : Connection (Diary Unit) :=
  let others := ((watching.listen fun _ desk => desk).2.watch fun _ s => (.ok (), s)).2
  ((others.driven (·.act .changeTopology)).driven (·.act (.publish "a" "b"))).driven
    (·.act .changeTopology)

theorem civil_changed : ∀ l ∈ changed.dispatch.tasks, l.feed ≠ 0 → l.Civil 0 := by
  intro l hl hfeed
  have htasks : changed.dispatch.tasks = [.topology 0 { handler := .noted reluctant fun _ s => s },
      .events 1 fun _ desk => desk, .topology 2 { handler := fun _ s => (.ok (), s) }] := rfl
  simp only [htasks, List.mem_cons, List.not_mem_nil, or_false] at hl
  rcases hl with rfl | rfl | rfl
  · exact (hfeed rfl).elim
  · exact civil_events hfeed (fun _ desk => .refl 0 desk.world) fun _ _ => rfl
  · exact civil_topology hfeed fun _ s => .refl 0 s

/-- The first change takes two calls, the second one takes one. -/
theorem served_after_failure : ∃ s : Session Unit,
    (s.connection, s.shared) = changed.settle 9 quick ∧ s.shared.own.calls = [0, 1, 2] ∧
      s.Attended 0 reluctant fun _ s => s := by
  have hc : (Connection.create (ω := Diary Unit) "c" "c-events" {}).Numbered :=
    numbered_create (fun _ _ => rfl) ..
  have hr : quick.topology.Persistent := ⟨rfl, rfl⟩
  have hact : Tactful (ω := Unit) 0 fun _ s => s := fun _ s => .refl 0 s
  have hchanged : Hub.Spares 0 watching.hub changed.hub :=
    ⟨[.events, .events, .changeTopology, .publish "a" "b", .changeTopology], by simp, rfl⟩
  have hreported : Relation.ReflTransGen (Step 0) (⟨watching, quick, [], 0⟩ : Session Unit)
      ⟨changed, quick, [], 0⟩ := .single (.other ⟨⟨hchanged, rfl⟩, rfl, rfl⟩ rfl)
  have hattended :=
    topology_changes_are_handled_once hc hr rfl relenting_reluctant hact rfl hreported
  obtain ⟨s, hsettled, hs⟩ := hattended.scheduled rfl civil_changed 9
  have hcalls : (changed.settle 9 quick).2.own.calls = [0, 1, 2] := by decide
  refine ⟨s, hs, ?_, ?_⟩
  · exact (congrArg (fun settled => settled.2.own.calls) hs).trans hcalls
  · exact topology_changes_are_handled_once hc hr rfl relenting_reluctant hact rfl
      (hreported.trans hsettled)

/-- **The handlers of a client** that construction returns are attended to, on the connection it
opens, whatever was registered and reported there before. -/
theorem attended_of_create {name : String} {transport : Memory.Transport} {timeout : Duration}
    {breaker : Breaker.Config} {retry : Retry.Config} {draw : Nat → Binary .double} {own : Diary ω}
    {client : Client (Diary ω)}
    (h : Client.create name transport timeout breaker retry draw own = .ok client)
    (hdiary : own.calls = []) {fresh : Connection (Diary ω)}
    (hfresh : fresh ∈ client.openPubSub.2.connections) (hc : fresh.Readied c)
    (hrelent : Relenting results) (hact : Tactful c.hub.opened act)
    (hwatch : c.watch (.noted results act) = (.ok (), c₁))
    (hrun : Relation.ReflTransGen (Step c.hub.opened) ⟨c₁, client.shared, [], 0⟩ s) :
    s.Attended c.hub.opened results act := by
  obtain ⟨-, -, rfl⟩ := Client.created_of_create h
  rcases Client.openPubSub_cases _ with ⟨fault, hrefused⟩ | ⟨-, hopened⟩
  · rw [hrefused] at hfresh
    cases hfresh
  · rw [hopened] at hfresh
    obtain rfl := List.mem_singleton.mp hfresh
    have hnumbered : c.Numbered := hc.numbered (numbered_create (fun _ _ => rfl) ..)
    exact attended_of_watch hnumbered ⟨rfl, rfl⟩ hdiary hrelent hact hwatch hrun

end Session

end PubSub

end ClusterGuard
