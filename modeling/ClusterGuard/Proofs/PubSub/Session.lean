import ClusterGuard.Proofs.Memory.Feeds
import ClusterGuard.Proofs.PubSub.Watch
import ClusterGuard.PubSub.Connection
import Mathlib.Algebra.Group.Prod
import Mathlib.Logic.Relation
import Mathlib.Tactic.Abel

/-!
# A topology handler among others

A connection has any number of listeners, its driver may act on it at any time, and the retry of the
topology handlers is shared with other connections. A `Session` is such a connection with what an
onlooker knows about the handler of one listener: the calls of the handler, which it notes in a
diary itself, the events that its listener was given, and what was counted while the listener ran.
The handler is known by the number of the feed that its listener reads.

Results:
* `Handler.Calls.noted`: the diary tells the calls.
* **`inv_polled`**, **`inv_other`**, `inv_run`: where the listener stands, what was counted and what
  the diary tells agree, whatever happens.
-/

namespace ClusterGuard

/-- The four numbers of a tally. -/
def Retry.Tally.entries (t : Retry.Tally) : ℤ × ℤ × ℤ × ℤ :=
  (t.succeeded, t.succeededAfterRetry, t.failed, t.failedAfterRetry)

namespace PubSub

open Memory (Hub)

variable {ω : Type}

/-! ## The account -/

/-- What changes that took so many calls each add to a tally: one success for each, with or without
retry. -/
def credit (spans : List Nat) : ℤ × ℤ × ℤ × ℤ :=
  (spans.countP (· == 1), spans.countP (1 < ·), 0, 0)

theorem credit_append (spans new : List Nat) :
    credit (spans ++ new) = credit spans + credit new := by
  simp [credit]

theorem credit_cons (n : Nat) (spans : List Nat) :
    credit (n :: spans) = credit [n] + credit spans :=
  credit_append [n] spans

/-- Every change dealt with adds one. -/
theorem credit_total {results : Nat → Except Cause Unit} {spans : List Nat}
    (h : Spans results spans) : (credit spans).1 + (credit spans).2.1 = spans.length := by
  induction h with
  | nil => rfl
  | @snoc spans failed _ _ _ ih =>
    have hone : (credit [failed + 1]).1 + (credit [failed + 1]).2.1 = 1 := by
      cases failed <;> simp [credit]
    rw [credit_append, List.length_append, List.length_singleton]
    simp only [Prod.fst_add, Prod.snd_add]
    omega

theorem entries_count (r : Retry Fault) {n : Nat} (hn : 0 < n) :
    (r.count true n).tally.entries = r.tally.entries + credit [n] := by
  by_cases h : 1 < n
  · have hne : (n == 1) = false := by simp; omega
    simp [Retry.count, Retry.Tally.count, Retry.Tally.entries, credit, h, hne]
  · obtain rfl : n = 1 := by omega
    simp [Retry.count, Retry.Tally.count, Retry.Tally.entries, credit]

theorem entries_foldl {new : List Nat} (hnew : ∀ n ∈ new, 0 < n) (r : Retry Fault) :
    (new.foldl (fun r n => r.count true n) r).tally.entries = r.tally.entries + credit new := by
  induction new generalizing r with
  | nil => simp [credit]
  | cons n new ih =>
    rw [List.foldl_cons, ih fun m hm => hnew m (List.mem_cons_of_mem _ hm),
      entries_count r (hnew n List.mem_cons_self), credit_cons n new, add_assoc]

theorem persistent_foldl {r : Retry Fault} (hr : r.Persistent) (new : List Nat) :
    (new.foldl (fun r n => r.count true n) r).Persistent := by
  induction new generalizing r with
  | nil => exact hr
  | cons n new ih => exact ih (hr.count ..)

section Advances

variable {handler : Handler ω} {results : Nat → Except Cause Unit} {spans new : List Nat}
  {tried tried' before : Nat} {w : World ω} {reached : Watch ω × World ω}

theorem Watch.Advances.pos
    (h : Advances handler results spans tried before w new tried' reached) :
    ∀ n ∈ new, 0 < n :=
  fun n hn => h.stands.dealt.pos n (List.mem_append_right _ hn)

/-- Every change dealt with adds one success to the tally. -/
theorem Watch.Advances.entries
    (h : Advances handler results spans tried before w new tried' reached) :
    reached.2.topology.tally.entries = w.topology.tally.entries + credit new :=
  h.counted ▸ entries_foldl h.pos w.topology

theorem Watch.Advances.persistent
    (h : Advances handler results spans tried before w new tried' reached)
    (hr : w.topology.Persistent) : reached.2.topology.Persistent :=
  h.counted ▸ persistent_foldl hr new

end Advances

/-! ## The diary -/

/-- What the user of a connection has, with the calls of a handler as they were made. -/
structure Diary (ω : Type) where
  own : ω
  calls : List Nat := []

/-- Notes a call. -/
def Surroundings.note (k : Nat) (s : Surroundings (Diary ω)) : Surroundings (Diary ω) :=
  { s with own := { s.own with calls := s.own.calls ++ [k] } }

/-- The handler that notes its calls, follows a script, and besides does what `act` says. -/
def Handler.noted (results : Nat → Except Cause Unit)
    (act : Nat → Surroundings (Diary ω) → Surroundings (Diary ω)) : Handler (Diary ω) :=
  fun k s => (results k, act k (s.note k))

/-- Whether something is done without reading or dropping a stream and without writing into the
diary. -/
structure Surroundings.Keeps (n : Nat) (s s' : Surroundings (Diary ω)) : Prop where
  hub : Hub.Spares n s.hub s'.hub
  calls : s'.own.calls = s.own.calls

theorem Surroundings.Keeps.refl (n : Nat) (s : Surroundings (Diary ω)) : s.Keeps n s :=
  ⟨.refl .., rfl⟩

theorem Surroundings.Keeps.trans {n : Nat} {s s' s'' : Surroundings (Diary ω)} (h : s.Keeps n s')
    (h' : s'.Keeps n s'') : s.Keeps n s'' := ⟨h.hub.trans h'.hub, h'.calls.trans h.calls⟩

/-- Whether what a handler does besides leaves its stream and its diary alone. -/
def Tactful (n : Nat) (act : Nat → Surroundings (Diary ω) → Surroundings (Diary ω)) : Prop :=
  ∀ k (s : Surroundings (Diary ω)), s.Keeps n (act k s)

variable {n a b : Nat} {results : Nat → Except Cause Unit}
  {act : Nat → Surroundings (Diary ω) → Surroundings (Diary ω)}

theorem follows_noted (results : Nat → Except Cause Unit)
    (act : Nat → Surroundings (Diary ω) → Surroundings (Diary ω)) :
    (Handler.noted results act).Follows results := fun _ _ => rfl

/-- **The diary tells the calls**, in order. -/
theorem Handler.Calls.noted {s s' : Surroundings (Diary ω)} (hact : Tactful n act)
    (h : (Handler.noted results act).Calls a b s s') :
    s'.own.calls = s.own.calls ++ List.range' a (b - a) := by
  induction h with
  | none k s => simp
  | @next a b s s' h ih =>
    have hle := h.le
    have hsub : b - a = (b - (a + 1)) + 1 := by omega
    rw [ih, Handler.noted, (hact ..).calls, hsub, List.range'_succ]
    simp [Surroundings.note]

theorem range_append_range' (h : a ≤ b) : List.range a ++ List.range' a (b - a) = List.range b := by
  have happend := List.range'_append_1 (s := 0) (m := a) (n := b - a)
  rwa [Nat.zero_add, Nat.add_sub_cancel' h, ← List.range_eq_range', ← List.range_eq_range']
    at happend

/-- A diary that tells the first calls tells those that follow. -/
theorem Handler.Calls.diary {s s' : Surroundings (Diary ω)} (hact : Tactful n act)
    (h : (Handler.noted results act).Calls a b s s') (hs : s.own.calls = List.range a) :
    s'.own.calls = List.range b := by
  rw [h.noted hact, hs, range_append_range' h.le]

theorem Handler.Calls.spares {s s' : Surroundings (Diary ω)} (hact : Tactful n act)
    (h : (Handler.noted results act).Calls a b s s') : Hub.Spares n s.hub s'.hub := by
  refine h.keeps (P := fun x => Hub.Spares n s.hub x.hub) (fun k x hx => ?_) (.refl n s.hub)
  exact hx.trans (hact k (x.note k)).hub

/-! ## What others do -/

/-- Whether others do something that leaves a stream and the diary alone, and does not change how
the topology handlers are retried. -/
structure World.Keeps (n : Nat) (w w' : World (Diary ω)) : Prop where
  surroundings : w.surroundings.Keeps n w'.surroundings
  config : w'.topology.config = w.topology.config
  policy : w'.topology.policy = w.topology.policy

theorem World.Keeps.refl (n : Nat) (w : World (Diary ω)) : w.Keeps n w := ⟨.refl .., rfl, rfl⟩

theorem World.Keeps.trans {w w' w'' : World (Diary ω)} (h : w.Keeps n w') (h' : w'.Keeps n w'') :
    w.Keeps n w'' :=
  ⟨h.surroundings.trans h'.surroundings, h'.config.trans h.config, h'.policy.trans h.policy⟩

/-! ## Sessions -/

/-- A connection in use, and what an onlooker knows of one of its listeners. -/
structure Session (ω : Type) where
  connection : Connection (Diary ω)
  shared : Shared (Diary ω)
  /-- The events that the listener was given. -/
  given : List Event := []
  /-- What was counted while the listener ran. -/
  counted : ℤ × ℤ × ℤ × ℤ := 0

namespace Session

/-- What the listeners act on. -/
def world (s : Session ω) : World (Diary ω) := s.connection.world s.shared

/-- The events that came while the listener was there. -/
def events (n : Nat) (s : Session ω) : List Event := s.given ++ s.connection.hub.held n

/-- The listener `l` of the onlooker, between others, is polled. -/
def polled (n : Nat) (before : List (Listener (Diary ω))) (l : Listener (Diary ω))
    (after : List (Listener (Diary ω))) (s : Session ω) : Session ω :=
  let d := s.connection.dispatch
  let (left, desk) := l.poll d.now ⟨d.name, d.accepting, s.world⟩
  let (connection, shared) := s.connection.afterwards
    { d with tasks := before ++ (left.toList ++ after), accepting := desk.accepting } desk.world
  { connection, shared
    given := s.given ++ (s.connection.hub.takeAll n).1
    counted := s.counted + (shared.topology.tally.entries - s.shared.topology.tally.entries) }

/-- What may happen: the listener is polled, or something else happens that leaves it alone. -/
inductive Step (n : Nat) : Session ω → Session ω → Prop
  | poll {s : Session ω} {before after : List (Listener (Diary ω))} {l : Listener (Diary ω)}
      (htasks : s.connection.dispatch.tasks = before ++ l :: after) (hl : l.feed = n) :
      Step n s (s.polled n before l after)
  | other {s : Session ω} {c : Connection (Diary ω)} {shared : Shared (Diary ω)}
      (hkeeps : s.world.Keeps n (c.world shared))
      (htasks : c.dispatch.tasks.filter (·.feed == n)
        = s.connection.dispatch.tasks.filter (·.feed == n)) :
      Step n s { s with connection := c, shared }

/-- Where a listener stands that was given the events of the session. -/
inductive Listening (n : Nat) (handler : Handler (Diary ω)) (results : Nat → Except Cause Unit)
    (spans : List Nat) (tried : Nat) (s : Session ω) : Prop
  | here {v : Watch (Diary ω)}
      (htasks : s.connection.dispatch.tasks.filter (·.feed == n) = [.topology n v])
      (hstands : v.Stands handler results spans tried)
      (hgiven : s.given.countP (·.isTopologyChange) = spans.length + v.behind)
      (hrest : v.current = none → v.inbox = [])
  /-- It has ended: its stream is over, and all was dealt with. -/
  | ended (htasks : s.connection.dispatch.tasks.filter (·.feed == n) = [])
      (htried : tried = 0)
      (hgiven : s.given.countP (·.isTopologyChange) = spans.length)
      (hover : s.connection.hub.isOver n = true)

/-- How what the onlooker knows agrees with where the listener stands. -/
structure Inv (n : Nat) (results : Nat → Except Cause Unit)
    (act : Nat → Surroundings (Diary ω) → Surroundings (Diary ω)) (spans : List Nat) (tried : Nat)
    (s : Session ω) : Prop where
  persistent : s.shared.topology.Persistent
  dealt : Spans results spans
  fails : Fails results spans.sum tried
  calls : s.shared.own.calls = List.range (spans.sum + tried)
  counted : s.counted = credit spans
  feed : ∃ f, s.connection.hub.feed? n = some f ∧ f.attached = s.connection.hub.isOpen
  listening : s.Listening n (.noted results act) results spans tried

variable {s s' : Session ω} {spans : List Nat} {tried : Nat}

/-- **What others do** is not seen at the listener. -/
theorem inv_other (h : s.Inv n results act spans tried) {c : Connection (Diary ω)}
    {shared : Shared (Diary ω)} (hkeeps : s.world.Keeps n (c.world shared))
    (htasks : c.dispatch.tasks.filter (·.feed == n)
      = s.connection.dispatch.tasks.filter (·.feed == n)) :
    ({ s with connection := c, shared } : Session ω).Inv n results act spans tried := by
  obtain ⟨f, hf, hopen⟩ := h.feed
  obtain ⟨f', hf', -, hattached, hended⟩ := hkeeps.surroundings.hub.feed hf
  refine ⟨⟨hkeeps.policy.trans h.persistent.policy, ?_⟩, h.dealt, h.fails,
    hkeeps.surroundings.calls.trans h.calls, h.counted, ⟨f', hf', hattached hopen⟩, ?_⟩
  · exact (congrArg (·.maxAttempts) hkeeps.config).trans h.persistent.maxAttempts
  · cases h.listening with
    | here htasks' hstands hgiven hrest =>
      exact .here (htasks.trans htasks') hstands hgiven hrest
    | ended htasks' htried hgiven hover =>
      refine .ended (htasks.trans htasks') htried hgiven ?_
      obtain ⟨hf₀, -⟩ := (Hub.isOver_of_some hf).mp hover
      obtain rfl := hended hf₀
      rw [Hub.isOver_of_some hf] at hover
      exact (Hub.isOver_of_some hf').mpr hover

/-- A list in which one entry only is picked, at this entry. -/
theorem of_filter_eq_singleton {α : Type} {p : α → Bool} {before after : List α} {l x : α}
    (h : (before ++ l :: after).filter p = [x]) (hl : p l = true) :
    before.filter p = [] ∧ l = x ∧ after.filter p = [] := by
  rw [List.filter_append, List.filter_cons_of_pos hl] at h
  cases hb : before.filter p with
  | nil => simpa [hb] using h
  | cons y ys => simp [hb] at h

/-- How far a watch gets with what its stream holds. -/
def reached (n : Nat) (v : Watch (Diary ω)) (s : Session ω) : Watch (Diary ω) × World (Diary ω) :=
  { v with inbox := v.inbox ++ s.connection.hub.held n }.poll s.connection.dispatch.now
    (s.world.withHub (s.connection.hub.takeAll n).2)

theorem poll_topology (n : Nat) (v : Watch (Diary ω)) (s : Session ω) :
    (Listener.topology n v).poll s.connection.dispatch.now
        ⟨s.connection.dispatch.name, s.connection.dispatch.accepting, s.world⟩
      = ((Listener.topology n (s.reached n v).1).remains (s.reached n v).2,
          ⟨s.connection.dispatch.name, s.connection.dispatch.accepting, (s.reached n v).2⟩) := rfl

theorem polled_topology (n : Nat) (v : Watch (Diary ω)) (before after : List (Listener (Diary ω)))
    (s : Session ω) :
    s.polled n before (.topology n v) after
      = { connection := { s.connection with
            hub := (s.reached n v).2.hub
            dispatch := { s.connection.dispatch with
              tasks := before ++
                (((Listener.topology n (s.reached n v).1).remains (s.reached n v).2).toList
                  ++ after) } }
          shared := ⟨(s.reached n v).2.surroundings.guard, (s.reached n v).2.topology,
            (s.reached n v).2.surroundings.own⟩
          given := s.given ++ s.connection.hub.held n
          counted := s.counted + ((s.reached n v).2.topology.tally.entries
            - s.shared.topology.tally.entries) } := rfl

/-- A wait that makes a listener due is over. -/
theorem not_lt_of_due {now : Instant} {l : Listener (Diary ω)} {w : World (Diary ω)}
    (hdue : l.due now w = true) (due : Instant) (hw : l.wakesAt? = some due) : ¬now < due := by
  simp only [Listener.due, hw, decide_eq_true_eq, Duration.le_iff] at hdue
  simp only [Duration.lt_iff]
  omega

/-- The stream is still there after it was read and the handler was called. -/
theorem Inv.feed_of_calls (h : s.Inv n results act spans tried) (hact : Tactful n act)
    {x : Surroundings (Diary ω)} (hcalls : (Handler.noted results act).Calls a b
      (s.world.withHub (s.connection.hub.takeAll n).2).surroundings x) :
    ∃ f, x.hub.feed? n = some f ∧ f.attached = x.hub.isOpen := by
  obtain ⟨f, hf, hopen⟩ := h.feed
  have htaken : (s.connection.hub.takeAll n).2.feed? n = some { f with queue := [] } := by
    simp [hf]
  obtain ⟨f', hf', -, hattached, -⟩ := (hcalls.spares hact).feed htaken
  exact ⟨f', hf', hattached hopen⟩

/-- A listener that was polled is still there, unless its stream is over and nothing is left to be
dealt with. -/
theorem listening_of_remains {handler : Handler (Diary ω)} {v : Watch (Diary ω)}
    {before after : List (Listener (Diary ω))} (hbefore : before.filter (·.feed == n) = [])
    (hafter : after.filter (·.feed == n) = [])
    (htasks : s.connection.dispatch.tasks
      = before ++ (((Listener.topology n v).remains s.world).toList ++ after))
    (hstands : v.Stands handler results spans tried)
    (hgiven : s.given.countP (·.isTopologyChange) = spans.length + v.behind)
    (hrest : v.current = none → v.inbox = []) : s.Listening n handler results spans tried := by
  unfold Listener.remains at htasks
  split at htasks
  · rename_i hended
    rw [Bool.and_eq_true, Option.isNone_iff_eq_none] at hended
    have hidle : v.current = none := hstands.current_of_wakesAt? hended.1
    rw [Watch.behind_of_idle hidle (hrest hidle)] at hgiven
    refine .ended ?_ (hstands.idle hidle) hgiven hended.2
    simp [htasks, hbefore, hafter]
  · have hpick : ((Listener.topology n v).feed == n) = true := beq_self_eq_true n
    refine .here ?_ hstands hgiven hrest
    simp [htasks, hbefore, hafter, hpick]

/-- **When the listener is polled**, it is given what its stream holds, and goes on. What is done to
the surroundings is done by the calls of its handler; there is at least one if a wait is over. -/
theorem inv_polled (hact : Tactful n act) (hrelent : Relenting results)
    (h : s.Inv n results act spans tried) {before after : List (Listener (Diary ω))}
    {l : Listener (Diary ω)} (htasks : s.connection.dispatch.tasks = before ++ l :: after)
    (hl : l.feed = n) :
    ∃ new tried', (s.polled n before l after).Inv n results act (spans ++ new) tried' ∧
      (Handler.noted results act).Calls (spans.sum + tried) ((spans ++ new).sum + tried')
        (s.world.withHub (s.connection.hub.takeAll n).2).surroundings
        (s.polled n before l after).world.surroundings ∧
      (l.wakesAt?.isSome → l.due s.connection.dispatch.now s.world = true →
        spans.sum + tried < (spans ++ new).sum + tried') := by
  have hpick : (l.feed == n) = true := beq_iff_eq.mpr hl
  cases h.listening with
  | ended htasks' => simp [htasks, hpick] at htasks'
  | @here v htasks' hstands hgiven hrest =>
    rw [htasks] at htasks'
    obtain ⟨hbefore, rfl, hafter⟩ := of_filter_eq_singleton htasks' hpick
    obtain ⟨new, tried', hadv, hlt⟩ := Watch.advances_poll
      (w := s.world.withHub (s.connection.hub.takeAll n).2) (follows_noted results act) hrelent
      s.connection.dispatch.now h.persistent (hstands.read (s.connection.hub.held n))
    change Watch.Advances _ _ _ _ _ _ _ _ (s.reached n v) at hadv
    have hbehind := hadv.behind
    rw [Watch.behind_read] at hbehind
    have hgiven' : (s.given ++ s.connection.hub.held n).countP (·.isTopologyChange)
        = (spans ++ new).length + (s.reached n v).1.behind := by
      rw [List.countP_append, List.length_append, hgiven]
      omega
    have htally : s.counted
        + ((s.reached n v).2.topology.tally.entries - s.shared.topology.tally.entries)
          = credit (spans ++ new) := by
      have hentries : (s.reached n v).2.topology.tally.entries
          = s.shared.topology.tally.entries + credit new := hadv.entries
      rw [hentries, h.counted, credit_append]
      abel
    refine ⟨new, tried', ⟨hadv.persistent h.persistent, hadv.stands.dealt, hadv.stands.fails,
      hadv.calls.diary hact h.calls, htally, h.feed_of_calls hact hadv.calls, ?_⟩, hadv.calls,
      fun hwaits hdue => ?_⟩
    · exact listening_of_remains hbefore hafter rfl hadv.stands hgiven' hadv.rest
    · refine hlt ?_ (not_lt_of_due hdue)
      cases hv : v.current with
      | none => simp [Listener.wakesAt?, Watch.wakesAt?, hv] at hwaits
      | some t => rfl

/-- **Whatever happens**, what the onlooker knows agrees with where the listener stands. -/
theorem inv_run (hact : Tactful n act) (hrelent : Relenting results)
    (h : s.Inv n results act spans tried) (hrun : Relation.ReflTransGen (Step n) s s') :
    ∃ spans' tried', s'.Inv n results act spans' tried' := by
  induction hrun with
  | refl => exact ⟨spans, tried, h⟩
  | tail _ hstep ih =>
    obtain ⟨spans', tried', h'⟩ := ih
    cases hstep with
    | other hkeeps htasks => exact ⟨spans', tried', inv_other h' hkeeps htasks⟩
    | poll htasks hl =>
      obtain ⟨new, tried'', h'', -⟩ := inv_polled hact hrelent h' htasks hl
      exact ⟨spans' ++ new, tried'', h''⟩

end Session

end PubSub

end ClusterGuard
