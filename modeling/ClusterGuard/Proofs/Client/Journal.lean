import ClusterGuard.Client.Lifecycle
import Mathlib.Data.List.Nodup

/-!
# Opening and closing, call by call

Facilities can be given a journal into which they write every call that is made of them. A client
that opens connections and shuts down with such facilities does what it does with the plain ones,
and the journal tells which calls that took, how many and in which order. Nothing is assumed of the
surroundings, and anything may happen to them in between.

Results:
* `exists_opening`: what asking for a connection comes to, with and without a journal.
* `shutDown_journaled`: shutting down closes what is in the `closingOrder`, in that order.
* `run_plain`: the journal only looks on.
* **`accounted_run`**: the registry, the journal and the results after any operations.
-/

namespace ClusterGuard.Client

variable {κ β : Type}

/-! ## Calls -/

/-- Something that a client asked of its facilities, and how it went. -/
inductive Call where
  | connected (number : Nat)
  | refused (fault : Fault)
  | started (context : String) (number : Nat)
  /-- A dispatch context could not be started. -/
  | failed (context : String) (number : Nat) (fault : Fault)
  | closed (x : Closing)

namespace Call

/-- The call that asked for a connection. -/
def connecting : Except Fault Nat → Call
  | .ok number => connected number
  | .error fault => refused fault

/-- The call that was to start a dispatch context. -/
def starting (context : String) (number : Nat) : Option Fault → Call
  | none => started context number
  | some fault => failed context number fault

end Call

namespace Facilities

/-- The facilities with a journal of the calls made of them. -/
def journaled (f : Facilities κ) : Facilities (κ × List Call) where
  connect k :=
    let (opened, rest) := f.connect k.1
    (opened, rest, k.2 ++ [.connecting opened])
  startDispatch context number k :=
    let (failure, rest) := f.startDispatch context number k.1
    (failure, rest, k.2 ++ [.starting context number failure])
  close x k := (f.close x k.1, k.2 ++ [.closed x])

variable {f : Facilities κ} {k k' : κ}

theorem connect_journaled {opened : Except Fault Nat} (h : f.connect k = (opened, k'))
    (calls : List Call) :
    f.journaled.connect (k, calls) = (opened, k', calls ++ [.connecting opened]) := by
  simp only [journaled, h]

theorem startDispatch_journaled {context : String} {number : Nat} {failure : Option Fault}
    (h : f.startDispatch context number k = (failure, k')) (calls : List Call) :
    f.journaled.startDispatch context number (k, calls)
      = (failure, k', calls ++ [.starting context number failure]) := by
  simp only [journaled, h]

end Facilities

/-! ### Opening -/

/-- What asking for a publish/subscribe connection comes to as long as a client is not shut down. -/
inductive Opening where
  | refused (fault : Fault)
  /-- The transport gave a connection, but its dispatch context could not be started. -/
  | failed (number : Nat) (fault : Fault)
  | opened (number : Nat)

namespace Opening

/-- The calls of an opening. A connection that gets no dispatch context of this name is closed. -/
def calls (context : String) : Opening → List Call
  | refused fault => [.refused fault]
  | failed number fault =>
    [.connected number, .failed context number fault, .closed (.pubSub number)]
  | opened number => [.connected number, .started context number]

/-- What the user is told. -/
def result : Opening → Except Fault Nat
  | refused fault | failed _ fault => .error fault
  | opened number => .ok number

end Opening

/-- The numbers of the connections that users were told of. -/
def numbers (results : List (Except Fault Nat)) : List Nat := results.filterMap Except.toOption

/-- The connections that were opened in this way. -/
def opened (openings : List Opening) : List Nat := numbers (openings.map Opening.result)

/-- The registry after an opening. -/
def Registry.enter (o : Opening) (r : Registry) : Registry :=
  match o with
  | .opened number => { r with records := r.records ++ [number] }
  | .refused _ | .failed _ _ => r

theorem enter_opened (o : Opening) (openings : List Opening) (isShutDown : Bool) :
    Registry.enter o ⟨opened openings, isShutDown⟩ = ⟨opened (openings ++ [o]), isShutDown⟩ := by
  cases o <;> simp [Registry.enter, opened, numbers, Opening.result, Except.toOption]

namespace Facilities

/-- **What asking for a connection comes to**, with and without a journal. -/
theorem exists_opening (f : Facilities κ) (name : String) {r : Registry} (h : r.isShutDown = false)
    (k : κ) :
    ∃ (o : Opening) (k' : κ), f.openPubSub name r k = (o.result, r.enter o, k') ∧
      ∀ calls, f.journaled.openPubSub name r (k, calls) =
        (o.result, r.enter o, k', calls ++ o.calls (contextName name)) := by
  rcases hconnect : f.connect k with ⟨fault | number, k'⟩
  · refine ⟨.refused fault, k', openPubSub_of_refused h hconnect, fun calls => ?_⟩
    exact openPubSub_of_refused h (connect_journaled hconnect calls)
  · rcases hstart : f.startDispatch (contextName name) number k' with ⟨failure, k''⟩
    have hconnect' := connect_journaled hconnect
    have hstart' (calls : List Call) :=
      startDispatch_journaled hstart (calls ++ [.connecting (.ok number)])
    cases failure with
    | none =>
      refine ⟨.opened number, k'', openPubSub_of_started h hconnect hstart, fun calls => ?_⟩
      rw [openPubSub_of_started h (hconnect' calls) (hstart' calls), List.append_assoc]
      rfl
    | some fault =>
      refine ⟨.failed number fault, f.close (.pubSub number) k'',
        openPubSub_of_failed h hconnect hstart, fun calls => ?_⟩
      rw [openPubSub_of_failed h (hconnect' calls) (hstart' calls)]
      simp [journaled, Opening.calls, Opening.result, Registry.enter, Call.connecting,
        Call.starting]

end Facilities

/-! ### Shutting down -/

/-- Publish/subscribe connections and their dispatch contexts, in the order in which they are
closed. -/
def recordOrder (records : List Nat) : List Closing :=
  records.flatMap fun number => [.pubSub number, .dispatch number]

/-- Everything there is to close on a client with these connections, in order. -/
def closingOrder (records : List Nat) : List Closing :=
  [.connection .text, .connection .binary] ++ recordOrder records ++ [.transport]

theorem nodup_closingOrder {records : List Nat} (h : records.Nodup) :
    (closingOrder records).Nodup := by
  have hpairs : (recordOrder records).Nodup := by
    refine List.nodup_flatMap.mpr ⟨fun number _ => by simp, h.imp fun hne => ?_⟩
    simp [Function.onFun, hne.symm]
  have hlast (x : Closing) : ∀ n ∈ records, x = .pubSub n ∨ x = .dispatch n → x ≠ .transport := by
    rintro n - (rfl | rfl) <;> exact nofun
  simpa [closingOrder, List.nodup_append, recordOrder] using ⟨hpairs, hlast⟩

namespace Facilities

variable {f : Facilities κ} {r : Registry}

/-- Closes some things, one after the other. -/
def closeAll (f : Facilities κ) (xs : List Closing) (k : κ) : κ :=
  xs.foldl (fun k x => f.close x k) k

theorem closeRecords_eq (records : List Nat) (k : κ) :
    f.closeRecords records k = f.closeAll (recordOrder records) k := by
  induction records generalizing k with
  | nil => rfl
  | cons number records ih => exact ih _

theorem closeAll_journaled (xs : List Closing) (k : κ) (calls : List Call) :
    f.journaled.closeAll xs (k, calls) = (f.closeAll xs k, calls ++ xs.map .closed) := by
  induction xs generalizing k calls with
  | nil => simp [closeAll]
  | cons x xs ih =>
    refine (ih (f.close x k) (calls ++ [.closed x])).trans ?_
    simp [closeAll]

/-- What shutting down comes to. -/
theorem shutDown_eq (h : r.isShutDown = false) (k : κ) :
    f.shutDown r k = (⟨[], true⟩, f.closeAll (closingOrder r.records) k) := by
  simp [shutDown, h, closeRecords_eq, closeAll, closingOrder]

/-- **Shutting down, call by call.** -/
theorem shutDown_journaled (h : r.isShutDown = false) (k : κ) (calls : List Call) :
    f.journaled.shutDown r (k, calls) =
      (⟨[], true⟩, f.closeAll (closingOrder r.records) k,
        calls ++ (closingOrder r.records).map .closed) := by
  rw [shutDown_eq h, closeAll_journaled]

end Facilities

/-! ## Operations -/

/-- What is done with a client: publish/subscribe connections are opened, it is shut down, and it is
used in the ways `β`. -/
inductive Op (β : Type) where
  | openPubSub
  | shutDown
  | use (u : β)

namespace Op

/-- Whether this shuts the client down. -/
def isShutDown : Op β → Bool
  | shutDown => true
  | _ => false

/-- Whether this asks for a connection. -/
def isOpening : Op β → Bool
  | openPubSub => true
  | _ => false

end Op

section Steps

variable (f : Facilities κ) (name : String)

/-- The registry of a client and its surroundings after an operation; a use is anything that happens
to the surroundings. -/
def Facilities.step (s : Registry × κ) : Op (κ → κ) → Registry × κ
  | .openPubSub => (f.openPubSub name s.1 s.2).2
  | .shutDown => f.shutDown s.1 s.2
  | .use change => (s.1, change s.2)

/-- The registry of a client and its surroundings after some operations. -/
def Facilities.run (s : Registry × κ) (ops : List (Op (κ → κ))) : Registry × κ :=
  ops.foldl (f.step name) s

/-- What can be told of a client afterwards. -/
structure Books where
  registry : Registry := {}
  /-- The calls that opening connections and shutting down took. -/
  journal : List Call := []
  /-- What those were told who asked for a connection. -/
  results : List (Except Fault Nat) := []

namespace Books

/-- The numbers of the connections that were opened. -/
def created (b : Books) : List Nat := numbers b.results

/-- The books after somebody has asked for a connection, and the surroundings. -/
def openPubSub (b : Books) (k : κ) : Books × κ :=
  let (result, registry, k, journal) := f.journaled.openPubSub name b.registry (k, b.journal)
  (⟨registry, journal, b.results ++ [result]⟩, k)

/-- The books after somebody has shut the client down, and the surroundings. -/
def shutDown (b : Books) (k : κ) : Books × κ :=
  let (registry, k, journal) := f.journaled.shutDown b.registry (k, b.journal)
  (⟨registry, journal, b.results⟩, k)

/-- The books and the surroundings after an operation. -/
def step (s : Books × κ) : Op (κ → κ) → Books × κ
  | .openPubSub => s.1.openPubSub f name s.2
  | .shutDown => s.1.shutDown f s.2
  | .use change => (s.1, change s.2)

/-- The books and the surroundings after some operations. -/
def run (s : Books × κ) (ops : List (Op (κ → κ))) : Books × κ := ops.foldl (step f name) s

end Books

end Steps

/-! ### The books of a client -/

namespace Books

/-- The books of a client of this name before it is shut down. -/
def live (name : String) (openings : List Opening) : Books where
  registry := ⟨opened openings, false⟩
  journal := openings.flatMap (Opening.calls (contextName name))
  results := openings.map Opening.result

/-- The books of a client of this name that was shut down: everything was closed in order, and those
who asked for a connection afterwards were told so. -/
def ended (name : String) (openings : List Opening) (later : Nat) : Books where
  registry := ⟨[], true⟩
  journal := (live name openings).journal ++ (closingOrder (opened openings)).map .closed
  results := (live name openings).results ++ List.replicate later (.error (.shutDown name))

variable (f : Facilities κ) (name : String) (openings : List Opening) (later : Nat) (k : κ)

theorem live_concat (o : Opening) : live name (openings ++ [o]) =
    ⟨(live name openings).registry.enter o,
      (live name openings).journal ++ o.calls (contextName name),
      (live name openings).results ++ [o.result]⟩ := by
  simp [live, enter_opened]

theorem created_ended : (ended name openings later).created = opened openings := by
  simp [created, ended, live, opened, numbers, Except.toOption, List.filterMap_replicate]

theorem openPubSub_live :
    ∃ o k', (live name openings).openPubSub f name k = (live name (openings ++ [o]), k') := by
  obtain ⟨o, k', -, hjournaled⟩ := f.exists_opening name (r := (live name openings).registry) rfl k
  refine ⟨o, k', ?_⟩
  rw [live_concat, openPubSub, hjournaled]

theorem openPubSub_ended :
    (ended name openings later).openPubSub f name k = (ended name openings (later + 1), k) := by
  have hdown : (ended name openings later).registry.isShutDown = true := rfl
  simp only [openPubSub, Facilities.openPubSub_of_shutDown hdown]
  simp [ended, List.replicate_succ']

theorem shutDown_live :
    (live name openings).shutDown f k =
      (ended name openings 0, f.closeAll (closingOrder (opened openings)) k) := by
  have hlive : (live name openings).registry.isShutDown = false := rfl
  rw [shutDown, Facilities.shutDown_journaled hlive, ended, List.replicate_zero, List.append_nil]
  rfl

theorem shutDown_ended :
    (ended name openings later).shutDown f k = (ended name openings later, k) := by
  have hdown : (ended name openings later).registry.isShutDown = true := rfl
  simp only [shutDown, Facilities.shutDown_of_shutDown hdown]

end Books

/-- **What the books of a client tell** after some operations. As long as it is not shut down, every
time somebody asks for a connection is an opening. Once it is, nothing is called any more, and
whoever asks is refused. -/
inductive Accounted (name : String) : List (Op β) → Books → Prop
  | live {ops : List (Op β)} (openings : List Opening)
      (hops : ops.any Op.isShutDown = false)
      (hcount : openings.length = ops.countP Op.isOpening) :
      Accounted name ops (.live name openings)
  | ended {before after : List (Op β)} (openings : List Opening)
      (hbefore : before.any Op.isShutDown = false)
      (hcount : openings.length = before.countP Op.isOpening) :
      Accounted name (before ++ .shutDown :: after)
        (.ended name openings (after.countP Op.isOpening))

namespace Accounted

variable {name : String} {ops : List (Op β)} {b : Books}

theorem nil : Accounted name ([] : List (Op β)) {} := .live [] rfl rfl

/-- Nothing happens after the shutdown but that those who ask are refused. -/
theorem ended_concat {before after : List (Op β)} (openings : List Opening)
    (hbefore : before.any Op.isShutDown = false)
    (hcount : openings.length = before.countP Op.isOpening) (op : Op β) :
    Accounted name (before ++ .shutDown :: after ++ [op])
      (.ended name openings (after.countP Op.isOpening + op.isOpening.toNat)) := by
  have hafter : (after ++ [op]).countP Op.isOpening
      = after.countP Op.isOpening + op.isOpening.toNat := by
    rw [List.countP_append, List.countP_singleton]
    cases op.isOpening <;> rfl
  rw [List.append_assoc, List.cons_append, ← hafter]
  exact .ended openings hbefore hcount

theorem use (h : Accounted name ops b) (u : β) : Accounted name (ops ++ [.use u]) b := by
  cases h with
  | live openings hops hcount =>
    refine .live openings ?_ ?_
    · simpa [Op.isShutDown] using hops
    · simpa [Op.isOpening] using hcount
  | ended openings hbefore hcount => exact ended_concat openings hbefore hcount (.use u)

theorem openPubSub (h : Accounted name ops b) (f : Facilities κ) (k : κ) :
    Accounted name (ops ++ [.openPubSub]) (b.openPubSub f name k).1 := by
  cases h with
  | live openings hops hcount =>
    obtain ⟨o, k', heq⟩ := Books.openPubSub_live f name openings k
    rw [heq]
    refine .live (openings ++ [o]) ?_ ?_
    · simpa [Op.isShutDown] using hops
    · simpa [Op.isOpening] using hcount
  | ended openings hbefore hcount =>
    rw [Books.openPubSub_ended]
    exact ended_concat openings hbefore hcount .openPubSub

theorem shutDown (h : Accounted name ops b) (f : Facilities κ) (k : κ) :
    Accounted name (ops ++ [.shutDown]) (b.shutDown f k).1 := by
  cases h with
  | live openings hops hcount =>
    rw [Books.shutDown_live]
    exact .ended openings hops hcount
  | ended openings hbefore hcount =>
    rw [Books.shutDown_ended]
    exact ended_concat openings hbefore hcount .shutDown

/-- A client is shut down exactly if somebody did that. -/
theorem isShutDown (h : Accounted name ops b) :
    b.registry.isShutDown = ops.any Op.isShutDown := by
  cases h with
  | live openings hops hcount => exact hops.symm
  | ended openings hbefore hcount => simp [Books.ended, Op.isShutDown]

/-- The registry holds what was opened, until the client is shut down. -/
theorem records (h : Accounted name ops b) :
    b.registry.records = if b.registry.isShutDown then [] else b.created := by
  cases h with
  | live openings hops hcount => rfl
  | ended openings hbefore hcount => rfl

/-- The last calls of a client that was shut down closed everything that was opened. -/
theorem exists_closing (h : Accounted name ops b) (hdown : b.registry.isShutDown = true) :
    ∃ calls, b.journal = calls ++ (closingOrder b.created).map .closed := by
  cases h with
  | live openings hops hcount => cases hdown
  | ended openings hbefore hcount =>
    rw [Books.created_ended]
    exact ⟨_, rfl⟩

end Accounted

/-- **The books of every client**, in any surroundings. -/
theorem accounted_run (f : Facilities κ) (name : String) (k : κ) (ops : List (Op (κ → κ))) :
    Accounted name ops (Books.run f name ({}, k) ops).1 := by
  have hrun (before after : List (Op (κ → κ))) (s : Books × κ) (h : Accounted name before s.1) :
      Accounted name (before ++ after) (Books.run f name s after).1 := by
    induction after generalizing before s with
    | nil => simpa [Books.run] using h
    | cons op after ih =>
      rw [List.append_cons]
      refine ih (before ++ [op]) (Books.step f name s op) ?_
      cases op with
      | openPubSub => exact h.openPubSub f s.2
      | shutDown => exact h.shutDown f s.2
      | use change => exact h.use change
  exact hrun [] ops ({}, k) .nil

/-! ### The journal only looks on -/

namespace Books

variable (f : Facilities κ) (name : String) (b : Books) (k : κ)

theorem openPubSub_plain :
    ∃ journal, b.openPubSub f name k =
      (⟨(f.openPubSub name b.registry k).2.1, journal,
        b.results ++ [(f.openPubSub name b.registry k).1]⟩,
        (f.openPubSub name b.registry k).2.2) := by
  cases h : b.registry.isShutDown with
  | true =>
    refine ⟨b.journal, ?_⟩
    simp only [openPubSub, Facilities.openPubSub_of_shutDown h]
  | false =>
    obtain ⟨o, k', hplain, hjournaled⟩ := f.exists_opening name h k
    refine ⟨b.journal ++ o.calls (contextName name), ?_⟩
    rw [openPubSub, hjournaled, hplain]

theorem shutDown_plain :
    ∃ journal, b.shutDown f k =
      (⟨(f.shutDown b.registry k).1, journal, b.results⟩, (f.shutDown b.registry k).2) := by
  cases h : b.registry.isShutDown with
  | true =>
    refine ⟨b.journal, ?_⟩
    simp only [shutDown, Facilities.shutDown_of_shutDown h]
  | false =>
    refine ⟨b.journal ++ (closingOrder b.registry.records).map .closed, ?_⟩
    rw [shutDown, Facilities.shutDown_journaled h, Facilities.shutDown_eq h]

/-- Whoever leaves the books aside finds what there would be without them. -/
theorem run_plain (s : Books × κ) (ops : List (Op (κ → κ))) :
    ((run f name s ops).1.registry, (run f name s ops).2) = f.run name (s.1.registry, s.2) ops := by
  induction ops generalizing s with
  | nil => rfl
  | cons op ops ih =>
    refine (ih (step f name s op)).trans (congrArg (f.run name · ops) ?_)
    cases op with
    | openPubSub =>
      obtain ⟨journal, heq⟩ := s.1.openPubSub_plain f name s.2
      simp only [step, heq]
      rfl
    | shutDown =>
      obtain ⟨journal, heq⟩ := s.1.shutDown_plain f s.2
      simp only [step, heq]
      rfl
    | use change => rfl

end Books

end ClusterGuard.Client
