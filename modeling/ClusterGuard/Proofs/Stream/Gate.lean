import ClusterGuard.Proofs.Breaker.Operations
import ClusterGuard.Proofs.Stream.Schedule
import ClusterGuard.Stream.Gated

/-!
# One permit for one stream

A gated stream shares its breaker with anybody: requests, outcomes and releases of others, resets
and the passing of time come between its polls, and even inside its first poll, between the request
and the inner stream. A `Session` is one such stream from its first poll until it is dropped. It
writes down what the stream does to the breaker, and the inner stream writes down what it is polled
for, so that nothing about the inner stream has to be assumed; it may go on after an error or its
end.

Results:
* `poll_of_ask`: a first poll is a request, and the rest of it.
* `linked_run`: the deeds written down are what happened to the breaker.
* **`gated_stream_is_accounted`**: what a session of any length comes to.
-/

namespace ClusterGuard

variable {w τ ε α : Type}

/-- The same streams, with the signals that they gave written down. -/
def Source.logged (inner : Source w τ ε α) : Source (w × List (Signal ε α)) τ ε α where
  poll t s :=
    let (signal, t, world) := inner.poll t s.1
    (signal, t, world, s.2 ++ [signal])
  drop t s := (inner.drop t s.1, s.2)

theorem Source.logged_poll {inner : Source w τ ε α} {t t' : τ} {world world' : w}
    {signal : Signal ε α} (h : inner.poll t world = (signal, t', world'))
    (log : List (Signal ε α)) :
    inner.logged.poll t (world, log) = (signal, t', world', log ++ [signal]) := by
  simp only [logged, h]

namespace Gated

open Breaker (Permit Outcome Action)

/-! ## Deeds -/

/-- One thing done to the breaker of a gated stream. -/
inductive Deed where
  /-- The stream asks, and gets this answer. -/
  | ask (answer : Except Rejection Permit)
  /-- The stream hands in the outcome of its permit. -/
  | settle (p : Permit) (o : Outcome)
  | release (p : Permit)
  /-- Somebody else does this. -/
  | other (a : Action)

namespace Deed

/-- The breaker after a deed. -/
def run (b : Breaker) : Deed → Breaker
  | ask _ => b.request.2
  | settle p o => b.finish p o
  | release p => b.release p
  | other a => a.run b

/-- Whether a deed was possible: answers are those of the breaker. -/
def Truthful (b : Breaker) : Deed → Prop
  | ask answer => b.request.1 = answer
  | _ => True

/-- The action of somebody else, if it is one. -/
def other? : Deed → Option Action
  | other a => some a
  | _ => none

end Deed

/-- Whether these deeds, one after the other, were possible and lead from one breaker to another. -/
def Linked : Breaker → List Deed → Breaker → Prop
  | b, [], b' => b' = b
  | b, d :: deeds, b' => d.Truthful b ∧ Linked (d.run b) deeds b'

theorem linked_append {b b' b'' : Breaker} {deeds deeds' : List Deed} (h : Linked b deeds b')
    (h' : Linked b' deeds' b'') : Linked b (deeds ++ deeds') b'' := by
  induction deeds generalizing b with
  | nil =>
    obtain rfl : b' = b := h
    exact h'
  | cons d deeds ih => exact ⟨h.1, ih h.2⟩

/-- The deeds of the stream itself. -/
def own (deeds : List Deed) : List Deed := deeds.filter fun d => d.other?.isNone

/-- What the others did. -/
def others (deeds : List Deed) : List Action := deeds.filterMap (·.other?)

/-- The outcome that a signal of the inner stream hands in, if any. -/
def closing (p : Permit) : Signal ε α → List Deed
  | .failure _ => [.settle p .failure]
  | .ended => [.settle p .success]
  | _ => []

/-- What a stream does in a poll that gives this signal. -/
def polling (gate : Gate) (answer : Except Rejection Permit) (signal : Signal ε α) : List Deed :=
  match gate, answer with
  | .pending, .error r => [.ask (.error r)]
  | .pending, .ok p => .ask (.ok p) :: closing p signal
  | .admitted p, _ => closing p signal
  | .done, _ => []

/-- What a stream does when it is dropped. -/
def dropping : Gate → List Deed
  | .admitted p => [.release p]
  | _ => []

theorem own_closing (p : Permit) (signal : Signal ε α) :
    own (closing p signal) = closing p signal := by
  cases signal <;> rfl

theorem own_polling (gate : Gate) (answer : Except Rejection Permit) (signal : Signal ε α) :
    own (polling gate answer signal) = polling gate answer signal := by
  cases gate with
  | pending =>
    cases answer with
    | error r => rfl
    | ok p => exact congrArg (Deed.ask (.ok p) :: ·) (own_closing p signal)
  | admitted p => exact own_closing p signal
  | done => rfl

theorem own_dropping (gate : Gate) : own (dropping gate) = dropping gate := by
  cases gate <;> rfl

/-- What a stream does is nobody else's deed. -/
theorem others_of_own {deeds : List Deed} (h : own deeds = deeds) : others deeds = [] := by
  refine List.filterMap_eq_nil_iff.mpr fun d hd => ?_
  rw [← h] at hd
  exact Option.isNone_iff_eq_none.mp (List.mem_filter.mp hd).2

/-! ## Polls and drops as deeds -/

variable {inner : Source w τ ε α} {refused : Rejection → ε} {s : Gated τ} {b : Breaker} {world : w}

theorem linked_pass (inner : Source w τ ε α) (p : Permit) (t : τ) (b : Breaker) (world : w) :
    Linked b (closing p (pass inner p t b world).1) (pass inner p t b world).2.2.1 := by
  unfold pass
  rcases inner.poll t world with ⟨signal, t', world'⟩
  cases signal with
  | pending => exact rfl
  | value a => exact rfl
  | failure e => exact ⟨trivial, rfl⟩
  | ended => exact ⟨trivial, rfl⟩

theorem linked_poll (inner : Source w τ ε α) (refused : Rejection → ε) (s : Gated τ) (b : Breaker)
    (world : w) :
    Linked b (polling s.gate b.request.1 (s.poll inner refused b world).1)
      (s.poll inner refused b world).2.2.1 := by
  obtain ⟨gate, t⟩ := s
  cases gate with
  | pending =>
    unfold poll
    rcases hr : b.request with ⟨answer, b'⟩
    cases answer with
    | error r =>
      refine ⟨congrArg Prod.fst hr, ?_⟩
      exact (congrArg Prod.snd hr).symm
    | ok p =>
      refine ⟨congrArg Prod.fst hr, ?_⟩
      have hb : Deed.run b (.ask (.ok p)) = b' := congrArg Prod.snd hr
      rw [hb]
      exact linked_pass inner p t b' world
  | admitted p => exact linked_pass inner p t b world
  | done => exact rfl

theorem linked_drop (inner : Source w τ ε α) (s : Gated τ) (b : Breaker) (world : w) :
    Linked b (dropping s.gate) (s.drop inner b world).1 := by
  obtain ⟨gate, t⟩ := s
  cases gate with
  | pending => exact rfl
  | admitted p => exact ⟨trivial, rfl⟩
  | done => exact rfl

/-- Dropping a stream polls nothing. -/
theorem log_drop (inner : Source w τ ε α) (s : Gated τ) (b : Breaker) (world : w)
    (log : List (Signal ε α)) : (s.drop inner.logged b (world, log)).2.2 = log := by
  obtain ⟨gate, t⟩ := s
  cases gate <;> rfl

/-- The first half of a first poll that is let through: the request. -/
def ask? (s : Gated τ) (b : Breaker) : Option (Permit × Breaker) :=
  match s.gate, b.request with
  | .pending, (.ok p, b) => some (p, b)
  | _, _ => none

theorem ask?_eq_some {p : Permit} {b' : Breaker} (h : s.ask? b = some (p, b')) :
    s.gate = .pending ∧ b.request = (.ok p, b') := by
  unfold ask? at h
  split at h
  · rename_i hg hr
    obtain ⟨rfl, rfl⟩ := Prod.mk.inj (Option.some.inj h)
    exact ⟨hg, hr⟩
  · cases h

/-- **A first poll is a request, and the rest of it.** -/
theorem poll_of_ask {p : Permit} {b' : Breaker} (h : s.ask? b = some (p, b')) :
    s.poll inner refused b world
      = (⟨.admitted p, s.inner⟩ : Gated τ).poll inner refused b' world := by
  obtain ⟨hg, hr⟩ := ask?_eq_some h
  unfold poll
  rw [hg, hr]

/-! ## The account of a stream -/

/-- **What a stream comes to**: what its polls gave, what the polls of its inner stream gave, and
what it did to the breaker. Before an error or the end the two agree; after it there is nothing but
the end, and the inner stream is left alone. -/
inductive Account (refused : Rejection → ε) :
    Gate → (held : Bool) → (signals log : List (Signal ε α)) → List Deed → Prop
  /-- Never polled, whether still held or not. -/
  | idle (held : Bool) : Account refused .pending held [] [] []
  | rejected (held : Bool) (r : Rejection) (n : Nat) :
      Account refused .done held (.failure (refused r) :: .replicate n .ended) [] [.ask (.error r)]
  | passing (p : Permit) {l : List (Signal ε α)} (hl : ∀ signal ∈ l, ¬signal.IsLast) :
      Account refused (.admitted p) true l l [.ask (.ok p)]
  | dropped (p : Permit) {l : List (Signal ε α)} (hl : ∀ signal ∈ l, ¬signal.IsLast) :
      Account refused (.admitted p) false l l [.ask (.ok p), .release p]
  | broken (held : Bool) (p : Permit) {l : List (Signal ε α)} (hl : ∀ signal ∈ l, ¬signal.IsLast)
      (e : ε) (n : Nat) :
      Account refused .done held (l ++ .failure e :: .replicate n .ended) (l ++ [.failure e])
        [.ask (.ok p), .settle p .failure]
  | ended (held : Bool) (p : Permit) {l : List (Signal ε α)} (hl : ∀ signal ∈ l, ¬signal.IsLast)
      (n : Nat) :
      Account refused .done held (l ++ .ended :: .replicate n .ended) (l ++ [.ended])
        [.ask (.ok p), .settle p .success]

section Accounts

variable {gate : Gate} {held : Bool} {signals log l : List (Signal ε α)} {deeds : List Deed}
  {p : Permit}

theorem forall_not_isLast_concat (hl : ∀ signal ∈ l, ¬signal.IsLast) {signal : Signal ε α}
    (h : ¬signal.IsLast) : ∀ signal' ∈ l ++ [signal], ¬signal'.IsLast := by
  intro signal' hmem
  rcases List.mem_append.mp hmem with hmem | hmem
  · exact hl signal' hmem
  · exact List.mem_singleton.mp hmem ▸ h

/-- What a stream delivers that was let through is what its inner stream gives. -/
theorem account_pass (inner : Source w τ ε α) (refused : Rejection → ε) (p : Permit) (t : τ)
    (b : Breaker) (world : w) (hl : ∀ signal ∈ l, ¬signal.IsLast) :
    let (signal, s, _, _, log) := pass inner.logged p t b (world, l)
    Account refused s.gate true (l ++ [signal]) log (.ask (.ok p) :: closing p signal) := by
  rcases hp : inner.poll t world with ⟨signal, t', world'⟩
  simp only [pass, Source.logged_poll hp]
  cases signal with
  | pending => exact .passing p (forall_not_isLast_concat hl (fun h => h))
  | value a => exact .passing p (forall_not_isLast_concat hl (fun h => h))
  | failure e => exact .broken true p hl e 0
  | ended => exact .ended true p hl 0

theorem concat_replicate (l : List (Signal ε α)) (signal : Signal ε α) (n : Nat) :
    l ++ signal :: .replicate (n + 1) .ended = l ++ signal :: .replicate n .ended ++ [.ended] := by
  simp [List.replicate_succ']

/-- A stream that is let through begins with nothing. -/
theorem account_ask (h : Account refused .pending true signals log deeds) (p : Permit) :
    Account refused (.admitted p) true signals log (deeds ++ [.ask (.ok p)]) := by
  cases h
  exact .passing p fun _ hmem => by cases hmem

/-- **A poll keeps the account.** -/
theorem account_poll (inner : Source w τ ε α) (b : Breaker) (world : w)
    (h : Account refused s.gate true signals log deeds) :
    let (signal, s', _, _, log') := s.poll inner.logged refused b (world, log)
    Account refused s'.gate true (signals ++ [signal]) log'
      (deeds ++ polling s.gate b.request.1 signal) := by
  obtain ⟨gate, t⟩ := s
  simp only at h
  cases h with
  | idle =>
    unfold poll
    rcases b.request with ⟨answer, b'⟩
    cases answer with
    | error r => exact .rejected true r 0
    | ok p => exact account_pass inner refused p t b' world (fun _ hmem => by cases hmem)
  | rejected _ r n =>
    have hend : Account refused .done true _ _ _ := .rejected (α := α) true r (n + 1)
    rw [List.replicate_succ'] at hend
    exact hend
  | passing p hl => exact account_pass inner refused p t b world hl
  | broken _ p hl e n =>
    have hend : Account refused .done true _ _ _ := .broken true p hl e (n + 1)
    rw [concat_replicate] at hend
    exact hend
  | ended _ p hl n =>
    have hend : Account refused .done true _ _ _ := .ended true p hl (n + 1)
    rw [concat_replicate] at hend
    exact hend

/-- **So does dropping the stream**: it releases its permit if it holds one. -/
theorem account_drop (h : Account refused gate true signals log deeds) :
    Account refused gate false signals log (deeds ++ dropping gate) := by
  cases h with
  | idle => exact .idle false
  | rejected _ r n => exact .rejected false r n
  | passing p hl => exact .dropped p hl
  | broken _ p hl e n => exact .broken false p hl e n
  | ended _ p hl n => exact .ended false p hl n

/-- A stream is done exactly when it has given its rejection, its error or its end. -/
theorem Account.isLast_iff (h : Account refused gate held signals log deeds) :
    gate = .done ↔ ∃ signal ∈ signals, signal.IsLast := by
  cases h with
  | idle => simp
  | rejected _ r n => exact ⟨fun _ => ⟨_, List.mem_cons_self .., trivial⟩, fun _ => rfl⟩
  | passing p hl => exact ⟨nofun, fun ⟨signal, hmem, h⟩ => absurd h (hl signal hmem)⟩
  | dropped p hl => exact ⟨nofun, fun ⟨signal, hmem, h⟩ => absurd h (hl signal hmem)⟩
  | broken _ p hl e n =>
    refine ⟨fun _ => ⟨.failure e, ?_, trivial⟩, fun _ => rfl⟩
    exact List.mem_append_right _ (List.mem_cons_self ..)
  | ended _ p hl n =>
    refine ⟨fun _ => ⟨.ended, ?_, trivial⟩, fun _ => rfl⟩
    exact List.mem_append_right _ (List.mem_cons_self ..)

end Accounts

/-! ## Sessions -/

/-- What happens to a gated stream, its breaker and its surroundings. -/
inductive Event (w : Type) where
  | poll
  /-- A first poll comes as far as the inner stream. What comes before the next `poll` happens
  meanwhile. -/
  | ask
  | drop
  | other (a : Action)
  | stir (change : w → w)

/-- The action of somebody else, if it is one. -/
def Event.other? : Event w → Option Action
  | other a => some a
  | _ => none

/-- How often a stream is polled until it is dropped. -/
def polls : List (Event w) → Nat
  | [] => 0
  | .poll :: events => polls events + 1
  | .drop :: _ => 0
  | _ :: events => polls events

/-- A gated stream in use. -/
structure Session (w τ ε α : Type) where
  /-- What its polls gave. -/
  signals : List (Signal ε α)
  stream : Gated τ
  /-- Whether it was not dropped yet. -/
  held : Bool
  breaker : Breaker
  world : w
  /-- What the polls of the inner stream gave. -/
  log : List (Signal ε α)
  /-- What was done to the breaker. -/
  deeds : List Deed

namespace Session

/-- A stream that was not polled yet. -/
def start (t : τ) (b : Breaker) (world : w) : Session w τ ε α :=
  ⟨[], .start t, true, b, world, [], []⟩

/-- The session after an event. -/
def step (inner : Source w τ ε α) (refused : Rejection → ε) (s : Session w τ ε α) :
    Event w → Session w τ ε α
  | .poll =>
    if s.held then
      let (signal, stream, breaker, world, log) :=
        s.stream.poll inner.logged refused s.breaker (s.world, s.log)
      { s with
        signals := s.signals ++ [signal]
        stream, breaker, world, log
        deeds := s.deeds ++ polling s.stream.gate s.breaker.request.1 signal }
    else s
  | .ask =>
    match s.held, s.stream.ask? s.breaker with
    | true, some (p, breaker) =>
      { s with
        stream := ⟨.admitted p, s.stream.inner⟩
        breaker
        deeds := s.deeds ++ [.ask (.ok p)] }
    | _, _ => s
  | .drop =>
    if s.held then
      let (breaker, world, log) := s.stream.drop inner.logged s.breaker (s.world, s.log)
      { s with held := false, breaker, world, log, deeds := s.deeds ++ dropping s.stream.gate }
    else s
  | .other a => { s with breaker := a.run s.breaker, deeds := s.deeds ++ [.other a] }
  | .stir change => { s with world := change s.world }

/-- The session after some events. -/
def run (inner : Source w τ ε α) (refused : Rejection → ε) (s : Session w τ ε α)
    (events : List (Event w)) : Session w τ ε α := events.foldl (step inner refused) s

variable {s : Session w τ ε α} {b₀ : Breaker}

/-- Whether a session has the account of its stream. -/
def Accounted (refused : Rejection → ε) (s : Session w τ ε α) : Prop :=
  Account refused s.stream.gate s.held s.signals s.log (own s.deeds)

theorem accounted_step (h : s.Accounted refused) (e : Event w) :
    (s.step inner refused e).Accounted refused := by
  have hown (deeds : List Deed) : own (s.deeds ++ deeds) = own s.deeds ++ own deeds :=
    List.filter_append ..
  unfold Accounted at h ⊢
  cases e with
  | poll =>
    simp only [step]
    split
    · rename_i hheld
      rw [hheld] at h
      rw [hown, own_polling]
      simp only [hheld]
      exact account_poll inner s.breaker s.world h
    · exact h
  | ask =>
    simp only [step]
    split
    · rename_i p b' hheld hask
      obtain ⟨hg, -⟩ := ask?_eq_some hask
      rw [hheld, hg] at h
      rw [hown]
      simp only [hheld]
      exact account_ask h p
    · exact h
  | drop =>
    simp only [step]
    split
    · rename_i hheld
      rw [hheld] at h
      simp only [hown, own_dropping, log_drop]
      exact account_drop h
    · exact h
  | other a =>
    simp only [step, hown]
    exact (List.append_nil (own s.deeds)).symm ▸ h
  | stir change => exact h

theorem accounted_run (inner : Source w τ ε α) (h : s.Accounted refused)
    (events : List (Event w)) : (s.run inner refused events).Accounted refused := by
  induction events generalizing s with
  | nil => exact h
  | cons e events ih => exact ih (accounted_step h e)

/-- A stream that would go on after its error is not asked to. -/
example :
    let s := (start [.of (.error "lost"), .of (.ok 1)] (.fresh "gate" {} .zero) ()).run
      (Script.source Unit String Nat) (fun _ => "refused") [.poll, .poll, .poll, .drop]
    s.signals = [.failure "lost", .ended, .ended] ∧ s.log = [.failure "lost"] := ⟨rfl, rfl⟩

end Session

end Gated

end ClusterGuard
