import ClusterGuard.Proofs.Stream.Gate
import ClusterGuard.Proofs.Stream.Rounds
import Mathlib.Data.List.Basic
import Mathlib.Logic.Function.Basic

/-!
# Books of gated streams

Where many streams stand behind one breaker, each has a book: what its polls gave, what those of its
inner stream gave, and what it did to the breaker. The books are balanced while the deeds in them,
one book after the other, are what was done to the breaker, and each book is the account of its
stream.

Results:
* `Account.answers`, `Account.settled`: a stream asks once, and hands in one outcome at most.
* `Account.single`, `Single.append`: never are two permits live, of one stream or of several that
  follow each other.
* **`balanced_poll`**, `Balanced.ask`, `Balanced.drop`: the last stream keeps the books balanced.
* **`booked_shows`**: keeping the books makes no difference to a stream.
-/

namespace ClusterGuard

open Breaker (Permit Outcome Action)

variable {w τ ε α : Type}

/-- The last of some lists that are put together comes at the end. -/
theorem flatMap_range_succ (f : Nat → List α) (n : Nat) :
    (List.range (n + 1)).flatMap f = (List.range n).flatMap f ++ f n := by
  rw [List.range_succ, List.flatMap_append, List.flatMap_singleton]

/-- The value that a signal delivers, if it delivers one. -/
def Signal.value? : Signal ε α → Option α
  | value a => some a
  | _ => none

/-- The error that a signal delivers, if it delivers one. -/
def Signal.error? : Signal ε α → Option ε
  | failure e => some e
  | _ => none

/-- The outcome that a signal is for a breaker, if it is one. -/
def Signal.outcome? : Signal ε α → Option Outcome
  | failure _ => some .failure
  | ended => some .success
  | _ => none

namespace Signal

variable {signal : Signal ε α}

/-- A result is a value or an error. -/
theorem toList_result? (signal : Signal ε α) :
    signal.result?.toList = signal.value?.toList.map .ok ++ signal.error?.toList.map .error := by
  cases signal <;> rfl

theorem value?_of_isLast (h : signal.IsLast) : signal.value? = none := by
  cases signal with
  | pending => cases h
  | value a => cases h
  | failure e => rfl
  | ended => rfl

theorem error?_of_not_isLast (h : ¬signal.IsLast) : signal.error? = none := by
  cases signal with
  | pending => rfl
  | value a => rfl
  | failure e => exact absurd trivial h
  | ended => rfl

theorem outcome?_of_not_isLast (h : ¬signal.IsLast) : signal.outcome? = none := by
  cases signal with
  | pending => rfl
  | value a => rfl
  | failure e => exact absurd trivial h
  | ended => exact absurd trivial h

end Signal

/-- The permit that is held at a gate. -/
def Gate.permit? : Gate → Option Permit
  | admitted p => some p
  | _ => none

namespace Gated

/-! ## What a stream does, by its account -/

namespace Deed

/-- The answer to a request, if this is one. -/
def answer? : Deed → Option (Except Rejection Permit)
  | ask answer => some answer
  | _ => none

/-- The outcome that is handed in, if one is. -/
def outcome? : Deed → Option Outcome
  | settle _ o => some o
  | _ => none

/-- The permits that are live after a deed: granted, and neither handed in nor released. -/
def hold (live : List Permit) : Deed → List Permit
  | ask (.ok p) => live ++ [p]
  | settle p _ => live.erase p
  | release p => live.erase p
  | _ => live

end Deed

/-- Whether there are no two live permits at any moment of these deeds. -/
def Single (deeds : List Deed) : Prop :=
  ∀ l, l <+: deeds → (l.foldl Deed.hold []).length ≤ 1

section Accounts

variable {refused : Rejection → ε} {gate : Gate} {held : Bool} {signals log : List (Signal ε α)}
  {deeds : List Deed}

theorem outcomes_eq_nil {l : List (Signal ε α)} (h : ∀ signal ∈ l, ¬signal.IsLast) :
    l.filterMap (·.outcome?) = [] :=
  List.filterMap_eq_nil_iff.mpr fun signal hmem => Signal.outcome?_of_not_isLast (h signal hmem)

/-- A stream that was polled asked once. -/
theorem Account.answers (h : Account refused gate held signals log deeds) :
    (deeds.filterMap (·.answer?)).length = if gate = .pending then 0 else 1 := by
  cases h <;> rfl

/-- The outcomes handed in are those that the inner stream came to. -/
theorem Account.outcomes (h : Account refused gate held signals log deeds) :
    deeds.filterMap (·.outcome?) = log.filterMap (·.outcome?) := by
  cases h with
  | idle => rfl
  | rejected => rfl
  | passing p hl => exact (outcomes_eq_nil hl).symm
  | dropped p hl => exact (outcomes_eq_nil hl).symm
  | broken _ p hl e n =>
    rw [List.filterMap_append, outcomes_eq_nil hl]
    rfl
  | ended _ p hl n =>
    rw [List.filterMap_append, outcomes_eq_nil hl]
    rfl

/-- A stream holds the permit at its gate, and no other. -/
theorem Account.live (h : Account refused gate held signals log deeds) :
    deeds.foldl Deed.hold [] = if held then gate.permit?.toList else [] := by
  cases h with
  | idle held => cases held <;> rfl
  | rejected held r n => cases held <;> rfl
  | passing p hl => rfl
  | dropped p hl => simp [Deed.hold]
  | broken held p hl e n => cases held <;> simp [Deed.hold, Gate.permit?]
  | ended held p hl n => cases held <;> simp [Deed.hold, Gate.permit?]

/-- A stream that is rejected does nothing else, leaves its inner stream alone, and delivers the
rejection. -/
theorem Account.rejection (h : Account refused gate held signals log deeds) {r : Rejection}
    (hr : .ask (.error r) ∈ deeds) :
    deeds = [.ask (.error r)] ∧ log = [] ∧
      ∃ n, signals = .failure (refused r) :: .replicate n .ended := by
  cases h with
  | rejected held r' n =>
    obtain rfl : r = r' := by simpa using hr
    exact ⟨rfl, rfl, n, rfl⟩
  | idle => simp at hr
  | passing => simp at hr
  | dropped => simp at hr
  | broken => simp at hr
  | ended => simp at hr

/-- A stream that was not polled has done nothing. -/
theorem Account.of_pending (h : Account refused .pending held signals log deeds) :
    signals = [] ∧ log = [] ∧ deeds = [] := by
  cases h
  exact ⟨rfl, rfl, rfl⟩

/-- Before it is done, a stream has neither failed nor ended. -/
theorem Account.not_isLast (h : Account refused gate held signals log deeds) (hg : gate ≠ .done) :
    ∀ signal ∈ signals, ¬signal.IsLast :=
  fun signal hmem hl => hg (h.isLast_iff.mpr ⟨signal, hmem, hl⟩)

theorem single_nil : Single [] := by
  intro l hl
  rw [List.prefix_nil.mp hl]
  exact Nat.zero_le 1

theorem Single.concat {d : Deed} (h : Single deeds)
    (hd : ((deeds ++ [d]).foldl Deed.hold []).length ≤ 1) : Single (deeds ++ [d]) := by
  intro l hl
  rcases List.prefix_concat_iff.mp hl with rfl | hl
  · exact hd
  · exact h l hl

/-- Deeds that leave no permit live may be followed by others. -/
theorem Single.append {deeds' : List Deed} (h : Single deeds)
    (hnone : deeds.foldl Deed.hold [] = []) (h' : Single deeds') : Single (deeds ++ deeds') := by
  intro l hl
  rcases List.prefix_or_prefix_of_prefix hl (List.prefix_append deeds deeds') with hl | ⟨rest, rfl⟩
  · exact h l hl
  · rw [List.foldl_append, hnone]
    exact h' rest ((List.prefix_append_right_inj deeds).mp hl)

/-- A stream has one permit at most. -/
theorem Account.single (h : Account refused gate held signals log deeds) : Single deeds := by
  have hask (answer : Except Rejection Permit) : Single [.ask answer] :=
    single_nil.concat (by cases answer <;> exact Nat.le_of_ble_eq_true rfl)
  cases h with
  | idle => exact single_nil
  | rejected held r n => exact hask _
  | passing p hl => exact hask _
  | dropped p hl => exact (hask _).concat (by simp [Deed.hold])
  | broken held p hl e n => exact (hask _).concat (by simp [Deed.hold])
  | ended held p hl n => exact (hask _).concat (by simp [Deed.hold])

/-- A stream that is done was rejected, or handed in the outcome that its inner stream came to. -/
theorem Account.settled (h : Account refused gate held signals log deeds) (hg : gate = .done) :
    (∃ r, deeds = [.ask (.error r)]) ∨
      ∃ p o, deeds = [.ask (.ok p), .settle p o] ∧ log.filterMap (·.outcome?) = [o] := by
  have houtcomes := h.outcomes
  cases h with
  | rejected held r n => exact .inl ⟨r, rfl⟩
  | broken held p hl e n => exact .inr ⟨p, .failure, rfl, houtcomes.symm⟩
  | ended held p hl n => exact .inr ⟨p, .success, rfl, houtcomes.symm⟩
  | idle => cases hg
  | passing => cases hg
  | dropped => cases hg

/-- An account does not change when a stream is dropped that holds no permit. -/
theorem Account.left (h : Account refused gate true signals log deeds) (hg : gate.permit? = none) :
    Account refused gate false signals log deeds := by
  have hdropped := account_drop h
  cases gate with
  | pending => simpa [dropping] using hdropped
  | admitted p => cases hg
  | done => simpa [dropping] using hdropped

end Accounts

/-- Streams one after the other, none of which keeps a permit. -/
theorem live_flatMap_range {n : Nat} {deeds : Nat → List Deed}
    (h : ∀ j, j < n → (deeds j).foldl Deed.hold [] = []) :
    ((List.range n).flatMap deeds).foldl Deed.hold [] = [] := by
  induction n with
  | zero => rfl
  | succ n ih =>
    rw [flatMap_range_succ, List.foldl_append, ih fun j hj => h j (Nat.lt_succ_of_lt hj),
      h n (Nat.lt_succ_self n)]

theorem single_flatMap_range {n : Nat} {deeds : Nat → List Deed} (hone : ∀ j, Single (deeds j))
    (h : ∀ j, j + 1 < n → (deeds j).foldl Deed.hold [] = []) :
    Single ((List.range n).flatMap deeds) := by
  induction n with
  | zero => exact single_nil
  | succ n ih =>
    rw [flatMap_range_succ]
    refine Single.append (ih fun j hj => h j (Nat.lt_succ_of_lt hj)) ?_ (hone n)
    exact live_flatMap_range fun j hj => h j (Nat.succ_lt_succ hj)

/-! ## Books -/

/-- What is noted of one subscription: what its polls gave, what those of its inner stream gave, and
what it did to the breaker. -/
structure Book (ε α : Type) where
  signals : List (Signal ε α)
  log : List (Signal ε α)
  deeds : List Deed

/-- The surroundings of gated streams, with a book for each. -/
structure Office (w ε α : Type) where
  breaker : Breaker
  world : w
  books : Nat → Book ε α
  /-- What was done to the breaker, by anybody. -/
  deeds : List Deed

namespace Office

/-- Enters into one book what a stream signalled and did. -/
def enter (o : Office w ε α) (k : Nat) (signals : List (Signal ε α)) (deeds : List Deed)
    (after : Breaker × w × List (Signal ε α)) : Office w ε α where
  breaker := after.1
  world := after.2.1
  books := Function.update o.books k
    ⟨(o.books k).signals ++ signals, after.2.2, (o.books k).deeds ++ deeds⟩
  deeds := o.deeds ++ deeds

/-- The surroundings after somebody else has done something to the breaker. -/
def act (o : Office w ε α) (a : Action) : Office w ε α :=
  { o with breaker := a.run o.breaker, deeds := o.deeds ++ [.other a] }

variable {o : Office w ε α} {k : Nat} {signals signals' : List (Signal ε α)}
  {deeds deeds' : List Deed} {after after' : Breaker × w × List (Signal ε α)}

theorem books_enter_self (o : Office w ε α) (k : Nat) (signals : List (Signal ε α))
    (deeds : List Deed) (after : Breaker × w × List (Signal ε α)) :
    (o.enter k signals deeds after).books k
      = ⟨(o.books k).signals ++ signals, after.2.2, (o.books k).deeds ++ deeds⟩ :=
  Function.update_self ..

theorem books_enter_of_ne (o : Office w ε α) {j k : Nat} (h : j ≠ k) (signals : List (Signal ε α))
    (deeds : List Deed) (after : Breaker × w × List (Signal ε α)) :
    (o.enter k signals deeds after).books j = o.books j :=
  Function.update_of_ne h ..

/-- Without signals, the books show the signals that they have shown. -/
theorem signals_enter_nil (o : Office w ε α) (k : Nat) (deeds : List Deed)
    (after : Breaker × w × List (Signal ε α)) (j : Nat) :
    ((o.enter k [] deeds after).books j).signals = (o.books j).signals := by
  by_cases hj : j = k
  · subst hj
    rw [books_enter_self]
    exact List.append_nil _
  · rw [books_enter_of_ne o hj]

theorem enter_enter :
    (o.enter k signals deeds after).enter k signals' deeds' after'
      = o.enter k (signals ++ signals') (deeds ++ deeds') after' := by
  unfold enter
  simp only [Function.update_self, Function.update_idem, List.append_assoc]

end Office

/-- Gated streams that are numbered, and keep the book with their number. -/
def booked (inner : Source w τ ε α) (refused : Rejection → ε) :
    Source (Office w ε α) (Nat × Gated τ) ε α where
  poll t o :=
    let (signal, s, after) :=
      t.2.poll inner.logged refused o.breaker (o.world, (o.books t.1).log)
    (signal, (t.1, s), o.enter t.1 [signal] (polling t.2.gate o.breaker.request.1 signal) after)
  drop t o :=
    o.enter t.1 [] (dropping t.2.gate)
      (t.2.drop inner.logged o.breaker (o.world, (o.books t.1).log))

variable {inner : Source w τ ε α} {refused : Rejection → ε} {b₀ : Breaker} {held : Bool}
  {actions : List Action} {n k : Nat} {gate : Nat → Gate} {o : Office w ε α} {s : Gated τ}

/-- Whether the books are in order, for so many subscriptions whose gates stand like this, when the
others did this. -/
structure Balanced (refused : Rejection → ε) (b₀ : Breaker) (held : Bool) (actions : List Action)
    (n : Nat) (gate : Nat → Gate) (o : Office w ε α) : Prop where
  linked : Linked b₀ o.deeds o.breaker
  others : others o.deeds = actions
  own : own o.deeds = (List.range n).flatMap fun k => (o.books k).deeds
  accounts : ∀ k, Account refused (gate k) held (o.books k).signals (o.books k).log
    (o.books k).deeds

/-- The last of the subscriptions goes on. -/
theorem Balanced.enter {held' : Bool} {gate' : Gate} {signals : List (Signal ε α)}
    {deeds : List Deed} {after : Breaker × w × List (Signal ε α)}
    (h : Balanced refused b₀ held actions (k + 1) gate o)
    (hlinked : Linked o.breaker deeds after.1) (hown : Gated.own deeds = deeds)
    (haccount : Account refused gate' held' ((o.books k).signals ++ signals) after.2.2
      ((o.books k).deeds ++ deeds))
    (hrest : ∀ j, j ≠ k → Account refused (gate j) held' (o.books j).signals (o.books j).log
      (o.books j).deeds) :
    Balanced refused b₀ held' actions (k + 1) (Function.update gate k gate')
      (o.enter k signals deeds after) where
  linked := linked_append h.linked hlinked
  others := by
    refine (List.filterMap_append ..).trans ?_
    refine (congrArg (Gated.others o.deeds ++ ·) (others_of_own hown)).trans ?_
    rw [List.append_nil, h.others]
  own := by
    have hbefore : ((List.range k).flatMap fun j => ((o.enter k signals deeds after).books j).deeds)
        = (List.range k).flatMap fun j => (o.books j).deeds := by
      refine List.flatMap_congr fun j hj => ?_
      rw [o.books_enter_of_ne (Nat.ne_of_lt (List.mem_range.mp hj))]
    have hold := h.own
    rw [flatMap_range_succ] at hold
    rw [flatMap_range_succ, hbefore, o.books_enter_self, ← List.append_assoc, ← hold]
    exact (List.filter_append ..).trans (congrArg (Gated.own o.deeds ++ ·) hown)
  accounts j := by
    by_cases hj : j = k
    · subst hj
      rw [o.books_enter_self, Function.update_self]
      exact haccount
    · rw [o.books_enter_of_ne hj, Function.update_of_ne hj]
      exact hrest j hj

theorem balanced_poll (inner : Source w τ ε α) (h : Balanced refused b₀ true actions (k + 1) gate o)
    (hg : gate k = s.gate) :
    let (_, (_, s'), o') := (booked inner refused).poll (k, s) o
    Balanced refused b₀ true actions (k + 1) (Function.update gate k s'.gate) o' := by
  have haccount := h.accounts k
  rw [hg] at haccount
  have hpolled := account_poll inner o.breaker o.world haccount
  have hlinked := linked_poll inner.logged refused s o.breaker (o.world, (o.books k).log)
  exact h.enter hlinked (own_polling ..) hpolled fun j _ => h.accounts j

/-- The request of a stream that is polled first and let through. -/
theorem Balanced.ask {p : Permit} {b : Breaker}
    (h : Balanced refused b₀ true actions (k + 1) gate o) (hg : gate k = s.gate)
    (hask : s.ask? o.breaker = some (p, b)) :
    Balanced refused b₀ true actions (k + 1) (Function.update gate k (.admitted p))
      (o.enter k [] [.ask (.ok p)] (b, o.world, (o.books k).log)) := by
  obtain ⟨hpending, hr⟩ := ask?_eq_some hask
  have haccount := h.accounts k
  rw [hg, hpending] at haccount
  have hlinked : Linked o.breaker [.ask (.ok p)] b :=
    ⟨congrArg Prod.fst hr, (congrArg Prod.snd hr).symm⟩
  refine h.enter hlinked rfl ?_ fun j _ => h.accounts j
  rw [List.append_nil]
  exact account_ask haccount p

/-- Dropping the last of the subscriptions, when no other one holds a permit. -/
theorem Balanced.drop (inner : Source w τ ε α)
    (h : Balanced refused b₀ true actions (k + 1) gate o) (hg : gate k = s.gate)
    (hfree : ∀ j, j ≠ k → (gate j).permit? = none) :
    Balanced refused b₀ false actions (k + 1) gate ((booked inner refused).drop (k, s) o) := by
  have haccount := account_drop (h.accounts k)
  have hlinked := linked_drop inner.logged s o.breaker (o.world, (o.books k).log)
  have hbooks : Balanced refused b₀ false actions (k + 1) (Function.update gate k (gate k))
      ((booked inner refused).drop (k, s) o) := by
    refine h.enter hlinked (own_dropping _) ?_ fun j hj => (h.accounts j).left (hfree j hj)
    rw [List.append_nil, log_drop, ← hg]
    exact haccount
  rwa [Function.update_eq_self] at hbooks

/-- Somebody else does something to the breaker. -/
theorem Balanced.act (h : Balanced refused b₀ held actions n gate o) (a : Action) :
    Balanced refused b₀ held (actions ++ [a]) n gate (o.act a) where
  linked := linked_append h.linked ⟨trivial, rfl⟩
  others := by
    rw [← h.others]
    exact List.filterMap_append ..
  own := ((List.filter_append ..).trans (List.append_nil _)).trans h.own
  accounts := h.accounts

/-- The streams are dropped, and none of them holds a permit. -/
theorem Balanced.left (h : Balanced refused b₀ true actions n gate o)
    (hfree : ∀ j, (gate j).permit? = none) : Balanced refused b₀ false actions n gate o :=
  ⟨h.linked, h.others, h.own, fun j => (h.accounts j).left (hfree j)⟩

section BookedPoll

variable {signal : Signal ε α} {s' : Gated τ} {o' : Office w ε α}

theorem number_booked_poll (hp : (booked inner refused).poll (k, s) o = (signal, (n, s'), o')) :
    n = k := (congrArg (fun reply => reply.2.1.1) hp).symm

/-- A poll writes its signal into the book of the subscription. -/
theorem signals_booked_poll (hp : (booked inner refused).poll (k, s) o = (signal, (n, s'), o')) :
    (o'.books k).signals = (o.books k).signals ++ [signal] := by
  have hsignal : _ = signal := congrArg Prod.fst hp
  have hbook := congrArg (fun reply => (reply.2.2.books k).signals) hp
  subst hsignal
  exact hbook.symm.trans (congrArg Book.signals (o.books_enter_self ..))

theorem books_booked_poll_of_ne
    (hp : (booked inner refused).poll (k, s) o = (signal, (n, s'), o')) {j : Nat} (hj : j ≠ k) :
    o'.books j = o.books j :=
  (congrArg (fun reply => reply.2.2.books j) hp).symm.trans (o.books_enter_of_ne hj ..)

end BookedPoll

/-- A first poll that is let through is a request, and the rest of it, in the books as well. -/
theorem booked_poll_of_ask {p : Permit} {b : Breaker} (hask : s.ask? o.breaker = some (p, b)) :
    (booked inner refused).poll (k, s) o
      = (booked inner refused).poll (k, ⟨.admitted p, s.inner⟩)
          (o.enter k [] [.ask (.ok p)] (b, o.world, (o.books k).log)) := by
  obtain ⟨hg, hr⟩ := ask?_eq_some hask
  simp only [booked, poll_of_ask hask, hg, hr, Office.books_enter_self, Office.enter_enter]
  rfl

/-- Dropping a stream signals nothing. -/
theorem signals_booked_drop (inner : Source w τ ε α) (refused : Rejection → ε) (s : Gated τ)
    (k : Nat) (o : Office w ε α) (j : Nat) :
    (((booked inner refused).drop (k, s) o).books j).signals = (o.books j).signals :=
  Office.signals_enter_nil ..

/-- Dropping a stream that is done is nothing to the breaker. -/
theorem booked_drop_of_done (inner : Source w τ ε α) (refused : Rejection → ε) (k : Nat)
    (hg : s.gate = .done) (o : Office w ε α) :
    (booked inner refused).drop (k, s) o = { o with world := inner.drop s.inner o.world } := by
  obtain ⟨gate, t⟩ := s
  obtain rfl : gate = .done := hg
  simp only [booked, Office.enter, dropping, drop, Source.logged, Function.update_eq_self,
    List.append_nil]

theorem pass_logged (inner : Source w τ ε α) (p : Permit) (t : τ) (b : Breaker) (world : w)
    (log : List (Signal ε α)) :
    pass inner p t b world
      = let (signal, s, b, world, _) := pass inner.logged p t b (world, log)
        (signal, s, b, world) := by
  rcases hp : inner.poll t world with ⟨signal, t', world'⟩
  simp only [pass, hp, Source.logged_poll hp]
  cases signal <;> rfl

/-- Writing down what an inner stream gives makes no difference to a poll. -/
theorem poll_logged (inner : Source w τ ε α) (refused : Rejection → ε) (s : Gated τ) (b : Breaker)
    (world : w) (log : List (Signal ε α)) :
    s.poll inner refused b world
      = let (signal, s, b, world, _) := s.poll inner.logged refused b (world, log)
        (signal, s, b, world) := by
  obtain ⟨gate, t⟩ := s
  cases gate with
  | pending =>
    unfold poll
    rcases b.request with ⟨answer, b'⟩
    cases answer with
    | error r => rfl
    | ok p => exact pass_logged ..
  | admitted p => exact pass_logged ..
  | done => rfl

/-- **Books aside, a booked stream is a gated stream.** -/
theorem booked_shows (inner : Source w τ ε α) (refused : Rejection → ε) :
    (booked inner refused).Shows (source inner refused) Prod.snd
      fun o => (o.breaker, o.world) where
  poll t o := poll_logged inner refused t.2 o.breaker o.world (o.books t.1).log
  drop := by
    rintro ⟨k, gate, t⟩ o
    cases gate <;> rfl

end Gated

end ClusterGuard
