import ClusterGuard.Guard.Basic
import ClusterGuard.Proofs.Breaker.Operations
import Mathlib.Algebra.Group.Nat.Defs

/-!
# Ledgers of what is done to a guard

A `Deed` is one thing done to the breaker or the retry of a guard: a request, a call counted, an
outcome handed in, a permit released, or something done to the breaker directly. A ledger lists the
deeds of all callers in the order they happened, each with the guard before and after it. It is
`Linked` if every entry is `Sound` and begins with the guard the one before it ended with.

Results:
* `epoch_linked`: the epoch moves on with the transitions of a linked ledger.
* **`current_iff_undisturbed`**: a permit is current as long as no transition was made since it was
  granted.
* **`settled_iff_undisturbed`**, `released_iff_undisturbed`: so only then does its end matter.
-/

namespace ClusterGuard

/-- The four counters of a tally. -/
def Retry.Tally.counters (t : Tally) : List Nat :=
  [t.succeeded, t.succeededAfterRetry, t.failed, t.failedAfterRetry]

/-- A call is counted once. -/
theorem Retry.Tally.counters_count (t : Tally) (succeeded : Bool) (attempts : Nat) :
    ∃ i < 4, (t.count succeeded attempts).counters = t.counters.modify i (· + 1) := by
  unfold count
  split
  · exact ⟨0, by decide, rfl⟩
  · exact ⟨1, by decide, rfl⟩
  · exact ⟨2, by decide, rfl⟩
  · exact ⟨3, by decide, rfl⟩

namespace Guard

open Breaker (Permit Outcome Action)

/-- One thing done to a guard. -/
inductive Deed where
  /-- The breaker is asked, and gives this answer. -/
  | ask (answer : Except Rejection Permit)
  /-- The retry counts a call. -/
  | count (succeeded : Bool) (attempts : Nat)
  /-- The breaker is told how a call ended. -/
  | settle (p : Permit) (o : Outcome)
  | release (p : Permit)
  /-- Somebody uses the breaker directly. -/
  | direct (a : Action)
  /-- Chance gives the jitter of the waits to come. -/
  | redraw (draw : Nat → Binary .double)

/-- What a deed does to the breaker, if anything. -/
def Deed.action? : Deed → Option Action
  | ask _ => some .request
  | count .. => none
  | settle p o => some (.finish p o)
  | release p => some (.release p)
  | direct a => some a
  | redraw _ => none

/-- The guard after a deed. -/
def Deed.run (g : Guard) : Deed → Guard
  | ask _ => { g with breaker := g.breaker.request.2 }
  | count succeeded attempts => { g with retry := g.retry.count succeeded attempts }
  | settle p o => { g with breaker := g.breaker.finish p o }
  | release p => { g with breaker := g.breaker.release p }
  | direct a => { g with breaker := a.run g.breaker }
  | redraw draw => { g with retry := { g.retry with draw } }

/-- A deed in a ledger. -/
structure Entry where
  /-- Which call did it; none for deeds that belong to no call. -/
  caller : Option Nat
  deed : Deed
  before : Guard
  after : Guard

namespace Entry

/-- Whether the deed did what it says. A rejection is counted, and nothing else changes. -/
def Sound (e : Entry) : Prop :=
  e.after = e.deed.run e.before ∧
  match e.deed with
  | .ask (.ok p) => e.before.breaker.request = (.ok p, e.after.breaker)
  | .ask (.error r) =>
    e.before.breaker.request.1 = .error r ∧
      e.after.breaker = { e.before.breaker with refused := e.before.breaker.refused + 1 }
  | _ => True

/-- Whether the deed made a transition. Closing a closed circuit by hand is one, too. -/
def Shifts (e : Entry) : Prop :=
  match e.deed.action? with
  | some a => a.Shifts e.before.breaker
  | none => False

/-- Whether the deed adds one to one counter of the retry, if it counts a call, and leaves all of
them alone if it does not. -/
def Counts (e : Entry) : Prop :=
  match e.deed with
  | .count .. =>
    ∃ i < 4, e.after.retry.tally.counters = e.before.retry.tally.counters.modify i (· + 1)
  | _ => e.after.retry.tally = e.before.retry.tally

instance (e : Entry) : Decidable e.Shifts := by unfold Shifts; split <;> infer_instance

variable {e : Entry}

/-- A sound entry acts on the breaker, or leaves it alone. -/
theorem breaker_after (h : e.Sound) :
    (∃ a, e.after.breaker = Action.run e.before.breaker a ∧
      (e.Shifts ↔ a.Shifts e.before.breaker)) ∨
    (e.after.breaker = e.before.breaker ∧ ¬e.Shifts) := by
  obtain ⟨h, -⟩ := h
  unfold Shifts
  rw [h]
  cases e.deed with
  | ask answer => exact .inl ⟨.request, rfl, Iff.rfl⟩
  | count succeeded attempts => exact .inr ⟨rfl, id⟩
  | settle p o => exact .inl ⟨.finish p o, rfl, Iff.rfl⟩
  | release p => exact .inl ⟨.release p, rfl, Iff.rfl⟩
  | direct a => exact .inl ⟨a, rfl, Iff.rfl⟩
  | redraw draw => exact .inr ⟨rfl, id⟩

theorem counts (h : e.Sound) : e.Counts := by
  have hafter := h.1
  unfold Counts
  rw [hafter]
  cases e.deed with
  | count succeeded attempts =>
    exact Retry.Tally.counters_count e.before.retry.tally succeeded attempts
  | ask => rfl
  | settle => rfl
  | release => rfl
  | direct => rfl
  | redraw => rfl

theorem retry_after (h : e.Sound) : e.after.retry.config = e.before.retry.config := by
  rw [h.1]
  cases e.deed <;> rfl

theorem config_after (h : e.Sound) (ht : 0 < e.before.breaker.config.trials) :
    e.after.breaker.config = e.before.breaker.config := by
  rcases breaker_after h with ⟨a, ha, -⟩ | ⟨ha, -⟩
  · rw [ha]
    exact Action.config_run ht a
  · rw [ha]

/-- An entry begins a new epoch exactly when it makes a transition. -/
theorem epoch_after (h : e.Sound) (ht : 0 < e.before.breaker.config.trials) :
    e.after.breaker.epoch
      = e.before.breaker.epoch + .ofNat (if e.Shifts then 1 else 0) := by
  rcases breaker_after h with ⟨a, ha, hs⟩ | ⟨ha, hs⟩
  · rw [ha, Action.epoch_run ht a]
    by_cases hshift : e.Shifts
    · rw [if_pos hshift, if_pos (hs.mp hshift)]
      rfl
    · rw [if_neg hshift, if_neg fun h => hshift (hs.mpr h)]
      exact (UInt64.add_zero _).symm
  · rw [ha, if_neg hs]
    exact (UInt64.add_zero _).symm

/-- An entry that makes no transition leaves the state alone. -/
theorem state_after (h : e.Sound) (hs : ¬e.Shifts) :
    e.after.breaker.state = e.before.breaker.state := by
  rcases breaker_after h with ⟨a, ha, hiff⟩ | ⟨ha, -⟩
  · rw [ha]
    exact Decidable.of_not_not fun hne => hs (hiff.mpr (.inr hne))
  · rw [ha]

end Entry

/-- The deeds of one call, in order. -/
def deedsOf (place : Nat) (ledger : List Entry) : List Deed :=
  (ledger.filter fun e => e.caller = some place).map (·.deed)

/-- How many transitions a ledger has seen. -/
def shifts (ledger : List Entry) : Nat := ledger.countP fun e => decide e.Shifts

/-- Whether a ledger leads from one guard to another. -/
def Linked : Guard → List Entry → Guard → Prop
  | g, [], g' => g = g'
  | g, e :: ledger, g' => e.before = g ∧ e.Sound ∧ Linked e.after ledger g'

variable {g g' g'' : Guard} {ledger : List Entry}

theorem linked_append {l l' : List Entry} :
    Linked g (l ++ l') g'' ↔ ∃ g', Linked g l g' ∧ Linked g' l' g'' := by
  induction l generalizing g with
  | nil => simp [Linked]
  | cons e l ih =>
    simp only [List.cons_append, Linked, ih]
    constructor
    · rintro ⟨hb, hs, g', h, h'⟩
      exact ⟨g', ⟨hb, hs, h⟩, h'⟩
    · rintro ⟨g', ⟨hb, hs, h⟩, h'⟩
      exact ⟨hb, hs, g', h, h'⟩

/-- What lies within a ledger has no more transitions than the ledger. -/
theorem shifts_between_le (l₁ l₂ l₃ : List Entry) (a z : Entry) :
    shifts l₂ ≤ shifts (l₁ ++ a :: (l₂ ++ z :: l₃)) := by
  have h : l₂.Sublist (l₁ ++ a :: (l₂ ++ z :: l₃)) :=
    (List.sublist_append_left l₂ (z :: l₃)).trans
      ((List.sublist_cons_self a _).trans (List.sublist_append_right l₁ _))
  exact h.countP_le

theorem sound_of_linked (h : Linked g ledger g') {e : Entry} (he : e ∈ ledger) : e.Sound := by
  obtain ⟨l, l', rfl⟩ := List.append_of_mem he
  obtain ⟨-, -, -, hs, -⟩ := linked_append.mp h
  exact hs

/-- **The epoch counts the transitions** of a linked ledger. -/
theorem epoch_linked (ht : 0 < g.breaker.config.trials) (h : Linked g ledger g') :
    g'.breaker.epoch = g.breaker.epoch + .ofNat (shifts ledger) ∧
      g'.breaker.config = g.breaker.config := by
  induction ledger generalizing g with
  | nil =>
    obtain rfl := h
    exact ⟨(UInt64.add_zero _).symm, rfl⟩
  | cons e l ih =>
    obtain ⟨rfl, hs, h⟩ := h
    have hconfig := e.config_after hs ht
    obtain ⟨he, hc⟩ := ih (by rw [hconfig]; exact ht) h
    refine ⟨?_, hc.trans hconfig⟩
    have hcount : shifts (e :: l) = (if e.Shifts then 1 else 0) + shifts l := by
      simp only [shifts, List.countP_cons, decide_eq_true_eq]
      omega
    rw [he, e.epoch_after hs ht, hcount, UInt64.ofNat_add, UInt64.add_assoc]

theorem trials_linked (ht : 0 < g.breaker.config.trials) (h : Linked g ledger g') :
    0 < g'.breaker.config.trials := by
  rw [(epoch_linked ht h).2]
  exact ht

theorem retry_linked (h : Linked g ledger g') : g'.retry.config = g.retry.config := by
  induction ledger generalizing g with
  | nil =>
    obtain rfl := h
    rfl
  | cons e l ih =>
    obtain ⟨rfl, hs, h⟩ := h
    exact (ih h).trans (e.retry_after hs)

/-- A ledger without transitions leaves the state alone. -/
theorem state_linked (h : Linked g ledger g') (hn : shifts ledger = 0) :
    g'.breaker.state = g.breaker.state := by
  induction ledger generalizing g with
  | nil =>
    obtain rfl := h
    rfl
  | cons e l ih =>
    obtain ⟨rfl, hs, h⟩ := h
    simp only [shifts, List.countP_cons, decide_eq_true_eq, Nat.add_eq_zero_iff] at hn
    have hquiet : ¬e.Shifts := by
      intro he
      simp [he] at hn
    rw [ih h hn.1, e.state_after hs hquiet]

/-- What lies between two entries of a linked ledger leads from one to the other. -/
theorem linked_between {l₁ l₂ l₃ : List Entry} {a z : Entry}
    (h : Linked g (l₁ ++ a :: (l₂ ++ z :: l₃)) g') :
    (a.Sound ∧ z.Sound) ∧ Linked a.after l₂ z.before ∧ ∃ g₁, Linked g l₁ g₁ ∧ a.before = g₁ := by
  obtain ⟨g₁, h₁, rfl, ha, h⟩ := linked_append.mp h
  obtain ⟨g₂, h₂, rfl, hz, -⟩ := linked_append.mp h
  exact ⟨⟨ha, hz⟩, h₂, _, h₁, rfl⟩

/-! ## Permits in a ledger -/

variable {l₁ l₂ l₃ : List Entry} {a z : Entry} {p : Permit}

/-- A permit belongs to the epoch it was granted in, and the circuit is not open then. -/
theorem epoch_of_granted (hs : a.Sound) (ht : 0 < a.before.breaker.config.trials)
    (ha : a.deed = .ask (.ok p)) :
    p.epoch = a.after.breaker.epoch ∧ a.after.breaker.state ≠ .opened := by
  have hreq := Breaker.requested ht
  have hans := hs.2
  rw [ha] at hans
  simp only at hans
  rw [hans] at hreq
  refine ⟨congrArg Permit.epoch (hreq.permit rfl), ?_⟩
  generalize a.after.breaker = b at hreq ⊢
  cases hreq with
  | closed h => simp [h]
  | probed => simp
  | free h => simp [h]

/-- **A permit is current as long as no transition was made** since it was granted. -/
theorem current_iff_undisturbed (ht : 0 < g.breaker.config.trials)
    (h : Linked g (l₁ ++ a :: (l₂ ++ z :: l₃)) g') (hn : shifts l₂ < 2 ^ 64)
    (ha : a.deed = .ask (.ok p)) :
    (p.epoch = z.before.breaker.epoch ↔ shifts l₂ = 0) ∧
      (shifts l₂ = 0 → z.before.breaker.state ≠ .opened) := by
  obtain ⟨⟨hsa, -⟩, hbetween, g₁, hfirst, rfl⟩ := linked_between h
  have hta := trials_linked ht hfirst
  obtain ⟨hp, hopen⟩ := epoch_of_granted hsa hta ha
  have hepoch := (epoch_linked (by rw [a.config_after hsa hta]; exact hta) hbetween).1
  refine ⟨?_, fun hquiet => ?_⟩
  · rw [hp, hepoch]
    exact eq_comm.trans (Breaker.add_ofNat_eq_self_iff hn)
  · rw [state_linked hbetween hquiet]
    exact hopen

/-- **An outcome handed in with a permit counts** exactly if no transition was made since the permit
was granted. The circuit is not open then, so that it is not ignored for another reason. -/
theorem settled_iff_undisturbed (ht : 0 < g.breaker.config.trials)
    (h : Linked g (l₁ ++ a :: (l₂ ++ z :: l₃)) g') (hn : shifts l₂ < 2 ^ 64)
    (ha : a.deed = .ask (.ok p)) {o : Outcome} (hz : z.deed = .settle p o) :
    (shifts l₂ = 0 → z.before.breaker.state ≠ .opened ∧
      z.after.breaker = z.before.breaker.record o) ∧
    (shifts l₂ ≠ 0 → z.after.breaker = z.before.breaker) := by
  obtain ⟨⟨-, hsz⟩, -⟩ := linked_between h
  obtain ⟨hcur, hopen⟩ := current_iff_undisturbed ht h hn ha
  have hafter : z.after.breaker = z.before.breaker.finish p o := by
    rw [hsz.1, hz]
    rfl
  rw [hafter]
  constructor
  · intro hquiet
    exact ⟨hopen hquiet, Breaker.finish_of_current (hcur.mpr hquiet) o⟩
  · intro hshift
    exact Breaker.finish_of_stale (fun he => hshift (hcur.mp he)) o

/-- A permit released gives a trial slot back exactly if it took one and no transition was made
since. -/
theorem released_iff_undisturbed (ht : 0 < g.breaker.config.trials)
    (h : Linked g (l₁ ++ a :: (l₂ ++ z :: l₃)) g') (hn : shifts l₂ < 2 ^ 64)
    (ha : a.deed = .ask (.ok p)) (hz : z.deed = .release p) :
    (p.trial = true ∧ shifts l₂ = 0 → z.after.breaker
      = { z.before.breaker with inFlight := z.before.breaker.inFlight - 1 }) ∧
    (¬(p.trial = true ∧ shifts l₂ = 0) → z.after.breaker = z.before.breaker) := by
  obtain ⟨⟨-, hsz⟩, -⟩ := linked_between h
  obtain ⟨hcur, -⟩ := current_iff_undisturbed ht h hn ha
  have hafter : z.after.breaker = z.before.breaker.release p := by
    rw [hsz.1, hz]
    rfl
  rw [hafter, ← hcur]
  exact ⟨fun hp => if_pos hp, fun hp => if_neg hp⟩

/-! ## What one caller does at once -/

/-- Whether a deed reports the answer the breaker gives. -/
def Deed.Truthful (g : Guard) : Deed → Prop
  | ask answer => g.breaker.request.1 = answer
  | _ => True

theorem Deed.sound_of_truthful (ht : 0 < g.breaker.config.trials) {d : Deed} (h : d.Truthful g)
    (caller : Option Nat) : Entry.Sound ⟨caller, d, g, d.run g⟩ := by
  refine ⟨rfl, ?_⟩
  cases d with
  | ask answer =>
    cases answer with
    | ok p => exact Prod.ext h rfl
    | error r =>
      have h : g.breaker.request.1 = .error r := h
      refine ⟨h, ?_⟩
      show g.breaker.request.2 = { g.breaker with refused := g.breaker.refused + 1 }
      have hreq := Breaker.requested ht
      generalize g.breaker.request = reply at h hreq ⊢
      cases hreq with
      | closed => cases h
      | waiting => rfl
      | probed => cases h
      | free => cases h
      | full => rfl
  | count => exact trivial
  | settle => exact trivial
  | release => exact trivial
  | direct => exact trivial
  | redraw => exact trivial

/-- The guard after some deeds. -/
def after (g : Guard) (deeds : List Deed) : Guard := deeds.foldl Deed.run g

variable {answer : Except Rejection Permit} {breaker : Breaker}

/-- Asking changes the breaker, and nothing else. -/
theorem after_ask (h : g.breaker.request = (answer, breaker)) :
    g.after [.ask answer] = { g with breaker } := by
  simp only [after, List.foldl, Deed.run, h]

theorem after_append (g : Guard) (deeds deeds' : List Deed) :
    g.after (deeds ++ deeds') = (g.after deeds).after deeds' := List.foldl_append

/-- The entries of some deeds of one caller. -/
def entries (caller : Option Nat) (g : Guard) : List Deed → List Entry
  | [] => []
  | d :: deeds => ⟨caller, d, g, d.run g⟩ :: entries caller (d.run g) deeds

/-- Whether some deeds report the answers the breaker gives. -/
def Truthful : Guard → List Deed → Prop
  | _, [] => True
  | g, d :: deeds => d.Truthful g ∧ Truthful (d.run g) deeds

theorem truthful_ask (h : g.breaker.request = (answer, breaker)) : Truthful g [.ask answer] :=
  ⟨congrArg Prod.fst h, trivial⟩

theorem truthful_append {deeds deeds' : List Deed} (h : Truthful g deeds)
    (h' : Truthful (g.after deeds) deeds') : Truthful g (deeds ++ deeds') := by
  induction deeds generalizing g with
  | nil => exact h'
  | cons d deeds ih => exact ⟨h.1, ih h.2 h'⟩

theorem linked_entries (ht : 0 < g.breaker.config.trials) {deeds : List Deed}
    (h : Truthful g deeds) (caller : Option Nat) :
    Linked g (entries caller g deeds) (g.after deeds) := by
  induction deeds generalizing g with
  | nil => rfl
  | cons d deeds ih =>
    have hs := Deed.sound_of_truthful ht h.1 caller
    have hconfig : (d.run g).breaker.config = g.breaker.config := Entry.config_after hs ht
    exact ⟨rfl, hs, ih (by rw [hconfig]; exact ht) h.2⟩

theorem deedsOf_append (place : Nat) (l l' : List Entry) :
    deedsOf place (l ++ l') = deedsOf place l ++ deedsOf place l' := by
  simp only [deedsOf, List.filter_append, List.map_append]

theorem deedsOf_entries (place : Nat) (caller : Option Nat) (g : Guard) (deeds : List Deed) :
    deedsOf place (entries caller g deeds) = if caller = some place then deeds else [] := by
  induction deeds generalizing g with
  | nil => simp [entries, deedsOf]
  | cons d deeds ih =>
    have h := ih (d.run g)
    simp only [deedsOf] at h ⊢
    simp only [entries, List.filter_cons]
    by_cases hc : caller = some place
    · rw [if_pos hc] at h ⊢
      rw [if_pos (decide_eq_true hc), List.map_cons, h]
    · rw [if_neg hc] at h ⊢
      rw [if_neg (by simpa using hc), h]

end Guard

end ClusterGuard
