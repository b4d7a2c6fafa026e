import ClusterGuard.Proofs.Guard.Accounts

/-!
# All calls of a guard

Whatever the other callers do in between, and whatever is done to the breaker directly, every call
keeps its account: its turns change nobody else's, and what belongs to no call changes none.

Results:
* `accounted_step`, `accounted_run`: the accounts, after one event and after a run of them.
* **`protected_calls_are_accounted`**: the accounts of all calls, and what their deeds come to.
-/

namespace ClusterGuard.Guard

variable {σ τ α : Type} {max : Nat}

namespace Traffic

variable {g₀ : Guard} {t : Traffic σ τ α} {inner : Source σ τ Fault α}

/-- The accounts of a guard and its callers, `max` attempts being allowed. -/
structure Accounted (max : Nat) (g₀ : Guard) (t : Traffic σ τ α) : Prop where
  linked : Linked g₀ t.ledger t.guard
  callers : ∀ place c, t.callers[place]? = some c →
    ∃ n, invocationsOf place t.scene.journal = invocations place 0 n ∧
      Fits max place c (deedsOf place t.ledger) n
  nobody : ∀ place, t.callers.length ≤ place →
    invocationsOf place t.scene.journal = [] ∧ deedsOf place t.ledger = []

theorem accounted_start (max : Nat) (g₀ : Guard) (around : σ) (now : Instant) :
    Accounted (τ := τ) (α := α) max g₀ (start g₀ around now) :=
  ⟨rfl, fun _ _ h => by simp [start] at h, fun _ _ => ⟨rfl, rfl⟩⟩

/-- A new call has done nothing. -/
theorem accounted_join (h : Accounted max g₀ t)
    {handle : Handle (Scene σ) (Option Invocation × τ) α} {streams : Bool}
    (hf : Fits max t.callers.length ⟨handle, streams, false, []⟩ [] 0) :
    Accounted max g₀ (t.join handle streams) := by
  refine ⟨h.linked, fun place c hc => ?_, fun place hle => ?_⟩
  · rcases Nat.lt_trichotomy place t.callers.length with hlt | heq | hgt
    · simp only [join, List.getElem?_append_left hlt] at hc
      exact h.callers place c hc
    · subst heq
      obtain ⟨hj, hd⟩ := h.nobody _ (Nat.le_refl _)
      simp only [join, List.getElem?_concat_length, Option.some.injEq] at hc
      subst hc
      refine ⟨0, hj, ?_⟩
      show Fits max _ _ (deedsOf _ t.ledger) 0
      rw [hd]
      exact hf
    · have hlen : (t.join handle streams).callers.length ≤ place := by
        simp only [join, List.length_append, List.length_singleton]
        omega
      rw [List.getElem?_eq_none hlen] at hc
      cases hc
  · refine h.nobody place (Nat.le_trans ?_ hle)
    simp [join]

/-- A turn changes the account of one call. -/
theorem accounted_take (hb : 0 < g₀.breaker.config.trials) (h : Accounted max g₀ t) {place : Nat}
    {c : Caller (Scene σ) (Option Invocation × τ) α} (hc : t.callers[place]? = some c)
    {turn : Turn (Scene σ) (Option Invocation × τ) α} {begun : Bool}
    (hturn : ∀ n, Fits max place c (deedsOf place t.ledger) n →
      Fair max place n c (deedsOf place t.ledger) t.guard t.scene begun turn) :
    Accounted max g₀ (t.take place c turn begun) := by
  obtain ⟨n, hj, hf⟩ := h.callers place c hc
  obtain ⟨hguard, htrue, k, hjournal, hgoes⟩ := hturn n hf
  -- All that is new in the ledger and the journal belongs to this call.
  have htrials := trials_linked hb h.linked
  have hplace := (List.getElem?_eq_some_iff.mp hc).1
  refine ⟨?_, fun other c' hc' => ?_, fun other hle => ?_⟩
  · refine linked_append.mpr ⟨t.guard, h.linked, ?_⟩
    show Linked t.guard _ turn.guard
    rw [hguard]
    exact linked_entries htrials htrue _
  · show ∃ n, invocationsOf other turn.scene.journal = invocations other 0 n ∧
      Fits max other c' (deedsOf other (t.ledger ++ entries (some place) t.guard turn.deeds)) n
    rw [hjournal, invocationsOf_append, deedsOf_append, deedsOf_entries]
    by_cases heq : other = place
    · subst heq
      simp only [take, List.getElem?_set_self hplace, Option.some.injEq] at hc'
      subst hc'
      refine ⟨n + k, ?_, by rw [if_pos rfl]; exact hgoes⟩
      rw [hj, invocationsOf_self]
      simpa using invocations_append other 0 n k
    · simp only [take, List.getElem?_set_ne (Ne.symm heq)] at hc'
      obtain ⟨m, hm, hfits⟩ := h.callers other c' hc'
      refine ⟨m, ?_, ?_⟩
      · rw [invocationsOf_other (Ne.symm heq), List.append_nil, hm]
      · rw [if_neg (by simpa using Ne.symm heq), List.append_nil]
        exact hfits
  · have hle : t.callers.length ≤ other := by simpa [take] using hle
    have hne : place ≠ other := by omega
    obtain ⟨hnone, hd⟩ := h.nobody other hle
    show invocationsOf other turn.scene.journal = [] ∧
      deedsOf other (t.ledger ++ entries (some place) t.guard turn.deeds) = []
    rw [hjournal, invocationsOf_append, deedsOf_append, deedsOf_entries,
      invocationsOf_other hne, hnone, hd]
    simp [hne]

/-- What others do to the guard changes no account. -/
theorem accounted_foreign (hb : 0 < g₀.breaker.config.trials) (h : Accounted max g₀ t) {d : Deed}
    (hd : d.Truthful t.guard) : Accounted max g₀ (t.foreign d) := by
  have htrials := trials_linked hb h.linked
  have hdeeds (place : Nat) :
      deedsOf place (t.ledger ++ entries none t.guard [d]) = deedsOf place t.ledger := by
    rw [deedsOf_append, deedsOf_entries]
    simp
  have htrue : Truthful t.guard [d] := ⟨hd, trivial⟩
  refine ⟨?_, fun place c hc => ?_, fun place hle => ?_⟩
  · exact linked_append.mpr ⟨t.guard, h.linked, linked_entries htrials htrue none⟩
  · simpa only [foreign, hdeeds] using h.callers place c hc
  · simpa only [foreign, hdeeds] using h.nobody place hle

/-- **An event keeps all accounts.** -/
theorem accounted_step (hb : 0 < g₀.breaker.config.trials)
    (hmax : g₀.retry.config.maxAttempts = max) (hpos : 0 < max) (h : Accounted max g₀ t)
    (e : Event σ τ α) : Accounted max g₀ (t.step inner e) := by
  have hretry : t.guard.retry.config.maxAttempts = max := by
    rw [retry_linked h.linked]
    exact hmax
  cases e with
  | block work pause =>
    exact accounted_join h (.unrun (fun _ => Act.notes_noted _ _) fun _ _ => rfl)
  | future work => exact accounted_join h (.unpolled fun _ => Act.notes_noted _ _)
  | stream subscribe => exact accounted_join h (.gated ⟨fun _ => rfl, rfl, rfl⟩ rfl)
  | turn place =>
    simp only [step]
    split
    · rename_i c hc
      split
      · rename_i turn hturn
        exact accounted_take hb h hc fun n hf => fair_turn hretry hpos hf hturn
      · exact h
    · exact h
  | drop place =>
    simp only [step]
    split
    · rename_i c hc
      split
      · rename_i turn hturn
        exact accounted_take hb h hc fun n hf => fair_drop hf hturn
      · exact h
    · exact h
  | direct a => exact accounted_foreign hb h trivial
  | redraw draw => exact accounted_foreign hb h trivial
  | tick d => exact ⟨h.linked, h.callers, h.nobody⟩
  | stir change => exact ⟨h.linked, h.callers, h.nobody⟩

theorem accounted_run (hb : 0 < g₀.breaker.config.trials)
    (hmax : g₀.retry.config.maxAttempts = max) (hpos : 0 < max) (h : Accounted max g₀ t)
    (events : List (Event σ τ α)) : Accounted max g₀ (t.run inner events) := by
  induction events generalizing t with
  | nil => exact h
  | cons e events ih => exact ih (accounted_step hb hmax hpos h e)

/-- **Every call has an account**, whatever happens to a guard and its callers: it asks for
permission once, when it is first run or polled, is counted once and hands in one outcome if it
ends, and releases its permit once if it is dropped. An outcome counts, and a trial slot is given
back, exactly if no transition was made since the permit was granted. -/
theorem protected_calls_are_accounted {g : Guard} (hb : g.breaker.config.validate = .ok ())
    (hr : g.retry.config.validate = .ok ()) (inner : Source σ τ Fault α) (around : σ)
    (now : Instant) (events : List (Event σ τ α))
    (hn : shifts ((start g around now).run inner events).ledger < 2 ^ 64) :
    let t := (start g around now).run inner events
    Linked g t.ledger t.guard ∧ (∀ e ∈ t.ledger, e.Counts) ∧
    (∀ place c, t.callers[place]? = some c →
      ∃ n, invocationsOf place t.scene.journal = invocations place 0 n ∧
        Account g.retry.config.maxAttempts c.streams c.begun c.handle.standing c.results
          (deedsOf place t.ledger) n) ∧
    ∀ l₁ a l₂ z l₃ p, t.ledger = l₁ ++ a :: (l₂ ++ z :: l₃) → a.deed = .ask (.ok p) →
      (∀ o, z.deed = .settle p o →
        (shifts l₂ = 0 → z.before.breaker.state ≠ .opened ∧
          z.after.breaker = z.before.breaker.record o) ∧
        (shifts l₂ ≠ 0 → z.after.breaker = z.before.breaker)) ∧
      (z.deed = .release p →
        (p.trial = true ∧ shifts l₂ = 0 → z.after.breaker
          = { z.before.breaker with inFlight := z.before.breaker.inFlight - 1 }) ∧
        (¬(p.trial = true ∧ shifts l₂ = 0) → z.after.breaker = z.before.breaker)) := by
  intro t
  have htrials : 0 < g.breaker.config.trials := (g.breaker.config.validate_ok_iff.mp hb).2.2.2
  have hpos : 0 < g.retry.config.maxAttempts := (g.retry.config.validate_ok_iff.mp hr).1
  have h : Accounted g.retry.config.maxAttempts g t :=
    accounted_run htrials rfl hpos (accounted_start _ g around now) events
  refine ⟨h.linked, fun e he => e.counts (sound_of_linked h.linked he), fun place c hc => ?_, ?_⟩
  · obtain ⟨n, hj, hf⟩ := h.callers place c hc
    exact ⟨n, hj, account_of_fits hf⟩
  · intro l₁ a l₂ z l₃ p hl ha
    have hlinked := h.linked
    rw [hl] at hlinked
    have hle := shifts_between_le l₁ l₂ l₃ a z
    rw [← hl] at hle
    have hbound : shifts l₂ < 2 ^ 64 := Nat.lt_of_le_of_lt hle hn
    refine ⟨fun o hz => ?_, fun hz => ?_⟩
    · exact settled_iff_undisturbed htrials hlinked hbound ha hz
    · exact released_iff_undisturbed htrials hlinked hbound ha hz

/-- A guard whose circuit opens at the first failure and stays open for five seconds. -/
def brittle : Guard where
  breaker := .fresh "brittle" { window := 1, minimum := 1, wait := .ofSeconds 5, trials := 1 } .zero
  retry := ⟨"brittle", {}, policy, fun _ => .zero false, {}⟩

/-- A call is held in its first attempt while another one fails and opens the circuit. The next one
is rejected, and the first is dropped. -/
def busy : List (Event Unit (Script Unit Fault Unit) Unit) :=
  [.future fun _ => .of 1 (.ok ()),
    .block (fun _ s => (.error (.foreign "broken"), s)) fun _ s => s, .turn 0, .turn 1, .turn 1,
    .turn 1, .turn 1, .stream fun _ => [], .turn 2, .drop 0]

/-- The second call settles its permit and opens the circuit; the permit of the first one, which is
released after that, changes nothing. -/
theorem accounts_of_brittle :
    let t := (start brittle () .zero).run (Script.source ..) busy
    brittle.breaker.config.validate = .ok () ∧ brittle.retry.config.validate = .ok () ∧
      shifts t.ledger < 2 ^ 64 ∧ t.guard.breaker.state = .opened ∧ t.guard.breaker.refused = 1 ∧
      t.guard.retry.tally.counters = [0, 0, 1, 0] ∧
      (t.ledger.map (·.caller)) = [some 0, some 1, some 1, some 1, some 2, some 0] ∧
      ∃ n, Account (α := Unit) 3 false true .dropped [] (deedsOf 0 t.ledger) n := by
  intro t
  have hb : brittle.breaker.config.validate = .ok () :=
    brittle.breaker.config.validate_ok_iff.mpr (by decide +kernel)
  have hr : brittle.retry.config.validate = .ok () :=
    brittle.retry.config.validate_ok_iff.mpr (by decide +kernel)
  have hn : shifts ((start brittle () .zero).run (Script.source ..) busy).ledger < 2 ^ 64 := by
    decide +kernel
  obtain ⟨-, -, haccount, -⟩ :=
    protected_calls_are_accounted hb hr (Script.source ..) () .zero busy hn
  refine ⟨hb, hr, hn, by decide +kernel, by decide +kernel, by decide +kernel, by decide +kernel,
    ?_⟩
  obtain ⟨n, -, h⟩ := haccount 0 _ rfl
  exact ⟨n, h⟩

end Traffic

end ClusterGuard.Guard
