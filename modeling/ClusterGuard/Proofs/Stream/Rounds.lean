import ClusterGuard.Proofs.Stream.Course

/-!
# Polls of a retried stream, round by round

A poll of a retried stream may take several rounds before it returns: it subscribes, it finds that a
wait is over, or an inner stream fails and the retry allows the next attempt at once. Others may
have their turn between two rounds. A stream that has been left there is one of the streams that
exist anyway, and the next poll goes on from it.

A source may also be looked at through larger states and surroundings, such as those in which
somebody keeps books. A retried stream over the larger source does what it does over the plain one.

Results:
* **`poll_of_round`**: a round and the poll that goes on after it are one poll.
* `lt_attempts_poll`: where an attempt is due, a poll begins it.
* **`poll_of_shows`**: a poll does the same in larger surroundings.
-/

namespace ClusterGuard

variable {w w' τ τ' ε α : Type}

/-- Whether a source in larger states and surroundings acts as another one does. -/
structure Source.Shows (larger : Source w' τ' ε α) (source : Source w τ ε α) (stream : τ' → τ)
    (around : w' → w) : Prop where
  poll : ∀ t s, source.poll (stream t) (around s)
    = ((larger.poll t s).1, stream (larger.poll t s).2.1, around (larger.poll t s).2.2)
  drop : ∀ t s, source.drop (stream t) (around s) = around (larger.drop t s)

namespace Retrying

variable {source : Source w τ ε α} {now : Instant} {r : Retry ε} {t : Retrying τ} {s : w}

/-! ## Rounds -/

/-- One round of a poll that goes on after it. -/
def round? (source : Source w τ ε α) (now : Instant) (t : Retrying τ) (r : Retry ε) (s : w) :
    Option (Retrying τ × w) :=
  match t.stage with
  | .unsubscribed =>
    some (⟨t.subscribe, t.attempts + 1, .streaming (t.subscribe t.attempts)⟩, s)
  | .waiting due => if now < due then none else some (⟨t.subscribe, t.attempts, .unsubscribed⟩, s)
  | .streaming inner =>
    match source.poll inner s with
    | (.failure e, inner, s) =>
      if r.verdict e t.attempts = .wait .zero then
        some (⟨t.subscribe, t.attempts, .unsubscribed⟩, source.drop inner s)
      else none
    | _ => none
  | .done => none

/-- What such a round comes to. -/
inductive Round (source : Source w τ ε α) (now : Instant) (r : Retry ε) :
    Retrying τ → w → Retrying τ → w → Prop
  | subscribe {subscribe : Nat → τ} {n : Nat} {s : w} :
      Round source now r ⟨subscribe, n, .unsubscribed⟩ s
        ⟨subscribe, n + 1, .streaming (subscribe n)⟩ s
  | fired {subscribe : Nat → τ} {n : Nat} {due : Instant} {s : w} (hd : ¬now < due) :
      Round source now r ⟨subscribe, n, .waiting due⟩ s ⟨subscribe, n, .unsubscribed⟩ s
  | again {subscribe : Nat → τ} {n : Nat} {t t' : τ} {s s' : w} {e : ε}
      (hp : source.poll t s = (.failure e, t', s')) (hv : r.verdict e n = .wait .zero) :
      Round source now r ⟨subscribe, n, .streaming t⟩ s ⟨subscribe, n, .unsubscribed⟩
        (source.drop t' s')

theorem round_of_round? {t' : Retrying τ} {s' : w} (h : t.round? source now r s = some (t', s')) :
    Round source now r t s t' s' := by
  obtain ⟨subscribe, n, stage⟩ := t
  cases stage with
  | unsubscribed =>
    cases h
    exact .subscribe
  | waiting due =>
    simp only [round?] at h
    by_cases hd : now < due
    · rw [if_pos hd] at h
      cases h
    · rw [if_neg hd] at h
      cases h
      exact .fired hd
  | streaming inner =>
    simp only [round?] at h
    split at h
    · rename_i e inner' s₁ hp
      by_cases hv : r.verdict e n = .wait .zero
      · rw [if_pos hv] at h
        cases h
        exact .again hp hv
      · rw [if_neg hv] at h
        cases h
    · cases h
  | done => cases h

/-- What follows hangs on what the first poll of the inner stream comes to. -/
theorem follow_congr {subscribe : Nat → τ} {left n : Nat} {inner inner' : τ} {s' : w}
    (h : source.poll inner s = source.poll inner' s') :
    follow source now subscribe left n inner r s
      = follow source now subscribe left n inner' r s' := by
  unfold follow
  rw [h]

theorem isZero_zero : Duration.zero.isZero = true := rfl

/-- **A round and the poll that goes on after it are one poll.** -/
theorem poll_of_round {t' : Retrying τ} {s' : w} (hs : t.Sane r)
    (h : Round source now r t s t' s') :
    t.poll source now r s = t'.poll source now r s' := by
  cases h with
  | subscribe => rfl
  | fired hd => exact if_neg hd
  | @again subscribe n _ _ _ _ e hp hv =>
    have hpos : 0 < n := hs
    obtain ⟨made, rfl⟩ := Nat.exists_eq_succ_of_ne_zero (Nat.ne_of_gt hpos)
    have hleft : r.left (made + 1 - 1) = r.left (made + 1) + 1 :=
      Retry.left_of_lt (Retry.lt_of_wait hv)
    simp only [poll, hleft]
    conv_lhs => unfold follow
    simp only [hp, hv, isZero_zero, if_true]

/-- Where an attempt is due, a poll begins it. -/
theorem lt_attempts_poll (source : Source w τ ε α) (hs : t.Sane r) (s : w)
    (hstage : t.stage = .unsubscribed ∨ ∃ due, t.stage = .waiting due ∧ ¬now < due) :
    t.attempts < (t.poll source now r s).2.1.attempts := by
  obtain ⟨subscribe, n, stage⟩ := t
  have hmore : ∀ reply, Loop source now r ⟨subscribe, n + 1, .streaming (subscribe n)⟩ s reply →
      n < reply.2.1.attempts := fun reply h => (attempts_loop h).1
  have hloop := loop_poll source now hs s
  generalize poll source now _ r s = reply at hloop ⊢
  rcases hstage with hstage | ⟨due, hstage, hfired⟩
  · cases hstage
    cases hloop with
    | subscribe h => exact hmore _ h
  · cases hstage
    cases hloop with
    | early hd => exact absurd hd hfired
    | fired _ h =>
      cases h with
      | subscribe h => exact hmore _ h

/-! ## Larger surroundings -/

/-- A retried stream with its inner streams changed. -/
def map (f : τ' → τ) (t : Retrying τ') : Retrying τ where
  subscribe k := f (t.subscribe k)
  attempts := t.attempts
  stage :=
    match t.stage with
    | .unsubscribed => .unsubscribed
    | .streaming inner => .streaming (f inner)
    | .waiting due => .waiting due
    | .done => .done

variable {larger : Source w' τ' ε α} {f : τ' → τ} {g : w' → w}

theorem follow_of_shows (h : larger.Shows source f g) (now : Instant) (subscribe : Nat → τ')
    (left n : Nat) (inner : τ') (r : Retry ε) (s : w') :
    follow source now (fun k => f (subscribe k)) left n (f inner) r (g s)
      = let (signal, t, r, s) := follow larger now subscribe left n inner r s
        (signal, t.map f, r, g s) := by
  fun_induction follow larger now subscribe left n inner r s with
  | case1 left n inner r s inner' s' hp =>
    conv_lhs => unfold follow
    simp only [h.poll, hp]
    rfl
  | case2 left n inner r s a inner' s' hp =>
    conv_lhs => unfold follow
    simp only [h.poll, hp]
    rfl
  | case3 left n inner r s inner' s' hp =>
    conv_lhs => unfold follow
    simp only [h.poll, hp, h.drop]
    rfl
  | case4 n inner r s e inner' s' hp d left hv hzero ih =>
    conv_lhs => unfold follow
    simp only [h.poll, hp, hv, hzero, h.drop, if_true]
    exact ih
  | case5 n inner r s e inner' s' hp d left hv hd =>
    conv_lhs => unfold follow
    simp only [h.poll, hp, hv, hd, h.drop]
    rfl
  | case6 left n inner r s e inner' s' hp hno =>
    conv_lhs => unfold follow
    simp only [h.poll, hp, h.drop]
    cases hv : r.verdict e n with
    | giveUp => rfl
    | wait d =>
      cases left with
      | zero => rfl
      | succ left => exact absurd rfl (hno d left hv)

/-- **A poll does the same in larger surroundings.** -/
theorem poll_of_shows (h : larger.Shows source f g) (now : Instant) (t : Retrying τ') (r : Retry ε)
    (s : w') :
    (t.map f).poll source now r (g s)
      = let (signal, t, r, s) := t.poll larger now r s
        (signal, t.map f, r, g s) := by
  obtain ⟨subscribe, n, stage⟩ := t
  cases stage with
  | unsubscribed => exact follow_of_shows h ..
  | streaming inner => exact follow_of_shows h ..
  | waiting due =>
    by_cases hd : now < due
    · simp only [poll, map, if_pos hd]
    · simp only [poll, map, if_neg hd]
      exact follow_of_shows h ..
  | done => rfl

theorem drop_of_shows (h : larger.Shows source f g) (t : Retrying τ') (s : w') :
    (t.map f).drop source (g s) = g (t.drop larger s) := by
  obtain ⟨subscribe, n, stage⟩ := t
  cases stage with
  | streaming inner => exact h.drop inner s
  | unsubscribed => rfl
  | waiting due => rfl
  | done => rfl

end Retrying

end ClusterGuard
