import ClusterGuard.Proofs.Guard.Invocations
import ClusterGuard.Proofs.Stream.Schedule

/-!
# What a retried stream comes to

The polls of a retried stream cut its run at arbitrary places: where an inner stream is not ready,
after every value, and where a wait begins. Its `course` is the same run without the cuts, from any
place in it: the results still to come, the number of the last attempt, and the surroundings at the
end. It is told for all sources whose inner streams can be played out, of which scripts are one.

Results:
* **`loop_poll`**: a poll is a loop without a bound on its rounds, and every such loop returns.
* **`delivers_poll`**: a poll takes from the course what it delivers, and the retry counts a stream
  whose course is at its end.
* **`follows_run`**: so every schedule follows the course.
* **`advances`**: every poll gets on, so that patient schedules reach the end.
-/

namespace ClusterGuard

variable {w τ σ ε α : Type}

/-! ## Sources that can be played out -/

/-- Whether `play` says what the streams of a source come to when they are polled to the first error
or the end, and dropped then: the values, the error, and the surroundings. -/
def Source.Plays (source : Source w τ ε α) (play : τ → w → List α × Option ε × w)
    (size : τ → Nat) : Prop :=
  ∀ t s, match source.poll t s with
    | (.pending, t', s') => play t s = play t' s' ∧ size t' < size t
    | (.value a, t', s') => play t s = (a :: (play t' s').1, (play t' s').2) ∧ size t' < size t
    | (.failure e, t', s') => play t s = ([], some e, source.drop t' s')
    | (.ended, t', s') => play t s = ([], none, source.drop t' s')

/-- Plays a script. -/
def Script.play : Script σ ε α → σ → List α × Option ε × σ
  | [], s => ([], none, s)
  | .pause :: rest, s => play rest s
  | .emit run :: rest, s =>
    match run s with
    | (.ok a, s) => (a :: (play rest s).1, (play rest s).2)
    | (.error e, s) => ([], some e, s)

theorem Script.plays (σ ε α : Type) : (Script.source σ ε α).Plays play List.length := by
  intro script s
  cases script with
  | nil => exact rfl
  | cons item rest =>
    cases item with
    | pause => exact ⟨rfl, Nat.lt_succ_self _⟩
    | emit run =>
      simp only [source, poll, play]
      rcases run s with ⟨result, s'⟩
      cases result with
      | ok a => exact ⟨rfl, Nat.lt_succ_self _⟩
      | error e => exact rfl

/-- Plays a stream that keeps a journal: its entry is made first. -/
def Source.notedPlay (play : τ → σ → List α × Option ε × σ) (t : Option Invocation × τ)
    (s : Scene σ) : List α × Option ε × Scene σ :=
  ((play t.2 s.around).1, (play t.2 s.around).2.1,
    ⟨(play t.2 s.around).2.2, s.journal ++ t.1.toList⟩)

theorem Source.Plays.noted {source : Source σ τ ε α} {play : τ → σ → List α × Option ε × σ}
    {size : τ → Nat} (h : source.Plays play size) :
    source.noted.Plays (Source.notedPlay play) (fun t => size t.2) := by
  rintro ⟨entry, t⟩ s
  have ht := h t s.around
  rcases hp : source.poll t s.around with ⟨signal, t', around⟩
  rw [hp] at ht
  have hnoted : source.noted.poll (entry, t) s
      = (signal, (none, t'), ⟨around, s.journal ++ entry.toList⟩) := by
    simp only [Source.noted, hp]
  rw [hnoted]
  cases signal with
  | pending => exact ⟨by simp [notedPlay, ht.1], ht.2⟩
  | value a => exact ⟨by simp [notedPlay, ht.1], ht.2⟩
  | failure e => simp [notedPlay, ht, Source.noted]
  | ended => simp [notedPlay, ht, Source.noted]

namespace Retrying

/-- What a poll comes to. -/
abbrev Reply (w τ ε α : Type) := Signal ε α × Retrying τ × Retry ε × w

variable {source : Source w τ ε α} {play : τ → w → List α × Option ε × w} {size : τ → Nat}
  {now : Instant} {r : Retry ε} {t : Retrying τ} {s : w} {reply : Reply w τ ε α}

/-! ## The loop behind a poll -/

/-- What keeps a stream within the attempts allowed. -/
def Sane (r : Retry ε) (t : Retrying τ) : Prop :=
  match t.stage with
  | .unsubscribed => t.attempts ≤ r.config.maxAttempts
  | .streaming _ => 0 < t.attempts
  | .waiting _ => t.attempts < r.config.maxAttempts
  | .done => True

/-- One poll of a retried stream, told as a loop: each round subscribes, looks at the timer or polls
the inner stream once, and either returns or goes on to another round. Nothing bounds the number of
rounds. -/
inductive Loop (source : Source w τ ε α) (now : Instant) (r : Retry ε) :
    Retrying τ → w → Reply w τ ε α → Prop
  | subscribe {subscribe : Nat → τ} {n : Nat} {s : w} {reply : Reply w τ ε α}
      (h : Loop source now r ⟨subscribe, n + 1, .streaming (subscribe n)⟩ s reply) :
      Loop source now r ⟨subscribe, n, .unsubscribed⟩ s reply
  | early {subscribe : Nat → τ} {n : Nat} {due : Instant} {s : w} (hd : now < due) :
      Loop source now r ⟨subscribe, n, .waiting due⟩ s
        (.pending, ⟨subscribe, n, .waiting due⟩, r, s)
  | fired {subscribe : Nat → τ} {n : Nat} {due : Instant} {s : w} {reply : Reply w τ ε α}
      (hd : ¬now < due) (h : Loop source now r ⟨subscribe, n, .unsubscribed⟩ s reply) :
      Loop source now r ⟨subscribe, n, .waiting due⟩ s reply
  | pending {subscribe : Nat → τ} {n : Nat} {t t' : τ} {s s' : w}
      (hp : source.poll t s = (.pending, t', s')) :
      Loop source now r ⟨subscribe, n, .streaming t⟩ s
        (.pending, ⟨subscribe, n, .streaming t'⟩, r, s')
  | value {subscribe : Nat → τ} {n : Nat} {t t' : τ} {s s' : w} {a : α}
      (hp : source.poll t s = (.value a, t', s')) :
      Loop source now r ⟨subscribe, n, .streaming t⟩ s
        (.value a, ⟨subscribe, n, .streaming t'⟩, r, s')
  | ended {subscribe : Nat → τ} {n : Nat} {t t' : τ} {s s' : w}
      (hp : source.poll t s = (.ended, t', s')) :
      Loop source now r ⟨subscribe, n, .streaming t⟩ s
        (.ended, ⟨subscribe, n, .done⟩, r.count true n, source.drop t' s')
  | broken {subscribe : Nat → τ} {n : Nat} {t t' : τ} {s s' : w} {e : ε}
      (hp : source.poll t s = (.failure e, t', s')) (hv : r.verdict e n = .giveUp) :
      Loop source now r ⟨subscribe, n, .streaming t⟩ s
        (.failure e, ⟨subscribe, n, .done⟩, r.count false n, source.drop t' s')
  | again {subscribe : Nat → τ} {n : Nat} {t t' : τ} {s s' : w} {e : ε} {d : Duration}
      {reply : Reply w τ ε α} (hp : source.poll t s = (.failure e, t', s'))
      (hv : r.verdict e n = .wait d) (hd : d.isZero = true)
      (h : Loop source now r ⟨subscribe, n, .unsubscribed⟩ (source.drop t' s') reply) :
      Loop source now r ⟨subscribe, n, .streaming t⟩ s reply
  | wait {subscribe : Nat → τ} {n : Nat} {t t' : τ} {s s' : w} {e : ε} {d : Duration}
      (hp : source.poll t s = (.failure e, t', s')) (hv : r.verdict e n = .wait d)
      (hd : ¬d.isZero = true) :
      Loop source now r ⟨subscribe, n, .streaming t⟩ s
        (.pending, ⟨subscribe, n, .waiting (deadline now d)⟩, r, source.drop t' s')
  | done {subscribe : Nat → τ} {n : Nat} {s : w} :
      Loop source now r ⟨subscribe, n, .done⟩ s (.ended, ⟨subscribe, n, .done⟩, r, s)

/-- No attempts are forgotten among those left. -/
theorem le_add_left (r : Retry ε) (n : Nat) : r.config.maxAttempts ≤ n + 1 + r.left n := by
  unfold Retry.left
  omega

theorem loop_follow {subscribe : Nat → τ} (left n : Nat) (t : τ) (s : w)
    (hleft : r.config.maxAttempts ≤ n + left) :
    Loop source now r ⟨subscribe, n, .streaming t⟩ s
      (follow source now subscribe left n t r s) := by
  fun_induction follow source now subscribe left n t r s with
  | case1 left n t r s t' s' hp => exact .pending hp
  | case2 left n t r s a t' s' hp => exact .value hp
  | case3 left n t r s t' s' hp => exact .ended hp
  | case4 n t r s e t' s' hp d left hv hzero ih =>
    exact .again hp hv hzero (.subscribe (ih (by omega)))
  | case5 n t r s e t' s' hp d left hv hd => exact .wait hp hv hd
  | case6 left n t r s e t' s' hp hno =>
    refine .broken hp ?_
    -- Where no attempt is left, the retry does not wait.
    cases hv : r.verdict e n with
    | giveUp => rfl
    | wait d =>
      have hlt := Retry.lt_of_wait hv
      cases left with
      | zero => omega
      | succ left => exact absurd rfl (hno d left hv)

/-- **A poll is a loop that returns**, however many subscriptions fail at once. -/
theorem loop_poll (source : Source w τ ε α) (now : Instant) (h : t.Sane r) (s : w) :
    Loop source now r t s (t.poll source now r s) := by
  obtain ⟨subscribe, n, stage⟩ := t
  cases stage with
  | unsubscribed => exact .subscribe (loop_follow _ _ _ _ (le_add_left r n))
  | streaming inner =>
    have hpos : 0 < n := h
    obtain ⟨m, rfl⟩ := Nat.exists_eq_succ_of_ne_zero (Nat.ne_of_gt hpos)
    exact loop_follow _ _ _ _ (le_add_left r m)
  | waiting due =>
    simp only [poll]
    split
    · exact .early ‹_›
    · exact .fired ‹_› (.subscribe (loop_follow _ _ _ _ (le_add_left r n)))
  | done => exact .done

/-- A poll takes no attempt back, and the first one makes an attempt. -/
theorem attempts_loop (h : Loop source now r t s reply) :
    t.attempts ≤ reply.2.1.attempts ∧ (t.stage = .unsubscribed → 0 < reply.2.1.attempts) := by
  induction h with
  | subscribe _ ih =>
    have hle := ih.1
    exact ⟨Nat.le_of_succ_le hle, fun _ => Nat.lt_of_lt_of_le (Nat.succ_pos _) hle⟩
  | fired _ _ ih => exact ⟨ih.1, fun h => by cases h⟩
  | again _ _ _ _ ih => exact ⟨ih.1, fun h => by cases h⟩
  | early => exact ⟨Nat.le_refl _, fun h => by cases h⟩
  | pending => exact ⟨Nat.le_refl _, fun h => by cases h⟩
  | value => exact ⟨Nat.le_refl _, fun h => by cases h⟩
  | ended => exact ⟨Nat.le_refl _, fun h => by cases h⟩
  | broken => exact ⟨Nat.le_refl _, fun h => by cases h⟩
  | wait => exact ⟨Nat.le_refl _, fun h => by cases h⟩
  | done => exact ⟨Nat.le_refl _, fun h => by cases h⟩

/-! ## Courses -/

/-- What a stream comes to. -/
structure Course (w ε α : Type) where
  /-- The results it delivers. -/
  results : List (Except ε α)
  /-- Whether it ends without an error. -/
  succeeded : Bool
  /-- The number of its last attempt, counted from one. -/
  attempts : Nat
  world : w

/-- The course with some results delivered before. -/
def Course.after (results : List (Except ε α)) (c : Course w ε α) : Course w ε α :=
  { c with results := results ++ c.results }

/-- The course from attempt number `n` on, counted from one, when `left` attempts may follow it and
its inner stream comes to this. -/
def courseOf (play : τ → w → List α × Option ε × w) (r : Retry ε) (subscribe : Nat → τ) :
    (left n : Nat) → List α × Option ε × w → Course w ε α
  | left, n, outcome =>
    match outcome with
    | (values, none, s) => ⟨values.map .ok, true, n, s⟩
    | (values, some e, s) =>
      match r.verdict e n, left with
      | .wait _, left + 1 =>
        (courseOf play r subscribe left (n + 1) (play (subscribe n) s)).after (values.map .ok)
      | _, _ => ⟨values.map .ok ++ [.error e], false, n, s⟩

/-- The course of a stream that is not done. -/
def course (play : τ → w → List α × Option ε × w) (r : Retry ε) (t : Retrying τ) (s : w) :
    Course w ε α :=
  match t.stage with
  | .streaming inner =>
    courseOf play r t.subscribe (r.left (t.attempts - 1)) t.attempts (play inner s)
  | _ => courseOf play r t.subscribe (r.left t.attempts) (t.attempts + 1)
      (play (t.subscribe t.attempts) s)

section Courses

variable {subscribe : Nat → τ} {left n : Nat} {e : ε} {d : Duration} {values : List α}

theorem courseOf_of_ended :
    courseOf play r subscribe left n (values, none, s) = ⟨values.map .ok, true, n, s⟩ := by
  unfold courseOf
  rfl

theorem courseOf_cons (a : α) (values : List α) (rest : Option ε × w) :
    courseOf play r subscribe left n (a :: values, rest)
      = (courseOf play r subscribe left n (values, rest)).after [.ok a] := by
  obtain ⟨error, s⟩ := rest
  cases error with
  | none => simp [courseOf_of_ended, Course.after]
  | some e =>
    unfold courseOf
    simp only
    split <;> simp [Course.after]

theorem courseOf_of_giveUp (hv : r.verdict e n = .giveUp) :
    courseOf play r subscribe left n (values, some e, s)
      = ⟨values.map .ok ++ [.error e], false, n, s⟩ := by
  unfold courseOf
  simp only [hv]

theorem courseOf_of_wait (hv : r.verdict e n = .wait d) (hpos : 0 < n) :
    courseOf play r subscribe (r.left (n - 1)) n (values, some e, s)
      = (courseOf play r subscribe (r.left n) (n + 1) (play (subscribe n) s)).after
          (values.map .ok) := by
  obtain ⟨made, rfl⟩ := Nat.exists_eq_succ_of_ne_zero (Nat.ne_of_gt hpos)
  rw [Nat.succ_sub_one, Retry.left_of_lt (Retry.lt_of_wait hv)]
  conv_lhs => unfold courseOf
  simp only [hv]

/-- No attempt of a course comes before the one it begins with. -/
theorem le_attempts_courseOf (left n : Nat) (outcome : List α × Option ε × w) :
    n ≤ (courseOf play r subscribe left n outcome).attempts := by
  induction left generalizing n outcome with
  | zero =>
    obtain ⟨values, error, s⟩ := outcome
    cases error with
    | none => exact Nat.le_refl n
    | some e =>
      unfold courseOf
      cases hv : r.verdict e n <;> simp only [hv] <;> exact Nat.le_refl n
  | succ left ih =>
    obtain ⟨values, error, s⟩ := outcome
    cases error with
    | none => exact Nat.le_refl n
    | some e =>
      cases hv : r.verdict e n with
      | giveUp => rw [courseOf_of_giveUp hv]
      | wait d =>
        unfold courseOf
        simp only [hv]
        exact Nat.le_of_succ_le (ih (n + 1) _)

theorem le_attempts_course (play : τ → w → List α × Option ε × w) (r : Retry ε) (t : Retrying τ)
    (s : w) : t.attempts ≤ (t.course play r s).attempts := by
  unfold course
  split
  · exact le_attempts_courseOf ..
  · exact Nat.le_of_succ_le (le_attempts_courseOf ..)

end Courses

/-- What a poll of a stream with this course comes to: it delivers a part and leaves the rest, or it
delivers all that was left, and the retry counts the stream. -/
inductive Delivers (play : τ → w → List α × Option ε × w) (r : Retry ε) (c : Course w ε α) :
    Reply w τ ε α → Prop
  | part {signal : Signal ε α} {t : Retrying τ} {s : w} (hs : t.Sane r) (hl : ¬signal.IsLast)
      (ht : t.isTerminated = false)
      (hc : c = (t.course play r s).after signal.result?.toList) :
      Delivers play r c (signal, t, r, s)
  | rest {signal : Signal ε α} {t : Retrying τ} {s : w} (succeeded : Bool) (hl : signal.IsLast)
      (ht : t.isTerminated = true)
      (hc : c = ⟨signal.result?.toList, succeeded, t.attempts, s⟩) :
      Delivers play r c (signal, t, r.count succeeded t.attempts, s)

theorem delivers_loop (hplays : source.Plays play size) (h : Loop source now r t s reply)
    (hs : t.Sane r) (ht : t.isTerminated = false) :
    Delivers play r (t.course play r s) reply := by
  induction h with
  | subscribe _ ih => exact ih (Nat.succ_pos _) rfl
  | early hd => exact .part hs id rfl rfl
  | @fired _ n _ _ _ _ _ ih =>
    have hlt : n < r.config.maxAttempts := hs
    exact ih (Nat.le_of_lt hlt) rfl
  | @pending _ _ t _ s _ hp =>
    have hplay := hplays t s
    rw [hp] at hplay
    refine .part hs id rfl ?_
    simp only [course, hplay.1]
    rfl
  | @value _ _ t _ s _ a hp =>
    have hplay := hplays t s
    rw [hp] at hplay
    refine .part hs id rfl ?_
    simp only [course, hplay.1, courseOf_cons]
    rfl
  | @ended _ _ t _ s _ hp =>
    have hplay := hplays t s
    rw [hp] at hplay
    refine .rest true trivial rfl ?_
    simp only [course, hplay, courseOf_of_ended]
    rfl
  | @broken _ _ t _ s _ e hp hv =>
    have hplay := hplays t s
    rw [hp] at hplay
    refine .rest false trivial rfl ?_
    simp only [course, hplay, courseOf_of_giveUp hv]
    rfl
  | @again _ n t _ s _ _ _ _ hp hv _ _ ih =>
    have hplay := hplays t s
    rw [hp] at hplay
    have hc := ih (Nat.le_of_lt (Retry.lt_of_wait hv)) rfl
    simp only [course] at hc
    simp only [course, hplay, courseOf_of_wait hv hs]
    exact hc
  | @wait _ n t _ s _ _ _ hp hv _ =>
    have hplay := hplays t s
    rw [hp] at hplay
    refine .part (Retry.lt_of_wait hv) id rfl ?_
    simp only [course, hplay, courseOf_of_wait hv hs]
    rfl
  | done => simp [isTerminated] at ht

/-- **A poll takes from the course what it delivers.** -/
theorem delivers_poll (hplays : source.Plays play size) (now : Instant) (hs : t.Sane r)
    (ht : t.isTerminated = false) (s : w) :
    Delivers play r (t.course play r s) (t.poll source now r s) :=
  delivers_loop hplays (loop_poll source now hs s) hs ht

/-! ## Getting on -/

/-- How far a stream is from its end: the attempts not begun, and what the inner stream can still
give. -/
def rank (size : τ → Nat) (r : Retry ε) (t : Retrying τ) : Nat ×ₗ Nat :=
  toLex (r.config.maxAttempts + 1 - t.attempts, match t.stage with
    | .streaming inner => size inner + 1
    | _ => 0)

/-- What every poll but one that comes too early does to a stream. -/
def GetsOn (size : τ → Nat) (now : Instant) (r : Retry ε) (t : Retrying τ) :
    Reply w τ ε α → Prop
  | (_, t', _, _) => t'.isTerminated = true ∨
      rank size r t' < rank size r t ∧
        ∀ due, t'.wakesAt? = some due → ∃ d, due = deadline now d

theorem GetsOn.trans {t' : Retrying τ} (hlt : rank size r t' < rank size r t)
    (h : GetsOn size now r t' reply) : GetsOn size now r t reply :=
  h.imp_right fun ⟨hrank, hw⟩ => ⟨hrank.trans hlt, hw⟩

theorem getsOn_loop (hplays : source.Plays play size) (h : Loop source now r t s reply)
    (hs : t.Sane r) (hfired : ∀ due, t.wakesAt? = some due → ¬now < due) :
    GetsOn size now r t reply := by
  have hnone {subscribe : Nat → τ} {n : Nat} {inner : τ} (due : Instant)
      (h : (⟨subscribe, n, .streaming inner⟩ : Retrying τ).wakesAt? = some due) :
      ∃ d, due = deadline now d := by simp [wakesAt?] at h
  induction h with
  | @subscribe _ n _ _ _ ih =>
    have hle : n ≤ r.config.maxAttempts := hs
    refine .trans ?_ (ih (Nat.succ_pos _) fun due hdue => by simp [wakesAt?] at hdue)
    exact Prod.Lex.toLex_lt_toLex.mpr (.inl (by simp only; omega))
  | early hd => exact absurd hd (hfired _ rfl)
  | @fired _ n _ _ _ _ _ ih =>
    have hlt : n < r.config.maxAttempts := hs
    exact ih (Nat.le_of_lt hlt) fun due hdue => by simp [wakesAt?] at hdue
  | @pending _ _ t _ s _ hp =>
    have hplay := hplays t s
    rw [hp] at hplay
    refine .inr ⟨Prod.Lex.toLex_lt_toLex.mpr (.inr ⟨rfl, ?_⟩), hnone⟩
    exact Nat.succ_lt_succ hplay.2
  | @value _ _ t _ s _ a hp =>
    have hplay := hplays t s
    rw [hp] at hplay
    refine .inr ⟨Prod.Lex.toLex_lt_toLex.mpr (.inr ⟨rfl, ?_⟩), hnone⟩
    exact Nat.succ_lt_succ hplay.2
  | ended => exact .inl rfl
  | broken => exact .inl rfl
  | again _ hv _ _ ih =>
    have hle := Nat.le_of_lt (Retry.lt_of_wait hv)
    refine .trans ?_ (ih hle fun due hdue => by simp [wakesAt?] at hdue)
    exact Prod.Lex.toLex_lt_toLex.mpr (.inr ⟨rfl, Nat.succ_pos _⟩)
  | @wait _ _ _ _ _ _ _ d hp hv _ =>
    refine .inr ⟨Prod.Lex.toLex_lt_toLex.mpr (.inr ⟨rfl, Nat.succ_pos _⟩), fun due hdue => ?_⟩
    exact ⟨d, (Option.some.inj hdue).symm⟩
  | done => exact .inl rfl

/-- **Every poll of a retried stream gets on**, except while a wait is not over. -/
theorem advances (hplays : source.Plays play size) :
    Advances (fun (s : Retrying τ × Retry ε × w) now => (s.1.poll source now s.2.1 s.2.2).2)
      (fun s => s.1.wakesAt?) (fun s => s.1.isTerminated = true) (fun s => s.1.Sane s.2.1)
      (fun s => rank size s.2.1 s.1) where
  early := by
    rintro ⟨⟨subscribe, n, stage⟩, r, s⟩ due now hw hlt
    cases stage with
    | waiting due' =>
      obtain rfl : due' = due := Option.some.inj hw
      simp only [poll, if_pos hlt]
    | unsubscribed => cases hw
    | streaming => cases hw
    | done => cases hw
  onward := by
    rintro ⟨t, r, s⟩ now hs hlive hfired
    have hgets := getsOn_loop hplays (loop_poll source now hs s) hs hfired
    have hdelivers := delivers_poll hplays now hs (Bool.eq_false_iff.mpr hlive) s
    rcases hp : t.poll source now r s with ⟨signal, t', r', s'⟩
    rw [hp] at hgets hdelivers
    cases hdelivers with
    | part hs' _ ht' _ =>
      rcases hgets with hend | ⟨hrank, htimer⟩
      · exact .inl hend
      · exact .inr ⟨hs', hrank, htimer⟩
    | rest _ _ ht' _ => exact .inl ht'

/-! ## Readings -/

/-- How far a reading of a stream with this course has come: some results are still to be delivered
and nothing was counted, or all were, and the stream was counted once. -/
inductive Follows (play : τ → w → List α × Option ε × w) (r : Retry ε) (c : Course w ε α) :
    Reading (Retry ε × w) (Retrying τ) ε α → Prop
  | part {reading : Reading (Retry ε × w) (Retrying τ) ε α} (hr : reading.world.1 = r)
      (hs : reading.stream.Sane r) (ht : reading.stream.isTerminated = false)
      (hover : ¬reading.IsOver)
      (hc : c = (reading.stream.course play r reading.world.2).after reading.results) :
      Follows play r c reading
  | finished {reading : Reading (Retry ε × w) (Retrying τ) ε α}
      (hr : reading.world.1 = r.count c.succeeded c.attempts)
      (ht : reading.stream.isTerminated = true) (hover : reading.IsOver)
      (hc : c = ⟨reading.results, c.succeeded, reading.stream.attempts, reading.world.2⟩) :
      Follows play r c reading

theorem poll_of_terminated (source : Source w τ ε α) (now : Instant) (h : t.isTerminated = true)
    (r : Retry ε) (s : w) : t.poll source now r s = (.ended, t, r, s) := by
  refine poll_done source now ?_ r s
  obtain ⟨subscribe, n, stage⟩ := t
  cases stage with
  | done => rfl
  | unsubscribed => cases h
  | streaming => cases h
  | waiting => cases h

variable {c : Course w ε α} {reading : Reading (Retry ε × w) (Retrying τ) ε α}

theorem follows_poll (hplays : source.Plays play size) (h : Follows play r c reading)
    (now : Instant) : Follows play r c (reading.poll (Retrying.source source) now) := by
  unfold Reading.poll
  cases h with
  | part hr hs ht hover hc =>
    obtain ⟨signals, t, r', s⟩ := reading
    obtain rfl : r' = r := hr
    have hdelivers := delivers_poll hplays now hs ht s
    simp only [Retrying.source] at hc ⊢
    generalize t.poll source now r' s = reply at hdelivers ⊢
    cases hdelivers with
    | part hs' hl ht' hc' =>
      refine .part rfl hs' ht' ?_ ?_
      · rw [Reading.isOver_take]
        exact not_or.mpr ⟨hover, hl⟩
      · rw [hc, hc', Reading.results_take]
        simp only [Course.after, List.append_assoc]
        rfl
    | rest succeeded hl ht' hc' =>
      rw [hc'] at hc
      subst hc
      refine .finished rfl ht' ((Reading.isOver_take ..).mpr (.inr hl)) ?_
      rw [Reading.results_take]
      rfl
  | finished hr ht hover hc =>
    have hpoll := poll_of_terminated source now ht reading.world.1 reading.world.2
    simp only [Retrying.source, hpoll]
    refine .finished hr ht ((Reading.isOver_take ..).mpr (.inl hover)) ?_
    rw [Reading.results_take]
    simpa [Signal.result?, Reading.take] using hc

/-- **Every schedule follows the course** of the stream. -/
theorem follows_run (hplays : source.Plays play size) (hs : t.Sane r) (ht : t.isTerminated = false)
    (s : w) (polls : List Instant) :
    Follows play r (t.course play r s)
      ((Reading.start t (r, s)).run (Retrying.source source) polls) := by
  have hover : ¬(Reading.start t (r, s) : Reading _ _ ε α).IsOver := by
    simp [Reading.IsOver, Reading.start]
  exact Reading.run_induction (P := Follows play r (t.course play r s))
    (.part rfl hs ht hover rfl) (fun _ now h => follows_poll hplays h now) polls

theorem Follows.sane (h : Follows play r c reading) : reading.stream.Sane reading.world.1 := by
  cases h with
  | part hr hs _ _ _ => exact hr ▸ hs
  | finished _ ht _ _ =>
    obtain ⟨signals, ⟨subscribe, n, stage⟩, world⟩ := reading
    cases stage with
    | done => trivial
    | unsubscribed => cases ht
    | streaming => cases ht
    | waiting => cases ht

/-- A stream is done exactly when its error or its end was signalled. -/
theorem Follows.isTerminated_iff (h : Follows play r c reading) :
    reading.stream.isTerminated = true ↔ reading.IsOver := by
  cases h with
  | part _ _ ht hover _ => exact ⟨fun h => by simp [ht] at h, fun h => absurd h hover⟩
  | finished _ ht hover _ => exact ⟨fun _ => hover, fun _ => ht⟩

/-- The first poll makes an attempt. -/
theorem attempts_run_pos (hplays : source.Plays play size) (hs : t.Sane r)
    (ht : t.stage = .unsubscribed) (s : w) (now : Instant) (polls : List Instant) :
    0 < ((Reading.start t (r, s)).run (Retrying.source source) (now :: polls)).stream.attempts := by
  have hlive : t.isTerminated = false := by
    unfold isTerminated
    rw [ht]
  have hfirst := (attempts_loop (loop_poll source now hs s)).2 ht
  refine (Reading.run_induction
    (P := fun reading => Follows play r (t.course play r s) reading ∧ 0 < reading.stream.attempts)
    ⟨follows_run hplays hs hlive s [now], hfirst⟩ (fun reading now h => ?_) polls).2
  have hle := (attempts_loop (loop_poll source now h.1.sane reading.world.2)).1
  exact ⟨follows_poll hplays h.1 now, Nat.lt_of_lt_of_le h.2 hle⟩

/-- Patient schedules come to the end of a stream. -/
theorem exists_terminated (hplays : source.Plays play size) {polls : Nat → Instant}
    (hp : Patient polls) (hs : t.Sane r) (hw : t.wakesAt? = none) (s : w) :
    ∃ k, ((Reading.start t (r, s)).run (Retrying.source source)
      (firstPolls polls k)).stream.isTerminated = true := by
  obtain ⟨k, hk⟩ := (advances hplays).exists_over hp (t, r, s) hs hw
  refine ⟨k, ?_⟩
  have hstate := Reading.state_run (Retrying.source source) (Reading.start t (r, s))
    (firstPolls polls k)
  exact (congrArg (fun u => u.1.isTerminated) hstate).trans hk

end Retrying

end ClusterGuard
