import ClusterGuard.Proofs.Breaker.Taken
import ClusterGuard.Proofs.Number.Percent

/-!
# Successes that open the circuit

The failure rate is judged from the moment enough outcomes are kept. At that moment it is judged for
the first time, and the outcome that makes them enough may well be a success. From then on a closed
circuit is known to be below its threshold, and a success cannot take it there: whatever it pushes
out, no failure joins those kept, and they are among at least as many outcomes. Percentages are
rounded, but their order is not disturbed.

Results:
* `not_trips_of_success`: a success that joins outcomes below the threshold leaves them there.
* **`success_opens_only_at_first_judgement`**: the one success that may open the circuit.
-/

namespace ClusterGuard.Breaker

variable {c : Config} {kept : List Outcome}

/-- The failures among the latest outcomes do not become more by a success. -/
theorem count_rtake_success_le (kept : List Outcome) (n : Nat) :
    ((kept ++ [Outcome.success]).rtake n).count Outcome.failure ≤ kept.count Outcome.failure := by
  have hsuffix : ((kept ++ [Outcome.success]).rtake n).count Outcome.failure
      ≤ (kept ++ [Outcome.success]).count Outcome.failure := (List.drop_sublist ..).count_le _
  simpa [List.count_append] using hsuffix

/-- **A success that joins outcomes below the threshold leaves them there**, if they were enough to
be judged. -/
theorem not_trips_of_success (hc : c.Valid) (hu : c.window < 2 ^ 32)
    (hsize : kept.length ≤ c.window) (hmin : c.effectiveMinimum ≤ kept.length)
    (h : ¬Trips c kept) : ¬Trips c ((kept ++ [Outcome.success]).rtake c.window) := by
  rintro ⟨-, hrate⟩
  have hpos := Nat.lt_of_lt_of_le (effectiveMinimum_pos hc) hmin
  have hlength := length_rtake (kept ++ [Outcome.success]) c.window
  have hfewer := count_rtake_success_le kept c.window
  have hcount : kept.count Outcome.failure ≤ kept.length := List.count_le_length
  rw [List.length_append, List.length_singleton] at hlength
  generalize (kept ++ [Outcome.success]).rtake c.window = kept' at hrate hlength hfewer
  have hpart : (Binary.percent (kept'.count Outcome.failure) kept'.length).le
      (Binary.percent (kept.count Outcome.failure) kept'.length) = true :=
    Binary.percent_mono hfewer (by omega) (by omega) (by omega)
  have hwhole : (Binary.percent (kept.count Outcome.failure) kept'.length).le
      (Binary.percent (kept.count Outcome.failure) kept.length) = true :=
    Binary.percent_anti (by omega) (by omega) hpos (by omega)
  exact h ⟨hmin, Binary.le_trans (Binary.le_trans hrate hpart) hwhole⟩

namespace Session

variable {s : Session} {l : List Outcome}

/-- A closed circuit is below its threshold as soon as the rate is judged. -/
theorem not_trips_of_closed (hc : c.Valid) (h : Windowed c { s with counted := l })
    (hs : s.breaker.state = .closed) : ¬Trips c (l.rtake c.window) := by
  have hquiet : trips c s.breaker.window = false := h.quiet hs
  have hout : s.breaker.window.outcomes = l.rtake c.window := h.outcomes hs
  rw [← hout, ← trips_iff hc h.failures]
  simp [hquiet]

/-- A success taken by a closed circuit opens it exactly if it makes the outcomes enough to be
judged, and the failures among them are enough, too. -/
theorem opened_success_iff (hc : c.Valid) (hu : c.window < 2 ^ 32) (hb : Booked c s)
    (h : Windowed c { s with counted := l }) (hs : s.breaker.state = .closed) {op : Operation}
    (ht : s.takes op = some .success) :
    (s.step op).breaker.state = .opened ↔
      l.length + 1 = min c.minimum c.window ∧ Trips c (l ++ [Outcome.success]) := by
  have hwhole (hle : l.length + 1 ≤ c.window) :
      (l ++ [Outcome.success]).rtake c.window = l ++ [Outcome.success] :=
    rtake_of_length_le (by simpa using hle)
  rw [opened_step_of_takes_iff hc hb h hs ht]
  constructor
  · intro htrips
    have hfirst : l.length + 1 = min c.minimum c.window := by
      by_contra hne
      have hmin := htrips.1
      rw [length_rtake, List.length_append, List.length_singleton] at hmin
      refine not_trips_of_success hc hu (length_rtake_le l c.window) ?_
        (not_trips_of_closed hc h hs) ?_
      · rw [length_rtake]
        unfold Config.effectiveMinimum
        omega
      · rwa [rtake_concat l .success hc.1]
    rw [hwhole (by omega)] at htrips
    exact ⟨hfirst, htrips⟩
  · rintro ⟨hfirst, htrips⟩
    rwa [hwhole (by omega)]

/-- **A success opens the circuit only at the first judgement.** After any run of operations of a
breaker with an accepted configuration that leaves the circuit closed, a success that the breaker
takes opens it exactly if it is the first one with which there are enough outcomes since the circuit
was closed, and the failure rate among them reaches the threshold. Any other success leaves the
circuit closed and joins the latest outcomes. Below `2 ^ 64` transitions the outcomes taken are
those that count. -/
theorem success_opens_only_at_first_judgement (hv : c.validate = .ok ()) (hu : c.window < 2 ^ 32)
    (name : String) (clock : Instant) (ops : List Operation) (op : Operation)
    (hs : ((start name c clock).run ops).breaker.state = .closed)
    (ht : ((start name c clock).run ops).takes op = some .success) :
    let s := (start name c clock).run ops
    let taken := (start name c clock).taken ops
    ((s.step op).breaker.state = .opened ↔
      taken.length + 1 = min c.minimum c.window ∧ Trips c (taken ++ [Outcome.success])) ∧
    (taken.length + 1 ≠ min c.minimum c.window →
      (s.step op).breaker.state = .closed ∧
      (s.step op).breaker.window.outcomes = (taken ++ [Outcome.success]).rtake c.window) ∧
    (s.transitions < 2 ^ 64 → taken = s.counted) := by
  intro s taken
  have hc := (c.validate_ok_iff).mp hv
  have hb : Booked c s := booked_run hc.2.2.2 name clock ops
  have hw : Windowed c { s with counted := taken } := windowed_taken hc name clock ops
  have hiff := opened_success_iff hc hu hb hw hs ht
  refine ⟨hiff, ?_, ?_⟩
  · intro hne
    obtain ⟨hclosed, hnext⟩ :=
      windowed_of_takes hc hb hw hs ht fun hopened => hne (hiff.mp hopened).1
    exact ⟨hclosed, hnext.outcomes hclosed⟩
  · intro hn
    exact taken_eq_counted hc.2.2.2 name clock ops hn hs

/-- A breaker that judges from the third outcome on. -/
def hesitant : Config := { window := 4, minimum := 3, trials := 1 }

/-- Two of three calls failed, which is enough to open the circuit, but it is the success of the
third that makes them three. -/
theorem opened_by_success :
    let s := (start "hesitant" hesitant .zero).run [.acquire, .record .failure, .record .failure]
    hesitant.validate = .ok () ∧ hesitant.window < 2 ^ 32 ∧ s.breaker.state = .closed ∧
      s.takes (.finish 0 .success) = some .success ∧
      (s.step (.finish 0 .success)).breaker.state = .opened := by
  have hv : hesitant.validate = .ok () := hesitant.validate_ok_iff.mpr (by decide +kernel)
  have hu : hesitant.window < 2 ^ 32 := by decide
  have hs : ((start "hesitant" hesitant .zero).run
      [.acquire, .record .failure, .record .failure]).breaker.state = .closed := by
    decide +kernel
  have ht : ((start "hesitant" hesitant .zero).run
      [.acquire, .record .failure, .record .failure]).takes (.finish 0 .success)
        = some .success := by
    decide +kernel
  obtain ⟨hopens, -⟩ :=
    success_opens_only_at_first_judgement hv hu "hesitant" .zero _ (.finish 0 .success) hs ht
  exact ⟨hv, hu, hs, ht, hopens.mpr ⟨by decide +kernel, by decide +kernel⟩⟩

end Session

end ClusterGuard.Breaker
