import ClusterGuard.Proofs.Breaker.Taken
import ClusterGuard.Proofs.Number.Percent

/-!
# Outages

When every call fails, a closed circuit should open after as many failures as its window holds:
nothing else is kept then, and no threshold is above a hundred percent. What decides is whether the
percentage of a whole in itself, rounded, reaches the threshold. It does for every threshold below a
hundred, and for a hundred in windows of up to `671088` outcomes; a window of one more outcome is
too large for a threshold of a hundred.

Results:
* `opens_row_iff`: when outcomes of one kind in a row open the circuit.
* **`outage_opens_iff`**: when an outage is sure to open the circuit.
* **`unnoticed_outage`**: an accepted configuration with an outage that leaves the circuit closed.
-/

namespace ClusterGuard.Breaker

variable {c : Config}

/-- The latest outcomes after a row that fills the window. -/
theorem rtake_append_replicate {α : Type} (l : List α) (x : α) (n : Nat) :
    (l ++ List.replicate n x).rtake n = List.replicate n x := by
  have hlength : (l ++ List.replicate n x).length - n = l.length := by simp
  rw [List.rtake, hlength, List.drop_left]

/-- The first of some numbers is one, or another one follows. -/
theorem exists_pos_le_succ_iff {P : Nat → Prop} {n : Nat} :
    (∃ k, 0 < k ∧ k ≤ n + 1 ∧ P k) ↔ P 1 ∨ ∃ k, 0 < k ∧ k ≤ n ∧ P (k + 1) := by
  constructor
  · rintro ⟨k, hk, hle, h⟩
    obtain ⟨j, rfl⟩ := Nat.exists_eq_succ_of_ne_zero (Nat.ne_of_gt hk)
    rcases Nat.eq_zero_or_pos j with rfl | hj
    · exact .inl h
    · exact .inr ⟨j, hj, Nat.le_of_succ_le_succ hle, h⟩
  · rintro (h | ⟨k, hk, hle, h⟩)
    · exact ⟨1, Nat.one_pos, Nat.succ_le_succ (Nat.zero_le n), h⟩
    · exact ⟨k + 1, Nat.succ_pos k, Nat.succ_le_succ hle, h⟩

/-- A row of failures opens the circuit when there are enough of them, and their percentage reaches
the threshold. -/
theorem trips_replicate_iff (c : Config) (n : Nat) :
    Trips c (List.replicate n .failure)
      ↔ min c.minimum c.window ≤ n ∧ c.threshold.le (Binary.percent n n) = true := by
  unfold Trips
  rw [List.length_replicate, List.count_replicate_self]

namespace Session

variable {s : Session} {l : List Outcome} {o : Outcome}

/-- Operations each of which, as long as the circuit is closed, makes the breaker take an outcome of
one kind. -/
def Row (o : Outcome) (s : Session) : List Operation → Prop
  | [] => True
  | op :: ops => (s.breaker.state = .closed → s.takes op = some o) ∧ Row o (s.step op) ops

/-- Outcomes recorded without permits, one after the other. -/
theorem row_replicate (o : Outcome) (s : Session) (n : Nat) :
    s.Row o (List.replicate n (.record o)) := by
  induction n generalizing s with
  | zero => trivial
  | succ n ih => exact ⟨fun _ => rfl, ih _⟩

/-- Whether outages open the circuit, from whatever closed state they set in: as many failures as
the window holds, with nothing in between, open it at the latest with the last of them. -/
def NoticesOutages (c : Config) : Prop :=
  ∀ (name : String) (clock : Instant) (ops row : List Operation),
    ((start name c clock).run ops).breaker.state = .closed → row.length = c.window →
    ((start name c clock).run ops).Row .failure row →
    ∃ k, 0 < k ∧ k ≤ c.window ∧
      (((start name c clock).run ops).run (row.take k)).breaker.state = .opened

/-- What a row of outcomes comes to that would not open the circuit at any point. -/
theorem closed_run_row (hc : c.Valid) (hb : Booked c s)
    (h : Windowed c { s with counted := l }) (hs : s.breaker.state = .closed)
    {row : List Operation} (hrow : s.Row o row)
    (hquiet : ∀ k, 0 < k → k ≤ row.length →
      ¬Trips c ((l ++ List.replicate k o).rtake c.window)) :
    (s.run row).breaker.state = .closed ∧
      Windowed c { s.run row with counted := l ++ List.replicate row.length o } := by
  induction row generalizing s l with
  | nil =>
    rw [List.length_nil, List.replicate_zero, List.append_nil]
    exact ⟨hs, h⟩
  | cons op row ih =>
    have ht := hrow.1 hs
    have hne : (s.step op).breaker.state ≠ .opened := by
      rw [Ne, opened_step_of_takes_iff hc hb h hs ht]
      exact hquiet 1 Nat.one_pos (Nat.succ_pos _)
    obtain ⟨hclosed, hnext⟩ := windowed_of_takes hc hb h hs ht hne
    have hrest := ih (booked_step hc.2.2.2 hb op) hnext hclosed hrow.2 fun k hk hle => by
      rw [List.append_assoc, List.singleton_append, ← List.replicate_succ]
      exact hquiet (k + 1) (Nat.succ_pos k) (Nat.succ_le_succ hle)
    rwa [List.append_assoc, List.singleton_append, ← List.replicate_succ] at hrest

/-- **When outcomes of one kind in a row open the circuit.** -/
theorem opens_row_iff (hc : c.Valid) (hb : Booked c s) (h : Windowed c { s with counted := l })
    (hs : s.breaker.state = .closed) {row : List Operation} (hrow : s.Row o row) :
    (∃ k, 0 < k ∧ k ≤ row.length ∧ (s.run (row.take k)).breaker.state = .opened) ↔
      ∃ k, 0 < k ∧ k ≤ row.length ∧ Trips c ((l ++ List.replicate k o).rtake c.window) := by
  induction row generalizing s l with
  | nil =>
    constructor
    · rintro ⟨k, hk, hle, -⟩
      exact absurd hk (Nat.not_lt_of_le hle)
    · rintro ⟨k, hk, hle, -⟩
      exact absurd hk (Nat.not_lt_of_le hle)
  | cons op row ih =>
    have ht := hrow.1 hs
    have hfirst := opened_step_of_takes_iff hc hb h hs ht
    rw [List.length_cons, exists_pos_le_succ_iff, exists_pos_le_succ_iff]
    by_cases htrips : Trips c ((l ++ [o]).rtake c.window)
    · exact iff_of_true (.inl (hfirst.mpr htrips)) (.inl htrips)
    · have hne : (s.step op).breaker.state ≠ .opened := fun hopened => htrips (hfirst.mp hopened)
      obtain ⟨hclosed, hnext⟩ := windowed_of_takes hc hb h hs ht hne
      have hrest := ih (booked_step hc.2.2.2 hb op) hnext hclosed hrow.2
      simp only [List.append_assoc, List.singleton_append, ← List.replicate_succ] at hrest
      exact or_congr (iff_of_false hne htrips) hrest

/-! ## Outages -/

/-- A window full of outcomes that open the circuit holds no more failures than outcomes. -/
theorem le_percent_of_trips (hu : c.window < 2 ^ 32) (hpos : 0 < c.window) {kept : List Outcome}
    (hlength : kept.length = c.window) (h : Trips c kept) :
    c.threshold.le (Binary.percent c.window c.window) = true := by
  have hrate := h.2
  have hle : kept.count Outcome.failure ≤ c.window := hlength ▸ List.count_le_length
  rw [hlength] at hrate
  exact Binary.le_trans hrate (Binary.percent_mono hle hu hpos hu)

/-- Successes alone do not open a circuit. -/
theorem not_trips_of_successes (hc : c.Valid) (hu : c.window < 2 ^ 32) {n : Nat}
    (hn : n ≤ c.window) : ¬Trips c (List.replicate n .success) := by
  rintro ⟨hmin, hrate⟩
  have hpos := Nat.lt_of_lt_of_le (effectiveMinimum_pos hc) hmin
  rw [List.length_replicate] at hpos hrate
  have hnone : (List.replicate n Outcome.success).count .failure = 0 := by
    simp [List.count_replicate]
  rw [hnone, Binary.percent_zero hpos (by omega)] at hrate
  have hthreshold := hc.2.2.1
  simp only [Config.isThreshold, Bool.and_eq_true] at hthreshold
  exact Binary.not_le_of_lt hthreshold.1 hrate

/-- A new breaker stays closed for as many successes as its window holds. -/
theorem closed_run_successes (hc : c.Valid) (hu : c.window < 2 ^ 32) (name : String)
    (clock : Instant) :
    let s := (start name c clock).run (List.replicate c.window (.record .success))
    s.breaker.state = .closed ∧
      Windowed c { s with counted := List.replicate c.window Outcome.success } := by
  have hrow := closed_run_row hc (booked_start name c clock) (l := [])
    (windowed_start hc name clock) rfl
    (row_replicate .success (start name c clock) c.window) ?_
  · simpa using hrow
  · intro k _ hle
    rw [List.length_replicate] at hle
    rw [List.nil_append, rtake_of_length_le (by simpa using hle)]
    exact not_trips_of_successes hc hu hle

/-- As many failures in a row as the window holds open any closed circuit whose threshold is reached
by a window full of failures. -/
theorem opens_of_outage (hc : c.Valid) (hb : Booked c s) (h : Windowed c { s with counted := l })
    (hs : s.breaker.state = .closed)
    (hle : c.threshold.le (Binary.percent c.window c.window) = true) {row : List Operation}
    (hlength : row.length = c.window) (hrow : s.Row .failure row) :
    ∃ k, 0 < k ∧ k ≤ c.window ∧ (s.run (row.take k)).breaker.state = .opened := by
  rw [← hlength]
  refine (opens_row_iff hc hb h hs hrow).mpr ⟨row.length, ?_, Nat.le_refl _, ?_⟩
  · rw [hlength]
    exact hc.1
  · rw [hlength, rtake_append_replicate, trips_replicate_iff]
    exact ⟨Nat.min_le_right .., hle⟩

/-- Otherwise a window full of successes makes room for as many failures, and none of them opens the
circuit. -/
theorem le_of_noticesOutages (hc : c.Valid) (hu : c.window < 2 ^ 32) (h : NoticesOutages c) :
    c.threshold.le (Binary.percent c.window c.window) = true := by
  obtain ⟨hclosed, hw⟩ := closed_run_successes hc hu "" .zero
  have hb := booked_run hc.2.2.2 "" .zero (List.replicate c.window (.record .success))
  have hrow := row_replicate .failure
    ((start "" c .zero).run (List.replicate c.window (.record .success))) c.window
  have hopens := h "" .zero _ _ hclosed List.length_replicate hrow
  have htrips := opens_row_iff hc hb hw hclosed hrow
  rw [List.length_replicate] at htrips
  obtain ⟨k, -, -, hk⟩ := htrips.mp hopens
  refine le_percent_of_trips hu hc.1 ?_ hk
  rw [length_rtake, List.length_append, List.length_replicate, List.length_replicate]
  omega

/-- Failures alone open a new circuit when there are enough of them, and as many of as many reach
the threshold. -/
theorem opens_new_iff (hc : c.Valid) (name : String) (clock : Instant) {row : List Operation}
    (hlength : row.length = c.window) (hrow : (start name c clock).Row .failure row) :
    (∃ k, 0 < k ∧ k ≤ c.window ∧
      ((start name c clock).run (row.take k)).breaker.state = .opened) ↔
    ∃ k, min c.minimum c.window ≤ k ∧ k ≤ c.window ∧
      c.threshold.le (Binary.percent k k) = true := by
  have htrips := opens_row_iff hc (booked_start name c clock) (l := [])
    (windowed_start hc name clock) rfl hrow
  rw [hlength] at htrips
  rw [htrips]
  constructor
  · rintro ⟨k, -, hle, hk⟩
    rw [List.nil_append, rtake_of_length_le (by simpa using hle), trips_replicate_iff] at hk
    exact ⟨k, hk.1, hle, hk.2⟩
  · rintro ⟨k, hmin, hle, hrate⟩
    refine ⟨k, Nat.lt_of_lt_of_le (effectiveMinimum_pos hc) hmin, hle, ?_⟩
    rw [List.nil_append, rtake_of_length_le (by simpa using hle), trips_replicate_iff]
    exact ⟨hmin, hrate⟩

/-- **Outages open the circuit** of a breaker with an accepted configuration, from whatever closed
state they set in, exactly if the percentage of the window in itself reaches the threshold. It does
if the threshold is below a hundred, and if a hundred times the size of the window is not rounded. A
new breaker need not wait for the window to be full: the percentage of any number of failures in
itself opens it, if they are enough to be judged. -/
theorem outage_opens_iff (hv : c.validate = .ok ()) (hu : c.window < 2 ^ 32) :
    (NoticesOutages c ↔ c.threshold.le (Binary.percent c.window c.window) = true) ∧
    (c.threshold.lt (.ofNat _ 100) = true ∨ c.window ≤ 671088 → NoticesOutages c) ∧
    ∀ (name : String) (clock : Instant) (row : List Operation), row.length = c.window →
      (start name c clock).Row .failure row →
      ((∃ k, 0 < k ∧ k ≤ c.window ∧
        ((start name c clock).run (row.take k)).breaker.state = .opened) ↔
      ∃ k, min c.minimum c.window ≤ k ∧ k ≤ c.window ∧
        c.threshold.le (Binary.percent k k) = true) := by
  have hc := (c.validate_ok_iff).mp hv
  have hnotices : c.threshold.le (Binary.percent c.window c.window) = true → NoticesOutages c := by
    intro hle name clock ops row hs hlength hrow
    have hb := booked_run hc.2.2.2 name clock ops
    exact opens_of_outage hc hb (windowed_taken hc name clock ops) hs hle hlength hrow
  refine ⟨⟨le_of_noticesOutages hc hu, hnotices⟩, ?_, ?_⟩
  · rintro (hlt | hsmall)
    · exact hnotices (Binary.le_percent_self hlt hc.1 hu)
    · refine hnotices ?_
      have hthreshold := hc.2.2.1
      simp only [Config.isThreshold, Bool.and_eq_true] at hthreshold
      rw [Binary.percent_self hc.1 hsmall]
      exact hthreshold.2
  · intro name clock row hlength hrow
    exact opens_new_iff hc name clock hlength hrow

/-- A circuit that opens when both of two calls failed holds a success. Two failures in a row are an
outage, and open it. -/
theorem outage_of_pair :
    let s := (start "pair" pair .zero).run [.record .success]
    pair.validate = .ok () ∧ pair.window < 2 ^ 32 ∧ s.breaker.state = .closed ∧
      ∃ k, 0 < k ∧ k ≤ 2 ∧
        (s.run ([.record .failure, .record .failure].take k)).breaker.state = .opened := by
  have hv : pair.validate = .ok () := pair.validate_ok_iff.mpr (by decide +kernel)
  have hu : pair.window < 2 ^ 32 := by decide
  have hs : ((start "pair" pair .zero).run [.record .success]).breaker.state = .closed := by
    decide +kernel
  obtain ⟨-, hnotices, -⟩ := outage_opens_iff hv hu
  refine ⟨hv, hu, hs, ?_⟩
  exact hnotices (.inr (by decide)) "pair" .zero _ _ hs rfl (row_replicate .failure _ 2)

/-- A window of the first size of which a hundredfold is rounded, to be full of failures before the
circuit opens. -/
def vast : Config := { window := 671089, minimum := 671089, threshold := .ofNat _ 100 }

/-- **An outage may go unnoticed.** A window full of failures and of nothing else leaves the circuit
closed, although the configuration is accepted. -/
theorem unnoticed_outage :
    vast.validate = .ok () ∧
      ((start "vast" vast .zero).run
        (List.replicate vast.window (.record .failure))).breaker.state = .closed := by
  have hv : vast.validate = .ok () := vast.validate_ok_iff.mpr (by decide +kernel)
  have hc := (vast.validate_ok_iff).mp hv
  refine ⟨hv, (closed_run_row hc (booked_start "vast" vast .zero) (l := [])
    (windowed_start hc "vast" .zero) rfl (row_replicate .failure _ vast.window) ?_).1⟩
  intro k _ hle htrips
  rw [List.length_replicate] at hle
  rw [List.nil_append, rtake_of_length_le (by simpa using hle), trips_replicate_iff] at htrips
  obtain rfl : k = 671089 := Nat.le_antisymm hle htrips.1
  exact Binary.not_le_of_lt Binary.percent_self_lt htrips.2

end Session

end ClusterGuard.Breaker
