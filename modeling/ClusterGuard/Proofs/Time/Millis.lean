import ClusterGuard.Configuration.Document
import Mathlib.Order.Bounds.Defs
import Mathlib.Tactic.IntervalCases

/-!
# Durations that are written and read back

A document holds the whole milliseconds of a duration, as far as they go, and what is read is that
number of milliseconds. A duration is `Storable` if nothing is lost on the way. Whatever the form
of the document, the number in it is the one that was written: a JSON text is its digits, and a
configuration document has it as a whole number.

Results:
* `plainNumber?_toDigits`: a whole number is read from its digits.
* `ofJson?_toString`, `millis?_whole`: so both forms hold the same durations.
* **`isGreatest_stored`**: what comes back is the longest storable duration that is not longer than
  what was written.
* **`millis_round_trip`**: writing and reading as a whole.
-/

namespace ClusterGuard

/-! ## Numbers as digits -/

theorem digitValue?_of_isDigit {c : Char} (h : c.isDigit = true) :
    digitValue? 10 c = some (c.toNat - '0'.toNat) := by
  have hle : c.val ≤ '9'.val := by
    simp only [Char.isDigit, Bool.and_eq_true, decide_eq_true_eq] at h
    exact h.2
  have hnat : c.toNat ≤ 57 := UInt32.le_iff_toNat_le.mp hle
  have hlt : c.toNat - '0'.toNat < 10 := by
    have hzero : '0'.toNat = 48 := rfl
    omega
  unfold digitValue? hexValue?
  rw [if_pos h, Option.filter_some, if_pos (decide_eq_true hlt)]

/-- Decimal digits are read as the number they stand for, whatever was read before them. -/
theorem foldlM_digits {cs : List Char} (h : ∀ c ∈ cs, c.isDigit = true) (n : Nat) :
    cs.foldlM (fun n c => (digitValue? 10 c).map (n * 10 + ·)) n
      = some (Nat.ofDigitChars 10 cs n) := by
  induction cs generalizing n with
  | nil => rfl
  | cons c cs ih =>
    have hc : c.isDigit = true := h c List.mem_cons_self
    rw [List.foldlM_cons, digitValue?_of_isDigit hc, Nat.ofDigitChars_cons, Nat.mul_comm 10 n]
    exact ih (fun c' hc' => h c' (List.mem_cons_of_mem c hc')) _

theorem isDigit_of_mem_toDigits {n : Nat} {c : Char} (h : c ∈ Nat.toDigits 10 n) :
    c.isDigit = true :=
  Nat.isDigit_of_mem_toDigits (by decide) (by decide) h

theorem readDigits?_toDigits (n : Nat) : readDigits? 10 (Nat.toDigits 10 n) = some n := by
  unfold readDigits?
  rw [foldlM_digits fun c hc => isDigit_of_mem_toDigits hc]
  exact congrArg some (Nat.ofDigitChars_toDigits (by decide) (by decide))

/-- Only zero has a zero in front. -/
theorem head?_toDigits_ne {n : Nat} (h : 0 < n) : (Nat.toDigits 10 n).head? ≠ some '0' := by
  induction n using Nat.strongRecOn with
  | ind n ih =>
    by_cases hlt : n < 10
    · rw [Nat.toDigits_of_lt_base hlt]
      interval_cases n <;> decide
    · have hsome : (Nat.toDigits 10 (n / 10)).head?.isSome = true :=
        List.isSome_head?.mpr Nat.toDigits_ne_nil
      rw [Nat.toDigits_of_base_le (by decide) (Nat.le_of_not_lt hlt), List.head?_append,
        Option.or_of_isSome hsome]
      exact ih (n / 10) (by omega) (by omega)

theorem isPlainNumber_toDigits (n : Nat) : isPlainNumber (Nat.toDigits 10 n) = true := by
  by_cases hn : n = 0
  · subst hn
    rfl
  · have hhead := head?_toDigits_ne (Nat.pos_of_ne_zero hn)
    have hdigits : ∀ c ∈ Nat.toDigits 10 n, c.isDigit = true := fun c hc =>
      isDigit_of_mem_toDigits hc
    have hne : Nat.toDigits 10 n ≠ [] := Nat.toDigits_ne_nil
    generalize Nat.toDigits 10 n = cs at hhead hdigits hne
    unfold isPlainNumber
    split
    · exact absurd rfl hne
    · exact absurd rfl hhead
    · rename_i c cs _
      have hc : c ≠ '0' := fun h => hhead (congrArg some h)
      simpa [hc] using hdigits

/-- **A whole number is read from its digits.** -/
theorem plainNumber?_toDigits (n : Nat) : plainNumber? (Nat.toDigits 10 n) = some n := by
  unfold plainNumber?
  rw [if_pos (isPlainNumber_toDigits n), readDigits?_toDigits]

namespace Duration

/-! ## Forms of documents -/

/-- Digits have no blanks around them. -/
theorem dropWhile_isJsonBlank {cs : List Char} (h : ∀ c ∈ cs, c.isDigit = true) :
    cs.dropWhile isJsonBlank = cs := by
  cases cs with
  | nil => rfl
  | cons c cs =>
    refine List.dropWhile_cons_of_neg fun hblank => ?_
    have hc := h c List.mem_cons_self
    simp only [isJsonBlank, Bool.or_eq_true, beq_iff_eq] at hblank
    rcases hblank with ((rfl | rfl) | rfl) | rfl <;> cases hc

theorem ofJson?_toString (n : Nat) : ofJson? (toString n) = ofDocument? n := by
  have hdigits : ∀ c ∈ Nat.toDigits 10 n, c.isDigit = true := fun c hc => isDigit_of_mem_toDigits hc
  have hreverse : ∀ c ∈ (Nat.toDigits 10 n).reverse, c.isDigit = true := fun c hc =>
    hdigits c (List.mem_reverse.mp hc)
  unfold ofJson?
  rw [Nat.toString_eq_repr, Nat.toList_repr, dropWhile_isJsonBlank hdigits,
    dropWhile_isJsonBlank hreverse, List.reverse_reverse]
  simp only [plainNumber?_toDigits]
  rfl

theorem millis?_whole (n : Nat) : Configuration.millis? (.whole n) = ofDocument? n := by
  unfold Configuration.millis? Configuration.below? ofDocument? maxMillis
  have hpos : 0 < UInt64.size := by decide
  by_cases h : n < UInt64.size
  · have hint : (0 : Int) ≤ n ∧ (n : Int) < UInt64.size := ⟨Int.natCast_nonneg n, by omega⟩
    simp only [if_pos hint, if_pos (Nat.le_sub_one_of_lt h)]
    rfl
  · have hint : ¬((0 : Int) ≤ n ∧ (n : Int) < UInt64.size) := fun hn => h (by omega)
    have hnat : ¬n ≤ UInt64.size - 1 := by omega
    simp only [if_neg hint, if_neg hnat]
    rfl

/-! ## What comes back -/

/-- Whether a duration is a whole number of milliseconds, of no more than 64 bits. -/
def Storable (d : Duration) : Prop := ∃ n : UInt64, d.nanos = n.toNat * 1000000

/-- The duration that is read where another was written. -/
def stored (d : Duration) : Duration := ofMillis d.toDocument

theorem nanos_ofMillis {n : Nat} (h : n ≤ maxMillis) : (ofMillis n).nanos = n * 1000000 := by
  unfold maxMillis UInt64.size at h
  unfold ofMillis saturating maxNanos nanosPerSecond UInt64.size
  simp only
  omega

/-- Reading splits a number of milliseconds into whole seconds and the rest. -/
theorem parts_ofMillis {n : Nat} (h : n ≤ maxMillis) :
    (ofMillis n).seconds = n / 1000 ∧ (ofMillis n).subsecond = n % 1000 * 1000000 := by
  unfold seconds subsecond nanosPerSecond
  rw [nanos_ofMillis h]
  omega

/-- Writing puts the two parts of a duration together. -/
theorem millis_eq (d : Duration) : d.millis = d.seconds * 1000 + d.subsecond / 1000000 := by
  unfold millis seconds subsecond nanosPerSecond
  omega

theorem toDocument_le (d : Duration) : d.toDocument ≤ maxMillis := Nat.min_le_left ..

theorem nanos_stored (d : Duration) : d.stored.nanos = d.toDocument * 1000000 :=
  nanos_ofMillis d.toDocument_le

theorem ofDocument?_toDocument (d : Duration) : ofDocument? d.toDocument = some d.stored :=
  if_pos d.toDocument_le

theorem toNat_le_maxMillis (n : UInt64) : n.toNat ≤ maxMillis := Nat.le_sub_one_of_lt n.toNat_lt

/-- What was read is written as it was. -/
theorem toDocument_ofMillis {n : Nat} (h : n ≤ maxMillis) : (ofMillis n).toDocument = n := by
  have hmillis : (ofMillis n).millis = n := by
    unfold millis
    rw [nanos_ofMillis h]
    exact Nat.mul_div_cancel n (by decide)
  unfold toDocument
  rw [hmillis]
  exact Nat.min_eq_right h

theorem storable_stored (d : Duration) : d.stored.Storable := by
  have hlt : d.toDocument < UInt64.size := Nat.lt_of_le_pred (by decide) d.toDocument_le
  refine ⟨.ofNat d.toDocument, ?_⟩
  rw [nanos_stored, UInt64.toNat_ofNat_of_lt' hlt]

theorem stored_le (d : Duration) : d.stored ≤ d := by
  rw [le_iff, nanos_stored]
  calc d.toDocument * 1000000
    _ ≤ d.millis * 1000000 := Nat.mul_le_mul_right _ (Nat.min_le_right ..)
    _ ≤ d.nanos := Nat.div_mul_le_self ..

/-- **What comes back** is the longest storable duration that is not longer than what was
written. -/
theorem isGreatest_stored (d : Duration) : IsGreatest {r | r.Storable ∧ r ≤ d} d.stored := by
  refine ⟨⟨d.storable_stored, d.stored_le⟩, ?_⟩
  rintro r ⟨⟨n, hn⟩, hle⟩
  rw [le_iff, hn] at hle
  rw [le_iff, hn, nanos_stored]
  have hmillis : n.toNat ≤ d.millis := (Nat.le_div_iff_mul_le (by decide)).mpr hle
  exact Nat.mul_le_mul_right _ (Nat.le_min.mpr ⟨toNat_le_maxMillis n, hmillis⟩)

theorem stored_eq_iff (d : Duration) : d.stored = d ↔ d.Storable := by
  constructor
  · intro h
    exact h ▸ d.storable_stored
  · intro h
    have hle : d ≤ d.stored := d.isGreatest_stored.2 ⟨h, Nat.le_refl d.nanos⟩
    exact ext_nanos (Nat.le_antisymm d.stored_le hle)

theorem stored_mono {d e : Duration} (h : d ≤ e) : d.stored ≤ e.stored :=
  e.isGreatest_stored.2 ⟨d.storable_stored, Nat.le_trans d.stored_le h⟩

/-- **Writing a duration and reading it back.** What comes back is the longest whole number of
milliseconds of at most 64 bits that is not longer than the duration, so the duration itself if it
is one; longer durations come back no shorter, what came back once comes back as it is, and every
number of 64 bits that is read is written again. The forms of documents make no difference. -/
theorem millis_round_trip :
    (∀ d : Duration, d.toDocument = min maxMillis (d.seconds * 1000 + d.subsecond / 1000000) ∧
      ofDocument? d.toDocument = some d.stored ∧ IsGreatest {r | r.Storable ∧ r ≤ d} d.stored ∧
      (d.stored = d ↔ d.Storable) ∧ d.stored.stored = d.stored) ∧
    (∀ d e : Duration, d ≤ e → d.stored ≤ e.stored) ∧
    (∀ n : UInt64, ∃ d, ofDocument? n.toNat = some d ∧ d.seconds = n.toNat / 1000 ∧
      d.subsecond = n.toNat % 1000 * 1000000 ∧ d.toDocument = n.toNat) ∧
    ∀ n : Nat, ofJson? (toString n) = ofDocument? n ∧
      Configuration.millis? (.whole n) = ofDocument? n := by
  refine ⟨fun d => ⟨congrArg (min maxMillis) d.millis_eq, ofDocument?_toDocument d,
    d.isGreatest_stored, d.stored_eq_iff, ?_⟩, fun d e h => stored_mono h, fun n => ?_,
    fun n => ⟨ofJson?_toString n, millis?_whole n⟩⟩
  · exact d.stored.stored_eq_iff.mpr d.storable_stored
  · have hle := toNat_le_maxMillis n
    obtain ⟨hseconds, hsubsecond⟩ := parts_ofMillis hle
    exact ⟨ofMillis n.toNat, if_pos hle, hseconds, hsubsecond, toDocument_ofMillis hle⟩

/-- A millisecond and a half lies below the longest duration, which comes back as the longest that a
document can hold. -/
theorem stored_of_longest :
    saturating 1500000 ≤ longest ∧ (saturating 1500000).stored ≤ longest.stored ∧
      (saturating 1500000).stored.nanos = 1000000 ∧ longest.toDocument = maxMillis :=
  ⟨by decide, millis_round_trip.2.1 _ _ (by decide), by decide, by decide⟩

end Duration

end ClusterGuard
