import ClusterGuard.Text.Split

/-!
# Encoded labels

A label of a domain name can stand for a text beyond ASCII. It then holds the ASCII characters of
the text, a hyphen, and for every further character, in ascending order, the number of steps to it.
A step goes to the next place in the text, or from behind the last place to the first place and the
next character. Numbers have a variable base: a digit below the threshold of its position is the
last one, and the thresholds follow the sizes of the numbers read so far. Each digit counts less
than `2 ^ 32` times its value.

Results:
* `length_readSteps`: a number takes up at least one character.
-/

namespace ClusterGuard.Uri.Punycode

/-- The value of a digit: letters stand for zero to 25, the ten digits for 26 to 35. -/
def digit? (c : Char) : Option Nat :=
  if c.isDigit then some (c.toNat - '0'.toNat + 26)
  else if c.isAlpha then some (c.toLower.toNat - 'a'.toNat)
  else none

/-- The threshold of the digit at a position, positions counted in steps of 36. -/
def threshold (bias position : Nat) : Nat := min 26 (max 1 (position - bias))

/-- Reads a number, whose first digit counts `weight`, and what follows it. -/
def readSteps? (bias : Nat) : (position weight sum : Nat) → List Char → Option (Nat × List Char)
  | _, _, _, [] => none
  | position, weight, sum, c :: cs => do
    let digit ← digit? c
    let t := threshold bias position
    if digit < t then some (sum + digit * weight, cs)
    else if UInt32.size ≤ weight * (36 - t) then none
    else readSteps? bias (position + 36) (weight * (36 - t)) (sum + digit * weight) cs

theorem length_readSteps {bias position weight sum n : Nat} {cs rest : List Char}
    (h : readSteps? bias position weight sum cs = some (n, rest)) : rest.length < cs.length := by
  induction cs generalizing position weight sum with
  | nil => simp [readSteps?] at h
  | cons c cs ih =>
    unfold readSteps? at h
    cases hd : digit? c with
    | none => simp [hd] at h
    | some digit =>
      simp only [hd, Option.bind_eq_bind, Option.bind_some] at h
      split at h
      · cases h; simp
      · split at h
        · simp at h
        · have := ih h; simp only [List.length_cons]; omega

/-- Brings a number down to 455 by divisions by 35, each of which counts 36. -/
def shrink (n count : Nat) : Nat × Nat :=
  if 455 < n then shrink (n / 35) (count + 36) else (n, count)
termination_by n
decreasing_by omega

/-- The bias after a number of steps that led to a text of the given length. -/
def nextBias (steps length : Nat) (first : Bool) : Nat :=
  let n := steps / (if first then 700 else 2)
  let (n, count) := shrink (n + n / length) 0
  count + 36 * n / (n + 38)

/-- The character of a number, if there is one. -/
def character? (n : Nat) : Option Char := if n.isValidChar then some (.ofNat n) else none

/-- Inserts the characters that the rest of a label tells of, from `code` and `place` on. -/
def insertAll? (bias code place : Nat) (text cs : List Char) : Option (List Char) :=
  match cs with
  | [] => some text
  | c :: cs =>
    match _h : readSteps? bias 36 1 0 (c :: cs) with
    | none => none
    | some (steps, rest) =>
      let length := text.length + 1
      let code' := code + (place + steps) / length
      let place' := (place + steps) % length
      match character? code' with
      | none => none
      | some c =>
        insertAll? (nextBias steps length (place == 0)) code' (place' + 1)
          (text.take place' ++ c :: text.drop place') rest
termination_by cs.length
decreasing_by exact length_readSteps ‹_›

/-- The text that an encoded label stands for, if it stands for one. -/
def decode? (label : List Char) : Option (List Char) :=
  match label.reverse.span (· != '-') with
  | (_, []) | (_, [_]) => insertAll? 72 128 0 [] label
  | (encoded, _ :: plain) => insertAll? 72 128 0 plain.reverse encoded.reverse

end ClusterGuard.Uri.Punycode
