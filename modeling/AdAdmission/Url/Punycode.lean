import AdAdmission.Text.Digits
/-! Punycode. A label of a domain name with characters beyond ASCII is transported as ASCII text: first
    the ASCII characters of the label, then, after a hyphen, where to insert which other characters, in
    ascending order of character. Each insertion is a number in base 36 of variable length, whose
    digits have thresholds that adapt to the numbers before. -/

namespace AdAdmission
namespace Url
namespace Punycode

/-- The value of a digit: letters of either case, then the decimal digits. -/
def digit? (c : Char) : Option Nat :=
  if 'a' ≤ c ∧ c ≤ 'z' then some (c.toNat - 'a'.toNat)
  else if 'A' ≤ c ∧ c ≤ 'Z' then some (c.toNat - 'A'.toNat)
  else if c.isDigit then some (26 + (c.toNat - '0'.toNat))
  else none

/-- The threshold of the digit at place `k`, where places are counted by 36. -/
def threshold (k bias : Nat) : Nat :=
  if k ≤ bias then 1 else if bias + 26 ≤ k then 26 else k - bias

/-- Divides by 35 until the number is at most 455, and counts by how many times 36. -/
def halve (delta k : Nat) : Nat × Nat :=
  if delta ≤ 455 then (delta, k) else halve (delta / 35) (k + 36)
termination_by delta

/-- The bias after an insertion that moved on by `delta`, with `count` characters placed. -/
def adapt (delta count : Nat) (first : Bool) : Nat :=
  let delta := if first then delta / 700 else delta / 2
  let (delta, k) := halve (delta + delta / count) 0
  k + 36 * delta / (delta + 38)

/-- Reads one number, from the place `k` on with the given weight. -/
def takeNumber (bias : Nat) : (k weight value : Nat) → List Char → Option (Nat × List Char)
  | _, _, _, [] => none
  | k, weight, value, c :: rest => do
    let d ← digit? c
    let value := value + d * weight
    let t := threshold k bias
    if d < t then some (value, rest)
    else if weight * (36 - t) < 4294967296 then takeNumber bias (k + 36) (weight * (36 - t)) value rest
    else none

theorem takeNumber_length {bias k weight value : Nat} {cs rest : List Char} {n : Nat}
    (h : takeNumber bias k weight value cs = some (n, rest)) : rest.length < cs.length := by
  induction cs generalizing k weight value with
  | nil => simp [takeNumber] at h
  | cons c cs ih =>
    rw [takeNumber] at h
    cases hd : digit? c with
    | none => simp [hd] at h
    | some d =>
      simp only [hd, Option.bind_eq_bind, Option.bind_some] at h
      split at h
      · cases h
        simp
      · split at h
        · have := ih h
          simp only [List.length_cons]
          omega
        · cases h

/-- Inserts the characters that the rest of the text tells. `n` is the least character that can come
    next and `i` the place after the last insertion. -/
def insertions (n i bias : Nat) (out : List Char) (cs : List Char) : Option (List Char) :=
  match cs with
  | [] => some out
  | c :: tail =>
    match _h : takeNumber bias 36 1 i (c :: tail) with
    | none => none
    | some (next, rest) =>
      let count := out.length + 1
      let n := n + next / count
      let place := next % count
      if n.isValidChar then
        insertions n (place + 1) (adapt (next - i) count (i == 0))
          (out.take place ++ Char.ofNat n :: out.drop place) rest
      else none
termination_by cs.length
decreasing_by exact takeNumber_length ‹_›

/-- The label that a text stands for. The last hyphen ends its ASCII characters, unless it comes
    first. -/
def decode? (cs : List Char) : Option (List Char) :=
  let tail := (cs.reverse.takeWhile (· != '-')).reverse
  let head := cs.take (cs.length - tail.length - 1)
  if tail.length < cs.length ∧ head ≠ [] then insertions 128 0 72 head tail
  else insertions 128 0 72 [] cs

end Punycode
end Url
end AdAdmission
