import CredentialRotation.Word

/-!
# Text — Punycode

Text of any characters written with letters, digits and hyphens.  The ASCII characters of the text
come first, with a hyphen after them.  Then come the others in the order of their code points, each
as the number of steps to it: a step goes to the next place of the text so far, and from the last
place to the first one with the next code point.  A number is written in digits of base 36, the
lowest first, that end at the first digit below a threshold; the thresholds follow the numbers
before.

**Main statements.**  Every digit reads back (`digit?_digitChar`), and reading a number leaves less
text (`length_lt_of_readSteps?`).
-/

namespace CredentialRotation.Text.Punycode

/-! ### Digits -/

/-- The number of digits. -/
def base : Nat := 36

/-- The digit of a value below `base`: a letter, or from 26 on a decimal digit. -/
def digitChar (d : Nat) : Char := if d < 26 then Char.ofNat (97 + d) else Char.ofNat (22 + d)

/-- The value of a digit. -/
def digit? (c : Char) : Option Nat :=
  if 97 ≤ c.toNat ∧ c.toNat ≤ 122 then some (c.toNat - 97)
  else if 65 ≤ c.toNat ∧ c.toNat ≤ 90 then some (c.toNat - 65)
  else if 48 ≤ c.toNat ∧ c.toNat ≤ 57 then some (c.toNat - 22)
  else none

theorem digit?_digitChar {d : Nat} (h : d < base) : digit? (digitChar d) = some d := by
  have all : ∀ e ∈ List.range base, digit? (digitChar e) = some e := by decide
  exact all d (List.mem_range.2 h)

/-! ### Thresholds -/

/-- The least threshold. -/
def least : Nat := 1

/-- The greatest threshold. -/
def greatest : Nat := 26

/-- The threshold of the digit at the place `place`, the places being `base` apart. -/
def threshold (bias place : Nat) : Nat := min greatest (max least (place - bias))

theorem least_le_threshold (bias place : Nat) : least ≤ threshold bias place := by
  simp only [threshold, least, greatest]
  omega

theorem threshold_lt_base (bias place : Nat) : threshold bias place < base := by
  simp only [threshold, least, greatest, base]
  omega

/-- The bias with which the first number is written. -/
def firstBias : Nat := 72

/-- Divide a number until it is small, and add to the bias for every division. -/
def settle (bias steps : Nat) : Nat :=
  if 455 < steps then settle (bias + base) (steps / (base - least))
  else bias + (base - least + 1) * steps / (steps + 38)
termination_by steps
decreasing_by exact Nat.div_lt_self (by omega) (by decide)

/-- The bias after a number of steps that makes the text `size` characters long. -/
def adapt (isFirst : Bool) (steps size : Nat) : Nat :=
  let damped := if isFirst then steps / 700 else steps / 2
  settle 0 (damped + damped / size)

/-! ### Writing -/

/-- The digits of a number, from the place `place` on. -/
def writeSteps (bias place steps : Nat) : List Char :=
  let limit := threshold bias place
  if steps < limit then [digitChar steps]
  else
    digitChar (limit + (steps - limit) % (base - limit)) ::
      writeSteps bias (place + base) ((steps - limit) / (base - limit))
termination_by steps
decreasing_by
  have := least_le_threshold bias place
  have : (steps - threshold bias place) / (base - threshold bias place) ≤
      steps - threshold bias place := Nat.div_le_self _ _
  simp only [least] at *
  omega

/-- The first code point that is not ASCII. -/
def firstCode : Nat := 0x80

/-- The characters of a text that are not ASCII, each with the number of those that stand before it
and have no greater code point.  The characters `before` have been read. -/
def placesFrom (before : List Char) : List Char → List (Nat × Nat)
  | [] => []
  | c :: after =>
    if c.toNat < firstCode then placesFrom (c :: before) after
    else (c.toNat, before.countP (·.toNat ≤ c.toNat)) :: placesFrom (c :: before) after

/-- What is put into the ASCII characters of a text, in order: a code point, and its place. -/
def insertions (cs : List Char) : List (Nat × Nat) :=
  (placesFrom [] cs).mergeSort fun a b => a.1 ≤ b.1

/-- The numbers of steps to the insertions, from the place `place` of a text of `size` characters
and from the code point `code`. -/
def writeInsertions (bias code place size : Nat) (isFirst : Bool) : List (Nat × Nat) → List Char
  | [] => []
  | (nextCode, nextPlace) :: rest =>
    let steps := (nextCode - code) * (size + 1) + nextPlace - place
    writeSteps bias base steps ++
      writeInsertions (adapt isFirst steps (size + 1)) nextCode (nextPlace + 1) (size + 1)
        false rest

/-- The text in letters, digits and hyphens. -/
def encode (cs : List Char) : List Char :=
  let ascii := cs.filter (·.toNat < firstCode)
  ascii ++ (if ascii.isEmpty then [] else ['-']) ++
    writeInsertions firstBias firstCode 0 ascii.length true (insertions cs)

/-! ### Reading -/

/-- A number of steps from the place `place` on, where a digit has the weight `weight`, and the text
after it.  Weights are held in 32 bits. -/
def readSteps? (bias place weight steps : Nat) : List Char → Option (Nat × List Char)
  | [] => none
  | c :: rest =>
    let limit := threshold bias place
    match digit? c with
    | none => none
    | some d =>
      if d < limit then some (steps + d * weight, rest)
      else if weight * (base - limit) < Word.limit32 then
        readSteps? bias (place + base) (weight * (base - limit)) (steps + d * weight) rest
      else none

theorem length_lt_of_readSteps? {bias place weight steps : Nat} {cs : List Char}
    {result : Nat × List Char} (h : readSteps? bias place weight steps cs = some result) :
    result.2.length < cs.length := by
  induction cs generalizing place weight steps with
  | nil => cases h
  | cons c rest ih =>
      simp only [readSteps?] at h
      split at h
      · cases h
      · split at h
        · cases h; exact Nat.lt_succ_self _
        · split at h
          · exact Nat.lt_succ_of_lt (ih h)
          · cases h

/-- Put into the text `done` what is written, from the code point `code` and the place `place`
on. -/
def readInsertions? (bias code place : Nat) (isFirst : Bool) (done : List Char) (cs : List Char) :
    Option (List Char) :=
  if cs = [] then some done
  else
    match h : readSteps? bias base 1 0 cs with
    | none => none
    | some (steps, rest) =>
      let size := done.length + 1
      let nextCode := code + (place + steps) / size
      let nextPlace := (place + steps) % size
      if nextCode.isValidChar then
        readInsertions? (adapt isFirst steps size) nextCode (nextPlace + 1) false
          (done.insertIdx nextPlace (Char.ofNat nextCode)) rest
      else none
termination_by cs.length
decreasing_by exact length_lt_of_readSteps? h

/-- The text that letters, digits and hyphens write. -/
def decode? (cs : List Char) : Option (List Char) :=
  let steps := (cs.reverse.takeWhile (· ≠ '-')).reverse
  let ascii := cs.take (cs.length - steps.length - 1)
  readInsertions? firstBias firstCode 0 true ascii (if ascii = [] then cs else steps)

end CredentialRotation.Text.Punycode
