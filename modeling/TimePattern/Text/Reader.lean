/-!
# Readers

A reader takes a value from the front of a text and gives back the text behind it.

* `Reader.many`       repeats a reader as long as it succeeds
* `manyAtMost_add`    more repetitions change nothing once the reader has failed
-/

namespace TimePattern

/-- Takes a value from the front of a text, or fails. -/
abbrev Reader (α : Type) := List Char → Option (α × List Char)

namespace Reader

variable {α β : Type}

/-- Exactly these characters. -/
def exactly (expected : List Char) : Reader Unit := fun text =>
  (expected.isPrefixOf? text).map ((), ·)

/-- One character of a class. -/
def satisfying (ok : Char → Bool) : Reader Char
  | c :: rest => if ok c then some (c, rest) else none
  | [] => none

/-- The value of the reader, changed by a function. -/
def map (f : α → β) (p : Reader α) : Reader β := fun text =>
  (p text).map fun (a, rest) => (f a, rest)

/-- The values of a reader that is repeated up to `n` times as long as it succeeds, and the text
    behind them. -/
def manyAtMost (p : Reader α) : Nat → List Char → List α × List Char
  | 0, text => ([], text)
  | n + 1, text =>
    match p text with
    | none => ([], text)
    | some (a, rest) =>
      match manyAtMost p n rest with
      | (as, left) => (a :: as, left)

/-- The values of a reader that is repeated as long as it succeeds, and the text behind them.
    A reader that takes a character each time succeeds at most once for each character. -/
def many (p : Reader α) (text : List Char) : List α × List Char :=
  manyAtMost p text.length text

/-- Where the reader has failed, there is nothing left for further repetitions to do. -/
theorem manyAtMost_add {p : Reader α} {n : Nat} {text : List Char}
    (h : p (manyAtMost p n text).2 = none) (k : Nat) :
    manyAtMost p (n + k) text = manyAtMost p n text := by
  induction n generalizing text with
  | zero =>
    -- The reader fails at once, however often it may be repeated
    cases k with
    | zero => rfl
    | succ k =>
      rw [manyAtMost] at h
      simp only [manyAtMost, h]
  | succ n ih =>
    rw [Nat.succ_add, manyAtMost, manyAtMost]
    cases hp : p text with
    | none => rfl
    | some r =>
      obtain ⟨a, rest⟩ := r
      simp only [manyAtMost, hp] at h
      simp only [ih h]

end Reader

end TimePattern
