/-!
# Runs of code points

Properties of characters are tables of runs, first and last code point of each,
in order and apart from each other. Looking a code point up halves what is left
of the table with every step.
-/

namespace Warrant.Text

/-- Whether a run at an index from `low` on, of at most `fuel` candidates halved each time,
holds the code point. -/
def inRuns (runs : Array (Nat × Nat)) (n : Nat) : (fuel low high : Nat) → Bool
  | 0, _, _ => false
  | fuel + 1, low, high =>
      if low < high then
        let middle := (low + high) / 2
        match runs[middle]? with
        | none => false
        | some (first, last) =>
            if n < first then inRuns runs n fuel low middle
            else if last < n then inRuns runs n fuel (middle + 1) high
            else true
      else false

/-- Whether one of the runs holds the character. -/
def isAmongRuns (runs : Array (Nat × Nat)) (c : Char) : Bool :=
  inRuns runs c.toNat (runs.size + 1) 0 runs.size

end Warrant.Text
