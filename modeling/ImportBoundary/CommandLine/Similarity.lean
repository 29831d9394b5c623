/-!
# Similar words

How alike two words are: the longest run of characters that both hold, then the longest on either side
of it, and so on; the share of the characters that lie in such runs is their likeness. A word that was
mistyped is likely to be the one that is most like it.
-/

namespace ImportBoundary.CommandLine

/-- The length of the beginning that two lists share. -/
def sharedBeginning : List Char → List Char → Nat
  | a :: as, b :: bs => if a = b then sharedBeginning as bs + 1 else 0
  | _, _ => 0

/-- A run of characters that two words hold: where it starts in each, and its length. -/
structure SharedRun where
  first : Nat
  second : Nat
  length : Nat

/-- The longest run that two words share: of several, the first in the first word, and of these the
first in the second. -/
def longestRun (a b : List Char) : SharedRun :=
  let starts := (List.range a.length).flatMap fun i => (List.range b.length).map fun j => (i, j)
  starts.foldl (fun best (i, j) =>
    let length := sharedBeginning (a.drop i) (b.drop j)
    if best.length < length then ⟨i, j, length⟩ else best) ⟨0, 0, 0⟩

/-- How many characters lie in shared runs. -/
def sharedCount (a b : List Char) : Nat → Nat
  | 0 => 0
  | fuel + 1 =>
    let run := longestRun a b
    if run.length = 0 then 0
    else
      run.length + sharedCount (a.take run.first) (b.take run.second) fuel +
        sharedCount (a.drop (run.first + run.length)) (b.drop (run.second + run.length)) fuel

/-- The likeness of two words: the characters that lie in shared runs, twice, and all characters. -/
def likeness (a b : String) : Nat × Nat :=
  let (as, bs) := (a.toList, b.toList)
  (2 * sharedCount as bs (as.length + 1), as.length + bs.length)

/-- At least three fifths of two words lie in shared runs. -/
def areAlike (a b : String) : Bool :=
  let (shared, all) := likeness a b
  3 * all ≤ 5 * shared

/-- One candidate is more like a word than another; of equally alike ones it is the later in the
order of texts. -/
def isCloser (word a b : String) : Bool :=
  let (sharedA, allA) := likeness a word
  let (sharedB, allB) := likeness b word
  if sharedA * allB = sharedB * allA then decide (b < a) else decide (sharedB * allA < sharedA * allB)

/-- The candidates that are like a word, at most three, the closest first. -/
def closeMatches (word : String) (candidates : List String) : List String :=
  let alike := candidates.filter fun c => areAlike c word
  (alike.mergeSort fun a b => isCloser word a b || !isCloser word b a).take 3

end ImportBoundary.CommandLine
