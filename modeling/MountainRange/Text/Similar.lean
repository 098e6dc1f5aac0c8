import MountainRange.Text.Letter
set_option autoImplicit false

/-!
# Similar texts

How alike two texts are is told by the runs that they have in common: the longest one,
and then, in the same way, the longest ones on both sides of it.  For a word that is not
known, the known words that are much like it can be offered.
-/

namespace MountainRange.Text

/-- The length of the longest text that both texts start with. -/
def commonStart : Text → Text → Nat
  | c :: cs, d :: ds => if c = d then commonStart cs ds + 1 else 0
  | _, _ => 0

/-- A run that two texts have in common: where it starts in each, and its length. -/
structure Run where
  left : Nat
  right : Nat
  length : Nat
  deriving DecidableEq, Repr

/-- The longest common run, and of several the first in the first text, then in the
second. -/
def longestRun (a b : Text) : Run :=
  let runs := (List.range a.length).flatMap fun i =>
    (List.range b.length).map fun j => ⟨i, j, commonStart (a.drop i) (b.drop j)⟩
  runs.foldl (fun best run => if best.length < run.length then run else best) ⟨0, 0, 0⟩

/-- The characters in common runs; `fuel` bounds the number of runs side by side. -/
def commonCount : (fuel : Nat) → (a b : Text) → Nat
  | 0, _, _ => 0
  | fuel + 1, a, b =>
      let run := longestRun a b
      if run.length = 0 then 0
      else
        run.length + commonCount fuel (a.take run.left) (b.take run.right) +
          commonCount fuel (a.drop (run.left + run.length)) (b.drop (run.right + run.length))

/-- How alike a text is to some word: the common characters out of all. -/
structure Likeness where
  text : String
  common : Nat
  total : Nat
  deriving DecidableEq, Repr

namespace Likeness

/-- How alike a text is to some word. -/
def of (word : Text) (text : String) : Likeness :=
  let letters := Text.of text
  ⟨text, commonCount letters.length letters word, letters.length + word.length⟩

/-- Whether three tenths or more of all characters are common, counted once for both. -/
def isClose (l : Likeness) : Bool := 3 * l.total ≤ 10 * l.common

/-- Whether a text is at least as alike as another; of two that are equally so, the one
later in the alphabet counts. -/
def isBetter (l k : Likeness) : Bool :=
  if l.common * k.total = k.common * l.total then k.text ≤ l.text
  else k.common * l.total < l.common * k.total

end Likeness

/-- Greatest number of words that are offered. -/
def maxOffers : Nat := 3

/-- The known words that are much like a word, the most alike ones, in the order of the
alphabet. -/
def similar (known : List String) (word : Text) : List String :=
  let close := (known.map (Likeness.of word)).filter Likeness.isClose
  let best := (close.mergeSort Likeness.isBetter).take maxOffers
  (best.map (·.text)).mergeSort (· ≤ ·)

end MountainRange.Text
