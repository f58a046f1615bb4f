/-!
How much two texts have in common.

The longest run of characters that occurs in both is matched, and then what stands in front of it
and what stands behind it, each in the same way. Two texts are similar when the matched characters
make up a good part of both.
-/

namespace AppSupervisor.Text

def sharedLength : List Char → List Char → Nat
  | a :: as, b :: bs => if a == b then sharedLength as bs + 1 else 0
  | _, _ => 0

structure SharedRun where
  first : Nat
  second : Nat
  length : Nat

/-- The longest run that occurs in two texts; of several, the one that begins first. -/
def longestRun (as bs : List Char) : SharedRun :=
  (List.range as.length).foldl (fun best i =>
    (List.range bs.length).foldl (fun best j =>
      let length := sharedLength (as.drop i) (bs.drop j)
      if best.length < length then ⟨i, j, length⟩ else best) best) ⟨0, 0, 0⟩

def matchedLength : Nat → List Char → List Char → Nat
  | 0, _, _ => 0
  | depth + 1, as, bs =>
    let run := longestRun as bs
    if run.length == 0 then 0
    else
      matchedLength depth (as.take run.first) (bs.take run.second) + run.length +
        matchedLength depth (as.drop (run.first + run.length)) (bs.drop (run.second + run.length))

def similarity (a b : String) : Rat :=
  let total := a.length + b.length
  if total == 0 then 1
  else mkRat (2 * matchedLength (min a.length b.length + 1) a.toList b.toList : Nat) total

def similarityLimit : Rat := mkRat 3 5

def suggestionLimit : Nat := 3

/-- The texts that are similar to a word, at most three, the most similar first. -/
def suggestions (word : String) (known : List String) : List String :=
  let rated := known.map fun text => (similarity text word, text)
  let close := rated.filter fun entry => similarityLimit ≤ entry.1
  let ordered := close.mergeSort fun a b =>
    decide (b.1 < a.1) || (a.1 == b.1 && !decide (a.2 < b.2))
  (ordered.take suggestionLimit).map (·.2)

end AppSupervisor.Text
