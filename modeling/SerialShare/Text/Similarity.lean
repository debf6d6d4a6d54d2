/-!
# How similar two words are

The Jaro similarity of two words, a ratio between 0 and 1: common characters count when they stand
at nearby places, and common characters in a different order count less.  All arithmetic is exact.
-/

namespace SerialShare
namespace Text

/-- The first place of a word, within a window, that holds a character and is not taken yet. -/
def freePlace? (character : Char) (low high : Nat) (word : List Char) (taken : List Nat) :
    Option Nat :=
  (List.range word.length).find? fun place =>
    low ≤ place && place < high && word[place]? == some character && !taken.contains place

/-- Pair the characters of the first word, in order, with free nearby places of the second.  The
answer lists the paired characters and the places they took. -/
def pairUp (range : Nat) (second : List Char) :
    Nat → List Char → List Nat → List Char × List Nat
  | _, [], taken => ([], taken)
  | place, character :: rest, taken =>
    match freePlace? character (place - range) (place + range + 1) second taken with
    | some found =>
      let (paired, finallyTaken) := pairUp range second (place + 1) rest (found :: taken)
      (character :: paired, finallyTaken)
    | none => pairUp range second (place + 1) rest taken

/-- Whether the Jaro similarity of two words is at least `numerator / denominator`. -/
def areSimilar (numerator denominator : Nat) (first second : List Char) : Bool :=
  let range := max first.length second.length / 2 - 1
  let (paired, taken) := pairUp range second 0 first []
  let others := (List.range second.length).filterMap fun place =>
    if taken.contains place then second[place]? else none
  let displaced := ((paired.zip others).countP fun pair => pair.1 != pair.2) / 2
  let common := paired.length
  if first.isEmpty && second.isEmpty then numerator ≤ denominator
  else if common = 0 then numerator = 0
  else
    3 * numerator * first.length * second.length * common ≤
      denominator *
        (common * common * second.length + common * common * first.length +
          (common - displaced) * first.length * second.length)

end Text
end SerialShare
