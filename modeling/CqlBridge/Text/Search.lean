/-!
# `CqlBridge.Text.Search` — finding one text inside another

`find? pat cs` is the index (in characters) of the first place where `pat` starts in `cs`; the
empty text is found at once. `containsText s pat` says whether `pat` occurs in `s` at all, and `splitOn` cuts a text at
every separator.
-/

namespace CqlBridge.Text

/-- The index of the first occurrence of `pat` in `cs`. -/
def find? (pat : List Char) : List Char → Option Nat
  | [] => if pat.isEmpty then some 0 else none
  | c :: cs => if pat.isPrefixOf (c :: cs) then some 0 else (find? pat cs).map (· + 1)

/-- Whether `pat` occurs in `s`. -/
def containsText (s pat : String) : Bool := (find? pat.toList s.toList).isSome

/-- The pieces between the separators, empty pieces included: `a,,b` has three. -/
def splitOn (sep : Char) : List Char → List (List Char)
  | [] => [[]]
  | c :: cs =>
    let pieces := splitOn sep cs
    if c == sep then [] :: pieces
    else match pieces with
      | p :: ps => (c :: p) :: ps
      | [] => [[c]]

example : splitOn ',' "a,,b".toList = ["a".toList, [], "b".toList] := by decide
example : find? " FROM ".toList "SELECT a FROM t".toList = some 8 := by decide
example : containsText "abc" "" = true := by decide

end CqlBridge.Text
