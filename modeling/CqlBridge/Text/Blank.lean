/-!
# `CqlBridge.Text.Blank` — blank characters, trimming and cutting into words

A character is *blank* when it has the Unicode White_Space property: U+0009 to U+000D,
U+0020, U+0085, U+00A0, U+1680, U+2000 to U+200A, U+2028, U+2029, U+202F, U+205F and U+3000,
25 code points in all. Zero-width characters such as U+200B are not blank.

* `trim` drops the blanks at both ends of a text.
* `words` cuts a text at every run of blanks and keeps the non-empty pieces in order.

Both are stated on `List Char` first (`trimChars`, `wordsOf`), where lemmas are easy to state,
and lifted to `String`.
-/

namespace CqlBridge.Text

/-- The White_Space code points, as ranges inclusive at both ends. -/
def blankRanges : List (Nat × Nat) :=
  [(0x9, 0xD), (0x20, 0x20), (0x85, 0x85), (0xA0, 0xA0), (0x1680, 0x1680),
   (0x2000, 0x200A), (0x2028, 0x2029), (0x202F, 0x202F), (0x205F, 0x205F), (0x3000, 0x3000)]

/-- A character is blank when its code point lies in one of `blankRanges`. -/
def isBlank (c : Char) : Bool :=
  blankRanges.any fun r => r.1 ≤ c.toNat && c.toNat ≤ r.2

/-- A character list without its leading and trailing blanks. -/
def trimChars (cs : List Char) : List Char :=
  ((cs.dropWhile isBlank).reverse.dropWhile isBlank).reverse

/-- A character list without its leading blanks. -/
def trimStartChars (cs : List Char) : List Char :=
  cs.dropWhile isBlank

/-- A character list without its trailing blanks. -/
def trimEndChars (cs : List Char) : List Char :=
  (cs.reverse.dropWhile isBlank).reverse

/-- A text without its leading and trailing blanks. -/
def trim (s : String) : String :=
  String.ofList (trimChars s.toList)

/-- A text without its leading blanks. -/
def trimStart (s : String) : String :=
  String.ofList (trimStartChars s.toList)

/-- A text without its trailing blanks. -/
def trimEnd (s : String) : String :=
  String.ofList (trimEndChars s.toList)

/-- Cuts a character list at every blank, keeping the non-empty pieces. The second argument
holds the current piece, reversed. -/
def wordsAux : List Char → List Char → List (List Char)
  | [], acc => if acc.isEmpty then [] else [acc.reverse]
  | c :: cs, acc =>
    if isBlank c then
      if acc.isEmpty then wordsAux cs [] else acc.reverse :: wordsAux cs []
    else wordsAux cs (c :: acc)

/-- The words of a character list: its maximal runs of non-blank characters, in order. -/
def wordsOf (cs : List Char) : List (List Char) :=
  wordsAux cs []

/-- The words of a text: its maximal runs of non-blank characters, in order. -/
def words (s : String) : List String :=
  (wordsOf s.toList).map String.ofList

/-- A text is blank when all of its characters are. -/
def isAllBlank (s : String) : Bool :=
  s.toList.all isBlank

example : isBlank '\u3000' = true ∧ isBlank '\u200b' = false ∧ isBlank ' ' = true := by decide

end CqlBridge.Text
