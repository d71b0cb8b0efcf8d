import CqlBridge.Sql.Keyword

/-!
# `CqlBridge.Sql.Suggest` — the closest known name to a missing one

A name that is not found is compared with the names the engine knows, by the Jaro–Winkler
similarity, and the most similar is suggested.

* Jaro similarity: characters match when equal and at most `max(|s|, |t|) / 2 - 1` positions
  apart, each character of `t` matching at most once, scanning `s` left to right and taking the
  first free match; with `m` matches and `k` half-transpositions,
  `jaro = (m/|s| + m/|t| + (m - k/2)/m) / 3` (0 when `m = 0`).
* Winkler's boost applies when `jaro > 0.7`: with `p` the length of the common prefix, at most
  4, `jw = jaro + p · 0.1 · (1 - jaro)`.

Scores are exact fractions, so ties are ties: among equal scores the first candidate wins.
-/

namespace CqlBridge.Sql

/-- A score as a fraction `num / den` (with `den > 0` for a real score). -/
structure Score where
  num : Nat
  den : Nat
  deriving Repr, Inhabited

namespace Score

/-- Zero. -/
def zero : Score := ⟨0, 1⟩

/-- Whether `a` is strictly above `b`. -/
def gt (a b : Score) : Bool := a.num * b.den > b.num * a.den

/-- Whether `a` is exactly one. -/
def isOne (a : Score) : Bool := a.num == a.den && a.den > 0

/-- Whether `a - 1/5` is strictly above `b`. -/
def gtByFifth (a b : Score) : Bool := 5 * a.num * b.den > (5 * b.num + b.den) * a.den

end Score

/-- Marks the first free position of `t` within `[lo, hi]` holding `c`; the new marks, or
none when there is none. -/
def claimMatch (c : Char) (t : List Char) (taken : List Bool) (lo hi : Nat) :
    Option (List Bool) :=
  let rec go : Nat → List Char → List Bool → Option (List Bool)
    | _, [], _ => none
    | _, _, [] => none
    | j, d :: ds, f :: fs =>
      if lo ≤ j && j ≤ hi && !f && d == c then some (true :: fs)
      else (go (j + 1) ds fs).map (f :: ·)
  go 0 t taken

/-- The matches of `s` against `t` within the window: which positions of `s` and of `t`
matched. -/
def jaroMatches (s t : List Char) (window : Nat) : List Bool × List Bool :=
  let step := fun (acc : List Bool × List Bool × Nat) (c : Char) =>
    let (ms, taken, i) := acc
    match claimMatch c t taken (i - window) (i + window) with
    | some taken' => (ms ++ [true], taken', i + 1)
    | none => (ms ++ [false], taken, i + 1)
  let (ms, taken, _) := s.foldl step ([], t.map (fun _ => false), 0)
  (ms, taken)

/-- The matched characters of a text, in order. -/
def matchedChars (cs : List Char) (marks : List Bool) : List Char :=
  (cs.zip marks).filterMap fun (c, m) => if m then some c else none

/-- The Jaro similarity of two texts. -/
def jaro (s t : List Char) : Score :=
  if s.isEmpty && t.isEmpty then ⟨1, 1⟩
  else if s.isEmpty || t.isEmpty then Score.zero
  else
    let window := max s.length t.length / 2 - 1
    let (ms, mt) := jaroMatches s t window
    let a := matchedChars s ms
    let b := matchedChars t mt
    let m := a.length
    if m == 0 then Score.zero
    else
      let half := ((a.zip b).filter fun (x, y) => x != y).length / 2
      let l1 := s.length
      let l2 := t.length
      ⟨m * l2 * m + m * l1 * m + (m - half) * l1 * l2, 3 * l1 * l2 * m⟩

/-- The length of the common prefix of two texts, at most 4. -/
def commonPrefix (s t : List Char) : Nat :=
  min 4 (((s.zip t).takeWhile fun (x, y) => x == y).length)

/-- The Jaro–Winkler similarity of two texts. -/
def jaroWinkler (s t : String) : Score :=
  let j := jaro s.toList t.toList
  if 10 * j.num > 7 * j.den then
    let p := commonPrefix s.toList t.toList
    ⟨10 * j.num + p * (j.den - j.num), 10 * j.den⟩
  else j

/-- The best-scoring candidate for `name` with its score, the first one among equals; none
when nothing scores above zero. -/
def closest (name : String) (candidates : List String) : Option (String × Score) :=
  candidates.foldl (fun best c =>
    let sc := jaroWinkler c name
    match best with
    | some (_, b) => if sc.gt b then some (c, sc) else best
    | none => if sc.gt Score.zero then some (c, sc) else none) none

example : (closest "copy" ["duckdb_types", "pg_type"]).map (·.1) = some "pg_type" := by
  decide +kernel

end CqlBridge.Sql
