/-!
# `CqlBridge.Tls.Der` — reading distinguished encoding rules (DER)

A DER element is a tag byte, a length and that many content bytes. A length below 128 is one
byte; a longer one is `0x80 + k` followed by `k` (1 to 4) big-endian bytes, with no leading
zero and a value of at least 128, so every length has one encoding. Tags with the number 31
(several tag bytes) are not read. An element is *constructed* when bit `0x20` of its tag is
set; its content is then a sequence of elements that fills it exactly.

Each reader returns the rest of its input, which is always shorter, so readers that repeat end.
-/

namespace CqlBridge.Tls

/-- A DER element: its tag byte and content bytes. -/
structure Element where
  tag : Nat
  content : List UInt8
  deriving DecidableEq, Repr

/-- Big-endian bytes as a number. -/
def bytesValue (bs : List UInt8) : Nat := bs.foldl (fun acc b => acc * 256 + b.toNat) 0

/-- A length and the rest after it. -/
def readLength : List UInt8 → Option (Nat × List UInt8)
  | [] => none
  | b :: rest =>
    if b.toNat < 0x80 then some (b.toNat, rest)
    else
      let k := b.toNat - 0x80
      let bytes := rest.take k
      let len := bytesValue bytes
      if k == 0 || k > 4 || bytes.length < k || bytes.head? == some 0 || len < 0x80 then none
      else some (len, rest.drop k)

/-- One element and the rest after it. -/
def readElement : List UInt8 → Option (Element × List UInt8)
  | [] => none
  | tag :: rest => do
    if tag.toNat % 32 == 31 then none
    let (len, rest) ← readLength rest
    if rest.length < len then none
    some (⟨tag.toNat, rest.take len⟩, rest.drop len)

/-- The rest after a length is no longer than its input. -/
theorem readLength_le {bs rest : List UInt8} {n : Nat} (h : readLength bs = some (n, rest)) :
    rest.length ≤ bs.length := by
  unfold readLength at h
  split at h
  · cases h
  · rename_i b r
    split at h
    · cases h; simp
    · dsimp only at h
      split at h
      · cases h
      · have h2 := (Prod.mk.inj (Option.some.inj h)).2
        subst h2
        simp only [List.length_drop, List.length_cons]
        omega

/-- The rest after an element is shorter than its input. -/
theorem readElement_shorter {bs : List UInt8} {e : Element} {rest : List UInt8}
    (h : readElement bs = some (e, rest)) : rest.length < bs.length := by
  unfold readElement at h
  split at h
  · cases h
  · rename_i tag tail
    simp only [bind, Option.bind] at h
    split at h
    · cases h
    · split at h
      · cases h
      · rename_i p hp
        obtain ⟨len, rest'⟩ := p
        dsimp only at h
        split at h
        · cases h
        · cases h
          have hl := readLength_le hp
          simp only [List.length_drop, List.length_cons]
          omega

/-- All elements of a content, which they must fill exactly. -/
def readAll (bs : List UInt8) : Option (List Element) :=
  if bs.isEmpty then some [] else
  match he : readElement bs with
  | none => none
  | some (e, rest) =>
    have := readElement_shorter he
    (readAll rest).map (e :: ·)
termination_by bs.length

/-- Whether an element is constructed. -/
def Element.constructed (e : Element) : Bool := e.tag / 32 % 2 == 1

/-- Whether bytes are well-formed elements all the way down, within `fuel` levels. -/
def wellFormed : Nat → List UInt8 → Bool
  | 0, _ => false
  | fuel + 1, bs =>
    match readAll bs with
    | none => false
    | some es => es.all fun e => !e.constructed || wellFormed fuel e.content

/-- Whether an element's content is well-formed when it is constructed. -/
def Element.wellFormed (e : Element) : Bool := !e.constructed || CqlBridge.Tls.wellFormed 64 e.content

/-- The value of a non-negative INTEGER element. -/
def Element.natValue? (e : Element) : Option Nat :=
  if e.tag != 0x02 || e.content.isEmpty then none
  else if (e.content.head?.getD 0).toNat ≥ 0x80 then none
  else some (bytesValue e.content)

end CqlBridge.Tls
