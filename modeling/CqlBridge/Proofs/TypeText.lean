import Mathlib
import CqlBridge.Schema.StoreType.Read
import CqlBridge.Proofs.Text

/-!
# `CqlBridge.Proofs.TypeText` — the text of a store type reads back as the type

`StoreType.render` writes a type; `StoreType.read?` reads one. Reading what was written gives
the type back for the types `Readable` collects:

| type | readable when |
|---|---|
| a scalar | always |
| `list<t>`, `set<t>`, `map<k, v>` | its parts are |
| `tuple<…>` | it has an item, and every item is readable |
| a user-defined type | its name is alphanumeric characters and `_`, and no scalar's name in any case |
| a custom class | it holds no single quote |

Outside this class the text says something else: the name `text` reads as the scalar, `a b`
leaves text over and becomes a custom class, `tuple<>` is no tuple, and a quote ends a class
early.

The reader is driven by fuel; a text of length `n` is read with more fuel than `n`, and every
type's text is longer than the nesting it has to descend (`readType_render`).
-/

namespace CqlBridge

namespace Text

theorem isBlank_of_isAlnum {c : Char} (h : isAlnum c = true) : isBlank c = false := by
  -- the two tables share no code point
  have hdisjoint : alnumRanges.toList.all
      (fun r => blankRanges.all fun b => r.2 < b.1 || b.2 < r.1) = true := by
    decide +kernel
  unfold isAlnum at h
  unfold isBlank
  rw [List.any_eq_false]
  intro b hb hin
  simp only [Bool.and_eq_true, decide_eq_true_eq] at hin
  split at h
  · rename_i hlt
    simp [blankRanges] at hb
    simp [Char.isAlphanum, Char.isAlpha, Char.isDigit, Char.isUpper, Char.isLower,
      UInt32.le_iff_toNat_le] at h
    simp only [Char.toNat] at hin hlt
    rcases hb with rfl | rfl | rfl | rfl | rfl | rfl | rfl | rfl | rfl | rfl <;> simp at hin <;> omega
  · rw [← Array.any_toList, List.any_eq_true] at h
    obtain ⟨r, hr, hrin⟩ := h
    simp only [Bool.and_eq_true, decide_eq_true_eq] at hrin
    rw [List.all_eq_true] at hdisjoint
    have hrb := List.all_eq_true.1 (hdisjoint r hr) b hb
    simp only [Bool.or_eq_true, decide_eq_true_eq] at hrb
    omega

end Text

namespace Scalar

open Text

theorem name_nameChars (s : Scalar) : ∀ c ∈ s.name.toList, StoreType.isNameChar c = true ∧ c ≠ '.' := by
  -- checked name by name as a `Bool`: `decide` on a quantifier over `Char` would try every
  -- character
  have hall : s.name.toList.all (fun c => StoreType.isNameChar c && c != '.') = true := by
    cases s <;> decide
  intro c hc
  simpa using List.all_eq_true.1 hall c hc

theorem name_head (s : Scalar) :
    ∀ c ∈ s.name.toList.head?, isBlank c = false ∧ c ≠ '\'' ∧ c ≠ '"' := by
  have hall : s.name.toList.head?.all (fun c => !isBlank c && (c != '\'' && c != '"')) = true := by
    cases s <;> decide
  intro c hc
  simpa using (Option.all_eq_true _ _).1 hall c hc

theorem ofName?_lower_name (s : Scalar) :
    ofName? (String.ofList (s.name.toList.map Char.toLower)) = some s := by
  cases s <;> decide

end Scalar

namespace StoreType

open Text

/-- The store types whose text reads back as themselves. -/
inductive Readable : StoreType → Prop
  | scalar (s : Scalar) : Readable (.scalar s)
  | list {t : StoreType} : Readable t → Readable (.list t)
  | set {t : StoreType} : Readable t → Readable (.set t)
  | map {k v : StoreType} : Readable k → Readable v → Readable (.map k v)
  | tuple {ts : List StoreType} : ts ≠ [] → (∀ t ∈ ts, Readable t) → Readable (.tuple ts)
  | udt {name : String} : (∀ c ∈ name.toList, isAlnum c = true ∨ c = '_') →
      Scalar.ofName? (String.ofList (name.toList.map Char.toLower)) = none → Readable (.udt name)
  | custom {cls : String} : '\'' ∉ cls.toList → Readable (.custom cls)

/-- What may follow a type in a text: nothing, a comma or a closing `>`. -/
def Follows (rest : List Char) : Prop := ∀ c ∈ rest.head?, c = ',' ∨ c = '>'

/-! ## The text of a type, as characters -/

theorem renderItems_cons_toList (t : StoreType) (ts : List StoreType) :
    (renderItems (t :: ts)).toList =
      (render t).toList ++ (ts.map fun u => ", ".toList ++ (render u).toList).flatten := by
  induction ts generalizing t with
  | nil => simp [renderItems]
  | cons u us ih =>
      have hitems : renderItems (t :: u :: us) = render t ++ ", " ++ renderItems (u :: us) := rfl
      rw [hitems, String.toList_append, String.toList_append, ih]
      simp

/-! ## One step of the reader

A blank before a type is skipped; a bare name with no `.` reads as a scalar or a user-defined
type when what follows it can follow a type, and followed by `<` it reads its arguments and is
applied to them; a custom class between single quotes reads as itself. The arguments end where a
`>` or the end of the text stands, and one more follows each `, `. -/

theorem skipBlank_of_head {cs : List Char} (h : ∀ c ∈ cs.head?, isBlank c = false) :
    skipBlank cs = cs := by
  cases cs with
  | nil => rfl
  | cons c cs => exact List.dropWhile_cons_of_neg (by simp [h c rfl])

theorem skipBlank_cons {c : Char} (h : isBlank c = false) (cs : List Char) :
    skipBlank (c :: cs) = c :: cs :=
  skipBlank_of_head (by simpa using h)

theorem eat_cons_self {c : Char} (h : isBlank c = false) (cs : List Char) :
    eat c (c :: cs) = some cs := by
  simp [eat, skipBlank_cons h]

theorem readType_blank {b : Char} (hb : isBlank b = true) (f : Nat) (cs : List Char) :
    readType (f + 1) (b :: cs) = readType (f + 1) cs := by
  have hskip : skipBlank (b :: cs) = skipBlank cs := List.dropWhile_cons_of_pos (by simp [hb])
  simp only [readType, hskip]

theorem readType_name {name rest : List Char} (f : Nat)
    (hname : ∀ c ∈ name, isNameChar c = true ∧ c ≠ '.')
    (hhead : ∀ c ∈ name.head?, isBlank c = false ∧ c ≠ '\'' ∧ c ≠ '"')
    (hrest : Follows rest) :
    readType (f + 1) (name ++ rest) = some (ofSimpleName name, rest) := by
  -- what follows the name is no name character and, after blanks, no `<`
  have hstop : ∀ c ∈ rest.head?, isNameChar c = false ∧ isBlank c = false := by
    intro c hc
    rcases hrest c hc with rfl | rfl <;> decide
  have hfront : ∀ c ∈ (name ++ rest).head?, isBlank c = false ∧ c ≠ '\'' ∧ c ≠ '"' := by
    cases name with
    | nil =>
        intro c hc
        rcases hrest c hc with rfl | rfl <;> decide
    | cons d ds => simpa using hhead d rfl
  have htake : (name ++ rest).takeWhile isNameChar = name := by
    rw [List.takeWhile_append_of_pos fun c hc => (hname c hc).1]
    cases rest with
    | nil => simp
    | cons r rs => simp [List.takeWhile_cons_of_neg, (hstop r rfl).1]
  have hdrop : (name ++ rest).dropWhile isNameChar = rest := by
    rw [List.dropWhile_append_of_pos fun c hc => (hname c hc).1]
    cases rest with
    | nil => rfl
    | cons r rs => exact List.dropWhile_cons_of_neg (by simp [(hstop r rfl).1])
  have hdot : '.' ∉ name := fun h => (hname '.' h).2 rfl
  have heat : eat '<' rest = none := by
    unfold eat
    rw [skipBlank_of_head fun c hc => (hstop c hc).2]
    cases rest with
    | nil => rfl
    | cons r rs =>
        have hr : (r == '<') = false := by rcases hrest r rfl with rfl | rfl <;> decide
        simp [hr]
  unfold readType
  rw [skipBlank_of_head fun c hc => (hfront c hc).1]
  split
  · rename_i r h
    exact absurd rfl (hfront '\'' (by simp [h])).2.1
  · rename_i r h
    exact absurd rfl (hfront '"' (by simp [h])).2.2
  · simp [htake, hdrop, hdot, heat]

theorem readType_applied {c : Char} {cs inside r r' : List Char} {f : Nat} {first : StoreType}
    {more : List StoreType} (hname : (c :: cs).all (fun d => isNameChar d && d != '.') = true)
    (hc : isBlank c = false ∧ c ≠ '\'' ∧ c ≠ '"')
    (hfirst : readType f inside = some (first, r)) (hmore : readArgs f r = some (more, r')) :
    readType (f + 1) (c :: (cs ++ '<' :: inside)) =
      some (ofApplied (c :: cs) (first :: more), (eat '>' r').getD r') := by
  have hname : ∀ d ∈ c :: cs, isNameChar d = true ∧ d ≠ '.' := fun d hd => by
    simpa using List.all_eq_true.1 hname d hd
  have htake : (c :: (cs ++ '<' :: inside)).takeWhile isNameChar = c :: cs := by
    rw [← List.cons_append, List.takeWhile_append_of_pos fun d hd => (hname d hd).1,
      List.takeWhile_cons_of_neg (by decide)]
    simp
  have hdrop : (c :: (cs ++ '<' :: inside)).dropWhile isNameChar = '<' :: inside := by
    rw [← List.cons_append, List.dropWhile_append_of_pos fun d hd => (hname d hd).1]
    exact List.dropWhile_cons_of_neg (by decide)
  have hdot : '.' ∉ c :: cs := fun h => (hname '.' h).2 rfl
  unfold readType
  rw [skipBlank_cons hc.1]
  split
  · rename_i h
    exact absurd (List.cons.inj h).1 hc.2.1
  · rename_i h
    exact absurd (List.cons.inj h).1 hc.2.2
  · simp [htake, hdrop, hdot, eat_cons_self (show isBlank '<' = false by decide), hfirst, hmore]

theorem readType_custom {cls rest : List Char} (f : Nat) (hq : '\'' ∉ cls) :
    readType (f + 1) ('\'' :: (cls ++ '\'' :: rest)) = some (.custom (String.ofList cls), rest) := by
  have hne : ∀ d ∈ cls, (d != '\'') = true := fun d hd => by
    have : d ≠ '\'' := fun h => hq (h ▸ hd)
    simpa using this
  have htake : (cls ++ '\'' :: rest).takeWhile (· != '\'') = cls := by
    rw [List.takeWhile_append_of_pos hne, List.takeWhile_cons_of_neg (by simp)]
    simp
  have hdrop : (cls ++ '\'' :: rest).dropWhile (· != '\'') = '\'' :: rest := by
    rw [List.dropWhile_append_of_pos hne]
    exact List.dropWhile_cons_of_neg (by simp)
  unfold readType
  rw [skipBlank_cons (by decide)]
  simp [htake, hdrop, eat_cons_self (show isBlank '\'' = false by decide)]

theorem readArgs_stop {rest : List Char} (h : ∀ c ∈ rest.head?, c = '>') :
    ∀ f, readArgs f rest = some ([], rest)
  | 0 => rfl
  | f + 1 => by
      have heat : eat ',' rest = none := by
        cases rest with
        | nil => rfl
        | cons r rs =>
            obtain rfl : r = '>' := h r rfl
            simp [eat, skipBlank_cons (show isBlank '>' = false by decide)]
      simp [readArgs, heat]

theorem readArgs_comma {X r r' : List Char} {f : Nat} {t : StoreType} {ts : List StoreType}
    (ht : readType f (' ' :: X) = some (t, r)) (hts : readArgs f r = some (ts, r')) :
    readArgs (f + 1) (',' :: ' ' :: X) = some (t :: ts, r') := by
  simp [readArgs, eat_cons_self (show isBlank ',' = false by decide), ht, hts]

/-! ## Reading a whole type back

An applied name reads back with its items when each item does and the fuel is above the items'
text. The text of a readable type starts and ends with no blank, so trimming keeps it whole and
`read?` gives the type back. -/

/-- The text of `t` reads back as `t`, before anything that may follow a type, with more fuel
than the text is long. -/
def ReadsBack (t : StoreType) : Prop :=
  ∀ f rest, (render t).toList.length < f → Follows rest →
    readType f ((render t).toList ++ rest) = some (t, rest)

/-- The text after the first of several items: each further item after `, `. -/
def moreItems (us : List StoreType) : List Char :=
  (us.map fun u => ", ".toList ++ (render u).toList).flatten

@[simp] theorem moreItems_nil : moreItems [] = [] := rfl

@[simp] theorem moreItems_cons (u : StoreType) (us : List StoreType) :
    moreItems (u :: us) = ',' :: ' ' :: ((render u).toList ++ moreItems us) := by
  simp [moreItems]

theorem follows_moreItems (us : List StoreType) {rest : List Char}
    (hrest : ∀ c ∈ rest.head?, c = '>') : Follows (moreItems us ++ rest) := by
  intro c hc
  cases us with
  | nil => exact .inr (hrest c hc)
  | cons u us => exact .inl (by simpa using hc.symm)

/-- Further items read back one by one: each comma costs one unit of fuel and each item's
text at least one more, so fuel above the text's length is enough. -/
theorem readArgs_moreItems {us : List StoreType} (hus : ∀ u ∈ us, ReadsBack u) {rest : List Char}
    (hrest : ∀ c ∈ rest.head?, c = '>') :
    ∀ f, (moreItems us).length < f → readArgs f (moreItems us ++ rest) = some (us, rest) := by
  induction us with
  | nil => exact fun f _ => readArgs_stop hrest f
  | cons u us ih =>
      intro f hf
      have hlen : (moreItems (u :: us)).length = (render u).toList.length + (moreItems us).length + 2 := by
        simp only [moreItems_cons, List.length_cons, List.length_append]
      obtain ⟨g, rfl⟩ : ∃ g, f = g + 2 := ⟨f - 2, by omega⟩
      have hu : readType (g + 1) (' ' :: ((render u).toList ++ (moreItems us ++ rest))) =
          some (u, moreItems us ++ rest) := by
        rw [readType_blank (by decide)]
        exact hus u (by simp) _ _ (by omega) (follows_moreItems us hrest)
      rw [moreItems_cons, List.cons_append, List.cons_append, List.append_assoc]
      exact readArgs_comma hu (ih (fun v hv => hus v (by simp [hv])) (g + 1) (by omega))

theorem udtChar {c : Char} (h : isAlnum c = true ∨ c = '_') :
    (isNameChar c = true ∧ c ≠ '.') ∧ isBlank c = false ∧ c ≠ '\'' ∧ c ≠ '"' := by
  rcases h with h | rfl
  · have hne : ∀ d, isAlnum d = false → c ≠ d := fun d hd e => by simp [e, hd] at h
    exact ⟨⟨by simp [isNameChar, h], hne '.' (by decide)⟩, isBlank_of_isAlnum h,
      hne '\'' (by decide), hne '"' (by decide)⟩
  · decide

theorem eat_close (rest : List Char) : eat '>' ('>' :: rest) = some rest :=
  eat_cons_self (by decide) rest

theorem readType_items {c : Char} {cs : List Char}
    (hname : (c :: cs).all (fun d => isNameChar d && d != '.') = true)
    (hc : isBlank c = false ∧ c ≠ '\'' ∧ c ≠ '"') {t₀ : StoreType} {us : List StoreType}
    (h₀ : ReadsBack t₀) (hus : ∀ u ∈ us, ReadsBack u) {f : Nat} {rest : List Char}
    (hf : (render t₀).toList.length + (moreItems us).length < f) :
    readType (f + 1) (c :: (cs ++ '<' :: ((render t₀).toList ++ (moreItems us ++ '>' :: rest)))) =
      some (ofApplied (c :: cs) (t₀ :: us), rest) := by
  have hmore : readArgs f (moreItems us ++ '>' :: rest) = some (us, '>' :: rest) :=
    readArgs_moreItems hus (by simp) f (by omega)
  rw [readType_applied hname hc (h₀ f _ (by omega) (follows_moreItems us (by simp))) hmore,
    eat_close]
  rfl

/-- Every readable type reads back from its text. The induction follows `Readable`; the fuel
drops by one at each `<` and each `, `, which the text pays for with its own characters. -/
theorem readsBack_of_readable {t : StoreType} (ht : Readable t) : ReadsBack t := by
  induction ht with
  | scalar s =>
      intro f rest hf hrest
      obtain ⟨f, rfl⟩ : ∃ g, f = g + 1 := ⟨f - 1, by omega⟩
      rw [render, readType_name f s.name_nameChars s.name_head hrest]
      simp [ofSimpleName, s.ofName?_lower_name]
  | @list t _ ih =>
      intro f rest hf hrest
      have htext : (render (.list t)).toList ++ rest =
          'l' :: (['i', 's', 't'] ++ '<' :: ((render t).toList ++ (moreItems [] ++ '>' :: rest))) := by
        simp [render]
      have hlen : (render (.list t)).toList.length = (render t).toList.length + 6 := by simp [render]
      obtain ⟨f, rfl⟩ : ∃ g, f = g + 1 := ⟨f - 1, by omega⟩
      rw [htext, readType_items (by decide) (by decide) ih (by simp) (by simp; omega)]
      rfl
  | @set t _ ih =>
      intro f rest hf hrest
      have htext : (render (.set t)).toList ++ rest =
          's' :: (['e', 't'] ++ '<' :: ((render t).toList ++ (moreItems [] ++ '>' :: rest))) := by
        simp [render]
      have hlen : (render (.set t)).toList.length = (render t).toList.length + 5 := by simp [render]
      obtain ⟨f, rfl⟩ : ∃ g, f = g + 1 := ⟨f - 1, by omega⟩
      rw [htext, readType_items (by decide) (by decide) ih (by simp) (by simp; omega)]
      rfl
  | @map k v _ _ ihk ihv =>
      intro f rest hf hrest
      have htext : (render (.map k v)).toList ++ rest =
          'm' :: (['a', 'p'] ++ '<' :: ((render k).toList ++ (moreItems [v] ++ '>' :: rest))) := by
        simp [render]
      have hlen : (render (.map k v)).toList.length =
          (render k).toList.length + (moreItems [v]).length + 5 := by
        simp [render]
        omega
      obtain ⟨f, rfl⟩ : ∃ g, f = g + 1 := ⟨f - 1, by omega⟩
      rw [htext, readType_items (by decide) (by decide) ihk (by simpa using ihv) (by omega)]
      rfl
  | @tuple ts hne _ ih =>
      intro f rest hf hrest
      obtain ⟨t₀, us, rfl⟩ := List.exists_cons_of_ne_nil hne
      have htext : (render (.tuple (t₀ :: us))).toList ++ rest =
          't' :: (['u', 'p', 'l', 'e'] ++ '<' :: ((render t₀).toList ++ (moreItems us ++ '>' :: rest))) := by
        simp [render, renderItems_cons_toList, moreItems]
      have hlen : (render (.tuple (t₀ :: us))).toList.length =
          (render t₀).toList.length + (moreItems us).length + 7 := by
        simp [render, renderItems_cons_toList, moreItems]
        omega
      obtain ⟨f, rfl⟩ : ∃ g, f = g + 1 := ⟨f - 1, by omega⟩
      rw [htext, readType_items (by decide) (by decide) (ih t₀ (.head _))
        (fun u hu => ih u (.tail _ hu)) (by omega)]
      simp [ofApplied]
  | @udt name hchars hnot =>
      intro f rest hf hrest
      obtain ⟨f, rfl⟩ : ∃ g, f = g + 1 := ⟨f - 1, by omega⟩
      have hname : ∀ c ∈ name.toList, isNameChar c = true ∧ c ≠ '.' := fun c hc =>
        (udtChar (hchars c hc)).1
      have hhead : ∀ c ∈ name.toList.head?, isBlank c = false ∧ c ≠ '\'' ∧ c ≠ '"' := fun c hc =>
        (udtChar (hchars c (List.mem_of_mem_head? hc))).2
      rw [render, readType_name f hname hhead hrest]
      simp [ofSimpleName, hnot]
  | @custom cls hq =>
      intro f rest hf hrest
      obtain ⟨f, rfl⟩ : ∃ g, f = g + 1 := ⟨f - 1, by omega⟩
      have htext : (render (.custom cls)).toList ++ rest = '\'' :: (cls.toList ++ '\'' :: rest) := by
        simp [render]
      rw [htext, readType_custom f hq, String.ofList_toList]

theorem render_ends {t : StoreType} (ht : Readable t) :
    (∀ c ∈ (render t).toList.head?, isBlank c = false) ∧
      (∀ c ∈ (render t).toList.getLast?, isBlank c = false) := by
  cases ht with
  | scalar s =>
      have hends : (render (.scalar s)).toList.head?.all (!isBlank ·) = true ∧
          (render (.scalar s)).toList.getLast?.all (!isBlank ·) = true := by
        cases s <;> decide
      exact ⟨fun c hc => by simpa using (Option.all_eq_true _ _).1 hends.1 c hc,
        fun c hc => by simpa using (Option.all_eq_true _ _).1 hends.2 c hc⟩
  | list | set | map | tuple =>
      constructor <;> intro c hc <;> simp [render, List.getLast?_cons, List.getLast?_append] at hc <;>
        subst hc <;> decide
  | @udt name hchars _ =>
      exact ⟨fun c hc => (udtChar (hchars c (List.mem_of_mem_head? hc))).2.1,
        fun c hc => (udtChar (hchars c (List.mem_of_mem_getLast? hc))).2.1⟩
  | custom =>
      constructor <;> intro c hc <;> simp [render, List.getLast?_cons, List.getLast?_append] at hc <;>
        subst hc <;> decide

theorem read?_render {t : StoreType} (ht : Readable t) : read? (render t) = some t := by
  obtain ⟨hhead, hlast⟩ := render_ends ht
  have hread := readsBack_of_readable ht (2 * (render t).toList.length + 2) [] (by omega)
    (by simp [Follows])
  rw [List.append_nil] at hread
  simp [read?, Text.trimChars_eq_self hhead hlast, hread, skipBlank]

/-- **Reading undoes writing on readable types.** The reader takes the text of every readable
type back to the type, without a fault; so no two readable types share a text. -/
theorem read?_leftInverse_render :
    (∀ t, Readable t → read? (render t) = some t) ∧
      ∀ t u, Readable t → Readable u → render t = render u → t = u := by
  refine ⟨fun t ht => read?_render ht, fun t u ht hu htu => ?_⟩
  have hread : read? (render t) = read? (render u) := congrArg read? htu
  rw [read?_render ht, read?_render hu] at hread
  exact Option.some.inj hread

/-- A map from text to a tuple of a list, a user-defined type and a custom class is readable,
and its text `map<text, tuple<list<int>, address_2, 'a.b'>>` reads back as it. -/
theorem read?_leftInverse_render_nested :
    let t : StoreType := .map (.scalar .text)
      (.tuple [.list (.scalar .int), .udt "address_2", .custom "a.b"])
    Readable t ∧ read? (render t) = some t := by
  intro t
  -- the name's characters, checked as a `Bool` so that `decide` walks the list only
  have hchars : "address_2".toList.all (fun c => isAlnum c || c == '_') = true := by decide
  have hudt : Readable (.udt "address_2") :=
    .udt (fun c hc => by simpa using List.all_eq_true.1 hchars c hc) (by decide)
  have ht : Readable t :=
    .map (.scalar _) (.tuple (by simp) (by
      intro u hu
      simp only [List.mem_cons, List.not_mem_nil, or_false] at hu
      rcases hu with rfl | rfl | rfl
      · exact .list (.scalar _)
      · exact hudt
      · exact .custom (by decide)))
  exact ⟨ht, read?_leftInverse_render.1 t ht⟩

end StoreType

end CqlBridge
