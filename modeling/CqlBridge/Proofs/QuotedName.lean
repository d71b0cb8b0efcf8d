import CqlBridge.Proofs.TypeText
import CqlBridge.Proofs.Text

/-!
# `CqlBridge.Proofs.QuotedName` — a quoted type name reads back as the name

`quoteIdent` writes a name between double quotes, each quote in it doubled. The reader of store
types takes a name in double quotes as a user-defined type: it scans to the first quote that is
not doubled and cuts the outer quotes off. So every name, whatever characters it holds (quotes,
runs of quotes at either end, commas, angle brackets, blanks, characters of several bytes),
reads back from its quoted form, alone and wherever a type stands in an argument list
(`read?_quoteIdent`).

Two facts about the scanner carry this:

* after an opening quote it reads through a text with doubled quotes and stops at the first
  single quote (`quotedRaw_doubled_append`), so the text after an opening quote is either
  doubled to its end, the name never closed, or a doubled text closed by a quote
  (`quotedRaw_cases`);
* cutting the closing quote off and halving the doubled quotes gives the name back
  (`unquote_closed`).

Reading a whole text is then the reading of an applied name whose arguments each read back
(`readsAs_applied`), with `ReadsAs` saying what reading back means for a text and a type.
-/

namespace CqlBridge.StoreType

open Text

/-! ## The scanner of a quoted name

The type reader halves doubled quotes as the statement reader does. The scanner keeps a
character other than a quote and goes on, and a quote that no quote follows closes the name;
so it reads through a doubled text whatever follows it, reading a doubled text that runs to the
end whole, and a doubled text with its closing quote up to that quote. A closed quoted name
loses its closing quote and its doubled quotes. -/

theorem undouble_eq (cs : List Char) : undouble cs = SelectStmt.undouble cs := by
  induction cs using undouble.induct with
  | case1 rest ih => simp [undouble, SelectStmt.undouble, ih]
  | case2 c rest hpair ih =>
      -- a character that does not start a doubled quote is kept by both
      cases rest with
      | nil => simp [undouble, SelectStmt.undouble]
      | cons d ds =>
          by_cases hc : c = '"'
          · subst hc
            have hd : d ≠ '"' := fun hd => hpair ds rfl (by rw [hd])
            simp [undouble, SelectStmt.undouble, hd, ← ih]
          · simp [undouble, SelectStmt.undouble, ← ih]
  | case3 => rfl

@[simp] theorem undouble_doubled (cs : List Char) : undouble (doubled cs) = cs := by
  rw [undouble_eq, SelectStmt.undouble_doubled]

theorem quotedRaw_cons_of_ne {c : Char} (hc : c ≠ '"') (rest : List Char) :
    quotedRaw (c :: rest) = (c :: (quotedRaw rest).1, (quotedRaw rest).2) := by
  rw [quotedRaw.eq_4 c rest (fun _ h => absurd h hc) hc]

theorem quotedRaw_close {rest : List Char} (h : ∀ c ∈ rest.head?, c ≠ '"') :
    quotedRaw ('"' :: rest) = (['"'], rest) :=
  quotedRaw.eq_3 rest fun _ hr => h '"' (by simp [hr]) rfl

theorem quotedRaw_doubled_append (n rest : List Char) :
    quotedRaw (doubled n ++ rest) = (doubled n ++ (quotedRaw rest).1, (quotedRaw rest).2) := by
  induction n with
  | nil => rfl
  | cons c n ih =>
      rw [doubled_cons]
      split
      · rename_i hc
        subst hc
        simp [quotedRaw, ih]
      · rename_i hc
        simp [quotedRaw_cons_of_ne hc, ih]

theorem quotedRaw_open (n : List Char) : quotedRaw (doubled n) = (doubled n, []) := by
  simpa [quotedRaw] using quotedRaw_doubled_append n []

theorem quotedRaw_closed (n : List Char) {rest : List Char} (h : ∀ c ∈ rest.head?, c ≠ '"') :
    quotedRaw (doubled n ++ '"' :: rest) = (doubled n ++ ['"'], rest) := by
  rw [quotedRaw_doubled_append, quotedRaw_close h]

/-- After an opening quote the text is doubled to its end, or a doubled text and then the quote
that closes it. The induction follows the scanner: a doubled quote and any other character
extend the doubled text. -/
theorem quotedRaw_cases (r : List Char) :
    (∃ n, r = doubled n) ∨
      ∃ n after, r = doubled n ++ '"' :: after ∧ ∀ c ∈ after.head?, c ≠ '"' := by
  induction r using quotedRaw.induct with
  | case1 => exact .inl ⟨[], rfl⟩
  | case2 rest _ _ _ ih =>
      rcases ih with ⟨n, rfl⟩ | ⟨n, after, rfl, hafter⟩
      · exact .inl ⟨'"' :: n, by simp⟩
      · exact .inr ⟨'"' :: n, after, by simp, hafter⟩
  | case3 rest hrest =>
      refine .inr ⟨[], rest, rfl, fun c hc h => ?_⟩
      subst h
      obtain ⟨ds, rfl⟩ : ∃ ds, rest = '"' :: ds := by
        cases rest with
        | nil => cases hc
        | cons d ds => exact ⟨ds, by simp_all⟩
      exact hrest ds rfl
  | case4 c rest _ hc _ _ _ ih =>
      have hc : c ≠ '"' := hc
      rcases ih with ⟨n, rfl⟩ | ⟨n, after, rfl, hafter⟩
      · exact .inl ⟨c :: n, by simp [hc]⟩
      · exact .inr ⟨c :: n, after, by simp [hc], hafter⟩

theorem unquote_closed (n : List Char) : unquote (doubled n ++ ['"']) = some (String.ofList n) := by
  simp [unquote]

/-! ## Texts that read back

Further arguments read back one by one, each comma costing one unit of fuel, so a bare name
applied to arguments that read back reads as the name applied to their types; a text that reads
back, and starts and ends with no blank, is read as its type by `read?`. -/

/-- `text` reads as `t` before anything that may follow a type, with more fuel than it is
long. -/
def ReadsAs (text : List Char) (t : StoreType) : Prop :=
  ∀ f rest, text.length < f → Follows rest → readType f (text ++ rest) = some (t, rest)

/-- A quoted name reads as the user-defined type of that name. -/
theorem readsAs_quoteIdent (n : String) : ReadsAs (quoteIdent n).toList (.udt n) := by
  intro f rest hf hrest
  obtain ⟨f, rfl⟩ : ∃ g, f = g + 1 := ⟨f - 1, by omega⟩
  -- what may follow a type is no quote, so the quote after the name closes it
  have hclose : ∀ c ∈ rest.head?, c ≠ '"' := fun c hc => by
    rcases hrest c hc with rfl | rfl <;> decide
  have htext : (quoteIdent n).toList ++ rest = '"' :: (doubled n.toList ++ '"' :: rest) := by
    simp
  rw [htext]
  unfold readType
  rw [skipBlank_cons (by decide)]
  simp [quotedRaw_closed _ hclose, unquote_closed]

/-- Further arguments, each after `, `. -/
def argsText (args : List (List Char × StoreType)) : List Char :=
  (args.map fun a => ", ".toList ++ a.1).flatten

@[simp] theorem argsText_nil : argsText [] = [] := rfl

@[simp] theorem argsText_cons (a : List Char × StoreType) (args : List (List Char × StoreType)) :
    argsText (a :: args) = ',' :: ' ' :: (a.1 ++ argsText args) := by
  simp [argsText]

theorem follows_argsText (args : List (List Char × StoreType)) {rest : List Char}
    (hrest : ∀ c ∈ rest.head?, c = '>') : Follows (argsText args ++ rest) := by
  intro c hc
  cases args with
  | nil => exact .inr (hrest c hc)
  | cons a args => exact .inl (by simpa using hc.symm)

theorem readArgs_argsText {args : List (List Char × StoreType)}
    (hargs : ∀ a ∈ args, ReadsAs a.1 a.2) {rest : List Char} (hrest : ∀ c ∈ rest.head?, c = '>') :
    ∀ f, (argsText args).length < f →
      readArgs f (argsText args ++ rest) = some (args.map (·.2), rest) := by
  induction args with
  | nil => exact fun f _ => readArgs_stop hrest f
  | cons a args ih =>
      intro f hf
      have hlen : (argsText (a :: args)).length = a.1.length + (argsText args).length + 2 := by
        simp only [argsText_cons, List.length_cons, List.length_append]
      obtain ⟨g, rfl⟩ : ∃ g, f = g + 2 := ⟨f - 2, by omega⟩
      have ha : readType (g + 1) (' ' :: (a.1 ++ (argsText args ++ rest))) =
          some (a.2, argsText args ++ rest) := by
        rw [readType_blank (by decide)]
        exact hargs a (by simp) _ _ (by omega) (follows_argsText args hrest)
      rw [argsText_cons, List.cons_append, List.cons_append, List.append_assoc]
      exact readArgs_comma ha (ih (fun b hb => hargs b (by simp [hb])) (g + 1) (by omega))

theorem readsAs_applied {c : Char} {cs : List Char}
    (hname : (c :: cs).all (fun d => isNameChar d && d != '.') = true)
    (hc : isBlank c = false ∧ c ≠ '\'' ∧ c ≠ '"') {x : List Char} {t : StoreType}
    (hx : ReadsAs x t) {args : List (List Char × StoreType)} (hargs : ∀ a ∈ args, ReadsAs a.1 a.2) :
    ReadsAs (c :: (cs ++ '<' :: (x ++ argsText args ++ ['>'])))
      (ofApplied (c :: cs) (t :: args.map (·.2))) := by
  intro f rest hf _
  have hlen : x.length + (argsText args).length < f - 1 := by
    simp only [List.length_cons, List.length_append] at hf
    omega
  obtain ⟨g, rfl⟩ : ∃ g, f = g + 1 := ⟨f - 1, by omega⟩
  have hmore : readArgs g (argsText args ++ '>' :: rest) = some (args.map (·.2), '>' :: rest) :=
    readArgs_argsText hargs (by simp) g (by omega)
  have hfirst : readType g (x ++ (argsText args ++ '>' :: rest)) =
      some (t, argsText args ++ '>' :: rest) :=
    hx g _ (by omega) (follows_argsText args (by simp))
  have htext : c :: (cs ++ '<' :: (x ++ argsText args ++ ['>'])) ++ rest =
      c :: (cs ++ '<' :: (x ++ (argsText args ++ '>' :: rest))) := by
    simp
  rw [htext, readType_applied hname hc hfirst hmore, eat_close]
  rfl

theorem read?_of_readsAs {text : String} {t : StoreType} (h : ReadsAs text.toList t)
    (hhead : ∀ c ∈ text.toList.head?, isBlank c = false)
    (hlast : ∀ c ∈ text.toList.getLast?, isBlank c = false) : read? text = some t := by
  have hread := h (2 * text.toList.length + 2) [] (by omega) (by simp [Follows])
  rw [List.append_nil] at hread
  simp [read?, trimChars_eq_self hhead hlast, hread, skipBlank]

/-! ## Quoted names in every position -/

theorem quoteIdent_ends (n : String) :
    (quoteIdent n).toList.head? = some '"' ∧ (quoteIdent n).toList.getLast? = some '"' := by
  simp [List.getLast?_cons]

theorem read?_applied {text : String} (c : Char) (cs : List Char) (args : List (List Char × StoreType))
    (hname : (c :: cs).all (fun d => isNameChar d && d != '.') = true)
    (hc : isBlank c = false ∧ c ≠ '\'' ∧ c ≠ '"') {x : List Char} {t : StoreType}
    (hx : ReadsAs x t) (hargs : ∀ a ∈ args, ReadsAs a.1 a.2)
    (htext : text.toList = c :: (cs ++ '<' :: (x ++ argsText args ++ ['>']))) :
    read? text = some (ofApplied (c :: cs) (t :: args.map (·.2))) := by
  refine read?_of_readsAs (htext ▸ readsAs_applied hname hc hx hargs) ?_ ?_
  · rw [htext]
    simpa using hc.1
  · rw [htext]
    simp only [List.getLast?_cons, List.getLast?_append]
    simp only [Option.some_or, Option.getD_some, Option.mem_def, Option.some.injEq, forall_eq']
    decide

/-- **Quoted names read back.** For every name `n`, its quoted form `q` reads as the
user-defined type `n`; so does `frozen<q>`; and `list<q>`, `set<q>`, `map<q, int>`,
`map<int, q>` and `tuple<q, int>` read as the container with `n` in that place. -/
theorem read?_quoteIdent (n : String) :
    read? (quoteIdent n) = some (.udt n) ∧
    read? ("list<" ++ quoteIdent n ++ ">") = some (.list (.udt n)) ∧
    read? ("set<" ++ quoteIdent n ++ ">") = some (.set (.udt n)) ∧
    read? ("map<" ++ quoteIdent n ++ ", int>") = some (.map (.udt n) (.scalar .int)) ∧
    read? ("map<int, " ++ quoteIdent n ++ ">") = some (.map (.scalar .int) (.udt n)) ∧
    read? ("tuple<" ++ quoteIdent n ++ ", int>") = some (.tuple [.udt n, .scalar .int]) ∧
    read? ("frozen<" ++ quoteIdent n ++ ">") = some (.udt n) := by
  have hq := readsAs_quoteIdent n
  have hint : ReadsAs "int".toList (.scalar .int) := readsBack_of_readable (.scalar .int)
  obtain ⟨hhead, hlast⟩ := quoteIdent_ends n
  refine ⟨read?_of_readsAs hq
    (by simp only [hhead, Option.mem_def, Option.some.injEq, forall_eq']; decide)
    (by simp only [hlast, Option.mem_def, Option.some.injEq, forall_eq']; decide), ?_, ?_, ?_, ?_, ?_, ?_⟩
  · exact read?_applied 'l' "ist".toList [] (by decide) (by decide) hq (by simp)
      (by simp)
  · exact read?_applied 's' "et".toList [] (by decide) (by decide) hq (by simp)
      (by simp)
  · exact read?_applied 'm' "ap".toList [("int".toList, .scalar .int)] (by decide) (by decide) hq
      (by simpa using hint) (by simp)
  · exact read?_applied 'm' "ap".toList [((quoteIdent n).toList, .udt n)] (by decide) (by decide)
      hint (by simpa using hq) (by simp)
  · exact read?_applied 't' "uple".toList [("int".toList, .scalar .int)] (by decide) (by decide)
      hq (by simpa using hint) (by simp)
  · exact read?_applied 'f' "rozen".toList [] (by decide) (by decide) hq (by simp)
      (by simp)

end CqlBridge.StoreType
