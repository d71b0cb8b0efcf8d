/-!
# `CqlBridge.Shell.Env` — the environment variables of a run

An `Env` maps names to values. Setting a name replaces its value; `setIfAbsent` keeps a value
that is already there, which is how settings files give way to the environment a program was
started with. `get?_set` and `get?_setIfAbsent` say what a look-up sees after each.
-/

namespace CqlBridge.Shell

/-- Environment variables, each name once. -/
structure Env where
  vars : List (String × String) := []
  deriving Inhabited, Repr

namespace Env

/-- The value of `name`, if it is set. -/
def get? (e : Env) (name : String) : Option String :=
  (e.vars.find? (·.1 == name)).map (·.2)

/-- Sets `name` to `value`, replacing its old value. -/
def set (e : Env) (name value : String) : Env :=
  ⟨(name, value) :: e.vars.filter (·.1 != name)⟩

/-- Sets `name` to `value` unless it is set already. -/
def setIfAbsent (e : Env) (name value : String) : Env :=
  if (e.get? name).isSome then e else e.set name value

/-- An environment from pairs; of two pairs with one name the later wins. -/
def ofList (pairs : List (String × String)) : Env :=
  pairs.foldl (fun e (k, v) => e.set k v) {}

/-- Dropping the pairs of another name does not change what a look-up finds. -/
theorem find?_filter_ne (l : List (String × String)) {name key : String} (h : key ≠ name) :
    (l.filter (·.1 != name)).find? (·.1 == key) = l.find? (·.1 == key) := by
  induction l with
  | nil => rfl
  | cons p ps ih =>
    by_cases hk : p.1 = key
    · have e1 : (p.1 != name) = true := by
        simp only [bne_iff_ne, ne_eq]; intro e; exact h (hk ▸ e)
      have e2 : (p.1 == key) = true := by simp [hk]
      rw [List.filter_cons, if_pos e1, List.find?_cons, List.find?_cons, e2]
    · have e2 : (p.1 == key) = false := by simp [hk]
      rw [List.find?_cons, e2]
      by_cases hn : p.1 = name
      · have e1 : (p.1 != name) = false := by simp [hn]
        rw [List.filter_cons, e1]; exact ih
      · have e1 : (p.1 != name) = true := by simp [hn]
        rw [List.filter_cons, if_pos e1, List.find?_cons, e2]; exact ih

theorem get?_set (e : Env) (name value key : String) :
    (e.set name value).get? key = if key = name then some value else e.get? key := by
  unfold get? set
  by_cases h : key = name
  · subst h; simp
  · have hne : (name == key) = false := by simp; exact fun h' => h h'.symm
    rw [List.find?_cons, hne, if_neg h]
    simp only
    rw [find?_filter_ne _ h]

theorem get?_setIfAbsent (e : Env) (name value key : String) :
    (e.setIfAbsent name value).get? key =
      if key = name then some ((e.get? name).getD value) else e.get? key := by
  unfold setIfAbsent
  cases h : e.get? name with
  | none => simp [get?_set]
  | some v =>
    simp only [Option.isSome_some, if_true, Option.getD_some]
    by_cases hk : key = name
    · subst hk; simp [h]
    · simp [hk]

end Env

end CqlBridge.Shell
