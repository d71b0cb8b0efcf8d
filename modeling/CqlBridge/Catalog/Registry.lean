import CqlBridge.Catalog.Basic

/-!
# `CqlBridge.Catalog.Registry` — attached catalogs, by name

A name is attached at most once. Attaching checks the name first (not empty, not taken), then
reads the attach string; detaching tells whether the name was attached. Names are listed in
sorted order.
-/

namespace CqlBridge

/-- The catalog name used when an attach gives none. -/
def defaultCatalogName : String := "cassandra"

/-- Attached catalogs. -/
structure Registry where
  catalogs : List Catalog := []

namespace Registry

/-- The catalog attached as `name`. -/
def find (r : Registry) (name : String) : Except Fault Catalog :=
  match r.catalogs.find? (·.name == name) with
  | some c => .ok c
  | none => .error (.notFound ("no Cassandra catalog attached as " ++ name))

/-- Checks that `name` can be attached: not empty and not taken. -/
def checkFree (r : Registry) (name : String) : Except Fault Unit :=
  if name.isEmpty then .error (.configuration .emptyCatalogName)
  else if r.catalogs.any (·.name == name) then .error (.configuration (.duplicateCatalog name))
  else .ok ()

/-- Attaches a catalog over the cluster under `name`, with the settings of `conn`. -/
def attach (r : Registry) (name conn : String) : Except Fault (Registry × Catalog) := do
  r.checkFree name
  match Catalog.make name conn with
  | .ok c => return (⟨r.catalogs ++ [c]⟩, c)
  | .error e => throw (.configuration e)

/-- Detaches `name`; whether it was attached. -/
def detach (r : Registry) (name : String) : Registry × Bool :=
  (⟨r.catalogs.filter (·.name != name)⟩, r.catalogs.any (·.name == name))

/-- The attached names, sorted. -/
def names (r : Registry) : List String :=
  (r.catalogs.map (·.name)).mergeSort fun a b => !(b < a)

end Registry

end CqlBridge
