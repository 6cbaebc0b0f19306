import PuzzleWorlds.Domain.Basic
import PuzzleWorlds.Text.Quoted

/-! Catalogs of domains: which worlds a program offers, in the order in which they were added. -/

namespace PuzzleWorlds

structure Catalog where
  domains : List Domain := []
deriving Repr

inductive CatalogError where
  | alreadyRegistered (domain : Domain)
  | unknownDomain (name : String)
deriving DecidableEq, Repr

def CatalogError.message : CatalogError → String
  | alreadyRegistered d => s!"Domain '{d.name}' is already registered"
  | unknownDomain name => s!"Unknown domain '{name}'"

namespace Catalog

/-- Every domain that there is. -/
def standard : Catalog := ⟨Domain.all⟩

def register (c : Catalog) (d : Domain) : Except CatalogError Catalog :=
  if c.domains.contains d then .error (.alreadyRegistered d) else .ok ⟨c.domains ++ [d]⟩

def get (c : Catalog) (name : String) : Except CatalogError Domain :=
  match c.domains.find? fun d => d.name == name with
  | some d => .ok d
  | none => .error (.unknownDomain name)

def contains (c : Catalog) (name : String) : Bool := c.domains.any fun d => d.name == name

def names (c : Catalog) : List String := c.domains.map Domain.name

end Catalog

end PuzzleWorlds
