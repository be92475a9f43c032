namespace Facet

abbrev Names (α : Type) : Type := List (String × α)

namespace Names

variable {α : Type}

def find? (ns : Names α) (name : String) : Option α := ns.lookup name

def forget (ns : Names α) (name : String) : Names α := ns.filter (·.1 != name)

def keep (ns : Names α) (name : String) (a : α) : Names α := (name, a) :: ns.forget name

end Names

end Facet
