namespace Facet

structure Path where
  text : String
  deriving DecidableEq, Inhabited

namespace Path

inductive Component
  | root | current | parent
  | normal : String → Component
  deriving DecidableEq

def isAbsolute (p : Path) : Bool := p.text.toList.head? == some '/'

def split : List Char → List (List Char)
  | [] => [[]]
  | '/' :: cs => [] :: split cs
  | c :: cs =>
    match split cs with
    | [] => [[c]]
    | piece :: rest => (c :: piece) :: rest

/-- A dot counts only at the start of a relative path. -/
def component (leading : Bool) (piece : List Char) : Option Component :=
  match piece with
  | [] => none
  | ['.'] => if leading then some .current else none
  | ['.', '.'] => some .parent
  | _ => some (.normal (.ofList piece))

def components (p : Path) : List Component :=
  match split p.text.toList with
  | [] => []
  | first :: rest =>
    let start := if p.isAbsolute then some .root else component true first
    start.toList ++ rest.filterMap (component false)

def eqv (p q : Path) : Bool := p.components == q.components

end Path

end Facet
