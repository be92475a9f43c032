import Facet.Config.Reading
import Facet.FileTree
import Facet.Text.Quoted

namespace Facet

namespace Config

def fileName : String := ".submatcher.yaml"

inductive LoadFault
  | unreadable : ReadFault → LoadFault
  | malformed : Failure → LoadFault

namespace LoadFault

def message (p : Path) : LoadFault → String
  | .unreadable _ => "Failed to read config file: " ++ Text.quote p.text
  | .malformed _ => "Failed to parse config file: " ++ Text.quote p.text

def cause : LoadFault → String
  | .unreadable e => e.message
  | .malformed e => e.message

end LoadFault

def ofContent (r : Except ReadFault String) : Except LoadFault Config := do
  let text ← r.mapError .unreadable
  (ofText text).mapError .malformed

def load (d : Disk) (p : Path) : Except LoadFault Config := ofContent (d.read p)

def loadAt (d : Disk) (l : Location) : Except LoadFault Config := ofContent (d.textAt l)

def hasEntry (d : Disk) (l : Location) : Bool := (d.root.at? (fileName :: l)).isSome

def nearest (d : Disk) : Location → Option Location
  | [] => if hasEntry d [] then some [] else none
  | name :: parent => if hasEntry d (name :: parent) then some (name :: parent) else nearest d parent

/-- The configuration that applies at a path, and the directory it was found in. What cannot be loaded
hides what is further up. -/
def discover (d : Disk) (start : Path) : Option (Config × Location) := do
  let l ← nearest d (← (d.resolve start).toOption)
  let c ← (loadAt d (fileName :: l)).toOption
  return (c, l)

end Config

end Facet
