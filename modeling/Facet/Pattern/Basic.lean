import Facet.Pattern.Glob
import Facet.Pattern.Regex.Reader

namespace Facet

structure Pattern where
  text : String
  deriving DecidableEq

namespace Pattern

def isMatch (p : Pattern) (s : String) : Bool :=
  (Glob.ofText? p.text).any (·.accepts s) || (Regex.ofText? p.text).any (·.occursIn s) || s == p.text

end Pattern

end Facet
