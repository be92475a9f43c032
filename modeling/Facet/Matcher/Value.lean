import Facet.Matcher.Basic
import Facet.Pattern.Basic

namespace Facet

inductive Textual : Ty → Type
  | str : Textual .str
  | string : Textual .string
  | name : Textual .name

def Textual.text : {t : Ty} → Textual t → t.Val → String
  | _, .str, s => s
  | _, .string, s => s
  | _, .name, n => n.text

inductive ValueCriterion (t : Ty)
  | equalTo : t.Val → ValueCriterion t
  | pattern : Textual t → Pattern → ValueCriterion t

abbrev ValueMatcher (t : Ty) : Type := Matcher (ValueCriterion t)

instance {t : Ty} : Criterion (ValueCriterion t) t.Val where
  describe
    | .equalTo expected, d => d.appendValue t expected
    | .pattern _ p, d => (d.appendText "a string matching ").appendValue .str p.text
  test
    | .equalTo expected, actual => pure (t.eqv actual expected)
    | .pattern h p, actual => pure (p.isMatch (h.text actual))
  explain
    | .equalTo _, actual, d => pure ((d.appendText "was ").appendValue t actual)
    | .pattern h _, actual, d => pure ((d.appendText "was ").appendValue .str (h.text actual))

end Facet
