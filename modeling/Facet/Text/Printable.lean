import Facet.Text.Property

namespace Facet.Text

def isPrintable (c : Char) : Bool :=
  if c.val < 0x80 then 0x20 ≤ c.val && c.val < 0x7f
  else !(Category.of c).isOther && !(Category.of c).isSeparator

def extendsGrapheme (c : Char) : Bool :=
  0x80 ≤ c.val && Property.graphemeExtend.contains c

end Facet.Text
