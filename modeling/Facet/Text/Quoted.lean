import Facet.Text.Printable

namespace Facet.Text

def hexDigits (n : Nat) : List Char := Nat.toDigits 16 n

/-- One character inside quotation marks `mark`. The backslash and the mark itself are written after a
backslash; a character that is invisible or extends a grapheme is written by its code point. -/
def escape (mark c : Char) : List Char :=
  if c = '\x00' then ['\\', '0']
  else if c = '\t' then ['\\', 't']
  else if c = '\r' then ['\\', 'r']
  else if c = '\n' then ['\\', 'n']
  else if c = '\\' ∨ c = mark then ['\\', c]
  else if isPrintable c && !extendsGrapheme c then [c]
  else ['\\', 'u', '\x7b'] ++ hexDigits c.toNat ++ ['\x7d']

def escapeAll (mark : Char) (cs : List Char) : List Char := cs.flatMap (escape mark)

@[simp] theorem escapeAll_nil (mark : Char) : escapeAll mark [] = [] := rfl

@[simp] theorem escapeAll_cons (mark c : Char) (cs : List Char) :
    escapeAll mark (c :: cs) = escape mark c ++ escapeAll mark cs := rfl

def quote (s : String) : String :=
  .ofList ('"' :: (escapeAll '"' s.toList ++ ['"']))

def quoteChar (c : Char) : String :=
  .ofList ('\'' :: (escape '\'' c ++ ['\'']))

end Facet.Text
