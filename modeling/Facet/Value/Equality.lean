import Facet.Value.Ty

namespace Facet

def eqvList {α : Type} (eqv : α → α → Bool) : List α → List α → Bool
  | [], [] => true
  | a :: as, b :: bs => eqv a b && eqvList eqv as bs
  | _, _ => false

def Shape.eqv : Shape → Shape → Bool
  | .dot, .dot => true
  | .circle r, .circle s => r.eqv s
  | .line a b, .line c d => a == c && b == d
  | .rect w h, .rect v g => w.eqv v && h.eqv g
  | _, _ => false

def Ty.eqv : (t : Ty) → t.Val → t.Val → Bool
  | .str, a, b => a == b
  | .string, a, b => a == b
  | .name, a, b => a == b
  | .char, a, b => a == b
  | .bool, a, b => a == b
  | .unit, _, _ => true
  | .int _, a, b => a == b
  | .real _, a, b => a.eqv b
  | .option _, none, none => true
  | .option t, some a, some b => t.eqv a b
  | .option _, _, _ => false
  | .list t, as, bs => eqvList t.eqv as bs
  | .pair s t, a, b => s.eqv a.1 b.1 && t.eqv a.2 b.2
  | .table t, a, b => eqvList (fun x y => x.1 == y.1 && t.eqv x.2 y.2) a.entries b.entries
  | .byteTable t, a, b => eqvList (fun x y => x.1 == y.1 && t.eqv x.2 y.2) a.entries b.entries
  | .point, a, b => a.x.eqv b.x && a.label == b.label
  | .shape, a, b => a.eqv b
  | .locale, a, b => a == b
  | .path, a, b => a.eqv b
  | .trunc, a, b => a.val.eqv b.val
  | .drift, a, b => a == b
  | .veiled, a, b => a == b
  | .masked, a, b => a == b

end Facet
