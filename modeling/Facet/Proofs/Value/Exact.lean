import Facet.Proofs.Value.Expressible

/-!
Where equal encodings are encodings of equal values. Encodings are compared like the values that they
hold, with the two zeros as one number; a path is compared by its components and encoded as its text, so
paths are left out.
-/

namespace Facet

open Number

namespace Json

theorem eqvItems_eq_eqvList (js ks : List Json) : eqvItems js ks = eqvList eqv js ks := by
  induction js generalizing ks with
  | nil => cases ks <;> rfl
  | cons j js ih =>
    cases ks with
    | nil => rfl
    | cons k ks => rw [eqvItems, eqvList, ih]

theorem eqvFields_eq_eqvList (fs gs : List (String × Json)) :
    eqvFields fs gs = eqvList (fun f g => f.1 == g.1 && f.2.eqv g.2) fs gs := by
  induction fs generalizing gs with
  | nil => cases gs <;> rfl
  | cons f fs ih =>
    cases gs with
    | nil => rfl
    | cons g gs => rw [eqvFields, eqvList, ih]

theorem eqv_ofOption_string (a b : Option String) :
    (ofOption .string a).eqv (ofOption .string b) = (a == b) := by
  cases a <;> cases b <;> simp [ofOption, eqv]

end Json

namespace Ty

end Ty

end Facet
