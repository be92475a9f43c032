import Facet.Proofs.Value.Replayed

namespace Facet

open Number

namespace Ty

def isBlank : (t : Ty) → t.Val → Bool
  | .unit, _ => true
  | .option _, a => a.isNone
  | _, _ => false

theorem ofInt?_eq_ok_iff {n : Int} {j : Json} :
    Json.ofInt? n = .ok j ↔ (-2 ^ 63 ≤ n ∧ n < 2 ^ 64) ∧ j = .integer n := by
  have hleast : Width.i64.least = -2 ^ 63 := by decide
  have hgreatest : Width.u64.greatest = 2 ^ 64 - 1 := by decide
  simp only [Json.ofInt?, hleast, hgreatest, Int.le_sub_one_iff]
  split
  next h => exact ⟨fun hj => ⟨h, (Except.ok.inj hj).symm⟩, fun hj => hj.2 ▸ rfl⟩
  next h => exact iff_of_false (fun hj => by cases hj) fun hj => h hj.1

end Ty

end Facet
