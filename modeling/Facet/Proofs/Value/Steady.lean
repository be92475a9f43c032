import Facet.Proofs.Value.Exact

namespace Facet

open Number

theorem encodeAll_map {α β : Type} {encode : α → Except Unencodable β} {f : α → α}
    (h : ∀ a, encode (f a) = encode a) (as : List α) :
    encodeAll encode (as.map f) = encodeAll encode as := by
  induction as with
  | nil => rfl
  | cons a as ih => rw [List.map_cons, encodeAll, encodeAll, h, ih]

theorem forall_right_of_forall₂ {α β : Type} {R : α → β → Prop} {P : β → Prop} {as : List α}
    {bs : List β} (h : List.Forall₂ R as bs) (hP : ∀ a b, R a b → P b) : ∀ b ∈ bs, P b := by
  induction h with
  | nil => simp
  | cons hab _ ih => exact List.forall_mem_cons.2 ⟨hP _ _ hab, ih⟩

theorem eqvList_self {α : Type} {eqv : α → α → Bool} {as : List α} (h : ∀ a ∈ as, eqv a a) :
    eqvList eqv as as := by
  induction as with
  | nil => rfl
  | cons a as ih =>
    obtain ⟨ha, has⟩ := List.forall_mem_cons.1 h
    rw [eqvList, ha, ih has]
    rfl

theorem Json.eqv_ofReal_self {f : Format} (x : Binary f) : (Json.ofReal x).eqv (Json.ofReal x) := by
  by_cases hx : x.isFinite
  · rw [ofReal, if_pos hx]
    exact Ty.eqv_self_of_isFinite (Binary.isFinite_convert_double hx)
  · rw [ofReal, if_neg hx]
    rfl

namespace Ty

def Steady : Ty → Bool
  | .trunc | .drift | .veiled => false
  | .option t | .list t | .table t => t.Steady
  | .pair s t => s.Steady && t.Steady
  | _ => true

theorem encode_replayed {t : Ty} (ht : t.Steady) (a : t.Val) : t.encode (t.replayed a) = t.encode a := by
  induction t with
  | trunc | drift | veiled => cases ht
  | option t ih =>
    cases a with
    | none => rfl
    | some a => exact ih ht a
  | list t ih =>
    have hitems := encodeAll_map (f := t.replayed) (ih ht) a
    exact congrArg (Except.map Json.array) hitems
  | pair s t ihs iht =>
    simp only [Steady, Bool.and_eq_true] at ht
    simp only [encode, replayed, ihs ht.1, iht ht.2]
  | table t ih =>
    -- The keys stay as they are, so entry by entry it is the case of a list.
    let encodeEntry (e : String × t.Val) : Except Unencodable (String × Json) :=
      (t.encode e.2).map (e.1, ·)
    have hentry (e : String × t.Val) : encodeEntry (e.1, t.replayed e.2) = encodeEntry e :=
      congrArg (Except.map (e.1, ·)) (ih ht e.2)
    have hentries := encodeAll_map hentry a.entries
    exact congrArg (Except.map Json.object) hentries
  | _ => rfl

theorem eqv_self_of_encode {t : Ty} {a : t.Val} {j : Json} (h : t.encode a = .ok j) : j.eqv j := by
  induction t generalizing j with
  | option t ih =>
    cases a with
    | none =>
      cases h
      rfl
    | some a => exact ih h
  | list t ih =>
    obtain ⟨js, hjs, rfl⟩ := Except.map_eq_ok_iff.1 h
    rw [Json.eqv, Json.eqvItems_eq_eqvList]
    apply eqvList_self
    exact forall_right_of_forall₂ (encodeAll_eq_ok_iff.1 hjs) fun _ _ => ih
  | pair s t ihs iht =>
    obtain ⟨x, y, hx, hy, rfl⟩ := encode_pair_eq_ok h
    simp [Json.eqv, Json.eqvItems, ihs hx, iht hy]
  | table t ih =>
    obtain ⟨fs, hfs, rfl⟩ := Except.map_eq_ok_iff.1 h
    rw [Json.eqv, Json.eqvFields_eq_eqvList]
    apply eqvList_self
    refine forall_right_of_forall₂ (encodeAll_eq_ok_iff.1 hfs) fun e f hf => ?_
    obtain ⟨k, hk, rfl⟩ := Except.map_eq_ok_iff.1 hf
    simpa using ih hk
  | byteTable t ih =>
    simp only [encode] at h
    split at h
    · cases h
      rfl
    · cases h
  | int w =>
    obtain ⟨-, rfl⟩ := ofInt?_eq_ok_iff.1 h
    simp [Json.eqv]
  | real f =>
    cases h
    exact Json.eqv_ofReal_self a
  | point =>
    cases h
    simp [Json.eqv, Json.eqvFields, Json.eqv_ofOption_string, Json.eqv_ofReal_self]
  | shape =>
    cases h
    cases a <;> simp [Shape.encode, Json.eqv, Json.eqvItems, Json.eqvFields, Json.eqv_ofReal_self]
  | locale => cases a <;> cases h <;> rfl
  | masked =>
    cases h
    simp [Json.eqv, Json.eqvFields, Json.eqv_ofOption_string]
  | str | string | name | char | bool | unit | path | trunc | drift | veiled =>
    cases h
    simp [Json.eqv]

end Ty

end Facet
