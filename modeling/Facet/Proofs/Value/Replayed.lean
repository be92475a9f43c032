import Facet.Proofs.Number.Numeral
import Facet.Proofs.Text.Alignment
import Facet.Proofs.Value.Reading
import Facet.Value.Equality

/-!
What a replay passes in the place of a value. Of all that an encoding can lose, an absent optional value is
the only thing that the texts or a null give away; the rest depends on the type alone.
-/

namespace Facet

open Number Text

def Table.mapValues {K V W : Type} [Ord K] (f : V → W) (t : Table K V) : Table K W :=
  ⟨t.entries.map fun e => (e.1, f e.2), sorted_of_keys (t := t) (by simp)⟩

theorem forall₂_eq_iff {α β : Type} {f : α → β} {as : List α} {bs : List β} :
    List.Forall₂ (fun a b => b = f a) as bs ↔ bs = as.map f := by
  induction as generalizing bs with
  | nil => simp
  | cons a as ih => simp [List.forall₂_cons_left_iff, ih]

theorem forall₂_of_forall₂ {α β γ : Type} {R : α → β → Prop} {S : α → γ → Prop} {T : α → β → Prop}
    {as : List α} {bs : List β} {cs : List γ} (hR : List.Forall₂ R as bs)
    (hS : List.Forall₂ S as cs) (h : ∀ a b, ∀ c ∈ cs, R a b → S a c → T a b) :
    List.Forall₂ T as bs := by
  induction hR generalizing cs with
  | nil => exact .nil
  | cons hab _ ih =>
    cases hS with
    | cons hac hS =>
      exact .cons (h _ _ _ List.mem_cons_self hab hac)
        (ih hS fun a b c hc => h a b c (List.mem_cons_of_mem _ hc))

namespace Json

theorem itemsHaveNull_eq_false_iff {js : List Json} :
    itemsHaveNull js = false ↔ ∀ j ∈ js, j.hasNull = false := by
  induction js with
  | nil => simp [itemsHaveNull]
  | cons j js ih => simp [itemsHaveNull, ih]

theorem fieldsHaveNull_eq_false_iff {fs : List (String × Json)} :
    fieldsHaveNull fs = false ↔ ∀ f ∈ fs, f.2.hasNull = false := by
  induction fs with
  | nil => simp [fieldsHaveNull]
  | cons f fs ih => simp [fieldsHaveNull, ih]

end Json

namespace Ty

def replayed : (t : Ty) → t.Val → t.Val
  | .option t, a => a.map t.replayed
  | .list t, as => as.map t.replayed
  | .pair s t, a => (s.replayed a.1, t.replayed a.2)
  | .table t, a => a.mapValues t.replayed
  | .trunc, a => a.recoded
  | .drift, a => ⟨successor a.val⟩
  | .veiled, a => ⟨successor a.val⟩
  | .masked, a => .ofNote a.note
  | .str, a | .string, a | .name, a | .char, a | .bool, a | .unit, a | .int _, a | .real _, a
  | .byteTable _, a | .point, a | .shape, a | .locale, a | .path, a => a

theorem eq_mapValues_of_forall₂ {t : Ty} {a b : Ty.Val (.table t)}
    (h : List.Forall₂ (fun x y => y.1 = x.1 ∧ y.2 = t.replayed x.2) a.entries b.entries) :
    b = a.mapValues t.replayed :=
  Table.ext (forall₂_eq_iff.1 (h.imp fun _ _ h => Prod.ext h.1 h.2))

/-- A null in the encoding is the only thing that an optional value can be lost to. -/
theorem eq_replayed_of_hasNull (t : Ty) {a b : t.Val} {j : Json} (h : t.Reads a b)
    (hj : t.encode a = .ok j) (hnull : j.hasNull = false) : b = t.replayed a := by
  induction t generalizing j with
  | str | string | name | char | bool | unit | int w | locale | path | masked | trunc => exact h
  | real | point | shape => exact h.2
  | option t ih =>
    cases a with
    | none => exact h
    | some a =>
      cases b with
      | none =>
        cases hj.symm.trans h
        cases hnull
      | some b => exact congrArg some (ih h hj hnull)
  | list t ih =>
    obtain ⟨js, hjs, rfl⟩ := Except.map_eq_ok_iff.1 hj
    refine forall₂_eq_iff.1 (forall₂_of_forall₂ h (encodeAll_eq_ok_iff.1 hjs) ?_)
    intro a b j hmem hread henc
    exact ih hread henc (Json.itemsHaveNull_eq_false_iff.1 hnull j hmem)
  | pair s t ihs iht =>
    obtain ⟨x, y, hx, hy, rfl⟩ := encode_pair_eq_ok hj
    simp only [Json.hasNull, Json.itemsHaveNull, Bool.or_false, Bool.or_eq_false_iff] at hnull
    exact Prod.ext (ihs h.1 hx hnull.1) (iht h.2 hy hnull.2)
  | table t ih =>
    obtain ⟨fs, hfs, rfl⟩ := Except.map_eq_ok_iff.1 hj
    refine eq_mapValues_of_forall₂ (forall₂_of_forall₂ h (encodeAll_eq_ok_iff.1 hfs) ?_)
    intro x y f hmem hread henc
    obtain ⟨k, hk, rfl⟩ := Except.map_eq_ok_iff.1 henc
    exact ⟨hread.1, ih hread.2 hk (Json.fieldsHaveNull_eq_false_iff.1 hnull _ hmem)⟩
  | byteTable t ih => exact h.2.trans (Table.ext h.1.symm)
  | drift => exact congrArg Drift.mk h
  | veiled => exact congrArg Veiled.mk h

theorem some_toList (s : String) : ("Some(" ++ s ++ ")").toList = 'S' :: ("ome(" ++ s ++ ")").toList := by
  simp

theorem aligned_numeral {s t rest : String} {c : Char} {cs : List Char} (before : String)
    (hrest : rest.toList = c :: cs) (hc : isNumeral c = false) (hs : ∀ d ∈ s.toList, isNumeral d)
    (ht : ∀ d ∈ t.toList, isNumeral d) : Aligned (s = t) (before ++ s ++ rest) (before ++ t ++ rest) := by
  have hend {u : String} (hu : ∀ d ∈ u.toList, isNumeral d) : c ∉ u.toList := fun hm =>
    absurd (hu c hm) (by simp [hc])
  rw [String.append_assoc, String.append_assoc]
  exact ((Aligned.refl before).append (Aligned.of_not_mem hrest (hend hs) (hend ht))).mono And.right

theorem aligned_debug (t : Ty) {a b : t.Val} (h : t.Reads a b) :
    Aligned (b = t.replayed a) (t.debug a) (t.debug b) := by
  induction t with
  | str | string | name | char | bool | unit | int w | locale | path =>
    cases h
    exact (Aligned.refl _).mono fun _ => rfl
  | real | point | shape =>
    cases h.2
    exact (Aligned.refl _).mono fun _ => rfl
  | option t ih =>
    cases a with
    | none =>
      cases h
      exact (Aligned.refl _).mono fun _ => rfl
    | some a =>
      cases b with
      | none => exact Aligned.of_ne (some_toList _) (rfl : "None".toList = 'N' :: _) (by decide)
      | some b => exact ((ih h).enclose "Some(" ")").mono (congrArg some)
  | list t ih =>
    refine ((Aligned.intercalate ", " (h.imp fun _ _ => ih)).enclose "[" "]").mono ?_
    exact forall₂_eq_iff.1
  | pair s t ihs iht =>
    have hfirst := ((Aligned.refl "(").append (ihs h.1)).append (Aligned.refl ", ")
    exact ((hfirst.append (iht h.2)).append (Aligned.refl ")")).mono fun h =>
      Prod.ext h.1.1.1.2 h.1.2
  | table t ih =>
    refine ((Aligned.intercalate ", " (h.imp fun x y h => ?_)).enclose "\x7b" "\x7d").mono
      eq_mapValues_of_forall₂
    rw [h.1]
    exact ((Aligned.refl _).append (ih h.2)).mono fun h' => ⟨rfl, h'.2⟩
  | byteTable t ih =>
    cases h.2.trans (Table.ext h.1.symm)
    exact (Aligned.refl _).mono fun _ => rfl
  | trunc =>
    exact (aligned_numeral "Trunc(" (rfl : ")".toList = [')']) rfl
      (fun _ => Style.isNumeral_of_mem_write) fun _ => Style.isNumeral_of_mem_write).mono fun _ => h
  | drift =>
    exact (aligned_numeral "Drift(" (rfl : ")".toList = [')']) rfl
      (fun _ => isNumeral_of_mem_repr) fun _ => isNumeral_of_mem_repr).mono fun _ =>
        congrArg Drift.mk h
  | veiled => exact (Aligned.refl _).mono fun _ => congrArg Veiled.mk h
  | masked =>
    cases h
    have hsecret := aligned_numeral (s := toString a.secret.val) (t := toString (0 : Int))
      "Masked \x7b secret: " (rfl : ", note: ".toList = ',' :: " note: ".toList) rfl
      (fun _ => isNumeral_of_mem_repr) fun _ => isNumeral_of_mem_repr
    exact ((hsecret.append (Aligned.refl _)).append (Aligned.refl " \x7d")).mono fun _ => rfl

/-- No part of the value is one that its encoding leaves out or changes: the fraction of a real that is
encoded as an integer, a secret other than zero, an integer that is encoded as its successor. -/
def Survives : (t : Ty) → t.Val → Prop
  | .option t, a => ∀ x ∈ a, t.Survives x
  | .list t, as => ∀ a ∈ as, t.Survives a
  | .pair s t, a => s.Survives a.1 ∧ t.Survives a.2
  | .table t, a => ∀ e ∈ a.entries, t.Survives e.2
  | .trunc, a => a.val.IsWhole (2 ^ 63)
  | .drift, _ | .veiled, _ => False
  | .masked, a => a.secret.val = 0
  | _, _ => True

theorem eqv_self_of_isFinite {f : Format} {x : Binary f} (h : x.isFinite) : x.eqv x := by
  cases x <;> simp_all [Binary.isFinite, Binary.eqv]

theorem successor_ne (n : Word .i64) : successor n ≠ n := by
  intro h
  have hval := congrArg Word.val h
  have hholds := n.holds
  have hcount : Width.i64.count = 2 ^ 64 := by decide
  simp only [successor, Word.wrap, hcount, Width.least] at hval
  simp only [Width.Holds, Width.least, Width.greatest] at hholds
  omega

theorem eqvList_map_iff {α : Type} {eqv : α → α → Bool} {f : α → α} {as : List α} :
    eqvList eqv (as.map f) as ↔ ∀ a ∈ as, eqv (f a) a := by
  induction as with
  | nil => simp [eqvList]
  | cons a as ih => simp [eqvList, ih]

theorem forall_of_forall₂_map {α β : Type} {R : α → β → Prop} {f : α → β} {as : List α}
    (h : List.Forall₂ R as (as.map f)) : ∀ a ∈ as, R a (f a) := by
  induction as with
  | nil => simp
  | cons a as ih =>
    cases h with
    | cons ha has => exact List.forall_mem_cons.2 ⟨ha, ih has⟩

theorem eqv_replayed_iff (t : Ty) {a : t.Val} (h : t.Reads a (t.replayed a)) :
    t.eqv (t.replayed a) a ↔ t.Survives a := by
  induction t with
  | str | string | name | char | bool | int w | locale => simp [eqv, replayed, Survives]
  | unit => simp [eqv, Survives]
  | path => simp [eqv, replayed, Survives, Path.eqv]
  | real f => simp [eqv, replayed, Survives, eqv_self_of_isFinite h.1]
  | point => simp [eqv, replayed, Survives, eqv_self_of_isFinite h.1]
  | shape =>
    have hfin := h.1
    cases a <;> simp_all [eqv, replayed, Survives, Shape.eqv, Shape.isFinite, eqv_self_of_isFinite]
  | option t ih =>
    cases a with
    | none => simp [eqv, replayed, Survives]
    | some a => simpa [eqv, replayed, Survives] using ih h
  | list t ih =>
    have hitems := forall_of_forall₂_map h
    exact eqvList_map_iff.trans (forall₂_congr fun a ha => ih (hitems a ha))
  | pair s t ihs iht =>
    simp only [eqv, replayed, Survives, Bool.and_eq_true]
    exact and_congr (ihs h.1) (iht h.2)
  | table t ih =>
    have hitems := forall_of_forall₂_map h
    refine eqvList_map_iff.trans (forall₂_congr fun e he => ?_)
    simpa using ih (hitems e he).2
  | byteTable t ih => simp [eqv, replayed, Survives, h.1, eqvList]
  | trunc => exact Binary.eqv_ofInt_truncate_iff a.val
  | drift =>
    cases a with
    | mk n => simpa [eqv, replayed, Survives] using successor_ne n
  | veiled =>
    cases a with
    | mk n => simpa [eqv, replayed, Survives] using successor_ne n
  | masked =>
    obtain ⟨⟨n, hn⟩, note⟩ := a
    simp only [eqv, replayed, Survives, Masked.ofNote, beq_iff_eq, Masked.mk.injEq, Word.mk.injEq,
      and_true]
    exact eq_comm

end Ty

end Facet
