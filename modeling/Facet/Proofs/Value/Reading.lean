import Facet.Proofs.Number.Rounding
import Facet.Value.Decode
import Facet.Value.Encode
import Mathlib.Data.List.Forall2

namespace Facet

open Number

namespace Table

variable {K V : Type} [Ord K]

theorem insertEntry_of_forall_lt [Std.OrientedOrd K] {k : K} {v : V} {es : List (K × V)}
    (h : ∀ e ∈ es, compare e.1 k = .lt) : insertEntry k v es = es ++ [(k, v)] := by
  induction es with
  | nil => rfl
  | cons e es ih =>
    have hgt : compare k e.1 = .gt := Std.OrientedCmp.gt_iff_lt.2 (h e List.mem_cons_self)
    simp only [insertEntry, hgt, List.cons_append]
    rw [ih fun e he => h e (List.mem_cons_of_mem _ he)]

theorem entries_foldl_insert [Std.TransOrd K] [Std.LawfulEqOrd K] {es : List (K × V)}
    (t : Table K V) (h : (t.entries ++ es).Pairwise fun a b => compare a.1 b.1 = .lt) :
    (es.foldl (fun t e => t.insert e.1 e.2) t).entries = t.entries ++ es := by
  induction es generalizing t with
  | nil => simp
  | cons e es ih =>
    have hlast : (t.insert e.1 e.2).entries = t.entries ++ [e] :=
      insertEntry_of_forall_lt fun a ha => (List.pairwise_append.1 h).2.2 a ha e List.mem_cons_self
    rw [List.foldl_cons, ih _ (by simpa [hlast] using h), hlast, List.append_assoc]
    rfl

theorem entries_ofList [Std.TransOrd K] [Std.LawfulEqOrd K] {es : List (K × V)}
    (h : es.Pairwise fun a b => compare a.1 b.1 = .lt) : (ofList es).entries = es := by
  simpa [ofList, empty] using entries_foldl_insert (empty : Table K V) h

theorem sorted_of_keys {W : Type} {t : Table K V} {es : List (K × W)}
    (h : es.map Prod.fst = t.entries.map Prod.fst) :
    es.Pairwise fun a b => compare a.1 b.1 = .lt := by
  have hsorted : (t.entries.map Prod.fst).Pairwise (compare · · = .lt) :=
    List.pairwise_map.2 t.sorted
  rw [← h] at hsorted
  exact List.pairwise_map.1 hsorted

end Table

theorem encodeAll_eq_ok_iff {α β : Type} {encode : α → Except Unencodable β} {as : List α}
    {bs : List β} : encodeAll encode as = .ok bs ↔ List.Forall₂ (encode · = .ok ·) as bs := by
  induction as generalizing bs with
  | nil => simp [encodeAll, eq_comm]
  | cons a as ih =>
    simp only [encodeAll, List.forall₂_cons_left_iff, ← ih]
    cases encode a with
    | error e => simp
    | ok b => cases encodeAll encode as <;> simp [eq_comm]

theorem decodeAll_eq_ok_iff {α β : Type} {decode : α → Except Decoding.Mismatch β} {as : List α}
    {bs : List β} : decodeAll decode as = .ok bs ↔ List.Forall₂ (decode · = .ok ·) as bs := by
  induction as generalizing bs with
  | nil => simp [decodeAll, eq_comm]
  | cons a as ih =>
    simp only [decodeAll, List.forall₂_cons_left_iff, ← ih]
    cases decode a with
    | error e => simp
    | ok b => cases decodeAll decode as <;> simp [eq_comm]

theorem forall₂_trans {α β γ : Type} {R : α → β → Prop} {S : β → γ → Prop} {T : α → γ → Prop}
    {as : List α} {bs : List β} {cs : List γ} (hR : List.Forall₂ R as bs)
    (hS : List.Forall₂ S bs cs) (h : ∀ a b c, R a b → S b c → T a c) : List.Forall₂ T as cs := by
  induction hR generalizing cs with
  | nil =>
    cases hS
    exact .nil
  | cons hab _ ih =>
    cases hS with
    | cons hbc hS => exact .cons (h _ _ _ hab hbc) (ih hS)

theorem map_fst_eq_of_forall₂ {α β γ : Type} {R : β → γ → Prop} {as : List (α × β)}
    {bs : List (α × γ)} (h : List.Forall₂ (fun x y => y.1 = x.1 ∧ R x.2 y.2) as bs) :
    bs.map Prod.fst = as.map Prod.fst := by
  induction h with
  | nil => rfl
  | cons hab _ ih => simp [hab.1, ih]

def Trunc.recoded (a : Trunc) : Trunc :=
  ⟨.ofInt .double (Word.clamp .i64 (a.val.truncate Width.u64.count)).val⟩

def Shape.isFinite : Shape → Bool
  | .circle r => r.isFinite
  | .rect w h => w.isFinite && h.isFinite
  | _ => true

theorem Except.map_eq_ok_iff {ε α β : Type} {f : α → β} {x : Except ε α} {b : β} :
    x.map f = .ok b ↔ ∃ a, x = .ok a ∧ f a = b := by
  cases x <;> simp [Except.map]

theorem asOption_of_ne_null {α : Type} {decode : Json → Except Decoding.Mismatch α} {j : Json}
    (hj : j ≠ .null) : j.asOption decode = (decode j).map some := by
  cases j <;> first | rfl | exact absurd rfl hj

theorem asOption_eq_ok {α : Type} {decode : Json → Except Decoding.Mismatch α} {j : Json}
    {b : Option α} (h : j.asOption decode = .ok b) :
    (j = .null ∧ b = none) ∨ ∃ a, decode j = .ok a ∧ b = some a := by
  by_cases hj : j = .null
  · subst hj
    exact .inl ⟨rfl, (Except.ok.inj h).symm⟩
  · rw [asOption_of_ne_null hj] at h
    obtain ⟨a, ha, rfl⟩ := Except.map_eq_ok_iff.1 h
    exact .inr ⟨a, ha, rfl⟩

theorem decodePair_eq_ok {α β : Type} {whole : String} {first : Json → Except Decoding.Mismatch α}
    {second : Json → Except Decoding.Mismatch β} {x y : Json} {b : α × β}
    (h : decodePair whole first second [x, y] = .ok b) :
    first x = .ok b.1 ∧ second y = .ok b.2 := by
  simp only [decodePair] at h
  cases hx : first x with
  | error e => simp [hx] at h
  | ok u =>
    cases hy : second y with
    | error e => simp [hx, hy] at h
    | ok v =>
      simp [hx, hy] at h
      simp [← h]

namespace Ty

/-- `t.Reads a b` says that the encoding of `a` is read as `b`. An optional value that is encoded as
null comes back as an absent one, and some types read something else than what was there. -/
def Reads : (t : Ty) → t.Val → t.Val → Prop
  | .real _, x, y => x.isFinite ∧ y = x
  | .option _, none, b => b = none
  | .option t, some a, none => t.encode a = .ok .null
  | .option t, some a, some b => t.Reads a b
  | .list t, as, bs => List.Forall₂ t.Reads as bs
  | .pair s t, a, b => s.Reads a.1 b.1 ∧ t.Reads a.2 b.2
  | .table t, a, b => List.Forall₂ (fun x y => y.1 = x.1 ∧ t.Reads x.2 y.2) a.entries b.entries
  | .byteTable _, a, b => a.entries = [] ∧ b = .empty
  | .point, p, q => p.x.isFinite ∧ q = p
  | .shape, a, b => a.isFinite ∧ b = a
  | .trunc, a, b => b = a.recoded
  | .drift, a, b => b.val = successor a.val
  | .veiled, a, b => b.val = successor a.val
  | .masked, a, b => b = .ofNote a.note
  | .str, a, b | .string, a, b | .name, a, b | .char, a, b | .bool, a, b | .unit, a, b
  | .int _, a, b | .locale, a, b | .path, a, b => b = a

theorem real_of_asReal {f : Format} {x y : Binary f} (h : (Json.ofReal x).asReal f = .ok y) :
    x.isFinite ∧ y = x := by
  by_cases hx : x.isFinite
  · simp only [Json.ofReal, hx, if_true, Json.asReal, Binary.convert_convert_double hx] at h
    exact ⟨hx, (Except.ok.inj h).symm⟩
  · simp [Json.ofReal, hx, Json.asReal, Json.refuse] at h

@[simp] theorem decodeLabel_ofOption (label : Option String) :
    decodeLabel (.ofOption .string label) = .ok label := by
  cases label <;> rfl

theorem point_of_decode {p q : Point} {j : Json} (hj : Ty.encode .point p = .ok j)
    (hq : Point.decode j = .ok q) : p.x.isFinite ∧ q = p := by
  cases Except.ok.inj hj
  cases hx : (Json.ofReal p.x).asReal .double with
  | error e => simp [Point.decode, readFields, readField, hx, Except.map] at hq
  | ok x =>
    obtain ⟨hfin, rfl⟩ := real_of_asReal hx
    simp [Point.decode, readFields, readField, hx, Except.map, require] at hq
    exact ⟨hfin, hq.symm⟩

theorem shape_of_decode {a b : Shape} (h : Shape.decode a.encode = .ok b) :
    a.isFinite ∧ b = a := by
  cases a with
  | dot => exact ⟨rfl, (Except.ok.inj h).symm⟩
  | circle r =>
    obtain ⟨x, hx, rfl⟩ := Except.map_eq_ok_iff.1 (show Except.map _ _ = _ from h)
    obtain ⟨hr, rfl⟩ := real_of_asReal hx
    exact ⟨hr, rfl⟩
  | line a c =>
    obtain ⟨x, hx, rfl⟩ := Except.map_eq_ok_iff.1 (show Except.map _ _ = _ from h)
    simp [decodePair, Json.asWord] at hx
    cases hx
    exact ⟨rfl, rfl⟩
  | rect w g =>
    simp only [Shape.encode, Shape.decode, Json.asVariant, Shape.readRect] at h
    cases hg : (Json.ofReal g).asReal .double with
    | error e => simp [readFields, readField, hg, Except.map] at h
    | ok y =>
      cases hw : (Json.ofReal w).asReal .double with
      | error e => simp [readFields, readField, hg, hw, Except.map] at h
      | ok x =>
        obtain ⟨hw', rfl⟩ := real_of_asReal hw
        obtain ⟨hg', rfl⟩ := real_of_asReal hg
        simp [readFields, readField, hg, hw, Except.map, require] at h
        exact ⟨by simp [Shape.isFinite, hw', hg'], h.symm⟩

theorem encode_pair_eq_ok {s t : Ty} {a : (Ty.pair s t).Val} {j : Json}
    (h : (Ty.pair s t).encode a = .ok j) :
    ∃ x y, s.encode a.1 = .ok x ∧ t.encode a.2 = .ok y ∧ j = .array [x, y] := by
  simp only [encode] at h
  cases hx : s.encode a.1 with
  | error e => simp [hx] at h
  | ok x =>
    cases hy : t.encode a.2 with
    | error e => simp [hx, hy] at h
    | ok y =>
      simp only [hx, hy] at h
      exact ⟨x, y, rfl, rfl, (Except.ok.inj h).symm⟩

theorem reads_of_decode (t : Ty) {a b : t.Val} {j : Json} (hj : t.encode a = .ok j)
    (hb : t.decode j = .ok b) : t.Reads a b := by
  induction t generalizing j with
  | str | string | name | bool | path =>
    cases Except.ok.inj hj
    exact (Except.ok.inj hb).symm
  | char =>
    cases Except.ok.inj hj
    simpa [decode, Reads, eq_comm] using hb
  | unit => rfl
  | int w =>
    simp only [encode, Json.ofInt?] at hj
    split at hj
    · cases hj
      simpa [decode, Json.asWord, Reads, eq_comm] using hb
    · cases hj
  | real f =>
    cases Except.ok.inj hj
    exact real_of_asReal hb
  | option t ih =>
    cases a with
    | none =>
      cases Except.ok.inj hj
      exact (Except.ok.inj hb).symm
    | some a =>
      rcases asOption_eq_ok hb with ⟨rfl, rfl⟩ | ⟨b, hb', rfl⟩
      · exact hj
      · exact ih hj hb'
  | list t ih =>
    obtain ⟨js, hjs, rfl⟩ := Except.map_eq_ok_iff.1 hj
    exact forall₂_trans (encodeAll_eq_ok_iff.1 hjs) (decodeAll_eq_ok_iff.1 hb)
      fun _ _ _ h₁ h₂ => ih h₁ h₂
  | pair s t ihs iht =>
    obtain ⟨x, y, hx, hy, rfl⟩ := encode_pair_eq_ok hj
    obtain ⟨h₁, h₂⟩ := decodePair_eq_ok hb
    exact ⟨ihs hx h₁, iht hy h₂⟩
  | table t ih =>
    obtain ⟨js, hjs, rfl⟩ := Except.map_eq_ok_iff.1 hj
    obtain ⟨es, hes, rfl⟩ := Except.map_eq_ok_iff.1 (show Except.map _ _ = _ from hb)
    have hread : List.Forall₂ (fun x y => y.1 = x.1 ∧ t.Reads x.2 y.2) a.entries es := by
      refine forall₂_trans (encodeAll_eq_ok_iff.1 hjs) (decodeAll_eq_ok_iff.1 hes)
        fun x z y hx hy => ?_
      obtain ⟨k, hk, rfl⟩ := Except.map_eq_ok_iff.1 hx
      obtain ⟨v, hv, rfl⟩ := Except.map_eq_ok_iff.1 hy
      exact ⟨rfl, ih hk hv⟩
    have hkeys : es.map Prod.fst = a.entries.map Prod.fst := map_fst_eq_of_forall₂ hread
    simp only [Reads]
    rwa [Table.entries_ofList (Table.sorted_of_keys hkeys)]
  | byteTable t ih =>
    simp only [encode] at hj
    split at hj
    next h =>
      cases hj
      exact ⟨h, (Except.ok.inj hb).symm⟩
    next => cases hj
  | point => exact point_of_decode hj hb
  | shape =>
    cases Except.ok.inj hj
    exact shape_of_decode hb
  | locale => cases a <;> cases Except.ok.inj hj <;> exact (Except.ok.inj hb).symm
  | trunc =>
    cases Except.ok.inj hj
    simpa [decode, Json.asWord, Except.map, Reads, Trunc.recoded, eq_comm] using hb
  | drift | veiled =>
    cases Except.ok.inj hj
    simp only [decode, Json.asWord, Word.ofInt?_val, Except.map, Except.ok.injEq] at hb
    cases hb
    rfl
  | masked =>
    cases Except.ok.inj hj
    simpa [decode, Masked.decode, Masked.readNote, readField, Except.map, Reads, eq_comm] using hb

end Ty

end Facet
