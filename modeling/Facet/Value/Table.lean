namespace Facet

structure Table (K V : Type) [Ord K] where
  entries : List (K × V)
  sorted : entries.Pairwise fun a b => compare a.1 b.1 = .lt

namespace Table

variable {K V W : Type} [Ord K]

@[ext] theorem ext {s t : Table K V} (h : s.entries = t.entries) : s = t := by
  cases s; cases t; cases h; rfl

instance [DecidableEq K] [DecidableEq V] : DecidableEq (Table K V) := fun s t =>
  decidable_of_iff (s.entries = t.entries) ⟨ext, fun h => h ▸ rfl⟩

def empty : Table K V := ⟨[], .nil⟩

instance : Inhabited (Table K V) := ⟨empty⟩

def insertEntry (k : K) (v : V) : List (K × V) → List (K × V)
  | [] => [(k, v)]
  | (l, w) :: rest =>
    match compare k l with
    | .lt => (k, v) :: (l, w) :: rest
    | .eq => (k, v) :: rest
    | .gt => (l, w) :: insertEntry k v rest

theorem mem_insertEntry {k : K} {v : V} {a : K × V} {es : List (K × V)}
    (h : a ∈ insertEntry k v es) : a = (k, v) ∨ a ∈ es := by
  induction es with
  | nil => exact .inl (List.mem_singleton.1 h)
  | cons e es ih =>
    obtain ⟨l, w⟩ := e
    simp only [insertEntry] at h
    split at h
    · simpa using h
    · rcases List.mem_cons.1 h with h | h
      · exact .inl h
      · exact .inr (List.mem_cons_of_mem _ h)
    · rcases List.mem_cons.1 h with h | h
      · exact .inr (h ▸ List.mem_cons_self)
      · exact (ih h).imp id (List.mem_cons_of_mem _)

theorem sorted_insertEntry [Std.TransOrd K] [Std.LawfulEqOrd K] {k : K} {v : V} {es : List (K × V)}
    (h : es.Pairwise fun a b => compare a.1 b.1 = .lt) :
    (insertEntry k v es).Pairwise fun a b => compare a.1 b.1 = .lt := by
  induction es with
  | nil => simp [insertEntry]
  | cons e es ih =>
    obtain ⟨l, w⟩ := e
    have ⟨hl, hes⟩ := List.pairwise_cons.1 h
    simp only [insertEntry]
    split
    next hk =>
      refine List.pairwise_cons.2 ⟨fun a ha => ?_, h⟩
      rcases List.mem_cons.1 ha with rfl | ha
      · exact hk
      · exact Std.TransCmp.lt_trans hk (hl a ha)
    next hk =>
      cases Std.LawfulEqCmp.eq_of_compare hk
      exact List.pairwise_cons.2 ⟨hl, hes⟩
    next hk =>
      refine List.pairwise_cons.2 ⟨fun a ha => ?_, ih hes⟩
      rcases mem_insertEntry ha with rfl | ha
      · exact Std.OrientedCmp.gt_iff_lt.1 hk
      · exact hl a ha

def insert [Std.TransOrd K] [Std.LawfulEqOrd K] (t : Table K V) (k : K) (v : V) : Table K V :=
  ⟨insertEntry k v t.entries, sorted_insertEntry t.sorted⟩

def ofList [Std.TransOrd K] [Std.LawfulEqOrd K] (es : List (K × V)) : Table K V :=
  es.foldl (fun t e => t.insert e.1 e.2) empty

end Table

end Facet
