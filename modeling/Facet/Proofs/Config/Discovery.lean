import Facet.Config.Discovery
import Facet.Proofs.FileTree

namespace Facet.Config

variable {d : Disk} {l m start : Location} {p : Path} {c : Config}

def HasEntry (d : Disk) (l : Location) : Prop :=
  ∃ entries entry, d.root.at? l = some (.dir entries) ∧ entries.lookup fileName = some entry

/-- The location is the first, from `start` upwards, that has an entry. -/
structure Nearest (d : Disk) (start l : Location) : Prop where
  above : l <:+ start
  entry : HasEntry d l
  first {m : Location} : m <:+ start → HasEntry d m → m <:+ l

theorem Nearest.unique (h : Nearest d start l) (h' : Nearest d start m) : l = m :=
  (h'.first h.above h.entry).eq_of_length_le (h.first h'.above h'.entry).length_le

/-- A search that looks at `n` directories before it ends. -/
inductive Search (d : Disk) : Location → (n : Nat) → Option Location → Prop
  | found {l : Location} : HasEntry d l → Search d l 1 (some l)
  | exhausted : ¬ HasEntry d [] → Search d [] 1 none
  | upwards {name : String} {parent : Location} {n : Nat} {found : Option Location} :
    ¬ HasEntry d (name :: parent) → Search d parent n found → Search d (name :: parent) (n + 1) found

theorem Search.nearest {n : Nat} {found : Option Location} (h : Search d start n found) :
    (∀ l, found = some l → Nearest d start l) ∧ (found = none → ∀ m, m <:+ start → ¬ HasEntry d m) := by
  induction h with
  | found hentry =>
    refine ⟨fun l hl => ?_, nofun⟩
    cases hl
    exact ⟨List.suffix_refl _, hentry, fun hm _ => hm⟩
  | exhausted hnone =>
    refine ⟨nofun, fun _ m hm => ?_⟩
    rwa [List.suffix_nil.1 hm]
  | upwards hnone _ ih =>
    -- A suffix of the location is the location, which has no entry, or a suffix of its parent.
    refine ⟨fun l hl => ?_, fun hfound m hm => ?_⟩
    · obtain ⟨habove, hentry, hfirst⟩ := ih.1 l hl
      refine ⟨habove.trans (List.suffix_cons _ _), hentry, fun hm hmentry => ?_⟩
      rcases List.suffix_cons_iff.1 hm with rfl | hm
      · exact absurd hmentry hnone
      · exact hfirst hm hmentry
    · rcases List.suffix_cons_iff.1 hm with rfl | hm
      · exact hnone
      · exact ih.2 hfound m hm

end Facet.Config
