import Facet.Proofs.Invocation.Replay
import Facet.Proofs.Value.Legible

namespace Facet

open Text

def renderings : (ts : List Ty) → Args ts → List String
  | [], () => []
  | t :: ts, (a, rest) => t.render a :: renderings ts rest

theorem Captures.map_rendering_eq {ts : List Ty} {args : Args ts} {as : List Argument}
    (h : Captures ts args as) : as.map Argument.rendering = renderings ts args := by
  induction h with
  | nil => rfl
  | cons hfirst _ ih =>
    obtain ⟨-, -, hrendering, -⟩ := Argument.captureAs_eq_ok hfirst
    rw [List.map_cons, ih, hrendering, renderings]

theorem reads_later_renderings {ts : List Ty} (hts : ∀ t ∈ ts, t.Readable) {args args' : Args ts}
    {x y : List Char}
    (h : Legible.laterItems id (renderings ts args) ++ ')' :: x =
      Legible.laterItems id (renderings ts args') ++ ')' :: y) : args = args' := by
  induction ts with
  | nil => rfl
  | cons t ts ih =>
    obtain ⟨a, rest⟩ := args
    obtain ⟨b, rest'⟩ := args'
    obtain ⟨ht, hts⟩ := List.forall_mem_cons.1 hts
    simp only [renderings, Legible.laterItems, List.flatMap_cons, id, List.cons_append,
      List.append_assoc, List.cons.injEq, true_and] at h
    obtain ⟨rfl, hrest⟩ := (Ty.legible_render ht).reads
      (Legible.stops_laterItems id (renderings ts rest) rfl x)
      (Legible.stops_laterItems id (renderings ts rest') rfl y) h
    obtain rfl := ih hts hrest
    rfl

theorem reads_renderings {ts : List Ty} (hts : ∀ t ∈ ts, t.Readable) {args args' : Args ts}
    {x y : List Char}
    (h : (", ".intercalate (renderings ts args)).toList ++ ')' :: x =
      (", ".intercalate (renderings ts args')).toList ++ ')' :: y) : args = args' := by
  cases ts with
  | nil => rfl
  | cons t ts =>
    obtain ⟨a, rest⟩ := args
    obtain ⟨b, rest'⟩ := args'
    obtain ⟨ht, hts⟩ := List.forall_mem_cons.1 hts
    have hsplit (s : String) (ss : List String) :
        (", ".intercalate (s :: ss)).toList = s.toList ++ Legible.laterItems id ss := by
      simpa using Legible.toList_intercalate_cons id s ss
    simp only [renderings, hsplit, List.append_assoc] at h
    obtain ⟨rfl, hrest⟩ := (Ty.legible_render ht).reads
      (Legible.stops_laterItems id (renderings ts rest) rfl x)
      (Legible.stops_laterItems id (renderings ts rest') rfl y) h
    obtain rfl := reads_later_renderings hts hrest
    rfl

theorem Method.paren_not_mem_name {c : Capability} (m : Method c) : '(' ∉ m.name.toList := by
  cases m <;> decide

namespace Invocation

variable {c : Capability} {m m' : Method c} {args : Args m.params} {args' : Args m'.params}
  {i i' : Invocation}

theorem text_of_capture (h : m.capture args = .ok i) :
    i.text = m.name ++ "(" ++ ", ".intercalate (renderings m.params args) ++ ")" := by
  obtain ⟨hmember, hargs⟩ := Method.capture_eq_ok_iff_captures.1 h
  have hname : i.member.name = m.name := congrArg Member.name hmember
  rw [text_eq, hname, hargs.map_rendering_eq]

/-- Two captured calls with legible arguments have the same text only if they are the same call. -/
theorem text_eq_iff_call_eq (hm : ∀ t ∈ m.params, t.Readable) (hi : m.capture args = .ok i)
    (hi' : m'.capture args' = .ok i') :
    i.text = i'.text ↔ (⟨m, args⟩ : (m : Method c) × Args m.params) = ⟨m', args'⟩ := by
  constructor
  · intro h
    rw [text_of_capture hi, text_of_capture hi', ← String.toList_inj] at h
    simp only [String.toList_append, List.append_assoc] at h
    obtain ⟨hname, hrest⟩ := append_cons_inj m.paren_not_mem_name m'.paren_not_mem_name h
    obtain rfl := Method.eq_of_name_eq (String.toList_inj.1 hname)
    obtain rfl := reads_renderings hm hrest
    rfl
  · intro h
    cases h
    cases hi.symm.trans hi'
    rfl

theorem text_ne_of_shifted_marks :
    let m : Method .person := .getNameWithArguments
    let before : Args m.params := ("a\", \"b", "c", ())
    let after : Args m.params := ("a", "b\", \"c", ())
    (∀ t ∈ m.params, t.Readable) ∧
      ∃ i i', m.capture before = .ok i ∧ m.capture after = .ok i' ∧ i.text ≠ i'.text := by
  intro m before after
  have hm : ∀ t ∈ m.params, t.Readable := by decide
  obtain ⟨i, hi⟩ : ∃ i, m.capture before = .ok i := ⟨_, rfl⟩
  obtain ⟨i', hi'⟩ : ∃ i, m.capture after = .ok i := ⟨_, rfl⟩
  refine ⟨hm, i, i', hi, hi', fun htext => ?_⟩
  have hcall := (text_eq_iff_call_eq hm hi hi').1 htext
  have hargs : before = after := eq_of_heq (Sigma.mk.inj hcall).2
  exact absurd (congrArg Prod.fst hargs) (by decide)

end Invocation

end Facet
