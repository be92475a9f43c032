import Facet.Proofs.Matcher.Appending

namespace Facet

open Traced

namespace Matcher

variable {L X : Type} [Criterion L X]

theorem text_allOf [Criterion.Appending L] (ms : List (Matcher L)) :
    (allOf ms).text = "(" ++ " and ".intercalate (ms.map text) ++ ")" := by
  simp only [text, describe, describeAll_eq]
  simp [String.append_assoc]

theorem outcome_explain_eq [Criterion.Appending L] (m : Matcher L) (x : X) (d : Description) :
    (m.explain x d).outcome =
      (m.explain x .empty).outcome.map fun written => d.appendText written.text := by
  obtain ⟨written, hwritten⟩ := m.exists_appends x
  rw [hwritten d, hwritten .empty]
  cases written <;> simp [Except.map]

/-- The laws of what formulas over a kind of criteria write: they add to what is there, in the same way
whatever that is, and a conjunction writes what its members write. -/
structure Composes (L : Type) {X : Type} [Criterion L X] : Prop where
  text_describe (m : Matcher L) (d : Description) : (m.describe d).text = d.text ++ m.text
  outcome_explain (m : Matcher L) (x : X) (d : Description) :
    (m.explain x d).outcome =
      (m.explain x .empty).outcome.map fun written => ⟨d.text ++ written.text⟩
  text_allOf (ms : List (Matcher L)) :
    (allOf ms).text = "(" ++ " and ".intercalate (ms.map text) ++ ")"

theorem composes [Criterion.Appending L] : Composes L where
  text_describe m d := congrArg Description.text (m.describe_eq d)
  outcome_explain := outcome_explain_eq
  text_allOf := text_allOf

theorem text_replaying {c : Capability} (r : Replaying c) :
    (criterion r).text = r.flavor.verb ++ " " ++ r.invocation.text ++ " " ++ r.inner.text := by
  have h : (criterion r).text = (r.describe .empty).text := rfl
  rw [h, r.describe_eq, Description.empty_appendText]

end Matcher

/-- All that is described or explained is added to the text that is there, and is the text that would be
written to an empty description. It is the texts of the parts, with separators between them. -/
theorem Description.written_composes :
    (∀ (a : Argument) (d : Description), (a.describe d).text = d.text ++ a.rendering) ∧
    (∀ (i : Invocation) (d : Description), (i.describe d).text = d.text ++ i.text) ∧
    (∀ i : Invocation, i.text =
      i.member.name ++ "(" ++ ", ".intercalate (i.arguments.map Argument.rendering) ++ ")") ∧
    (∀ t : Ty, Matcher.Composes (ValueCriterion t)) ∧
    (∀ c : Capability, Matcher.Composes (Replaying c)) ∧
    ∀ (c : Capability) (r : Replaying c), (Matcher.criterion r).text =
      r.flavor.verb ++ " " ++ r.invocation.text ++ " " ++ r.inner.text := by
  refine ⟨fun _ _ => rfl, fun i d => ?_, Invocation.text_eq, fun _ => Matcher.composes,
    fun _ => Matcher.composes, fun _ => Matcher.text_replaying⟩
  exact congrArg Description.text (i.describe_eq d)

example : (Matcher.allOf [.anything "", .not (.allOf []), .anything ""] : ValueMatcher .unit).text =
    "( and not () and )" := by decide

end Facet
