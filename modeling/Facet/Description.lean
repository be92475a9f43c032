import Facet.Value.Debug

namespace Facet

structure Description where
  text : String
  deriving DecidableEq

namespace Description

def empty : Description := ⟨""⟩

def appendText (d : Description) (s : String) : Description := ⟨d.text ++ s⟩

def appendValue (d : Description) (t : Ty) (a : t.Val) : Description := d.appendText (t.render a)

def appendHeld (d : Description) (h : Holder) (t : Ty) (a : t.Val) : Description :=
  d.appendText (h.render t a)

def appendSeparated {α : Type} (separator : String) (append : α → Description → Description) :
    List α → Description → Description
  | [], d => d
  | [a], d => append a d
  | a :: b :: rest, d =>
    appendSeparated separator append (b :: rest) ((append a d).appendText separator)

@[simp] theorem text_empty : empty.text = "" := rfl

@[simp] theorem text_appendText (d : Description) (s : String) :
    (d.appendText s).text = d.text ++ s := rfl

theorem text_appendSeparated {α : Type} {append : α → Description → Description} {write : α → String}
    (h : ∀ a d, (append a d).text = d.text ++ write a) (separator : String) (as : List α)
    (d : Description) :
    (appendSeparated separator append as d).text = d.text ++ separator.intercalate (as.map write) := by
  induction as generalizing d with
  | nil => simp [appendSeparated]
  | cons a as ih =>
    cases as with
    | nil => simp [appendSeparated, h]
    | cons b as =>
      simp only [appendSeparated, ih, text_appendText, h, List.map_cons, String.intercalate_cons_cons,
        String.append_assoc]

end Description

end Facet
