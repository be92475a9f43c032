import Facet.Proofs.Text.Legible
import Facet.Proofs.Text.Quoted

/-!
Which values can be read from their texts. Quotation and brackets end on their own and an integer ends at
the mark after it; bare names and shortened reals are left out, and so is a type whose text is always the
same.
-/

namespace Facet

open Text

namespace Text

theorem legible_quote : Legible quote :=
  .of_aligned (fun s => by simp [quote, stops, isStop]) aligned_quote

theorem legible_quoteChar : Legible quoteChar :=
  .of_aligned (fun c => by simp [quoteChar, stops, isStop]) aligned_quoteChar

theorem legible_nat : Legible (toString : Nat → String) :=
  Legible.integer.comp (f := Int.ofNat) fun _ _ => Int.ofNat.inj

end Text

theorem legible_debugOption {α : Type} {debug : α → String} (h : Legible debug) :
    Legible (debugOption debug) := by
  have hsome : Legible fun a => "Some(" ++ debug a ++ ")" :=
    h.enclose "Some(" ")" (by decide) (by decide)
  constructor
  · intro a
    cases a with
    | none => exact (by decide : ¬ stops "None".toList)
    | some a => exact hsome.opens a
  · intro a b x y hx hy heq
    -- The two cases differ in their first character already.
    cases a with
    | none =>
      cases b with
      | none => exact ⟨rfl, List.append_cancel_left heq⟩
      | some b => exact absurd heq (by simp [debugOption])
    | some a =>
      cases b with
      | none => exact absurd heq (by simp [debugOption])
      | some b => exact (hsome.reads hx hy heq).imp (congrArg some) id

theorem legible_debugList {α : Type} {debug : α → String} (h : Legible debug) :
    Legible (debugList debug) :=
  h.items "[" "]" (by decide) (rfl : "]".toList = [']']) (by decide) (by decide)

theorem legible_debugTable {K V : Type} {key : K → String} {value : V → String} (hkey : Legible key)
    (hvalue : Legible value) : Legible (debugTable key value) :=
  (hkey.both hvalue ": " fun _ => rfl).items "\x7b" "\x7d" (by decide) (rfl : "\x7d".toList = ['\x7d'])
    (by decide) (by decide)

namespace Ty

/-- The text of every value of the type tells the value. -/
def Readable : Ty → Bool
  | .name | .real _ | .point | .shape | .trunc | .veiled => false
  | .option t | .list t | .table t | .byteTable t => t.Readable
  | .pair s t => s.Readable && t.Readable
  | _ => true

theorem legible_debug {t : Ty} (ht : t.Readable) : Legible t.debug := by
  induction t with
  | name | real | point | shape | trunc | veiled => cases ht
  | str | string => exact legible_quote
  | char => exact legible_quoteChar
  | bool =>
    refine Legible.of_head (fun b => if b then 't' else 'f')
      (fun b => if b then "rue".toList else "alse".toList) (fun b => ?_) (by decide) (by decide)
    cases b <;> rfl
  | unit => exact .of_aligned (fun _ => by decide +revert) fun _ _ => (Aligned.refl _).mono fun _ => rfl
  | int w => exact Legible.integer.comp fun _ _ => Number.Word.ext
  | option t ih => exact legible_debugOption (ih ht)
  | list t ih => exact legible_debugList (ih ht)
  | pair s t ihs iht =>
    simp only [Readable, Bool.and_eq_true] at ht
    exact (ihs ht.1).enclose_both (iht ht.2) "(" ", " ")" (by decide) (fun _ => rfl) (by decide)
  | table t ih => exact (legible_debugTable legible_quote (ih ht)).comp fun _ _ => Table.ext
  | byteTable t ih =>
    have hkey := legible_debugList (legible_nat.comp fun _ _ => UInt8.toNat_inj.1)
    exact (legible_debugTable hkey (ih ht)).comp fun _ _ => Table.ext
  | locale =>
    refine Legible.of_head (fun | .en => 'E' | .fr => 'F') (fun | .en => "n".toList | .fr => "r".toList)
      (fun l => ?_) (fun l => ?_) (fun k l h => ?_)
    · cases l <;> rfl
    · cases l <;> decide
    · cases k <;> cases l <;> first | rfl | exact absurd h (by decide)
  | path =>
    refine legible_quote.comp (f := Path.text) fun p q hpq => ?_
    cases p
    cases q
    exact congrArg Path.mk hpq
  | drift =>
    have h := Legible.integer.enclose "Drift(" ")" (by decide) (by decide)
    refine h.comp (f := fun a : Drift => a.val.val) fun a b hab => ?_
    cases a
    cases b
    exact congrArg Drift.mk (Number.Word.ext hab)
  | masked =>
    have h := Legible.integer.enclose_both (legible_debugOption legible_quote) "Masked \x7b secret: "
      ", note: " " \x7d" (by decide) (fun _ => rfl) (by decide)
    refine h.comp (f := fun a : Masked => (a.secret.val, a.note)) fun a b hab => ?_
    cases a
    cases b
    obtain ⟨hsecret, rfl⟩ := Prod.mk.inj hab
    cases Number.Word.ext hsecret
    rfl

theorem legible_render {t : Ty} (ht : t.Readable) : Legible t.render := by
  have hdebug := legible_debug ht
  cases hliteral : t.isLiteral with
  | true =>
    have hrender : t.render = t.debug := funext fun a => if_pos hliteral
    rwa [hrender]
  | false =>
    have hrender : t.render = fun a => "<" ++ t.debug a ++ ">" := funext fun a =>
      if_neg (Bool.eq_false_iff.1 hliteral)
    rw [hrender]
    exact hdebug.enclose "<" ">" (by decide) (by decide)

end Ty

end Facet
