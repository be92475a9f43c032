import Facet.Pattern.Positions

namespace Facet.Pattern

namespace Glob

abbrev Ranges := List (Char × Char)

inductive Token
  | char : Char → Token
  | anyChar
  | anyText
  | anyDirectories
  | within : Ranges → Token
  | except : Ranges → Token
  deriving DecidableEq

def Ranges.contains (rs : Ranges) (c : Char) : Bool := rs.any fun (first, last) => first ≤ c && c ≤ last

def ranges : List Char → Ranges
  | a :: '-' :: b :: rest => (a, b) :: ranges rest
  | a :: rest => (a, a) :: ranges rest
  | [] => []

def cutBracket : List Char → Option (List Char × List Char)
  | [] => none
  | ']' :: rest => some ([], rest)
  | c :: rest => (cutBracket rest).map fun (inside, rest) => (c :: inside, rest)

def bracket : List Char → Option (Token × List Char)
  | '!' :: c :: rest => (cutBracket rest).map fun (inside, rest) => (.except (ranges (c :: inside)), rest)
  | ['!'] => none
  | c :: rest => (cutBracket rest).map fun (inside, rest) => (.within (ranges (c :: inside)), rest)
  | [] => none

theorem length_of_cutBracket {cs inside rest : List Char} (h : cutBracket cs = some (inside, rest)) :
    rest.length < cs.length := by
  fun_induction cutBracket cs generalizing inside with
  | case1 => simp at h
  | case2 => simp_all
  | case3 c cs _ ih =>
    cases hc : cutBracket cs with
    | none => simp [hc] at h
    | some p =>
      simp only [hc, Option.map_some, Option.some.injEq, Prod.mk.injEq] at h
      have := @ih p.1 (by rw [hc, ← h.2])
      simp only [List.length_cons]
      omega

theorem length_of_bracket {cs rest : List Char} {t : Token} (h : bracket cs = some (t, rest)) :
    rest.length < cs.length := by
  unfold bracket at h
  split at h
  all_goals simp only [Option.map_eq_some_iff, Prod.mk.injEq, Prod.exists, reduceCtorEq] at h
  all_goals
    obtain ⟨_, _, h, _, rfl⟩ := h
    have := length_of_cutBracket h
    simp only [List.length_cons]
    omega

/-- The tokens of a pattern; `last` is the character before it. Three stars in a row, two stars that are
not a component of their own, and brackets that are never closed make no pattern. -/
def tokensFrom (last : Option Char) : List Char → Option (List Token)
  | [] => some []
  | '*' :: '*' :: rest =>
    if last = none ∨ last = some '/' then
      match rest with
      | [] => some [.anyDirectories]
      | '/' :: rest => (tokensFrom (some '/') rest).map (.anyDirectories :: ·)
      | _ => none
    else none
  | '*' :: rest => (tokensFrom (some '*') rest).map (.anyText :: ·)
  | '?' :: rest => (tokensFrom (some '?') rest).map (.anyChar :: ·)
  | '[' :: rest =>
    match _h : bracket rest with
    | none => none
    | some (t, rest) => (tokensFrom (some ']') rest).map (t :: ·)
  | c :: rest => (tokensFrom (some c) rest).map (.char c :: ·)
termination_by cs => cs.length
decreasing_by
  all_goals try simp only [List.length_cons]
  all_goals try have := length_of_bracket _h
  all_goals omega

def Token.accepts : Token → Char → Bool
  | .char c, d => c == d
  | .anyChar, _ => true
  | .within rs, d => rs.contains d
  | .except rs, d => !rs.contains d
  | .anyText, _ | .anyDirectories, _ => false

def Token.image (cs : List Char) (t : Token) (s : Positions) : Positions :=
  match t with
  | .anyText => s.upTo (.advance (fun _ => true) cs) cs.length
  | .anyDirectories =>
    s ||| (s.upTo (.advance (fun _ => true) cs) cs.length &&&
      .between (fun last next => last == some '/' || next.isNone) none cs)
  | t => s.advance t.accepts cs

end Glob

structure Glob where
  tokens : List Glob.Token
  deriving DecidableEq

namespace Glob

def ofText? (pattern : String) : Option Glob := (tokensFrom none pattern.toList).map .mk

def accepts (g : Glob) (s : String) : Bool :=
  (g.tokens.foldl (fun reached t => t.image s.toList reached) Positions.start).atEnd s.toList

end Glob

end Facet.Pattern
