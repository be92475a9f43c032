import Facet.Proofs.Value.Reading
import Facet.Session.Step

namespace Facet

namespace Matcher

variable {L : Type}

mutual

def criteria : Matcher L → List L
  | .criterion l => [l]
  | .anything _ | .stub _ => []
  | .not m => m.criteria
  | .allOf ms => criteriaAll ms
  | .forward _ m => m.criteria

def criteriaAll : List (Matcher L) → List L
  | [] => []
  | m :: ms => m.criteria ++ criteriaAll ms

end

variable {find find' : String → Option (Matcher L)}

mutual

theorem resolve_congr : ∀ (m : Matcher String), (∀ name ∈ m.criteria, find name = find' name) →
    m.resolve find = m.resolve find'
  | .criterion name, h => by rw [resolve, resolve, h name (List.mem_singleton_self name)]
  | .anything _, _ | .stub _, _ => rfl
  | .not m, h => by rw [resolve, resolve, resolve_congr m h]
  | .allOf ms, h => by rw [resolve, resolve, resolveAll_congr ms h]
  | .forward p m, h => by rw [resolve, resolve, resolve_congr m h]

theorem resolveAll_congr : ∀ (ms : List (Matcher String)),
    (∀ name ∈ criteriaAll ms, find name = find' name) → resolveAll find ms = resolveAll find' ms
  | [], _ => rfl
  | m :: ms, h => by
    obtain ⟨hm, hms⟩ := List.forall_mem_append.1 h
    rw [resolveAll, resolveAll, resolve_congr m hm, resolveAll_congr ms hms]

end

variable {P : L → Prop}

mutual

theorem forall_criteria_of_resolve
    (hfind : ∀ name m, find name = some m → ∀ l ∈ m.criteria, P l) :
    ∀ (e : Matcher String) {m : Matcher L}, e.resolve find = .ok m → ∀ l ∈ m.criteria, P l
  | .criterion name, m, h => by
    simp only [resolve] at h
    split at h
    · cases h
    next hname =>
      cases h
      exact hfind name m hname
  | .anything _, _, h | .stub _, _, h => by
    cases h
    nofun
  | .not e, _, h => by
    obtain ⟨m, hm, rfl⟩ := Except.map_eq_ok_iff.1 h
    rw [criteria]
    exact forall_criteria_of_resolve hfind e hm
  | .allOf es, _, h => by
    obtain ⟨ms, hms, rfl⟩ := Except.map_eq_ok_iff.1 h
    exact forall_criteriaAll_of_resolveAll hfind es hms
  | .forward _ e, _, h => by
    obtain ⟨m, hm, rfl⟩ := Except.map_eq_ok_iff.1 h
    rw [criteria]
    exact forall_criteria_of_resolve hfind e hm

theorem forall_criteriaAll_of_resolveAll
    (hfind : ∀ name m, find name = some m → ∀ l ∈ m.criteria, P l) :
    ∀ (es : List (Matcher String)) {ms : List (Matcher L)}, resolveAll find es = .ok ms →
      ∀ l ∈ criteriaAll ms, P l
  | [], _, h => by
    cases h
    nofun
  | e :: es, _, h => by
    simp only [resolveAll] at h
    split at h
    · cases h
    next m hm =>
      obtain ⟨ms, hms, rfl⟩ := Except.map_eq_ok_iff.1 h
      exact List.forall_mem_append.2
        ⟨forall_criteria_of_resolve hfind e hm, forall_criteriaAll_of_resolveAll hfind es hms⟩

end

end Matcher

end Facet
