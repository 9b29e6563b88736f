import FreeOrder.Invocation
import Mathlib.Data.List.Nodup
import Mathlib.Data.List.Induction

namespace FreeOrder

theorem Role.eq_of_ne {left right other : Role} (hleft : left ≠ other) (hright : right ≠ other) :
    left = right := by
  cases left <;> cases right <;> cases other <;> trivial

def textOf? (role : Role) (terms : List Term) : Option String :=
  (terms.find? fun term => term.role == role).map Term.text

/-- The role is the first to come a second time: it has come before, and until then no role has
come twice. -/
def FirstRepeated (role : Role) (terms : List Term) : Prop :=
  ∃ front term back, terms = front ++ term :: back ∧ (front.map Term.role).Nodup ∧
    term.role = role ∧ role ∈ front.map Term.role

def Roles.ofTerms (terms : List Term) : Roles :=
  ⟨textOf? .verb terms, textOf? .directObject terms⟩

variable {role role' : Role} {front back terms left right : List Term} {term : Term}

theorem textOf?_eq_none_iff : textOf? role terms = none ↔ role ∉ terms.map Term.role := by
  simp [textOf?]

theorem textOf?_append :
    textOf? role (front ++ back) = (textOf? role front).or (textOf? role back) := by
  rw [textOf?, List.find?_append, Option.map_or]
  rfl

/-- Where no role comes twice, the terms with a role are all of one text. -/
theorem textOf?_eq_some_iff (h : (terms.map Term.role).Nodup) {text : String} :
    textOf? role terms = some text ↔ ∃ term ∈ terms, term.role = role ∧ term.text = text := by
  apply Iff.intro
  · intro htext
    obtain ⟨term, hfind, rfl⟩ := Option.map_eq_some_iff.mp htext
    have hrole : term.role = role := by simpa using List.find?_some hfind
    exact ⟨term, List.mem_of_find?_eq_some hfind, hrole, rfl⟩
  · intro hterm
    obtain ⟨term, hmem, rfl, rfl⟩ := hterm
    cases hfind : terms.find? fun other => other.role == term.role with
    | none =>
      have hnone := List.find?_eq_none.mp hfind term hmem
      simp at hnone
    | some other =>
      have hrole : other.role = term.role := by simpa using List.find?_some hfind
      have he := List.inj_on_of_nodup_map h (List.mem_of_find?_eq_some hfind) hmem hrole
      rw [textOf?, hfind, he]
      rfl

namespace Roles

theorem add_ofTerms_of_not_mem (h : term.role ∉ front.map Term.role) :
    (ofTerms front).add term = .ok (ofTerms (front ++ [term])) := by
  have hnone := textOf?_eq_none_iff.mpr h
  cases term with
  | verb name =>
    have hother : textOf? .directObject [Term.verb name] = none := rfl
    rw [ofTerms, ofTerms, textOf?_append, textOf?_append, hother, Option.or_none]
    rw [Term.role] at hnone
    simp only [add, hnone]
    rfl
  | directObject literal =>
    have hother : textOf? .verb [Term.directObject literal] = none := rfl
    rw [ofTerms, ofTerms, textOf?_append, textOf?_append, hother, Option.or_none]
    rw [Term.role] at hnone
    simp only [add, hnone]
    rfl

theorem add_ofTerms_of_mem (h : term.role ∈ front.map Term.role) :
    (ofTerms front).add term = .error (.duplicateRole term.role) := by
  obtain ⟨text, htext⟩ : ∃ text, textOf? term.role front = some text := by
    rw [← Option.isSome_iff_exists, Option.isSome_iff_ne_none]
    intro hnone
    exact textOf?_eq_none_iff.mp hnone h
  cases term with
  | verb name =>
    rw [Term.role] at htext
    simp only [ofTerms, add, htext]
    rfl
  | directObject literal =>
    rw [Term.role] at htext
    simp only [ofTerms, add, htext]
    rfl

theorem addAll_ofTerms (h : ((front ++ terms).map Term.role).Nodup) :
    (ofTerms front).addAll terms = .ok (ofTerms (front ++ terms)) := by
  induction terms generalizing front with
  | nil => rw [List.append_nil, addAll]
  | cons term terms ih =>
    have hnot : term.role ∉ front.map Term.role := by
      rw [List.map_append, List.map_cons] at h
      intro hmem
      exact List.disjoint_of_nodup_append h hmem List.mem_cons_self
    rw [List.append_cons] at h ⊢
    simp only [addAll, add_ofTerms_of_not_mem hnot]
    exact ih h

theorem addAll_of_nodup (h : (terms.map Term.role).Nodup) :
    addAll {} terms = .ok (ofTerms terms) := by
  have hempty : ofTerms [] = {} := rfl
  rw [← hempty]
  exact addAll_ofTerms h

theorem addAll_append {roles roles' : Roles} (h : roles.addAll front = .ok roles') :
    roles.addAll (front ++ back) = roles'.addAll back := by
  induction front generalizing roles with
  | nil =>
    cases h
    rfl
  | cons term front ih =>
    rw [List.cons_append]
    simp only [addAll] at h ⊢
    split at h
    · exact ih h
    · cases h

theorem addAll_of_mem (hfront : (front.map Term.role).Nodup)
    (hmem : term.role ∈ front.map Term.role) :
    addAll {} (front ++ term :: back) = .error (.duplicateRole term.role) := by
  rw [addAll_append (addAll_of_nodup hfront)]
  simp only [addAll, add_ofTerms_of_mem hmem]

end Roles

theorem nodup_or_firstRepeated (terms : List Term) :
    (terms.map Term.role).Nodup ∨ ∃ role, FirstRepeated role terms := by
  -- From the back, so that what comes before the last term is a beginning of the list.
  induction terms using List.reverseRecOn with
  | nil => exact .inl List.nodup_nil
  | append_singleton front last ih =>
    rcases ih with hnodup | ⟨role, before, term, back, rfl, hbefore, hrole, hmem⟩
    · by_cases hlast : last.role ∈ front.map Term.role
      · exact .inr ⟨last.role, front, last, [], rfl, hnodup, rfl, hlast⟩
      · left
        rw [List.map_append, List.nodup_append']
        refine ⟨hnodup, List.nodup_singleton _, ?_⟩
        simpa using hlast
    · have hterms : before ++ term :: back ++ [last] = before ++ term :: (back ++ [last]) := by
        rw [List.append_assoc, List.cons_append]
      exact .inr ⟨role, before, term, back ++ [last], hterms, hbefore, hrole, hmem⟩

theorem FirstRepeated.addAll (h : FirstRepeated role terms) :
    Roles.addAll {} terms = .error (.duplicateRole role) := by
  obtain ⟨front, term, back, rfl, hfront, rfl, hmem⟩ := h
  exact Roles.addAll_of_mem hfront hmem

theorem FirstRepeated.unique (h : FirstRepeated role terms) (h' : FirstRepeated role' terms) :
    role = role' := by
  have he := h.addAll
  rw [h'.addAll] at he
  injection he with he
  injection he with he
  exact he.symm

theorem FirstRepeated.two_le_count (h : FirstRepeated role terms) :
    2 ≤ (terms.map Term.role).count role := by
  obtain ⟨front, term, back, rfl, _, hrole, hmem⟩ := h
  have hpos := List.count_pos_iff.mpr hmem
  rw [List.map_append, List.map_cons, List.count_append, hrole, List.count_cons_self]
  omega

theorem FirstRepeated.ne_of_count_le_one (h : FirstRepeated role terms)
    (hone : (terms.map Term.role).count role' ≤ 1) : role ≠ role' := by
  intro he
  subst he
  have htwo := h.two_le_count
  omega

theorem textOf?_perm (hnodup : (left.map Term.role).Nodup) (h : left.Perm right) :
    textOf? role left = textOf? role right := by
  have hnodup' := (h.map Term.role).nodup_iff.mp hnodup
  apply Option.ext
  intro text
  rw [textOf?_eq_some_iff hnodup, textOf?_eq_some_iff hnodup']
  simp only [h.mem_iff]

namespace Registry

theorem resolve_of_firstRepeated (registry : Registry) (h : FirstRepeated role terms) :
    registry.resolve terms = .error (.duplicateRole role) := by
  rw [resolve, h.addAll]

theorem resolve_of_nodup (registry : Registry) (h : (terms.map Term.role).Nodup) :
    registry.resolve terms =
      match textOf? .verb terms with
      | none => .error .missingVerb
      | some name => (registry.action name).map fun action =>
          ⟨action, (textOf? .directObject terms).map unquote⟩ := by
  rw [resolve, Roles.addAll_of_nodup h]
  rfl

end Registry

end FreeOrder
