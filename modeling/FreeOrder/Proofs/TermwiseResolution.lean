import FreeOrder.Proofs.Classification
import Mathlib.Logic.Function.Basic

namespace FreeOrder

variable {terms : List Term} {term : Term}

/-- The terms of a sentence that have been met so far, each in the place of its role. -/
abbrev Slots := Role → Option Term

namespace Slots

variable {slots slots' : Slots}

def fill (slots : Slots) : List Term → Except RuntimeError Slots
  | [] => .ok slots
  | term :: terms =>
    match slots term.role with
    | some _ => .error (.duplicateRole term.role)
    | none => fill (Function.update slots term.role (some term)) terms

/-- A term is nowhere but in the place of its role. -/
def Fits (slots : Slots) : Prop :=
  ∀ role term, slots role = some term → term.role = role

def roles (slots : Slots) : Roles :=
  ⟨(slots .verb).map Term.text, (slots .directObject).map Term.text⟩

theorem Fits.update (h : slots.Fits) (term : Term) :
    Fits (Function.update slots term.role (some term)) := by
  intro role other hother
  by_cases hrole : role = term.role
  · subst hrole
    rw [Function.update_self] at hother
    cases hother
    rfl
  · rw [Function.update_of_ne hrole] at hother
    exact h role other hother

theorem Fits.fill (h : slots.Fits) (hfill : slots.fill terms = .ok slots') : slots'.Fits := by
  induction terms generalizing slots with
  | nil =>
    cases hfill
    exact h
  | cons term terms ih =>
    rw [Slots.fill] at hfill
    split at hfill
    · cases hfill
    · exact ih (h.update term) hfill

theorem add_roles_of_none (h : slots term.role = none) :
    slots.roles.add term = .ok (roles (Function.update slots term.role (some term))) := by
  cases term with
  | verb name =>
    rw [Term.role] at h ⊢
    simp [roles, Roles.add, h, Term.text]
  | directObject literal =>
    rw [Term.role] at h ⊢
    simp [roles, Roles.add, h, Term.text]

theorem add_roles_of_some {other : Term} (h : slots term.role = some other) :
    slots.roles.add term = .error (.duplicateRole term.role) := by
  cases term <;> simp_all [roles, Roles.add, Term.role]

/-- Filling the places and sorting by roles come to the same. -/
theorem map_roles_fill (slots : Slots) (terms : List Term) :
    (slots.fill terms).map roles = slots.roles.addAll terms := by
  induction terms generalizing slots with
  | nil => rfl
  | cons term terms ih =>
    rw [fill, Roles.addAll]
    cases hplace : slots term.role with
    | none => simp only [add_roles_of_none hplace, ih]
    | some other =>
      simp only [add_roles_of_some hplace]
      rfl

end Slots

/-- What is known of an invocation while the terms that it comes from are looked up one by one. -/
structure Draft where
  action : Option Action := none
  argument : Option String := none

def Draft.add (draft : Draft) : Meaning → Draft
  | .action action => { draft with action := some action }
  | .argument text => { draft with argument := some text }

namespace Registry

def draft (registry : Registry) (draft : Draft) : List Term → Except RuntimeError Draft
  | [] => .ok draft
  | term :: terms =>
    match registry.meaning term with
    | .error error => .error error
    | .ok meaning => registry.draft (draft.add meaning) terms

/-- The invocation that the terms call for, put together from the meanings of its verb and then of
its object. The last resort is for a draft that has no action in the end. -/
def resolveTermwise (registry : Registry) (lastResort : Except RuntimeError Invocation)
    (terms : List Term) : Except RuntimeError Invocation :=
  match Slots.fill (fun _ => none) terms with
  | .error error => .error error
  | .ok slots =>
    match slots .verb with
    | none => .error .missingVerb
    | some verb =>
      match registry.draft {} (verb :: (slots .directObject).toList) with
      | .error error => .error error
      | .ok draft =>
        match draft.action with
        | none => lastResort
        | some action => .ok ⟨action, draft.argument⟩

/-- A draft that begins with a verb has an action in the end, if it comes to an end. -/
theorem draft_verb (registry : Registry) (name : String) {object : Option Term}
    (h : ∀ term, object = some term → term.role = .directObject) :
    registry.draft {} (.verb name :: object.toList) =
      (registry.action name).map fun action =>
        ⟨some action, object.map fun term => unquote term.text⟩ := by
  rw [draft, meaning]
  cases registry.action name with
  | error error => rfl
  | ok action =>
    cases object with
    | none => rfl
    | some term =>
      cases term with
      | verb other => cases h (.verb other) rfl
      | directObject literal => rfl

/-- The last resort is never needed. -/
theorem resolveTermwise_eq (registry : Registry) (lastResort : Except RuntimeError Invocation)
    (terms : List Term) : registry.resolveTermwise lastResort terms = registry.resolve terms := by
  have hroles : Roles.addAll {} terms = (Slots.fill (fun _ => none) terms).map Slots.roles :=
    (Slots.map_roles_fill (fun _ => none) terms).symm
  rw [resolveTermwise, resolve, hroles]
  cases hfill : Slots.fill (fun _ => none) terms with
  | error error => rfl
  | ok slots =>
    have hfits : slots.Fits := Slots.Fits.fill (fun _ _ hnone => by cases hnone) hfill
    simp only [Except.map, Slots.roles]
    cases hverb : slots .verb with
    | none => rfl
    | some verb =>
      cases verb with
      | directObject literal => cases hfits .verb _ hverb
      | verb name =>
        simp only [draft_verb registry name (hfits .directObject), Option.map_some, Term.text]
        cases registry.action name with
        | error error => rfl
        | ok action =>
          rw [Option.map_map]
          rfl

end Registry

end FreeOrder
