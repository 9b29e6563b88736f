import FreeOrder.Proofs.Classification

namespace FreeOrder.Registry

variable {left right : List Term}

theorem resolve_eq_of_nodup (registry : Registry) (h : left.Perm right)
    (hnodup : (left.map Term.role).Nodup) : registry.resolve left = registry.resolve right := by
  have hnodup' := (h.map Term.role).nodup_iff.mp hnodup
  rw [registry.resolve_of_nodup hnodup, registry.resolve_of_nodup hnodup',
    textOf?_perm hnodup h, textOf?_perm hnodup h]

theorem resolve_eq_iff_of_firstRepeated (registry : Registry) {role role' : Role}
    (hleft : FirstRepeated role left) (hright : FirstRepeated role' right) :
    registry.resolve left = registry.resolve right ↔ role = role' := by
  rw [registry.resolve_of_firstRepeated hleft, registry.resolve_of_firstRepeated hright,
    Except.error.injEq, RuntimeError.duplicateRole.injEq]

theorem exists_firstRepeated_of_perm {role : Role} (h : left.Perm right)
    (hleft : FirstRepeated role left) : ∃ role', FirstRepeated role' right := by
  rcases nodup_or_firstRepeated right with hnodup | hright
  · have hcount := hleft.two_le_count
    have hone := List.nodup_iff_count_le_one.mp ((h.map Term.role).nodup_iff.mpr hnodup) role
    omega
  · exact hright

/-- Two orders of the same terms have the same result, unless both roles are repeated and the
role that is the first to be repeated differs. -/
theorem resolve_perm_iff (registry : Registry) (h : left.Perm right) :
    registry.resolve left = registry.resolve right ↔
      (∃ role, (left.map Term.role).count role ≤ 1) ∨
        ∃ role, FirstRepeated role left ∧ FirstRepeated role right := by
  rcases nodup_or_firstRepeated left with hnodup | ⟨role, hleft⟩
  · have hone := List.nodup_iff_count_le_one.mp hnodup .verb
    exact iff_of_true (registry.resolve_eq_of_nodup h hnodup) (.inl ⟨.verb, hone⟩)
  obtain ⟨role', hright⟩ := exists_firstRepeated_of_perm h hleft
  rw [registry.resolve_eq_iff_of_firstRepeated hleft hright]
  apply Iff.intro
  · intro he
    subst he
    exact .inr ⟨role, hleft, hright⟩
  · intro horders
    rcases horders with ⟨single, hone⟩ | ⟨both, hboth, hboth'⟩
    · have hone' : (right.map Term.role).count single ≤ 1 := by rwa [← (h.map Term.role).count_eq]
      exact Role.eq_of_ne (hleft.ne_of_count_le_one hone) (hright.ne_of_count_le_one hone')
    · rw [hleft.unique hboth, hright.unique hboth']

theorem resolve_perm_of_verb_first :
    List.Perm [Term.verb "say", .directObject "\"a\"", .verb "cry", .directObject "\"b\""]
        [.directObject "\"b\"", .verb "cry", .verb "say", .directObject "\"a\""] ∧
      standard.resolve
          [.verb "say", .directObject "\"a\"", .verb "cry", .directObject "\"b\""] =
        standard.resolve
          [.directObject "\"b\"", .verb "cry", .verb "say", .directObject "\"a\""] := by
  have hperm :
      List.Perm [Term.verb "say", .directObject "\"a\"", .verb "cry", .directObject "\"b\""]
        [.directObject "\"b\"", .verb "cry", .verb "say", .directObject "\"a\""] := by decide
  refine ⟨hperm, (standard.resolve_perm_iff hperm).mpr (.inr ⟨.verb, ?_, ?_⟩)⟩
  · exact ⟨[.verb "say", .directObject "\"a\""], .verb "cry", [.directObject "\"b\""], rfl,
      by decide, rfl, by decide⟩
  · exact ⟨[.directObject "\"b\"", .verb "cry"], .verb "say", [.directObject "\"a\""], rfl,
      by decide, rfl, by decide⟩

/-- Where a verb and an object both come twice, the order of the terms shows. -/
theorem resolve_ne_of_both_repeated :
    List.Perm [Term.verb "say", .verb "cry", .directObject "\"a\"", .directObject "\"b\""]
        [.directObject "\"a\"", .directObject "\"b\"", .verb "say", .verb "cry"] ∧
      standard.resolve
          [.verb "say", .verb "cry", .directObject "\"a\"", .directObject "\"b\""] ≠
        standard.resolve
          [.directObject "\"a\"", .directObject "\"b\"", .verb "say", .verb "cry"] := by
  refine ⟨by decide, ?_⟩
  intro he
  injection he with he
  injection he with he
  cases he

end FreeOrder.Registry
