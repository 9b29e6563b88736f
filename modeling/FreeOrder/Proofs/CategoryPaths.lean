import FreeOrder.Proofs.TermReading
import FreeOrder.Proofs.TestRun

namespace FreeOrder

theorem intercalate_append {α : Type} {sep : List α} {front back : List (List α)}
    (hfront : front ≠ []) (hback : back ≠ []) :
    sep.intercalate (front ++ back) = sep.intercalate front ++ sep ++ sep.intercalate back := by
  induction front with
  | nil => exact (hfront rfl).elim
  | cons part front ih =>
    cases front with
    | nil =>
      rw [List.singleton_append, List.intercalate_cons_of_ne_nil hback, List.intercalate_singleton]
    | cons next front =>
      have hnext := ih (List.cons_ne_nil next front)
      rw [List.cons_append, List.intercalate_cons_of_ne_nil (by simp), hnext,
        List.intercalate_cons_cons]
      simp only [List.append_assoc]

namespace Category

variable {category name lower middle upper : Category} {stripped : String} {text : List Char}

def components (category : Category) : List (List Char) :=
  category.toList.splitOn '/'

/-- The text is the name without the slashes that it begins and ends with. -/
structure IsStripped (name stripped : String) : Prop where
  exists_slashes : ∃ front back : List Char, name.toList = front ++ stripped.toList ++ back ∧
    (∀ c ∈ front, c = '/') ∧ ∀ c ∈ back, c = '/'
  head_ne : stripped.toList.head? ≠ some '/'
  getLast_ne : stripped.toList.getLast? ≠ some '/'

theorem components_append (name below : Category) :
    components (name ++ "/" ++ below) = components name ++ components below := by
  rw [components, String.toList_append, String.toList_append, List.append_assoc]
  exact List.splitOn_append_cons_self name.toList below.toList

theorem intercalate_components (category : Category) :
    ['/'].intercalate (components category) = category.toList :=
  List.intercalate_splitOn '/'

theorem components_injective : Function.Injective components := by
  intro left right h
  apply String.toList_injective
  rw [← intercalate_components, h, intercalate_components]

theorem liesIn_iff_components : LiesIn category name ↔ components name <+: components category := by
  apply Iff.intro
  · intro h
    rcases h with rfl | ⟨below, rfl⟩
    · exact List.prefix_refl _
    · rw [components_append]
      exact List.prefix_append _ _
  · intro h
    obtain ⟨rest, hrest⟩ := h
    by_cases hnone : rest = []
    · rw [hnone, List.append_nil] at hrest
      exact .inl (components_injective hrest.symm)
    · right
      have hname : components name ≠ [] := List.splitOn_ne_nil '/' name.toList
      refine ⟨String.ofList (['/'].intercalate rest), String.toList_injective ?_⟩
      rw [← intercalate_components, ← hrest, intercalate_append hname hnone,
        intercalate_components]
      simp

theorem isWithin_iff_components :
    isWithin category name ↔ components name <+: components category :=
  isWithin_iff.trans liesIn_iff_components

theorem isWithin_refl (category : Category) : isWithin category category :=
  isWithin_iff_components.mpr (List.prefix_refl _)

theorem isWithin_trans (h : isWithin lower middle) (h' : isWithin middle upper) :
    isWithin lower upper := by
  rw [isWithin_iff_components] at h h' ⊢
  exact h'.trans h

theorem isWithin_antisymm (h : isWithin category name) (h' : isWithin name category) :
    category = name := by
  rw [isWithin_iff_components] at h h'
  exact components_injective (h'.eq_of_length_le h.length_le)

theorem trimSlashes_eq_iff : trimSlashes name = stripped ↔
    (name.toList.dropWhile (· == '/')).reverse.dropWhile (· == '/') =
      stripped.toList.reverse := by
  rw [trimSlashes, ← String.toList_inj, String.toList_ofList, List.reverse_eq_iff]

theorem IsStripped.trimSlashes_eq (h : IsStripped name stripped) : trimSlashes name = stripped := by
  obtain ⟨⟨front, back, hname, hfront, hback⟩, hhead, hlast⟩ := h
  rw [trimSlashes_eq_iff]
  cases hstripped : stripped.toList with
  | nil =>
    have hslashes : name.toList.dropWhile (· == '/') = [] := by
      rw [hname, hstripped, List.append_nil, List.dropWhile_eq_nil_iff]
      intro c hc
      rcases List.mem_append.mp hc with hc | hc
      · exact beq_iff_eq.mpr (hfront c hc)
      · exact beq_iff_eq.mpr (hback c hc)
    rw [hslashes]
    rfl
  | cons c rest =>
    rw [hstripped] at hname hhead hlast
    have hinner : name.toList.dropWhile (· == '/') = c :: rest ++ back := by
      rw [List.append_assoc] at hname
      exact dropWhile_eq_iff.mpr ⟨⟨front, hname, by simpa using hfront⟩, by simpa using hhead⟩
    rw [hinner]
    refine dropWhile_eq_iff.mpr ⟨⟨back.reverse, List.reverse_append, by simpa using hback⟩, ?_⟩
    rw [List.head?_reverse]
    intro d hd
    rw [hd] at hlast
    simpa using hlast

theorem isStripped_trimSlashes (name : String) : IsStripped name (trimSlashes name) := by
  obtain ⟨⟨front, hname, hfront⟩, hhead⟩ :=
    dropWhile_eq_iff.mp (Eq.refl (name.toList.dropWhile (· == '/')))
  obtain ⟨⟨back, hinner, hback⟩, hlast⟩ :=
    dropWhile_eq_iff.mp (trimSlashes_eq_iff.mp (Eq.refl (trimSlashes name)))
  rw [List.reverse_eq_iff, List.reverse_append, List.reverse_reverse] at hinner
  constructor
  · refine ⟨front, back.reverse, ?_, by simpa using hfront, by simpa using hback⟩
    rw [List.append_assoc, ← hinner]
    exact hname
  · intro hslash
    rw [hinner, List.head?_append, hslash] at hhead
    cases hhead '/' rfl
  · intro hslash
    rw [List.head?_reverse, hslash] at hlast
    cases hlast '/' rfl

theorem isStripped_iff : IsStripped name stripped ↔ trimSlashes name = stripped := by
  apply Iff.intro
  · exact IsStripped.trimSlashes_eq
  · intro h
    subst h
    exact isStripped_trimSlashes name

/-- Whether a category lies within another is whether the components of that one come first among
its own, so that it is a partial order. -/
structure IsPathOrder (within : Category → Category → Prop) : Prop where
  iff_components : ∀ category name, within category name ↔ components name <+: components category
  refl : ∀ category, within category category
  trans : ∀ lower middle upper, within lower middle → within middle upper → within lower upper
  antisymm : ∀ category name, within category name → within name category → category = name

theorem isPathOrder_isWithin : IsPathOrder fun category name => isWithin category name where
  iff_components := fun _ _ => isWithin_iff_components
  refl := isWithin_refl
  trans := fun _ _ _ => isWithin_trans
  antisymm := fun _ _ => isWithin_antisymm

section Selection

variable {α : Type} {entries : List (Category × α)} {entry : Category × α}
  {requested more : List String} {map : Std.TreeMap Category α}

/-- What a request selects from a map of categories: all of them if it names none, and else those
that lie within a named one, each with what the map has for it. -/
structure SelectsByComponents (map : Std.TreeMap Category α) (requested : List String) : Prop where
  inOrder : ((select map.toList requested).map fun entry => codePoints entry.1).Pairwise (· < ·)
  mem_iff : ∀ category value, (category, value) ∈ select map.toList requested ↔
    map[category]? = some value ∧ (requested = [] ∨ ∃ name ∈ requested, ∃ stripped,
      IsStripped name stripped ∧ components stripped <+: components category)
  of_none : requested = [] → select map.toList requested = map.toList
  mem_append_iff : ∀ more, requested ≠ [] → more ≠ [] → ∀ entry,
    entry ∈ select map.toList (requested ++ more) ↔
      entry ∈ select map.toList requested ∨ entry ∈ select map.toList more
  same : ∀ other, (∀ name, name ∈ other ↔ name ∈ requested) →
    select map.toList other = select map.toList requested
  below : ∀ category value lower value', (category, value) ∈ select map.toList requested →
    map[lower]? = some value' → isWithin lower category →
    (lower, value') ∈ select map.toList requested

theorem isRequested_iff_components : IsRequested requested category ↔
    requested = [] ∨ ∃ name ∈ requested, ∃ stripped,
      IsStripped name stripped ∧ components stripped <+: components category := by
  simp only [IsRequested, isStripped_iff, exists_eq_left', liesIn_iff_components]

theorem isRequested_append_iff (h : requested ≠ []) (hmore : more ≠ []) :
    IsRequested (requested ++ more) category ↔
      IsRequested requested category ∨ IsRequested more category := by
  simp only [IsRequested, List.append_eq_nil_iff, h, hmore, false_and, false_or, List.mem_append,
    or_and_right, exists_or]

theorem IsRequested.of_isWithin (h : IsRequested requested upper) (hwithin : isWithin lower upper) :
    IsRequested requested lower := by
  rcases h with hnone | ⟨name, hname, hlies⟩
  · exact .inl hnone
  · have hlies' := isWithin_trans hwithin (isWithin_iff.mpr hlies)
    exact .inr ⟨name, hname, isWithin_iff.mp hlies'⟩

theorem select_congr {other : List String} (h : ∀ name, name ∈ other ↔ name ∈ requested) :
    select entries other = select entries requested := by
  have hempty : other.isEmpty = requested.isEmpty := by
    rw [Bool.eq_iff_iff]
    simp only [List.isEmpty_iff, List.eq_nil_iff_forall_not_mem, h]
  have hnames : ∀ category, (other.map trimSlashes).any (isWithin category) =
      (requested.map trimSlashes).any (isWithin category) := by
    intro category
    rw [Bool.eq_iff_iff]
    simp [h]
  simp only [select, hempty, hnames]

theorem selectsByComponents (map : Std.TreeMap Category α) (requested : List String) :
    SelectsByComponents map requested where
  inOrder := (codePoints_toList_sorted map).sublist (select_sublist.map _)
  mem_iff := by
    intro category value
    rw [mem_select_iff, Std.TreeMap.mem_toList_iff_getElem?_eq_some, isRequested_iff_components]
  of_none := by
    intro hnone
    rw [hnone]
    rfl
  mem_append_iff := by
    intro more hrequested hmore entry
    simp only [mem_select_iff, isRequested_append_iff hrequested hmore, and_or_left]
  same := fun _ => select_congr
  below := by
    intro category value lower value' hselected hlower hwithin
    rw [mem_select_iff] at hselected ⊢
    exact ⟨Std.TreeMap.mem_toList_iff_getElem?_eq_some.mpr hlower, hselected.2.of_isWithin hwithin⟩

/-- Categories are compared by their components, and selected accordingly. A folder whose name only
begins like that of another does not lie within it. -/
theorem select_by_components (map : Std.TreeMap Category α) (requested : List String) :
    (IsPathOrder fun category name => isWithin category name) ∧
    isWithin "errorsx" "errors" = false ∧
    SelectsByComponents map requested :=
  ⟨isPathOrder_isWithin, by decide, selectsByComponents map requested⟩

theorem select_by_components_errors :
    let map : Std.TreeMap Category Nat :=
      .ofList [("errorsx", 4), ("errors/parse", 3), ("errors", 2), ("", 1)]
    let selected := select map.toList ["//errors/", "missing"]
    ("errors", 2) ∈ selected ∧ ("errors/parse", 3) ∈ selected ∧
      select map.toList ["missing", "//errors/", "missing"] = selected := by
  intro map selected
  obtain ⟨_, _, hselects⟩ := select_by_components map ["//errors/", "missing"]
  have herrors : ("errors", 2) ∈ selected := by decide +kernel
  have hparse : map["errors/parse"]? = some 3 := by decide +kernel
  refine ⟨herrors, hselects.below _ _ _ _ herrors hparse (by decide +kernel), ?_⟩
  apply hselects.same
  simp

end Selection

end Category

end FreeOrder
