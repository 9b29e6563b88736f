import Mathlib.Data.List.Induction
import Mathlib.Data.List.Nodup
import Mathlib.Data.String.Basic
import Std.Data.TreeMap

namespace FreeOrder

variable {α : Type} {map : Std.TreeMap String α} {entries : List (String × α)} {key other : String}
  {value found : α}

def codePoints (text : String) : List Nat :=
  text.toList.map Char.toNat

theorem codePoints_injective : Function.Injective codePoints := by
  intro left right h
  apply String.toList_injective
  exact List.map_injective_iff.mpr (fun _ _ hchar => Char.toNat_inj.mp hchar) h

theorem codePoints_lt_of_compare {left right : String} (h : compare left right = .lt) :
    codePoints left < codePoints right := by
  have hlt := String.lt_iff_toList_lt.mp (compare_lt_iff_lt.mp h)
  exact List.map_lt (fun _ _ hchar => hchar) hlt

theorem codePoints_toList_sorted (map : Std.TreeMap String α) :
    (map.toList.map fun entry => codePoints entry.1).Pairwise (· < ·) :=
  List.pairwise_map.mpr (Std.TreeMap.ordered_keys_toList.imp codePoints_lt_of_compare)

theorem getElem?_insert_of_ne (h : key ≠ other) : (map.insert key value)[other]? = map[other]? := by
  rw [Std.TreeMap.getElem?_insert, if_neg]
  intro he
  exact h (Std.LawfulEqCmp.compare_eq_iff_eq.mp he)

theorem nodup_keys_toList (map : Std.TreeMap String α) : (map.toList.map (·.1)).Nodup := by
  rw [List.Nodup, List.pairwise_map]
  apply List.Pairwise.imp _ (Std.TreeMap.distinct_keys_toList (t := map))
  intro left right hne he
  exact hne (Std.LawfulEqCmp.compare_eq_iff_eq.mpr he)

/-- Entries for different keys that are put into a map, one after the other, are found there. -/
theorem getElem?_foldl_insert (h : (entries.map (·.1)).Nodup) (map : Std.TreeMap String α) :
    (entries.foldl (fun found entry => found.insert entry.1 entry.2) map)[key]? = some value ↔
      (key, value) ∈ entries ∨ key ∉ entries.map (·.1) ∧ map[key]? = some value := by
  induction entries generalizing map with
  | nil => simp
  | cons entry entries ih =>
    obtain ⟨name, given⟩ := entry
    obtain ⟨hname, hnames⟩ := List.nodup_cons.mp h
    rw [List.foldl_cons, ih hnames]
    by_cases hkey : name = key
    · subst hkey
      have hvalue : (name, value) ∉ entries := by
        intro hmem
        exact hname (List.mem_map.mpr ⟨_, hmem, rfl⟩)
      simp [hvalue, hname, eq_comm]
    · rw [getElem?_insert_of_ne hkey]
      simp [Ne.symm hkey]

/-- Values that are added to the groups of their keys, one after the other, make up groups that keep
their order. -/
theorem getElem?_foldl_group (keyOf : α → String) (values : List α) (key : String) :
    (values.foldl (fun groups value =>
      groups.insert (keyOf value) (groups.getD (keyOf value) [] ++ [value]))
      (∅ : Std.TreeMap String (List α)))[key]? =
    if values.filter (keyOf · = key) = [] then none else some (values.filter (keyOf · = key)) := by
  -- The value that is added last is the last of the list.
  induction values using List.reverseRecOn generalizing key with
  | nil => exact Std.TreeMap.getElem?_emptyc
  | append_singleton values value ih =>
    rw [List.foldl_append, List.foldl_cons, List.foldl_nil, List.filter_append]
    by_cases hkey : keyOf value = key
    · subst hkey
      rw [Std.TreeMap.getElem?_insert_self, Std.TreeMap.getD_eq_getD_getElem?, ih]
      split <;> simp [*]
    · rw [getElem?_insert_of_ne hkey, ih]
      simp [hkey]

end FreeOrder
