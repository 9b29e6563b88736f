import FreeOrder.Proofs.VerbNames

namespace FreeOrder

theorem Text.trim_eq_nil_iff {text : List Char} : trim text = [] ↔ IsBlank text := by
  rw [trim, List.reverse_eq_nil_iff, trimStart_eq_nil_iff]
  apply Iff.intro
  · intro h c hc
    rw [← List.takeWhile_append_dropWhile (p := isBlank) (l := text), List.mem_append] at hc
    rcases hc with hc | hc
    · exact isBlank_takeWhile text c hc
    · exact h c (List.mem_reverse.mpr hc)
  · intro h c hc
    exact h c ((List.dropWhile_sublist isBlank).mem (List.mem_reverse.mp hc))

namespace VerbTable

variable {table table' : VerbTable} {registry : Registry} {name action : String}
  {error : VerbTableError} {entry : String × String}

/-- An entry that may stand in a registry. Its verb can be written, and its action does not consist
of blanks alone. -/
structure IsSound (name action : String) : Prop where
  name_writable : (Term.verb name).IsWritable
  action_visible : ∃ c ∈ action.toList, isBlank c = false

def IsSoundBefore (table : VerbTable) (name : String) : Prop :=
  ∀ other action, table[other]? = some action → ¬IsSound other action →
    codePoints name ≤ codePoints other

/-- What is wrong with the first entry that is not sound. That its verb cannot be written counts
before an action of blanks. -/
inductive LeastFault (table : VerbTable) : VerbTableError → Prop
  | invalidVerb {name action : String} (hentry : table[name]? = some action)
      (hname : ¬(Term.verb name).IsWritable) (hleast : table.IsSoundBefore name) :
      LeastFault table (.invalidVerb name)
  | emptyAction {name action : String} (hentry : table[name]? = some action)
      (hname : (Term.verb name).IsWritable) (haction : Text.IsBlank action.toList)
      (hleast : table.IsSoundBefore name) :
      LeastFault table (.emptyAction name)

/-- The registry has the entries of the table and no others, and lists them in the order of the code
points of their verbs. -/
structure Freezes (table : VerbTable) (registry : Registry) : Prop where
  action?_eq : ∀ name, registry.action? name = table[name]?.map Action.mk
  mem_toList_iff : ∀ name action,
    (name, action) ∈ registry.toList ↔ table[name]? = some action.name
  inOrder : (registry.toList.map fun entry => codePoints entry.1).Pairwise (· < ·)

theorem IsSound.not_isBlank (h : IsSound name action) : ¬Text.IsBlank action.toList := by
  intro hblank
  obtain ⟨c, hc, hvisible⟩ := h.action_visible
  rw [hblank c hc] at hvisible
  cases hvisible

theorem isSound_of_not_isBlank (hname : (Term.verb name).IsWritable)
    (haction : ¬Text.IsBlank action.toList) : IsSound name action where
  name_writable := hname
  action_visible := by simpa [Text.IsBlank] using haction

theorem entryError?_of_name (h : ¬(Term.verb name).IsWritable) :
    entryError? (name, action) = some (.invalidVerb name) := by
  rw [← isVerbName_iff, Bool.not_eq_true] at h
  simp [entryError?, h]

theorem entryError?_of_action (hname : (Term.verb name).IsWritable)
    (haction : Text.IsBlank action.toList) :
    entryError? (name, action) = some (.emptyAction name) := by
  rw [← isVerbName_iff] at hname
  rw [← Text.trim_eq_nil_iff] at haction
  simp [entryError?, hname, haction]

theorem entryError?_of_isSound (h : IsSound name action) : entryError? (name, action) = none := by
  have hname := isVerbName_iff.mpr h.name_writable
  have haction := h.not_isBlank
  rw [← Text.trim_eq_nil_iff] at haction
  simp [entryError?, hname, haction]

theorem entryError?_eq_none_iff : entryError? (name, action) = none ↔ IsSound name action := by
  apply Iff.intro
  · intro h
    by_cases hname : (Term.verb name).IsWritable
    · apply isSound_of_not_isBlank hname
      intro haction
      rw [entryError?_of_action hname haction] at h
      cases h
    · rw [entryError?_of_name hname] at h
      cases h
  · exact entryError?_of_isSound

/-- The check of the single entries stops at the first that is not sound. -/
theorem leastFault_iff : LeastFault table error ↔ ∃ name action, table[name]? = some action ∧
    entryError? (name, action) = some error ∧ table.IsSoundBefore name := by
  apply Iff.intro
  · intro h
    cases h with
    | invalidVerb hentry hname hleast => exact ⟨_, _, hentry, entryError?_of_name hname, hleast⟩
    | emptyAction hentry hname haction hleast =>
      exact ⟨_, _, hentry, entryError?_of_action hname haction, hleast⟩
  · intro h
    obtain ⟨name, action, hentry, herror, hleast⟩ := h
    by_cases hname : (Term.verb name).IsWritable
    · by_cases haction : Text.IsBlank action.toList
      · rw [entryError?_of_action hname haction] at herror
        cases herror
        exact .emptyAction hentry hname haction hleast
      · rw [entryError?_of_isSound (isSound_of_not_isBlank hname haction)] at herror
        cases herror
    · rw [entryError?_of_name hname] at herror
      cases herror
      exact .invalidVerb hentry hname hleast

theorem LeastFault.unique {error' : VerbTableError} (h : LeastFault table error)
    (h' : LeastFault table error') : error = error' := by
  obtain ⟨name, action, hentry, herror, hleast⟩ := leastFault_iff.mp h
  obtain ⟨name', action', hentry', herror', hleast'⟩ := leastFault_iff.mp h'
  have hunsound : ¬IsSound name action := by
    rw [← entryError?_eq_none_iff, herror]
    exact Option.some_ne_none error
  have hunsound' : ¬IsSound name' action' := by
    rw [← entryError?_eq_none_iff, herror']
    exact Option.some_ne_none error'
  have hle := hleast name' action' hentry' hunsound'
  have hge := hleast' name action hentry hunsound
  have hname : name = name' := codePoints_injective (le_antisymm hle hge)
  subst hname
  rw [hentry] at hentry'
  cases hentry'
  rw [herror] at herror'
  exact Option.some_inj.mp herror'

theorem mem_toList_iff : (name, action) ∈ table.toList ↔ table[name]? = some action :=
  Std.TreeMap.mem_toList_iff_getElem?_eq_some

theorem registry_isOk_iff : (∃ registry, table.registry = .ok registry) ↔
    ∀ name action, table[name]? = some action → IsSound name action := by
  simp only [registry_eq_ok_iff, exists_and_left, exists_eq, and_true, Prod.forall, mem_toList_iff,
    entryError?_eq_none_iff]

theorem registry_eq_error_iff :
    table.registry = .error error ↔ table.toList.findSome? entryError? = some error := by
  rw [VerbTable.registry]
  cases table.toList.findSome? entryError? <;> simp [eq_comm]

theorem leastFault_of_registry (h : table.registry = .error error) : LeastFault table error := by
  obtain ⟨front, ⟨name, action⟩, back, htable, herror, hfront⟩ :=
    List.findSome?_eq_some_iff.mp (registry_eq_error_iff.mp h)
  have hsorted := codePoints_toList_sorted table
  have hentry : (name, action) ∈ table.toList := by
    rw [htable]
    exact List.mem_append_right _ List.mem_cons_self
  refine leastFault_iff.mpr ⟨name, action, mem_toList_iff.mp hentry, herror, ?_⟩
  intro other found hother hunsound
  have hmem := mem_toList_iff.mpr hother
  rw [htable, List.mem_append, List.mem_cons] at hmem
  rcases hmem with hmem | he | hmem
  · exact absurd (entryError?_eq_none_iff.mp (hfront _ hmem)) hunsound
  · cases he
    exact le_refl _
  · rw [htable, List.map_append, List.map_cons] at hsorted
    have hback := (List.pairwise_cons.mp (List.pairwise_append.mp hsorted).2.1).1
    exact le_of_lt (hback _ (List.mem_map.mpr ⟨_, hmem, rfl⟩))

theorem registry_eq_error_iff_leastFault :
    table.registry = .error error ↔ LeastFault table error := by
  apply Iff.intro
  · exact leastFault_of_registry
  · intro h
    cases hregistry : table.registry with
    | error found => rw [h.unique (leastFault_of_registry hregistry)]
    | ok registry =>
      obtain ⟨name, action, hentry, herror, _⟩ := leastFault_iff.mp h
      have hsound := registry_isOk_iff.mp ⟨registry, hregistry⟩ name action hentry
      rw [entryError?_of_isSound hsound] at herror
      cases herror

theorem freezes_of_registry (h : table.registry = .ok registry) : Freezes table registry where
  action?_eq := by
    intro name
    apply Option.ext
    intro action
    rw [action?_iff h, mem_toList_iff]
    apply Iff.intro
    · intro hfound
      rw [hfound]
      rfl
    · intro hfound
      obtain ⟨found, he, rfl⟩ := Option.map_eq_some_iff.mp hfound
      exact he
  mem_toList_iff := by
    intro name action
    rw [← VerbTable.mem_toList_iff, ← action?_iff h]
    exact Std.TreeMap.mem_toList_iff_getElem?_eq_some
  inOrder := codePoints_toList_sorted registry.verbs

theorem registry_congr (h : ∀ name : String, table[name]? = table'[name]?) :
    table.registry = table'.registry := by
  have htables := (Std.TreeMap.Equiv.of_forall_constGet?_eq h).toList_eq
  rw [VerbTable.registry, VerbTable.registry, htables]

theorem registry_ofList_perm {entries : List (String × String)} (h : entries.Perm table.toList) :
    (ofList entries).registry = table.registry := by
  have hnames : (entries.map (·.1)).Nodup :=
    (h.map (·.1)).nodup_iff.mpr (nodup_keys_toList table)
  apply registry_congr
  intro name
  apply Option.ext
  intro action
  rw [ofList, getElem?_foldl_insert hnames, h.mem_iff, mem_toList_iff]
  simp

/-- A verb table makes a registry exactly when all its entries are sound, and then the registry has
these very entries. Otherwise what is wrong with its first unsound entry is reported. The order in
which its entries are written does not matter. -/
theorem registry_freezes_or_reports (table : VerbTable) :
    ((∃ registry, table.registry = .ok registry) ↔
      ∀ name action, table[name]? = some action → IsSound name action) ∧
    (∀ registry, table.registry = .ok registry → Freezes table registry) ∧
    (∀ error, table.registry = .error error ↔ LeastFault table error) ∧
    ∀ entries : List (String × String), entries.Perm table.toList →
      (ofList entries).registry = table.registry := by
  refine ⟨registry_isOk_iff, ?_, ?_, ?_⟩
  · intro registry hregistry
    exact freezes_of_registry hregistry
  · intro error
    exact registry_eq_error_iff_leastFault
  · intro entries hentries
    exact registry_ofList_perm hentries

theorem registry_freezes_or_reports_two_tables :
    let sound := ofList [("say", " output "), ("é\"", "exit")]
    let unsound := ofList [("say", "\u3000"), ("a(b", ""), ("b", "\t")]
    (∃ registry, sound.registry = .ok registry ∧ registry.action? "say" = some ⟨" output "⟩ ∧
      registry.action? "output" = none) ∧
    LeastFault unsound (.invalidVerb "a(b") ∧
    [("b", "\t"), ("a(b", ""), ("say", "\u3000")].Perm unsound.toList ∧
    (ofList [("b", "\t"), ("a(b", ""), ("say", "\u3000")]).registry =
      .error (.invalidVerb "a(b") := by
  intro sound unsound
  obtain ⟨_, hfreezes, _, _⟩ := registry_freezes_or_reports sound
  obtain ⟨_, _, hreports, hwritten⟩ := registry_freezes_or_reports unsound
  have hvalid : sound.toList.findSome? entryError? = none := by decide +kernel
  have hregistry := registry_eq_ok_iff.mpr ⟨List.findSome?_eq_none_iff.mp hvalid, rfl⟩
  have haction := (hfreezes _ hregistry).action?_eq
  have hsay : sound["say"]? = some " output " := by decide +kernel
  have houtput : sound["output"]? = none := by decide +kernel
  have hfault : unsound.toList.findSome? entryError? = some (.invalidVerb "a(b") := by
    decide +kernel
  have herror := registry_eq_error_iff.mpr hfault
  have hperm : [("b", "\t"), ("a(b", ""), ("say", "\u3000")].Perm unsound.toList := by
    decide +kernel
  refine ⟨⟨_, hregistry, ?_, ?_⟩, (hreports _).mp herror, hperm, ?_⟩
  · rw [haction, hsay]
    rfl
  · rw [haction, houtput]
    rfl
  · rw [hwritten _ hperm, herror]

end VerbTable

end FreeOrder
