import FreeOrder.Proofs.Command
import FreeOrder.Proofs.KeyedEntries
import FreeOrder.Proofs.Places
import FreeOrder.VerbTable

namespace FreeOrder

variable {name : String} {action : Action} {registry : Registry}

/-- The check of names and the scanner of terms allow the same characters. -/
theorem isVerbName_eq (name : String) :
    isVerbName name = (!name.isEmpty && name.toList.all Term.isNameChar) := by
  rw [isVerbName, List.not_any_eq_all_not]
  congr 2
  funext c
  rw [Term.isNameChar, Bool.not_or, Bool.not_or]
  rfl

theorem isVerbName_iff : isVerbName name = true ↔ (Term.verb name).IsWritable := by
  rw [isVerbName_eq, Term.IsWritable, Bool.and_eq_true, List.all_eq_true]
  simp only [Term.isNameChar_iff]
  simp

namespace Excerpt

variable {excerpt : Excerpt} {sentence : Sentence} {term : Term}

theorem readSentence_verb (h : (Term.verb name).IsWritable) :
    (ofString ("v(" ++ name ++ ")")).readSentence = .ok (.single (.verb name)) := by
  have htext : (Word.mk (.verb name) true h).text = ("v(" ++ name ++ ")").toList := by
    simp [Word.text, Term.role, Term.text, Role.written, Role.terseMarker]
  have hread := readTerms_word ⟨.verb name, true, h⟩ 0 0
  rw [htext] at hread
  exact map_eq_ok_iff.mpr ⟨_, hread, rfl⟩

theorem isWritable_of_mem_sentence (h : excerpt.readSentence = .ok sentence)
    (hmem : term ∈ sentence.terms) : term.IsWritable := by
  obtain ⟨terms, hterms, rfl⟩ := map_eq_ok_iff.mp h
  rw [Sentence.terms_ofTerms] at hmem
  exact isWritable_of_mem_terms hterms hmem

end Excerpt

theorem Registry.action?_ofList {entries : List (String × Action)}
    (h : (entries.map (·.1)).Nodup) :
    (ofList entries).action? name = some action ↔ (name, action) ∈ entries := by
  rw [action?, ofList, getElem?_foldl_insert h]
  simp

namespace VerbTable

variable {table : VerbTable}

theorem registry_eq_ok_iff : table.registry = .ok registry ↔
    (∀ entry ∈ table.toList, entryError? entry = none) ∧
      registry = .ofList (table.toList.map fun entry => (entry.1, ⟨entry.2⟩)) := by
  rw [← List.findSome?_eq_none_iff, VerbTable.registry]
  cases table.toList.findSome? entryError? <;> simp [eq_comm]

theorem isVerbName_of_entryError? {entry : String × String} (h : entryError? entry = none) :
    isVerbName entry.1 = true := by
  unfold entryError? at h
  split at h
  · cases h
  · simp_all

theorem isWritable_of_mem (h : table.registry = .ok registry) {entry : String × String}
    (hmem : entry ∈ table.toList) : (Term.verb entry.1).IsWritable := by
  obtain ⟨hvalid, _⟩ := registry_eq_ok_iff.mp h
  exact isVerbName_iff.mp (isVerbName_of_entryError? (hvalid entry hmem))

/-- The registry of a table has the entries of the table. -/
theorem action?_iff (h : table.registry = .ok registry) :
    registry.action? name = some action ↔ (name, action.name) ∈ table.toList := by
  obtain ⟨_, rfl⟩ := registry_eq_ok_iff.mp h
  have hnames : ((table.toList.map fun entry => (entry.1, Action.mk entry.2)).map (·.1)).Nodup := by
    rw [List.map_map]
    exact nodup_keys_toList table
  rw [Registry.action?_ofList hnames, List.mem_map]
  apply Iff.intro
  · intro hmem
    obtain ⟨entry, hentry, he⟩ := hmem
    cases he
    exact hentry
  · intro hmem
    exact ⟨_, hmem, rfl⟩

theorem resolve_verb (h : table.registry = .ok registry) {action : String}
    (hmem : (name, action) ∈ table.toList) :
    ∃ sentence, (Excerpt.ofString ("v(" ++ name ++ ")")).readSentence = .ok sentence ∧
      registry.resolve sentence.terms = .ok ⟨⟨action⟩, none⟩ := by
  refine ⟨_, Excerpt.readSentence_verb (isWritable_of_mem h hmem), ?_⟩
  apply Registry.resolve_eq_ok_iff.mpr
  exact ⟨name, .alone, (action?_iff h).mpr hmem⟩

end VerbTable

theorem isVerbName_iff_exists_readTerms : isVerbName name = true ↔
    ∃ (excerpt : Excerpt) (terms : List (Located Term)),
      excerpt.readTerms = .ok terms ∧ .verb name ∈ terms.map (·.node) := by
  rw [isVerbName_iff]
  apply Iff.intro
  · intro h
    exact ⟨_, _, Excerpt.readTerms_word ⟨.verb name, true, h⟩ 0 0, List.mem_cons_self⟩
  · intro h
    obtain ⟨excerpt, terms, hread, hmem⟩ := h
    exact Excerpt.isWritable_of_mem_terms hread hmem

theorem isVerbName_iff_readSentence : isVerbName name = true ↔
    (Excerpt.ofString ("v(" ++ name ++ ")")).readSentence = .ok (.single (.verb name)) := by
  rw [isVerbName_iff]
  apply Iff.intro
  · exact Excerpt.readSentence_verb
  · intro h
    exact Excerpt.isWritable_of_mem_sentence h List.mem_cons_self

/-- A verb table may hold a name exactly when the name can be read as a verb, from any text at all
or just from its terse notation. So every entry of a table that makes a registry can be called for,
and no sentence has a verb in that registry that is not an entry. -/
theorem isVerbName_agrees_with_reading :
    (∀ name : String,
      (isVerbName name = true ↔ ∃ (excerpt : Excerpt) (terms : List (Located Term)),
        excerpt.readTerms = .ok terms ∧ .verb name ∈ terms.map (·.node)) ∧
      (isVerbName name = true ↔
        (Excerpt.ofString ("v(" ++ name ++ ")")).readSentence = .ok (.single (.verb name)))) ∧
    ∀ (table : VerbTable) (registry : Registry), table.registry = .ok registry →
      (∀ name action, (name, action) ∈ table.toList →
        ∃ sentence, (Excerpt.ofString ("v(" ++ name ++ ")")).readSentence = .ok sentence ∧
          registry.resolve sentence.terms = .ok ⟨⟨action⟩, none⟩) ∧
      ∀ (excerpt : Excerpt) (sentence : Sentence), excerpt.readSentence = .ok sentence →
        ∀ name action, .verb name ∈ sentence.terms → registry.action? name = some action →
          (name, action.name) ∈ table.toList := by
  apply And.intro
  · intro name
    exact ⟨isVerbName_iff_exists_readTerms, isVerbName_iff_readSentence⟩
  · intro table registry hregistry
    apply And.intro
    · intro name action hmem
      exact VerbTable.resolve_verb hregistry hmem
    · intro excerpt sentence _ name action _ haction
      exact (VerbTable.action?_iff hregistry).mp haction

theorem isVerbName_agrees_with_reading_quote :
    let table := VerbTable.ofList [("#\"é", "output"), ("say", "exit")]
    isVerbName "#\"é" = true ∧ ∃ registry, table.registry = .ok registry ∧
      (∃ sentence, (Excerpt.ofString "v(#\"é)").readSentence = .ok sentence ∧
        registry.resolve sentence.terms = .ok ⟨.output, none⟩) ∧
      registry.action? "say" = some ⟨"exit"⟩ ∧ ("say", "exit") ∈ table.toList := by
  intro table
  obtain ⟨hnames, htables⟩ := isVerbName_agrees_with_reading
  have hread : (Excerpt.ofString "v(#\"é)").readSentence = .ok (.single (.verb "#\"é")) := by
    decide +kernel
  have hsay : (Excerpt.ofString "v(say)").readSentence = .ok (.single (.verb "say")) := by
    decide +kernel
  have hvalid : table.toList.findSome? VerbTable.entryError? = none := by decide +kernel
  have hregistry := VerbTable.registry_eq_ok_iff.mpr ⟨List.findSome?_eq_none_iff.mp hvalid, rfl⟩
  have hmem : ("#\"é", "output") ∈ table.toList := by decide +kernel
  have haction : (Registry.ofList (table.toList.map fun entry => (entry.1, ⟨entry.2⟩))).action?
      "say" = some ⟨"exit"⟩ := by decide +kernel
  obtain ⟨hresolve, hverbs⟩ := htables table _ hregistry
  exact ⟨(hnames "#\"é").2.mpr hread, _, hregistry, hresolve _ _ hmem, haction,
    hverbs _ _ hsay "say" _ List.mem_cons_self haction⟩

end FreeOrder
