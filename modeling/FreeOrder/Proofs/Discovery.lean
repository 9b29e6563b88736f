import FreeOrder.Fixture.Discovery
import FreeOrder.Proofs.KeyedEntries

namespace FreeOrder

/-- The file is named as a fixture, and lies in the folder that the category stands for. -/
def FoundFile.IsFixtureOf (file : FoundFile) (category : Category) : Prop :=
  ∃ folder name, file.path = folder ++ [name] ∧ suffix.toList <:+ name.toList ∧
    ("/".intercalate folder).map (fun c => if c = '\\' then '/' else c) = category

theorem FoundFile.isFixtureOf_iff {file : FoundFile} {category : Category} :
    file.IsFixtureOf category ↔ file.isFixture ∧ file.category = category := by
  rw [IsFixtureOf, isFixture, FoundFile.category]
  rcases List.eq_nil_or_concat file.path with hpath | ⟨folder, name, hpath⟩
  · simp [hpath]
  · apply Iff.intro
    · intro h
      obtain ⟨folder', name', hpath', hname, hcategory⟩ := h
      rw [hpath', List.getLast?_concat, List.dropLast_concat]
      simp [stem?, hname, hcategory]
    · intro h
      obtain ⟨hname, hcategory⟩ := h
      rw [hpath, List.concat_eq_append, List.getLast?_concat] at hname
      rw [hpath, List.concat_eq_append, List.dropLast_concat] at hcategory
      refine ⟨folder, name, by simpa using hpath, ?_, hcategory⟩
      simpa [stem?] using hname

abbrev Catalogue := List (Category × List FoundFile)

namespace FileTree

variable {tree tree' : FileTree} {entries entries' : List (String × FileTree)} {path : List String}
  {content : ByteArray} {file : FoundFile} {category : Category} {group : List FoundFile}

inductive LeadsTo : FileTree → List String → ByteArray → Prop
  | here (content : ByteArray) : LeadsTo (.file content) [] content
  | inside {entries : List (String × FileTree)} {name : String} {tree : FileTree}
      {path : List String} {content : ByteArray} (hentry : (name, tree) ∈ entries)
      (h : LeadsTo tree path content) : LeadsTo (.folder entries) (name :: path) content

inductive HasDistinctNames : FileTree → Prop
  | file (content : ByteArray) : HasDistinctNames (.file content)
  | folder {entries : List (String × FileTree)} (hnames : (entries.map (·.1)).Nodup)
      (hbelow : ∀ entry ∈ entries, HasDistinctNames entry.2) : HasDistinctNames (.folder entries)

/-- The trees differ in nothing but the order in which the entries of each folder are listed. -/
inductive Relisted : FileTree → FileTree → Prop
  | file (content : ByteArray) : Relisted (.file content) (.file content)
  | folder {entries changed listed : List (String × FileTree)}
      (hnames : entries.map (·.1) = changed.map (·.1))
      (hbelow : ∀ pair ∈ entries.zip changed, Relisted pair.1.2 pair.2.2)
      (horder : changed.Perm listed) : Relisted (.folder entries) (.folder listed)

/-- The catalogue is that of the fixtures below the tree. Its categories, and the files of each, are
in order, so that none of them comes twice. -/
structure ListsFixtures (tree : FileTree) (catalogue : Catalogue) : Prop where
  inOrder : catalogue.Pairwise fun left right => compare left.1 right.1 = .lt
  filesInOrder : ∀ category files, (category, files) ∈ catalogue →
    files.Pairwise fun left right => compare left.path right.path = .lt
  notEmpty : ∀ category files, (category, files) ∈ catalogue → files ≠ []
  mem_iff : ∀ category file, (∃ files, (category, files) ∈ catalogue ∧ file ∈ files) ↔
    tree.LeadsTo file.path file.content ∧ file.IsFixtureOf category

theorem filesOfEntries_eq (entries : List (String × FileTree)) :
    filesOfEntries entries = entries.flatMap fun entry =>
      entry.2.files.map fun found => (entry.1 :: found.1, found.2) := by
  induction entries with
  | nil => rfl
  | cons entry entries ih => rw [filesOfEntries, ih, List.flatMap_cons]

theorem LeadsTo.mem_files (h : tree.LeadsTo path content) : (path, content) ∈ tree.files := by
  induction h with
  | here content => exact List.mem_singleton_self _
  | inside hentry _ ih =>
    rw [files, filesOfEntries_eq]
    exact List.mem_flatMap.mpr ⟨_, hentry, List.mem_map.mpr ⟨_, ih, rfl⟩⟩

theorem leadsTo_of_mem_files (h : (path, content) ∈ tree.files) : tree.LeadsTo path content := by
  induction path generalizing tree with
  | nil =>
    cases tree with
    | file found =>
      cases List.mem_singleton.mp h
      exact .here content
    | folder entries => simp [files, filesOfEntries_eq] at h
  | cons name path ih =>
    cases tree with
    | file found => cases List.mem_singleton.mp h
    | folder entries =>
      rw [files, filesOfEntries_eq] at h
      obtain ⟨entry, hentry, hfound⟩ := List.mem_flatMap.mp h
      obtain ⟨below, hbelow, he⟩ := List.mem_map.mp hfound
      cases he
      exact .inside hentry (ih hbelow)

theorem mem_files_iff : (path, content) ∈ tree.files ↔ tree.LeadsTo path content :=
  ⟨leadsTo_of_mem_files, LeadsTo.mem_files⟩

theorem HasDistinctNames.nodup_paths (h : tree.HasDistinctNames) :
    (tree.files.map (·.1)).Nodup := by
  induction h with
  | file content => exact List.nodup_singleton []
  | @folder entries hnames _ ih =>
    rw [files, filesOfEntries_eq, List.map_flatMap, List.nodup_flatMap]
    apply And.intro
    · intro entry hentry
      have hpaths := (ih entry hentry).map (List.cons_injective (a := entry.1))
      simpa [Function.comp_def] using hpaths
    · apply List.Pairwise.imp _ (List.pairwise_map.mp hnames)
      -- Paths into different entries begin with different names.
      intro left right hne path hleft hright
      simp only [List.map_map, List.mem_map, Function.comp] at hleft hright
      obtain ⟨_, _, rfl⟩ := hleft
      obtain ⟨_, _, he⟩ := hright
      exact hne (List.head_eq_of_cons_eq he).symm

theorem Relisted.refl (tree : FileTree) : Relisted tree tree := by
  apply (files.mutual_induct (fun tree => Relisted tree tree)
    (fun entries => ∀ pair ∈ entries.zip entries, Relisted pair.1.2 pair.2.2) ?_ ?_ ?_ ?_).1
  · exact .file
  · intro entries hentries
    exact .folder rfl hentries (.refl _)
  · exact List.forall_mem_nil _
  · intro name tree entries htree hentries
    exact List.forall_mem_cons.mpr ⟨htree, hentries⟩

theorem Relisted.of_perm (h : entries.Perm entries') :
    Relisted (.folder entries) (.folder entries') := by
  cases Relisted.refl (.folder entries) with
  | folder hnames hbelow horder => exact .folder hnames hbelow (horder.trans h)

theorem filesOfEntries_perm (hnames : entries.map (·.1) = entries'.map (·.1))
    (h : ∀ pair ∈ entries.zip entries', pair.1.2.files.Perm pair.2.2.files) :
    (filesOfEntries entries).Perm (filesOfEntries entries') := by
  induction entries generalizing entries' with
  | nil =>
    cases List.map_eq_nil_iff.mp hnames.symm
    exact .refl _
  | cons entry entries ih =>
    obtain ⟨entry', rest, rfl, hname, hrest⟩ := List.map_eq_cons_iff.mp hnames.symm
    rw [List.zip_cons_cons, List.forall_mem_cons] at h
    rw [filesOfEntries, filesOfEntries, hname]
    exact (h.1.map _).append (ih hrest.symm h.2)

theorem Relisted.files_perm (h : tree.Relisted tree') : tree.files.Perm tree'.files := by
  induction h with
  | file content => exact .refl _
  | @folder entries changed listed hnames _ horder ih =>
    have hlisted : (filesOfEntries changed).Perm (filesOfEntries listed) := by
      rw [filesOfEntries_eq, filesOfEntries_eq]
      exact horder.flatMap_right _
    exact (filesOfEntries_perm hnames ih).trans hlisted

theorem fixtures_perm_files (entries : List (String × FileTree)) :
    (folder entries).fixtures.Perm
      (((folder entries).files.map fun found => ⟨found.1, found.2⟩).filter FoundFile.isFixture) :=
  List.mergeSort_perm _ _

theorem mem_fixtures_iff : file ∈ (folder entries).fixtures ↔
    (folder entries).LeadsTo file.path file.content ∧ file.isFixture := by
  rw [(fixtures_perm_files entries).mem_iff, List.mem_filter, ← mem_files_iff]
  apply and_congr_left
  intro _
  apply Iff.intro
  · intro hfile
    obtain ⟨found, hfound, rfl⟩ := List.mem_map.mp hfile
    exact hfound
  · intro hfound
    exact List.mem_map.mpr ⟨_, hfound, rfl⟩

theorem nodup_fixture_paths (h : (tree.files.map (·.1)).Nodup) :
    (tree.fixtures.map (·.path)).Nodup := by
  cases tree with
  | file content => exact List.nodup_nil
  | folder entries =>
    rw [((fixtures_perm_files entries).map _).nodup_iff]
    apply List.Nodup.sublist (List.filter_sublist.map _)
    simpa only [List.map_map, Function.comp_def] using h

theorem fixtures_ordered (h : (tree.files.map (·.1)).Nodup) :
    tree.fixtures.Pairwise fun left right => compare left.path right.path = .lt := by
  have hdistinct := List.pairwise_map.mp (nodup_fixture_paths h)
  have hsorted : tree.fixtures.Pairwise fun left right =>
      (compare left.path right.path).isLE := by
    cases tree with
    | file content => exact .nil
    | folder entries =>
      apply List.pairwise_mergeSort
      · intro _ _ _ hleft hright
        exact Std.TransCmp.isLE_trans hleft hright
      · intro left right
        have hswap : compare right.path left.path = (compare left.path right.path).swap :=
          Std.OrientedCmp.eq_swap
        rw [hswap]
        cases compare left.path right.path <;> rfl
  apply (hdistinct.and hsorted).imp
  intro left right hboth
  obtain ⟨hne, hle⟩ := hboth
  apply (Ordering.isLE_iff_eq_lt_or_eq_eq.mp hle).resolve_right
  intro he
  exact hne (Std.LawfulEqCmp.compare_eq_iff_eq.mp he)

theorem Relisted.fixtures_perm (h : tree.Relisted tree') : tree.fixtures.Perm tree'.fixtures := by
  have hfiles := h.files_perm
  cases h with
  | file content => exact .refl _
  | folder =>
    apply (fixtures_perm_files _).trans
    apply List.Perm.trans _ (fixtures_perm_files _).symm
    exact (hfiles.map _).filter _

theorem Relisted.fixtures_eq (h : tree.Relisted tree') (hnames : tree.HasDistinctNames) :
    tree.fixtures = tree'.fixtures := by
  have hnodup := hnames.nodup_paths
  have hnodup' : (tree'.files.map (·.1)).Nodup := (h.files_perm.map _).nodup_iff.mp hnodup
  -- Two files cannot each come before the other, so one order is left for both trees.
  apply List.Perm.eq_of_pairwise _ (fixtures_ordered hnodup) (fixtures_ordered hnodup')
    h.fixtures_perm
  intro left right _ _ hlt hgt
  exact absurd hgt (Std.OrientedCmp.not_lt_of_lt hlt)

theorem Relisted.categories_eq (h : tree.Relisted tree') (hnames : tree.HasDistinctNames) :
    tree.categories = tree'.categories := by
  rw [categories, categories, h.fixtures_eq hnames]

theorem mem_categories_iff : (category, group) ∈ tree.categories ↔
    group = tree.fixtures.filter (·.category = category) ∧ group ≠ [] := by
  rw [categories, Std.TreeMap.mem_toList_iff_getElem?_eq_some, getElem?_foldl_group]
  split
  next hnone =>
    simp only [reduceCtorEq, false_iff]
    intro h
    exact h.2 (h.1.trans hnone)
  next hsome =>
    rw [Option.some_inj]
    apply Iff.intro
    · intro he
      subst he
      exact ⟨rfl, hsome⟩
    · intro h
      exact h.1.symm

theorem listsFixtures_categories (h : (folder entries).HasDistinctNames) :
    (folder entries).ListsFixtures (folder entries).categories where
  inOrder := Std.TreeMap.ordered_keys_toList
  filesInOrder := by
    intro category files hgroup
    rw [(mem_categories_iff.mp hgroup).1]
    exact (fixtures_ordered h.nodup_paths).filter _
  notEmpty := by
    intro category files hgroup
    exact (mem_categories_iff.mp hgroup).2
  mem_iff := by
    intro category file
    have hmem : file ∈ (folder entries).fixtures.filter (·.category = category) ↔
        (folder entries).LeadsTo file.path file.content ∧ file.IsFixtureOf category := by
      rw [FoundFile.isFixtureOf_iff, ← and_assoc, ← mem_fixtures_iff, List.mem_filter,
        decide_eq_true_iff]
    rw [← hmem]
    apply Iff.intro
    · intro hfile
      obtain ⟨files, hgroup, hfile⟩ := hfile
      rw [← (mem_categories_iff.mp hgroup).1]
      exact hfile
    · intro hfile
      exact ⟨_, mem_categories_iff.mpr ⟨rfl, List.ne_nil_of_mem hfile⟩, hfile⟩

end FileTree

end FreeOrder
