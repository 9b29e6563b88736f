import FreeOrder.CommandLine.Outcome
import FreeOrder.Proofs.Discovery

namespace FreeOrder

theorem ne_of_compare_lt {α : Type} [Ord α] [Std.ReflOrd α] {left right : α}
    (h : compare left right = .lt) : left ≠ right := by
  intro he
  rw [he, Std.ReflOrd.compare_self] at h
  cases h

namespace Category

variable {α : Type} {entries : List (Category × α)} {entry : Category × α}
  {requested : List String} {category name : Category}

def LiesIn (category name : Category) : Prop :=
  category = name ∨ ∃ below, category = name ++ "/" ++ below

def IsRequested (requested : List String) (category : Category) : Prop :=
  requested = [] ∨ ∃ name ∈ requested, LiesIn category (trimSlashes name)

theorem isWithin_iff : isWithin category name ↔ LiesIn category name := by
  rw [isWithin, LiesIn, Bool.or_eq_true, beq_iff_eq, List.isPrefixOf_iff_prefix]
  apply or_congr_right
  apply Iff.intro
  · intro h
    obtain ⟨below, hbelow⟩ := h
    refine ⟨String.ofList below, String.toList_injective ?_⟩
    simp [← hbelow]
  · intro h
    obtain ⟨below, rfl⟩ := h
    rw [String.toList_append, String.toList_append]
    exact List.prefix_append _ _

theorem mem_select_iff :
    entry ∈ select entries requested ↔ entry ∈ entries ∧ IsRequested requested entry.1 := by
  rw [select, IsRequested]
  split
  next hnone => simp [List.isEmpty_iff.mp hnone]
  next hsome =>
    have hne : requested ≠ [] := by simpa using hsome
    simp [hne, isWithin_iff]

theorem select_sublist : (select entries requested).Sublist entries := by
  rw [select]
  split
  · exact .refl _
  · exact List.filter_sublist

end Category

/-- Whether a fixture can be read does not depend on what is said when it cannot. -/
theorem Fixture.ofText_eq_ok_of {complaint : Toml.Complaint} {text : String} {fixture : Fixture}
    (h : ofText complaint text = .ok fixture) (other : Toml.Complaint) :
    ofText other text = .ok fixture := by
  rw [ofText] at h ⊢
  split at h
  · cases h
  · split at h
    · exact h
    · cases h

namespace FoundFile

/-- The file can be read, and its script does what is expected of it. -/
def Passes (file : FoundFile) : Prop :=
  ∃ text fixture, (FileTree.file file.content).text = .ok text ∧
    (∀ complaint, Fixture.ofText complaint text = .ok fixture) ∧ fixture.shortfall? = none

def trial (complaint : Toml.Complaint) (path : String) (file : FoundFile) : Trial :=
  Trial.ofFile complaint (CommandLine.Outcome.joinPath path file.path) file.content

theorem passed_trial_iff {file : FoundFile} (complaint : Toml.Complaint) (path : String) :
    (file.trial complaint path).passed ↔ file.Passes := by
  rw [trial, Trial.ofFile, Passes]
  cases (FileTree.file file.content).text with
  | error failure => simp [Trial.passed]
  | ok text =>
    cases hfixture : Fixture.ofText complaint text with
    | error error =>
      simp only [hfixture]
      apply iff_of_false Bool.false_ne_true
      rintro ⟨_, fixture, htext, hread, _⟩
      cases htext
      rw [hread] at hfixture
      cases hfixture
    | ok fixture =>
      have hread := Fixture.ofText_eq_ok_of hfixture
      simp [Trial.passed, hread]

instance (file : FoundFile) : Decidable file.Passes :=
  decidable_of_iff _ (file.passed_trial_iff id "")

theorem passed_trial (complaint : Toml.Complaint) (path : String) (file : FoundFile) :
    (file.trial complaint path).passed = decide file.Passes := by
  rw [Bool.eq_iff_iff, passed_trial_iff, decide_eq_true_iff]

end FoundFile

namespace Catalogue

variable {catalogue selected : Catalogue} {tree : FileTree}

def files (catalogue : Catalogue) : List FoundFile :=
  catalogue.flatMap (·.2)

def passing (catalogue : Catalogue) : List FoundFile :=
  catalogue.files.filter (·.Passes)

def failing (catalogue : Catalogue) : List FoundFile :=
  catalogue.files.filter (¬ ·.Passes)

/-- The line of a file says truly whether it passes. -/
def verdictLine (complaint : Toml.Complaint) (path : String) (inColor : Bool) (file : FoundFile) :
    String :=
  let mark :=
    if file.Passes then Report.paint inColor "32" "ok  " else Report.paint inColor "31" "FAIL"
  "  " ++ mark ++ " " ++ (file.trial complaint path).name

def verdictLines (complaint : Toml.Complaint) (path : String) (inColor : Bool)
    (group : Category × List FoundFile) : List String :=
  "" :: Report.paint inColor "1" group.1.label :: group.2.map (verdictLine complaint path inColor)

def totals (inColor : Bool) (passed failed : Nat) : String :=
  let verdict :=
    if failed = 0 then Report.paint inColor "32" "ok" else Report.paint inColor "31" "FAILED"
  verdict ++ ": " ++ toString passed ++ " passed, " ++ toString failed ++ " failed"

def report (catalogue : Catalogue) (complaint : Toml.Complaint) (path : String) (inColor : Bool) :
    Report where
  groups := catalogue.map fun (category, files) => (category, files.map (·.trial complaint path))
  inColor := inColor

variable {complaint : Toml.Complaint} {path : String} {inColor : Bool}

theorem report_trials : (catalogue.report complaint path inColor).trials =
    catalogue.files.map (·.trial complaint path) := by
  rw [Report.trials, report, files, List.flatMap_map, List.map_flatMap]

theorem report_failed : (catalogue.report complaint path inColor).failed =
    catalogue.failing.map (·.trial complaint path) := by
  rw [Report.failed, report_trials, List.filter_map, failing]
  congr 2
  funext file
  simp [FoundFile.passed_trial]

theorem report_passedCount : (catalogue.report complaint path inColor).passedCount =
    catalogue.passing.length := by
  rw [Report.passedCount, report_trials, List.filter_map, List.length_map, passing]
  congr 2
  funext file
  exact FoundFile.passed_trial complaint path file

theorem passing_add_failing (catalogue : Catalogue) :
    catalogue.passing.length + catalogue.failing.length = catalogue.files.length := by
  rw [catalogue.files.length_eq_length_filter_add (·.Passes), passing, failing]
  simp only [decide_not]

theorem failing_eq_nil_iff : catalogue.failing = [] ↔ ∀ file ∈ catalogue.files, file.Passes := by
  simp [failing]

theorem report_lines : (catalogue.report complaint path inColor).lines =
    catalogue.flatMap (verdictLines complaint path inColor) ++
      catalogue.failing.flatMap (fun file => Report.failureLines (file.trial complaint path)) ++
      ["", totals inColor catalogue.passing.length catalogue.failing.length] := by
  have hgroup : ∀ group : Category × List FoundFile,
      Report.groupLines inColor (group.1, group.2.map (·.trial complaint path)) =
        verdictLines complaint path inColor group := by
    intro group
    rw [Report.groupLines, verdictLines, List.map_map]
    congr 2
    apply List.map_congr_left
    intro file _
    simp [Report.trialLine, verdictLine, FoundFile.passed_trial]
  have hsummary : (catalogue.report complaint path inColor).summary =
      totals inColor catalogue.passing.length catalogue.failing.length := by
    rw [Report.summary, report_failed, report_passedCount, totals, List.length_map]
    simp [report]
  rw [Report.lines, report_failed, hsummary, List.flatMap_map, report, List.flatMap_map]
  simp only [hgroup]

/-- The selected are the requested categories of the catalogue with all their files, in the order of
the catalogue. -/
structure Selects (requested : List String) (catalogue selected : Catalogue) : Prop where
  inOrder : selected.Sublist catalogue
  mem_iff : ∀ group, group ∈ selected ↔
    group ∈ catalogue ∧ Category.IsRequested requested group.1

theorem selects_select (requested : List String) (catalogue : Catalogue) :
    Selects requested catalogue (Category.select catalogue requested) where
  inOrder := Category.select_sublist
  mem_iff := fun _ => Category.mem_select_iff

end Catalogue

/-- The files are the fixtures below the tree whose categories are requested, each of them once. -/
structure FileTree.RequestedFiles (tree : FileTree) (requested : List String)
    (files : List FoundFile) : Prop where
  once : (files.map (·.path)).Nodup
  mem_iff : ∀ file, file ∈ files ↔ tree.LeadsTo file.path file.content ∧
    ∃ category, file.IsFixtureOf category ∧ category.IsRequested requested

section Selection

open Catalogue

variable {tree : FileTree} {catalogue selected : Catalogue} {requested : List String}

theorem FileTree.ListsFixtures.mem_files_iff (h : tree.ListsFixtures catalogue)
    (hselects : Selects requested catalogue selected) {file : FoundFile} :
    file ∈ selected.files ↔ tree.LeadsTo file.path file.content ∧
      ∃ category, file.IsFixtureOf category ∧ category.IsRequested requested := by
  apply Iff.intro
  · intro hfile
    obtain ⟨group, hgroup, hfile⟩ := List.mem_flatMap.mp hfile
    obtain ⟨hgroup, hrequested⟩ := (hselects.mem_iff group).mp hgroup
    obtain ⟨hleads, hfixture⟩ := (h.mem_iff group.1 file).mp ⟨group.2, hgroup, hfile⟩
    exact ⟨hleads, group.1, hfixture, hrequested⟩
  · intro hfile
    obtain ⟨hleads, category, hfixture, hrequested⟩ := hfile
    obtain ⟨files, hgroup, hfile⟩ := (h.mem_iff category file).mpr ⟨hleads, hfixture⟩
    have hselected := (hselects.mem_iff (category, files)).mpr ⟨hgroup, hrequested⟩
    exact List.mem_flatMap.mpr ⟨_, hselected, hfile⟩

theorem FileTree.ListsFixtures.nodup_files (h : tree.ListsFixtures catalogue)
    (hselects : Selects requested catalogue selected) : (selected.files.map (·.path)).Nodup := by
  have hcategory : ∀ group ∈ selected, ∀ file ∈ group.2, file.category = group.1 := by
    intro group hgroup file hfile
    have hlisted := ((hselects.mem_iff group).mp hgroup).1
    have hfixture := ((h.mem_iff group.1 file).mp ⟨group.2, hlisted, hfile⟩).2
    exact (FoundFile.isFixtureOf_iff.mp hfixture).2
  rw [Catalogue.files, List.map_flatMap, List.nodup_flatMap]
  apply And.intro
  · intro group hgroup
    have hlisted := ((hselects.mem_iff group).mp hgroup).1
    apply List.pairwise_map.mpr
    apply (h.filesInOrder group.1 group.2 hlisted).imp
    exact ne_of_compare_lt
  · -- The path of a file decides its category, so no file is in two of them.
    apply (h.inOrder.sublist hselects.inOrder).imp_of_mem
    intro left right hleft hright hlt path hinLeft hinRight
    obtain ⟨file, hfile, rfl⟩ := List.mem_map.mp hinLeft
    obtain ⟨file', hfile', hpath⟩ := List.mem_map.mp hinRight
    apply ne_of_compare_lt hlt
    rw [← hcategory left hleft file hfile, ← hcategory right hright file' hfile',
      FoundFile.category, FoundFile.category, hpath]

end Selection

namespace CommandLine.Outcome

open Catalogue

variable {complaint : Toml.Complaint} {path : String} {inColor : Bool} {catalogue : Catalogue}
  {outcome : Outcome}
  {entries : List (String × FileTree)} {tree : FileTree} {requested : List String}

/-- The outcome is that of trying out the files of the catalogue, each of them once. -/
structure Reports (complaint : Toml.Complaint) (path : String) (inColor : Bool)
    (catalogue : Catalogue) (outcome : Outcome) : Prop where
  messages_of_none : catalogue = [] →
    outcome.messages = ["no " ++ FoundFile.suffix ++ " files to run under " ++ path]
  messages_of_some : catalogue ≠ [] → outcome.messages =
    catalogue.flatMap (verdictLines complaint path inColor) ++
      catalogue.failing.flatMap (fun file => Report.failureLines (file.trial complaint path)) ++
      ["", totals inColor catalogue.passing.length catalogue.failing.length]
  total : catalogue.passing.length + catalogue.failing.length = catalogue.files.length
  exitCode_eq_zero_iff : outcome.exitCode = 0 ↔
    catalogue ≠ [] ∧ ∀ file ∈ catalogue.files, file.Passes

theorem trials_folder : trials complaint path (.ok (.folder entries)) requested =
    (Category.select (FileTree.folder entries).categories requested).map fun (category, files) =>
      (category, files.map (·.trial complaint path)) :=
  rfl

theorem ofTest_of_empty (h : Category.select (FileTree.folder entries).categories requested = []) :
    ofTest complaint path (.ok (.folder entries)) requested inColor =
      failure ["no " ++ FoundFile.suffix ++ " files to run under " ++ path] := by
  rw [ofTest, trials_folder, h]
  rfl

theorem ofTest_of_ne
    (h : Category.select (FileTree.folder entries).categories requested ≠ []) :
    ofTest complaint path (.ok (.folder entries)) requested inColor =
      let report := report (Category.select (FileTree.folder entries).categories requested)
        complaint path inColor
      { exitCode := if report.failed.isEmpty then 0 else 1, messages := report.lines } := by
  obtain ⟨group, rest, hgroups⟩ := List.exists_cons_of_ne_nil h
  rw [ofTest, trials_folder, hgroups]
  rfl

theorem reports_ofTest (complaint : Toml.Complaint) (path : String)
    (entries : List (String × FileTree)) (requested : List String) (inColor : Bool) :
    Reports complaint path inColor (Category.select (FileTree.folder entries).categories requested)
      (ofTest complaint path (.ok (.folder entries)) requested inColor) where
  messages_of_none := by
    intro hnone
    rw [ofTest_of_empty hnone]
    rfl
  messages_of_some := by
    intro hsome
    rw [ofTest_of_ne hsome]
    exact report_lines
  total := passing_add_failing _
  exitCode_eq_zero_iff := by
    by_cases hnone : Category.select (FileTree.folder entries).categories requested = []
    · rw [ofTest_of_empty hnone]
      simp [failure, hnone]
    · rw [ofTest_of_ne hnone, ← failing_eq_nil_iff]
      simp [hnone, report_failed]

theorem ofTest_of_relisted (h : (FileTree.folder entries).Relisted tree)
    (hnames : (FileTree.folder entries).HasDistinctNames) :
    ofTest complaint path (.ok tree) requested inColor =
      ofTest complaint path (.ok (.folder entries)) requested inColor := by
  have hcategories := h.categories_eq hnames
  cases h with
  | folder => rw [ofTest, ofTest, trials_folder, trials_folder, hcategories]

/-- Trying out the fixtures below a folder finds all of them, tries out those that are requested,
each of them once, and tells truly what has come of them. In which order the folders are listed does
not matter. -/
theorem ofTest_reports (h : (FileTree.folder entries).HasDistinctNames)
    (complaint : Toml.Complaint) (path : String) (requested : List String) (inColor : Bool) :
    let tree := FileTree.folder entries
    let selected := Category.select tree.categories requested
    let outcome := ofTest complaint path (.ok tree) requested inColor
    tree.ListsFixtures tree.categories ∧
    Selects requested tree.categories selected ∧
    tree.RequestedFiles requested (files selected) ∧
    Reports complaint path inColor selected outcome ∧
    ∀ relisted, tree.Relisted relisted → relisted.categories = tree.categories ∧
      ofTest complaint path (.ok relisted) requested inColor = outcome := by
  have hlists := FileTree.listsFixtures_categories h
  have hselects := selects_select requested (FileTree.folder entries).categories
  refine ⟨hlists, hselects, ⟨hlists.nodup_files hselects, ?_⟩, reports_ofTest .., ?_⟩
  · intro file
    exact hlists.mem_files_iff hselects
  · intro relisted hrelisted
    exact ⟨(hrelisted.categories_eq h).symm, ofTest_of_relisted hrelisted h⟩

/-- A folder with one fixture that passes, and one below it that fails. -/
def sayAndYell : List (String × FileTree) :=
  [("errors", .folder [("yell.test.fv", .file "---\n\n---\nv(yell)\n".toUTF8)]),
    ("notes.txt", .file "No fixture.\n".toUTF8),
    ("say.test.fv", .file
      "---\nexpect_output = 'x'\n[verbs]\nsay = 'output'\n---\nv(say) o(\"x\")\n".toUTF8)]

theorem fixtures_sayAndYell : (FileTree.folder sayAndYell).fixtures =
    [⟨["errors", "yell.test.fv"], "---\n\n---\nv(yell)\n".toUTF8⟩,
      ⟨["say.test.fv"],
        "---\nexpect_output = 'x'\n[verbs]\nsay = 'output'\n---\nv(say) o(\"x\")\n".toUTF8⟩] := by
  apply List.mergeSort_of_pairwise
  decide +kernel

theorem ofTest_reports_say_yell : (FileTree.folder sayAndYell).HasDistinctNames ∧
    Reports id "tests" false (Category.select (FileTree.folder sayAndYell).categories [])
      (ofTest id "tests" (.ok (.folder sayAndYell)) [] false) ∧
    ofTest id "tests" (.ok (.folder sayAndYell.reverse)) [] false =
      failure ["", "(root)", "  ok   say", "", "errors", "  FAIL yell", "",
        "tests/errors/yell.test.fv:", "    unexpected runtime error: unknown verb: yell", "",
        "FAILED: 1 passed, 1 failed"] := by
  have hnames : (FileTree.folder sayAndYell).HasDistinctNames := by
    apply FileTree.HasDistinctNames.folder (by decide)
    simp only [sayAndYell, List.forall_mem_cons, List.not_mem_nil, false_implies, implies_true,
      and_true]
    apply And.intro
    · apply FileTree.HasDistinctNames.folder (by decide)
      simp [FileTree.HasDistinctNames.file]
    · exact ⟨.file _, .file _⟩
  obtain ⟨_, _, _, hreports, hrelisted⟩ := ofTest_reports hnames id "tests" [] false
  refine ⟨hnames, hreports, ?_⟩
  rw [(hrelisted _ (.of_perm (List.reverse_perm _).symm)).2, ofTest, trials_folder,
    FileTree.categories, fixtures_sayAndYell]
  decide +kernel

end CommandLine.Outcome

end FreeOrder
