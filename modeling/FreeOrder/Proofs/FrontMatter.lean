import FreeOrder.Fixture.FrontMatter
import FreeOrder.Proofs.TermReading
import Mathlib.Data.List.DropRight

namespace FreeOrder

inductive LineEnd
  | feed
  | returnFeed
deriving DecidableEq, Repr

namespace LineEnd

def returns : LineEnd → List Char
  | feed => []
  | returnFeed => ['\r']

def text (ending : LineEnd) : List Char :=
  ending.returns ++ ['\n']

theorem eq_of_mem_returns {ending : LineEnd} {c : Char} (h : c ∈ ending.returns) : c = '\r' := by
  cases ending with
  | feed => cases h
  | returnFeed => exact List.mem_singleton.mp h

theorem dropLineBreak_text (ending : LineEnd) (rest : List Char) :
    Text.dropLineBreak (ending.text ++ rest) = rest := by
  cases ending <;> rfl

end LineEnd

namespace FrontMatter

def dashes : List Char := ['-', '-', '-']

/-- A line that can be part of front matter: it holds no line end, and does not begin like the line
that closes the front matter. -/
structure IsFrontLine (line : List Char) : Prop where
  noFeed : '\n' ∉ line
  noReturn : '\r' ∉ line
  noDashes : ¬dashes <+: line

/-- The text of a fixture that has the lines as its front matter, after some byte order marks. -/
def written (marks : Nat) (ending : LineEnd) (lines : List (List Char)) (source : List Char) :
    List Char :=
  List.replicate marks '\uFEFF' ++
    (dashes ++ ending.text ++ lines.flatMap (· ++ ending.text) ++ dashes ++ ending.text ++ source)

variable {line rest front back source : List Char} {lines : List (List Char)} {c : Char}
  {ending : LineEnd}

theorem not_closing_of_ne (h : c ≠ '\n') : ¬ '\n' :: dashes <+: c :: rest := by
  intro hclosing
  exact h (List.cons_prefix_cons.mp hclosing).1.symm

/-- A character belongs to the front matter unless the closing line begins right after it. -/
theorem splitAtClosing_cons (h : ¬ '\n' :: dashes <+: c :: rest) : splitAtClosing (c :: rest) =
    (splitAtClosing rest).map fun (front, back) => (c :: front, back) := by
  rw [splitAtClosing.eq_def]
  split
  next he => cases he
  next back he => exact absurd ⟨back, he.symm⟩ h
  next he =>
    cases he
    rfl

theorem splitAtClosing_append (hline : '\n' ∉ line) (h : splitAtClosing rest = some (front, back)) :
    splitAtClosing (line ++ rest) = some (line ++ front, back) := by
  induction line with
  | nil => exact h
  | cons c line ih =>
    rw [List.mem_cons, not_or] at hline
    rw [List.cons_append, splitAtClosing_cons (not_closing_of_ne (Ne.symm hline.1)), ih hline.2]
    rfl

theorem prefix_of_prefix_append_cons {part : List Char} (hc : c ∉ part)
    (h : part <+: line ++ c :: rest) : part <+: line := by
  induction part generalizing line with
  | nil => exact List.nil_prefix
  | cons first part ih =>
    rw [List.mem_cons, not_or] at hc
    cases line with
    | nil => exact absurd (List.cons_prefix_cons.mp h).1.symm hc.1
    | cons other line =>
      obtain ⟨hfirst, hpart⟩ := List.cons_prefix_cons.mp h
      exact List.cons_prefix_cons.mpr ⟨hfirst, ih hc.2 hpart⟩

theorem IsFrontLine.not_begins (h : IsFrontLine line) (ending : LineEnd) (rest : List Char) :
    ¬dashes <+: line ++ (ending.text ++ rest) := by
  intro hdashes
  cases ending with
  | feed => exact h.noDashes (prefix_of_prefix_append_cons (by decide) hdashes)
  | returnFeed => exact h.noDashes (prefix_of_prefix_append_cons (by decide) hdashes)

theorem flatMap_cons_append : (line :: lines).flatMap (· ++ ending.text) ++ rest =
    line ++ (ending.returns ++ '\n' :: (lines.flatMap (· ++ ending.text) ++ rest)) := by
  simp [LineEnd.text]

/-- The front matter ends at the line that begins with dashes, for none of its own lines does. -/
theorem splitAtClosing_lines (h : ∀ other ∈ line :: lines, IsFrontLine other) (ending : LineEnd)
    (back : List Char) :
    splitAtClosing ((line :: lines).flatMap (· ++ ending.text) ++ (dashes ++ back)) =
      some (ending.text.intercalate (line :: lines) ++ ending.returns, back) := by
  have hreturns : '\n' ∉ ending.returns := by
    intro hmem
    cases LineEnd.eq_of_mem_returns hmem
  induction lines generalizing line with
  | nil =>
    have hline := (h line List.mem_cons_self).noFeed
    have hclosing : splitAtClosing ('\n' :: (dashes ++ back)) = some ([], back) := rfl
    have hsplit := splitAtClosing_append hline (splitAtClosing_append hreturns hclosing)
    rw [flatMap_cons_append, List.intercalate_singleton]
    simpa using hsplit
  | cons next lines ih =>
    obtain ⟨hline, hlines⟩ := List.forall_mem_cons.mp h
    have hnext : ¬ '\n' :: dashes <+:
        '\n' :: ((next :: lines).flatMap (· ++ ending.text) ++ (dashes ++ back)) := by
      intro hclosing
      have hdashes := (List.cons_prefix_cons.mp hclosing).2
      rw [List.flatMap_cons, List.append_assoc, List.append_assoc] at hdashes
      exact (hlines next List.mem_cons_self).not_begins ending _ hdashes
    have hfeed := splitAtClosing_cons hnext
    rw [ih hlines] at hfeed
    have hsplit := splitAtClosing_append hline.noFeed (splitAtClosing_append hreturns hfeed)
    rw [flatMap_cons_append, hsplit, List.intercalate_cons_cons]
    simp [LineEnd.text]

theorem getLast?_intercalate (h : ∀ other ∈ line :: lines, IsFrontLine other) (ending : LineEnd) :
    (ending.text.intercalate (line :: lines)).getLast? ≠ some '\r' := by
  induction lines generalizing line with
  | nil =>
    rw [List.intercalate_singleton]
    intro hlast
    exact (h line List.mem_cons_self).noReturn (List.mem_of_getLast? hlast)
  | cons next lines ih =>
    obtain ⟨_, hlines⟩ := List.forall_mem_cons.mp h
    rw [List.intercalate_cons_cons, List.getLast?_append]
    cases hlast : (ending.text.intercalate (next :: lines)).getLast? with
    | none => simp [LineEnd.text]
    | some c =>
      rw [← hlast]
      simpa [hlast] using ih hlines

/-- A carriage return that belongs to the closing line is no part of the front matter. -/
theorem dropReturns_append (h : front.getLast? ≠ some '\r') (ending : LineEnd) :
    dropReturns (front ++ ending.returns) = front := by
  rw [dropReturns, List.reverse_eq_iff, List.reverse_append, dropWhile_eq_iff]
  refine ⟨⟨ending.returns.reverse, rfl, ?_⟩, ?_⟩
  · intro c hc
    exact beq_iff_eq.mpr (LineEnd.eq_of_mem_returns (List.mem_reverse.mp hc))
  · intro c hc
    rw [List.head?_reverse] at hc
    apply beq_eq_false_iff_ne.mpr
    intro he
    subst he
    exact h hc

theorem dropMarks_written (marks : Nat) (ending : LineEnd) (lines : List (List Char))
    (source : List Char) : (written marks ending lines source).dropWhile (· == '\uFEFF') =
      '-' :: '-' :: '-' :: (ending.text ++ (lines.flatMap (· ++ ending.text) ++
        (dashes ++ (ending.text ++ source)))) := by
  rw [written, List.dropWhile_append_of_pos (by simp)]
  simp [dashes]

theorem split_written_of_some (h : splitAtClosing (lines.flatMap (· ++ ending.text) ++
      (dashes ++ (ending.text ++ source))) = some (front, back)) (marks : Nat) :
    split (written marks ending lines source) =
      .ok (dropReturns front, Text.dropLineBreak back) := by
  rw [split, dropMarks_written]
  simp only [LineEnd.dropLineBreak_text, h]

theorem split_written_of_none (h : splitAtClosing (lines.flatMap (· ++ ending.text) ++
      (dashes ++ (ending.text ++ source))) = none) (marks : Nat) :
    split (written marks ending lines source) = .error .noClosing := by
  rw [split, dropMarks_written]
  simp only [LineEnd.dropLineBreak_text, h]

theorem split_written_cons (h : ∀ other ∈ line :: lines, IsFrontLine other) (marks : Nat)
    (ending : LineEnd) (source : List Char) :
    split (written marks ending (line :: lines) source) =
      .ok (ending.text.intercalate (line :: lines), source) := by
  rw [split_written_of_some (splitAtClosing_lines h ending (ending.text ++ source)),
    dropReturns_append (getLast?_intercalate h ending), LineEnd.dropLineBreak_text]

/-- Without a line between them, the delimiters do not have the empty text between them either: the
second one is taken for front matter. -/
theorem split_written_nil_ne (marks : Nat) (ending : LineEnd) (source back : List Char) :
    split (written marks ending [] source) ≠ .ok ([], back) := by
  intro h
  cases hsplit : splitAtClosing ([].flatMap (· ++ ending.text) ++
      (dashes ++ (ending.text ++ source))) with
  | none =>
    rw [split_written_of_none hsplit] at h
    cases h
  | some parts =>
    obtain ⟨front, found⟩ := parts
    rw [split_written_of_some hsplit] at h
    rw [List.flatMap_nil, List.nil_append, dashes, List.cons_append,
      splitAtClosing_cons (not_closing_of_ne (by decide))] at hsplit
    obtain ⟨_, _, he⟩ := Option.map_eq_some_iff.mp hsplit
    cases he
    injection h with hparts
    have hempty := List.rdropWhile_eq_nil_iff.mp (congrArg Prod.fst hparts)
    cases hempty '-' List.mem_cons_self

end FrontMatter

namespace Fixture

variable {fixture fixture' : Fixture} {settings : List (String × Toml.Value)}

theorem source_set {setting : String × Toml.Value} (h : fixture.set setting = some fixture') :
    fixture'.source = fixture.source := by
  unfold set at h
  split at h
  · cases h
    rfl
  · obtain ⟨table, _, he⟩ := Option.bind_eq_some_iff.mp h
    cases he
    rfl
  · cases h
    rfl
  · cases h
    rfl
  · cases h
    rfl
  · cases h

theorem source_foldlM_set (h : settings.foldlM set fixture = some fixture') :
    fixture'.source = fixture.source := by
  induction settings generalizing fixture with
  | nil =>
    cases h
    rfl
  | cons setting settings ih =>
    rw [List.foldlM_cons] at h
    obtain ⟨next, hnext, hsettings⟩ := Option.bind_eq_some_iff.mp h
    rw [ih hsettings, source_set hnext]

theorem source_ofToml? {front source : String} (h : ofToml? front source = some fixture) :
    fixture.source = source := by
  obtain ⟨document, _, hsettings⟩ := Option.bind_eq_some_iff.mp h
  exact source_foldlM_set hsettings

theorem ofText_of_split (complaint : Toml.Complaint) {content : String} {front back : List Char}
    (h : FrontMatter.split content.toList = .ok (front, back)) :
    ofText complaint content = (ofToml? (.ofList front) (.ofList back)).elim
      (.error (.malformed (complaint (.ofList front)))) .ok := by
  simp only [ofText, h]
  cases ofToml? (String.ofList front) (String.ofList back) <;> rfl

end Fixture

namespace FrontMatter

variable {lines : List (List Char)}

/-- Front matter is split off a fixture exactly when there is a line of it: then what is read as
settings is its lines, and all that follows it is the source. -/
theorem split_written_iff (h : ∀ line ∈ lines, IsFrontLine line) (marks : Nat) (ending : LineEnd)
    (source : List Char) (complaint : Toml.Complaint) :
    let content := written marks ending lines source
    let front := ending.text.intercalate lines
    let fixture? := Fixture.ofToml? (.ofList front) (.ofList source)
    (split content = .ok (front, source) ↔ lines ≠ []) ∧
    (lines ≠ [] → Fixture.ofText complaint (.ofList content) =
      fixture?.elim (.error (.malformed (complaint (.ofList front)))) .ok) ∧
    ∀ fixture, fixture? = some fixture → fixture.source = .ofList source := by
  intro content front fixture?
  have hsplit : lines ≠ [] → split content = .ok (front, source) := by
    intro hne
    cases lines with
    | nil => exact (hne rfl).elim
    | cons line lines => exact split_written_cons h marks ending source
  refine ⟨⟨?_, hsplit⟩, ?_, ?_⟩
  · intro hok hnone
    subst hnone
    exact split_written_nil_ne marks ending source source hok
  · intro hne
    apply Fixture.ofText_of_split
    rw [String.toList_ofList, hsplit hne]
  · intro fixture hfixture
    exact Fixture.source_ofToml? hfixture

theorem split_written_iff_settings_and_blank :
    let lines := ["expect_output = 'x'".toList, []]
    let source := "\n---\nv(print) o(\"x\")".toList
    (∀ line ∈ lines, IsFrontLine line) ∧
    split (written 2 .returnFeed lines source) = .ok ("expect_output = 'x'\r\n".toList, source) ∧
    ∃ fixture, Fixture.ofText (fun _ => "expected `]`")
        (.ofList (written 2 .returnFeed lines source)) = .ok fixture ∧
      fixture.source = .ofList source := by
  intro lines source
  have hlines : ∀ line ∈ lines, IsFrontLine line := by
    intro line hline
    have hall : ∀ line ∈ lines, '\n' ∉ line ∧ '\r' ∉ line ∧ ¬dashes <+: line := by decide
    obtain ⟨hfeed, hreturn, hdashes⟩ := hall line hline
    exact ⟨hfeed, hreturn, hdashes⟩
  have hne : lines ≠ [] := List.cons_ne_nil _ _
  obtain ⟨hsplit, htext, hsource⟩ := split_written_iff hlines 2 .returnFeed source
    fun _ => "expected `]`"
  have hsome : (Fixture.ofToml? (.ofList (LineEnd.returnFeed.text.intercalate lines))
      (.ofList source)).isSome = true := by decide +kernel
  obtain ⟨fixture, hfixture⟩ := Option.isSome_iff_exists.mp hsome
  refine ⟨hlines, hsplit.mpr hne, fixture, ?_, hsource fixture hfixture⟩
  rw [htext hne, hfixture]
  rfl

/-- Delimiters with nothing between them count as an opening one only, though nothing at all would
do as settings. -/
theorem split_without_lines :
    let content := written 0 .feed [] "v(print)\n".toList
    split content = .error .noClosing ∧
      (∀ complaint, Fixture.ofText complaint (.ofList content) = .error .noClosing) ∧
      (Fixture.ofToml? "" "v(print)\n").isSome := by
  intro content
  have hsplit : split content = .error .noClosing := by decide +kernel
  refine ⟨hsplit, fun complaint => ?_, by decide +kernel⟩
  rw [Fixture.ofText, String.toList_ofList, hsplit]

end FrontMatter

end FreeOrder
