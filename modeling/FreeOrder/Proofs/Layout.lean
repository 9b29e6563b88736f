import FreeOrder.Sentence.Reading
import Mathlib.Data.List.TakeWhile

namespace FreeOrder

/-- A verb can be written if its name is not empty and holds neither blanks nor parentheses. An
object can be written if its literal is a content without quotes, between two quotes. -/
def Term.IsWritable : Term → Prop
  | .verb name => name ≠ "" ∧ ∀ c ∈ name.toList, isBlank c = false ∧ c ≠ '(' ∧ c ≠ ')'
  | .directObject literal =>
    ∃ content : String, '"' ∉ content.toList ∧ literal = "\"" ++ content ++ "\""

def Role.written (role : Role) : Bool → String
  | true => role.terseMarker
  | false => role.marker

theorem Role.ofMarker?_written (role : Role) (terse : Bool) :
    Role.ofMarker? (role.written terse) = some role := by
  cases terse with
  | false => exact ofMarker?_marker role
  | true => exact ofMarker?_terseMarker role

theorem Role.exists_written {marker : String} {role : Role} (h : ofMarker? marker = some role) :
    ∃ terse, marker = role.written terse := by
  rcases ofMarker?_eq_some_iff.mp h with he | he
  · exact ⟨false, he⟩
  · exact ⟨true, he⟩

theorem Role.isMarkerChar_written (role : Role) (terse : Bool) :
    ∀ c ∈ (role.written terse).toList, Term.isMarkerChar c = true := by
  have hall : (role.written terse).toList.all Term.isMarkerChar = true := by
    cases role <;> cases terse <;> decide
  exact List.all_eq_true.mp hall

theorem Role.written_ne_nil (role : Role) (terse : Bool) : (role.written terse).toList ≠ [] := by
  cases role <;> cases terse <;> decide

structure Word where
  term : Term
  terse : Bool
  writable : term.IsWritable

namespace Word

def text (word : Word) : List Char :=
  (word.term.role.written word.terse).toList ++ '(' :: (word.term.text.toList ++ [')'])

def located (word : Word) (position : Nat) : Located Term :=
  ⟨word.term, .ofText position word.text⟩

theorem text_eq_cons (word : Word) :
    ∃ c rest, word.text = c :: rest ∧ Term.isMarkerChar c = true := by
  obtain ⟨c, rest, he⟩ := List.exists_cons_of_ne_nil (word.term.role.written_ne_nil word.terse)
  refine ⟨c, rest ++ '(' :: (word.term.text.toList ++ [')']), ?_, ?_⟩
  · rw [text, he, List.cons_append]
  · apply word.term.role.isMarkerChar_written word.terse
    rw [he]
    exact List.mem_cons_self

theorem text_append (word : Word) (rest : List Char) :
    word.text ++ rest =
      (word.term.role.written word.terse).toList ++
        '(' :: (word.term.text.toList ++ ')' :: rest) := by
  simp [text]

theorem mem_text_of_mem {word : Word} {c : Char} (h : c ∈ word.term.text.toList) :
    c ∈ word.text := by
  rw [text, List.mem_append, List.mem_cons, List.mem_append]
  exact .inr (.inr (.inl h))

end Word

/-- Words with the blanks after each of them. Only after the last word there may be none. -/
inductive IsSpaced : List (Word × List Char) → Prop
  | last {word : Word} {gap : List Char} (hgap : Text.IsBlank gap) : IsSpaced [(word, gap)]
  | cons {word : Word} {gap : List Char} {words : List (Word × List Char)}
      (hgap : Text.IsBlank gap) (hne : gap ≠ []) (hwords : IsSpaced words) :
      IsSpaced ((word, gap) :: words)

def spell (words : List (Word × List Char)) : List Char :=
  words.flatMap fun (word, gap) => word.text ++ gap

@[simp]
theorem spell_nil : spell [] = [] := rfl

@[simp]
theorem spell_cons (word : Word) (gap : List Char) (words : List (Word × List Char)) :
    spell ((word, gap) :: words) = word.text ++ (gap ++ spell words) := by
  simp [spell]

theorem IsSpaced.spell_eq_cons {words : List (Word × List Char)} (h : IsSpaced words) :
    ∃ c rest, spell words = c :: rest ∧ Term.isMarkerChar c = true := by
  cases h with
  | @last word gap _ | @cons word gap words _ _ _ =>
    obtain ⟨c, rest, he, hc⟩ := word.text_eq_cons
    rw [spell_cons, he]
    exact ⟨c, _, rfl, hc⟩

theorem IsSpaced.spell_ne_nil {words : List (Word × List Char)} (h : IsSpaced words) :
    spell words ≠ [] := by
  obtain ⟨c, rest, he, _⟩ := h.spell_eq_cons
  rw [he]
  exact List.cons_ne_nil c rest

def placed (position : Nat) (words : List (Word × List Char)) : List (Located Term) :=
  words.mapIdx fun i (word, _) =>
    word.located (position + Text.byteLength (spell (words.take i)))

@[simp]
theorem placed_nil (position : Nat) : placed position [] = [] := rfl

theorem placed_cons (position : Nat) (word : Word) (gap : List Char)
    (words : List (Word × List Char)) :
    placed position ((word, gap) :: words) = word.located position ::
      placed (position + Text.byteLength word.text + Text.byteLength gap) words := by
  simp [placed, List.mapIdx_cons, Nat.add_assoc]

theorem placed_nodes (position : Nat) (words : List (Word × List Char)) :
    (placed position words).map (·.node) = words.map (·.1.term) := by
  induction words generalizing position with
  | nil => rfl
  | cons pair words ih =>
    rw [placed_cons, List.map_cons, List.map_cons, ih]
    rfl

/-- A sentence in writing: some blanks, and then words with blanks between them. -/
structure Layout where
  lead : List Char
  words : List (Word × List Char)
  lead_blank : Text.IsBlank lead
  spaced : IsSpaced words

namespace Layout

/-- The characters of the whole sentence. -/
def text (layout : Layout) : List Char :=
  layout.lead ++ spell layout.words

def terms (layout : Layout) (offset : Nat) : List (Located Term) :=
  placed (offset + Text.byteLength layout.lead) layout.words

end Layout

end FreeOrder
