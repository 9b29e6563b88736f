import FreeOrder.Proofs.ScriptReading

namespace FreeOrder

/-- The line as it is numbered when the given number of lines stands above it. -/
def Line.below (count : Nat) (line : Line) : Line :=
  { line with number := line.number + count }

def Statement.below (count : Nat) (statement : Statement) : Statement :=
  { statement with line := statement.line + count }

namespace Line

theorem ofPieces_append (number start : Nat) (front back : List (List Char)) :
    ofPieces number start (front ++ back) = ofPieces number start front ++
      ofPieces (number + front.length) (start + Text.byteLength front.flatten) back := by
  induction front generalizing number start with
  | nil => rfl
  | cons piece front ih =>
    rw [List.cons_append, ofPieces, ofPieces, ih, List.cons_append, List.length_cons,
      List.flatten_cons, Text.byteLength_append]
    have hnumber : number + 1 + front.length = number + (front.length + 1) := by omega
    rw [hnumber, Nat.add_assoc start]

theorem ofPieces_below (number start count : Nat) (pieces : List (List Char)) :
    ofPieces (number + count) start pieces = (ofPieces number start pieces).map (below count) := by
  induction pieces generalizing number start with
  | nil => rfl
  | cons piece pieces ih =>
    have hnumber : number + count + 1 = number + 1 + count := by omega
    rw [ofPieces, ofPieces, List.map_cons, hnumber, ih]
    rfl

theorem readStatement_below (count source : Nat) (line : Line) :
    (line.below count).readStatement source =
      (line.readStatement source).map (Statement.below count) := by
  rw [readStatement_eq, readStatement_eq]
  change (line.excerpt source).readTerms.map _ = _
  cases (line.excerpt source).readTerms <;> rfl

theorem readEach_below (count source : Nat) (lines : List Line) :
    readEach source (lines.map (below count)) =
      (readEach source lines).map (List.map (Statement.below count)) := by
  have hread : ∀ line ∈ lines, (line.below count).readStatement source =
      ((line.readStatement source).map (Statement.below count)).mapError id := by
    intro line _
    rw [readStatement_below]
    cases line.readStatement source <;> rfl
  have hskipped : ∀ line ∈ lines, (line.below count).isSkipped = line.isSkipped := by
    intro line _
    rfl
  rw [readEach_map hskipped hread, List.map_id_fun]
  cases readEach source lines <;> rfl

end Line

namespace Excerpt

variable {front : List Char}

theorem lines_append (h : Text.IsWhole front) (back : List Char) (source offset : Nat) :
    lines ⟨front ++ back, source, offset⟩ = lines ⟨front, source, offset⟩ ++
      (lines ⟨back, source, offset + Text.byteLength front⟩).map (.below (front.count '\n')) := by
  simp only [lines]
  rw [Text.lines_append h, Line.ofPieces_append, Text.flatten_lines, Text.length_lines h,
    Line.ofPieces_below]

/-- Where a script is cut between two of its lines, it is read as its two parts are: the statements
of both, those of the second part with the lines of the first above them, or else the errors of
both. -/
theorem readStatements_append (h : Text.IsWhole front) (back : List Char) (source offset : Nat) :
    readStatements ⟨front ++ back, source, offset⟩ =
      both (readStatements ⟨front, source, offset⟩)
        ((readStatements ⟨back, source, offset + Text.byteLength front⟩).map
          (List.map (.below (front.count '\n')))) := by
  rw [readStatements_eq, lines_append h, Line.readEach_append, Line.readEach_below]
  rfl

theorem readStatements_append_two_lines :
    Text.IsWhole "# one\r\nv(say)\n".toList ∧
      readStatements ⟨"# one\r\nv(say)\n".toList ++ "\nv(cry)".toList, 3, 7⟩ =
        .ok [⟨[⟨.verb "say", ⟨14, 20⟩⟩], ⟨14, 20⟩, 2⟩, ⟨[⟨.verb "cry", ⟨22, 28⟩⟩], ⟨22, 28⟩, 4⟩] := by
  have hwhole : Text.IsWhole "# one\r\nv(say)\n".toList := .inr (by decide)
  refine ⟨hwhole, (readStatements_append hwhole "\nv(cry)".toList 3 7).trans ?_⟩
  decide +kernel

end Excerpt

end FreeOrder
