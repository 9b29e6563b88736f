import FreeOrder.Proofs.ErrorPlaces
import FreeOrder.Proofs.LineAccount

namespace FreeOrder

namespace Text

variable {text line : List Char} {pieces : List (List Char)}

def withCarriageReturns (text : List Char) : List Char :=
  text.flatMap fun c => if c = '\n' then ['\r', '\n'] else [c]

theorem withCarriageReturns_append (front back : List Char) :
    withCarriageReturns (front ++ back) = withCarriageReturns front ++ withCarriageReturns back :=
  List.flatMap_append

theorem withCarriageReturns_of_not_mem (h : '\n' ∉ text) : withCarriageReturns text = text := by
  induction text with
  | nil => rfl
  | cons c rest ih =>
    rw [List.mem_cons, not_or] at h
    rw [withCarriageReturns, List.flatMap_cons, if_neg (Ne.symm h.1)]
    exact congrArg (c :: ·) (ih h.2)

theorem withCarriageReturns_line_feed (h : '\n' ∉ line) (rest : List Char) :
    withCarriageReturns (line ++ '\n' :: rest) =
      (line ++ ['\r']) ++ '\n' :: withCarriageReturns rest := by
  rw [withCarriageReturns_append, withCarriageReturns_of_not_mem h, List.append_assoc]
  rfl

theorem IsCut.withCarriageReturns (h : IsCut text pieces) :
    IsCut (withCarriageReturns text) (pieces.map Text.withCarriageReturns) := by
  induction h with
  | nil => exact .nil
  | last hline hne =>
    rw [List.map_singleton, withCarriageReturns_of_not_mem hline]
    exact .last hline hne
  | @cons line rest pieces hline _ ih =>
    have hline' : '\n' ∉ line ++ ['\r'] := by simpa using hline
    rw [List.map_cons, withCarriageReturns_line_feed hline, withCarriageReturns_line_feed hline]
    exact .cons hline' ih

theorem dropLineEnd_withCarriageReturns (h : '\n' ∉ line) :
    dropLineEnd (withCarriageReturns (line ++ ['\n'])) = dropLineEnd (line ++ ['\n']) := by
  rw [withCarriageReturns_line_feed h]
  change dropLineEnd (line ++ ['\r'] ++ ['\n']) = _
  rw [dropLineEnd_line_feed, dropLineEnd_line_feed]
  exact List.rdropWhile_concat_pos _ _ _ rfl

end Text

namespace Line

variable {text : List Char} {pieces : List (List Char)}

/-- Each line moves on by one byte for each of the lines before it. -/
theorem ofPieces_withCarriageReturns (h : Text.IsCut text pieces) (number start bytes : Nat) :
    ofPieces number (start + bytes) (pieces.map Text.withCarriageReturns) =
      (ofPieces number start pieces).map fun line => line.shift (bytes + (line.number - number)) := by
  induction h generalizing number start bytes with
  | nil => rfl
  | @last body hbody hne =>
    rw [List.map_singleton, Text.withCarriageReturns_of_not_mem hbody]
    simp only [ofPieces, List.map_cons, List.map_nil, shift, Nat.sub_self, Nat.add_zero]
  | @cons body rest pieces hbody hrest ih =>
    have hnext : start + bytes + Text.byteLength (Text.withCarriageReturns (body ++ ['\n'])) =
        start + Text.byteLength (body ++ ['\n']) + (bytes + 1) := by
      have hreturn : Char.utf8Size '\r' = 1 := rfl
      rw [Text.withCarriageReturns_line_feed hbody]
      simp [Text.withCarriageReturns, hreturn]
      omega
    have hrest' : ∀ line ∈ ofPieces (number + 1) (start + Text.byteLength (body ++ ['\n'])) pieces,
        line.shift (bytes + 1 + (line.number - (number + 1))) =
          line.shift (bytes + (line.number - number)) := by
      intro line hline
      obtain ⟨_, _, _, _, hnumber⟩ := exists_split_of_mem hrest hline
      have hcount : bytes + 1 + (line.number - (number + 1)) = bytes + (line.number - number) := by
        omega
      rw [hcount]
    rw [List.map_cons, ofPieces, ofPieces, List.map_cons, hnext, ih,
      Text.dropLineEnd_withCarriageReturns hbody, List.map_congr_left hrest', Nat.sub_self]
    rfl

end Line

namespace Excerpt

variable {excerpt : Excerpt} {line : Line} {error : SyntaxError}

def withCarriageReturns (excerpt : Excerpt) : Excerpt :=
  { excerpt with text := Text.withCarriageReturns excerpt.text }

def lineFeedsBefore (excerpt : Excerpt) (position : Nat) : Nat :=
  (Text.takeBytes (position - excerpt.offset) excerpt.text).count '\n'

theorem lines_withCarriageReturns (excerpt : Excerpt) :
    excerpt.withCarriageReturns.lines =
      excerpt.lines.map fun line => line.shift (line.number - 1) := by
  have hcut := Text.isCut_lines excerpt.text
  have hlines := Line.ofPieces_withCarriageReturns hcut 1 excerpt.offset 0
  simp only [Nat.add_zero, Nat.zero_add] at hlines
  rw [hcut.withCarriageReturns.eq_lines] at hlines
  exact hlines

theorem lineFeedsBefore_error (hline : line ∈ excerpt.lines)
    (herror : (line.excerpt excerpt.source).readTerms = .error error) :
    excerpt.lineFeedsBefore error.start = line.number - 1 := by
  obtain ⟨before, after, hline_text, hspan⟩ := (readTerms_error herror).1.holds
  obtain ⟨front, back, htext, hstart, hnumber⟩ := standsIn_of_mem_lines hline
  change line.text = before ++ (error.fragment.toList ++ after) at hline_text
  have hbefore : before.count '\n' = 0 := by
    apply List.count_eq_zero.mpr
    intro hmem
    apply not_mem_of_mem_lines hline
    rw [hline_text]
    exact List.mem_append_left _ hmem
  have hsplit : excerpt.text = front ++ before ++ (error.fragment.toList ++ after ++ back) := by
    rw [htext, hline_text]
    simp
  have herror_start : error.start = excerpt.offset + Text.byteLength (front ++ before) := by
    rw [Text.byteLength_append, ← Nat.add_assoc, ← hstart]
    exact congrArg Span.start hspan
  rw [lineFeedsBefore, herror_start, Nat.add_sub_cancel_left, hsplit, Text.takeBytes_byteLength,
    List.count_append, hbefore, hnumber]
  omega

/-- It makes no difference to a script whether there are carriage returns before its line feeds. The
same is read, only that each statement lies further on by one byte for each line before it, and
each error by one byte for each line feed before it. -/
theorem readStatements_withCarriageReturns (excerpt : Excerpt) :
    excerpt.withCarriageReturns.readStatements =
      (excerpt.readStatements.map
        (List.map fun statement => statement.shift (statement.line - 1))).mapError
          (List.map fun error => error.shift (excerpt.lineFeedsBefore error.start)) := by
  have hsource : excerpt.withCarriageReturns.source = excerpt.source := rfl
  rw [readStatements_eq, readStatements_eq, lines_withCarriageReturns, hsource]
  apply Line.readEach_map
  · intro line _
    rfl
  · intro line hline
    rw [Line.readStatement_shift]
    cases hread : line.readStatement excerpt.source with
    | error error =>
      have hfeeds := lineFeedsBefore_error hline (map_eq_error_iff.mp hread)
      change Except.error (error.shift _) = Except.error (error.shift _)
      rw [hfeeds]
    | ok statement =>
      obtain ⟨terms, _, rfl⟩ := map_eq_ok_iff.mp hread
      rfl

end Excerpt

end FreeOrder
