import FreeOrder.Proofs.Layout

namespace FreeOrder

section Runs
variable {α : Type} {p : α → Bool} {run rest : List α} {c : α}

theorem takeWhile_run (hrun : ∀ a ∈ run, p a = true) (hc : p c = false) :
    (run ++ c :: rest).takeWhile p = run := by
  rw [List.takeWhile_append_of_pos hrun, List.takeWhile_cons_of_neg (by simp [hc]), List.append_nil]

theorem dropWhile_run (hrun : ∀ a ∈ run, p a = true) (hc : p c = false) :
    (run ++ c :: rest).dropWhile p = c :: rest := by
  rw [List.dropWhile_append_of_pos hrun, List.dropWhile_cons_of_neg (by simp [hc])]

theorem eq_run_append {text : List α} (h : text.dropWhile p = c :: rest) :
    text = text.takeWhile p ++ c :: rest := by
  rw [← h, List.takeWhile_append_dropWhile]

/-- What is left after the elements with the property are dropped at the front. -/
theorem dropWhile_eq_iff {text : List α} :
    text.dropWhile p = rest ↔
      (∃ run, text = run ++ rest ∧ ∀ a ∈ run, p a = true) ∧ ∀ a ∈ rest.head?, p a = false := by
  apply Iff.intro
  · intro h
    subst h
    refine ⟨⟨text.takeWhile p, List.takeWhile_append_dropWhile.symm, ?_⟩, ?_⟩
    · intro a ha
      exact List.mem_takeWhile_imp ha
    · intro a ha
      have hhead := List.head?_dropWhile_not p text
      rw [ha] at hhead
      exact hhead
  · intro h
    obtain ⟨⟨run, rfl, hrun⟩, hhead⟩ := h
    rw [List.dropWhile_append_of_pos hrun]
    cases rest with
    | nil => rfl
    | cons a rest => exact List.dropWhile_cons_of_neg (by simp [hhead a rfl])

end Runs

namespace Term

theorem isNameChar_iff {c : Char} :
    isNameChar c = true ↔ isBlank c = false ∧ c ≠ '(' ∧ c ≠ ')' := by
  simp [isNameChar, and_assoc]

theorem isNameChar_of_isMarkerChar {c : Char} (h : isMarkerChar c = true) : isNameChar c = true :=
  (Bool.and_eq_true_iff.mp h).1

theorem isBlank_of_isMarkerChar {c : Char} (h : isMarkerChar c = true) : isBlank c = false :=
  (isNameChar_iff.mp (isNameChar_of_isMarkerChar h)).1

theorem ne_closing_of_isMarkerChar {c : Char} (h : isMarkerChar c = true) : c ≠ ')' :=
  (isNameChar_iff.mp (isNameChar_of_isMarkerChar h)).2.2

variable {opening text : List Char} {reading : Reading}

theorem readVerb_of_isWritable {name : String} (h : (verb name).IsWritable) (rest : List Char) :
    readVerb opening (name.toList ++ ')' :: rest) =
      .ok ⟨verb name, opening ++ (name.toList ++ [')']), rest⟩ := by
  obtain ⟨hne, hchars⟩ := h
  have hrun : ∀ c ∈ name.toList, isNameChar c = true := fun c hc => isNameChar_iff.mpr (hchars c hc)
  have hempty : name.toList ≠ [] := by simpa using hne
  simp only [readVerb, takeWhile_run hrun (c := ')') (by decide),
    dropWhile_run hrun (c := ')') (by decide)]
  simp [hempty]

theorem readVerb_sound (h : readVerb opening text = .ok reading) :
    ∃ name, (verb name).IsWritable ∧ text = name.toList ++ ')' :: reading.rest ∧
      reading.term = verb name ∧ reading.spelling = opening ++ (name.toList ++ [')']) := by
  simp only [readVerb] at h
  split at h
  · rename_i rest hrest
    split at h
    · cases h
    · rename_i hne
      cases h
      refine ⟨String.ofList (text.takeWhile isNameChar), ⟨?_, ?_⟩, ?_, rfl, ?_⟩
      · simpa using hne
      · intro c hc
        rw [String.toList_ofList] at hc
        exact isNameChar_iff.mp (List.mem_takeWhile_imp hc)
      · rw [String.toList_ofList]
        exact eq_run_append hrest
      · rw [String.toList_ofList, List.append_assoc]
  · cases h
  · cases h

theorem readDirectObject_of_isWritable {literal : String} (h : (directObject literal).IsWritable)
    (rest : List Char) :
    readDirectObject opening (literal.toList ++ ')' :: rest) =
      .ok ⟨directObject literal, opening ++ (literal.toList ++ [')']), rest⟩ := by
  obtain ⟨content, hquote, rfl⟩ := h
  have hrun : ∀ c ∈ content.toList, (c != '"') = true := by
    intro c hc
    exact bne_iff_ne.mpr fun he => hquote (he ▸ hc)
  have hliteral : ("\"" ++ content ++ "\"").toList = '"' :: (content.toList ++ ['"']) := by simp
  have hback : String.ofList ('"' :: (content.toList ++ ['"'])) = "\"" ++ content ++ "\"" := by
    rw [← hliteral, String.ofList_toList]
  rw [hliteral, List.cons_append, List.append_assoc, List.singleton_append]
  simp only [readDirectObject, takeWhile_run hrun (c := '"') (by decide),
    dropWhile_run hrun (c := '"') (by decide)]
  simp [hback]

theorem readDirectObject_sound (h : readDirectObject opening text = .ok reading) :
    ∃ literal, (directObject literal).IsWritable ∧ text = literal.toList ++ ')' :: reading.rest ∧
      reading.term = directObject literal ∧
      reading.spelling = opening ++ (literal.toList ++ [')']) := by
  simp only [readDirectObject] at h
  split at h
  · rename_i body
    split at h
    · cases h
    · rename_i quote after hafter
      split at h
      · rename_i rest
        cases h
        have hquote : quote = '"' := by
          have hstop := List.head?_dropWhile_not (· != '"') body
          rw [hafter] at hstop
          simpa using hstop
        subst hquote
        have hbody := eq_run_append hafter
        refine ⟨String.ofList ('"' :: body.takeWhile (· != '"') ++ ['"']),
          ⟨String.ofList (body.takeWhile (· != '"')), ?_, ?_⟩, ?_, rfl, ?_⟩
        · intro hmem
          rw [String.toList_ofList] at hmem
          simpa using List.mem_takeWhile_imp hmem
        · apply String.toList_inj.mp
          simp
        · rw [String.toList_ofList]
          simpa using hbody
        · rw [String.toList_ofList, List.append_assoc]
      · cases h
  · cases h

/-- The word that a text begins with is read off it, whatever follows. -/
theorem read_word (word : Word) (rest : List Char) :
    read (word.text ++ rest) = .ok ⟨word.term, word.text, rest⟩ := by
  obtain ⟨term, terse, hterm⟩ := word
  have hrun := term.role.isMarkerChar_written terse
  have hne := term.role.written_ne_nil terse
  rw [Word.text_append]
  simp only [read, takeWhile_run hrun (c := '(') (by decide),
    dropWhile_run hrun (c := '(') (by decide), String.ofList_toList, Role.ofMarker?_written]
  rw [if_neg (by simpa using hne)]
  cases term with
  | verb name =>
    refine (readVerb_of_isWritable hterm rest).trans ?_
    rw [List.append_assoc]
    rfl
  | directObject literal =>
    refine (readDirectObject_of_isWritable hterm rest).trans ?_
    rw [List.append_assoc]
    rfl

/-- What is read off the front of a text is a word. -/
theorem read_sound (h : read text = .ok reading) :
    ∃ word : Word, text = word.text ++ reading.rest ∧ reading.term = word.term ∧
      reading.spelling = word.text := by
  simp only [read] at h
  split at h
  · cases h
  split at h
  · cases h
  rename_i role hrole
  obtain ⟨terse, hmarker⟩ := Role.exists_written hrole
  have hrun : text.takeWhile isMarkerChar = (role.written terse).toList := by
    rw [← hmarker, String.toList_ofList]
  split at h
  · rename_i body hbody
    have htext := eq_run_append hbody
    rw [hrun] at h htext
    cases role with
    | verb =>
      obtain ⟨name, hname, hbody, hterm, hspelling⟩ := readVerb_sound h
      refine ⟨⟨verb name, terse, hname⟩, ?_, hterm, ?_⟩
      · rw [htext, hbody, Word.text_append]
        rfl
      · rw [hspelling, List.append_assoc]
        rfl
    | directObject =>
      obtain ⟨literal, hliteral, hbody, hterm, hspelling⟩ := readDirectObject_sound h
      refine ⟨⟨directObject literal, terse, hliteral⟩, ?_, hterm, ?_⟩
      · rw [htext, hbody, Word.text_append]
        rfl
      · rw [hspelling, List.append_assoc]
        rfl
  · cases h

end Term

end FreeOrder
