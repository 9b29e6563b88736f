import FreeOrder.Proofs.SentenceReading

namespace FreeOrder

section Runs

variable {α : Type} {p : α → Bool} {text back : List α}

theorem takeWhile_append_of_neg (h : ∀ a ∈ back, p a = false) :
    (text ++ back).takeWhile p = text.takeWhile p := by
  induction text with
  | nil =>
    cases back with
    | nil => rfl
    | cons a back => exact List.takeWhile_cons_of_neg (by simp [h a List.mem_cons_self])
  | cons a text ih => rw [List.cons_append, List.takeWhile_cons, List.takeWhile_cons, ih]

theorem dropWhile_append_of_neg (h : ∀ a ∈ back, p a = false) :
    (text ++ back).dropWhile p = text.dropWhile p ++ back := by
  induction text with
  | nil =>
    cases back with
    | nil => rfl
    | cons a back => exact List.dropWhile_cons_of_neg (by simp [h a List.mem_cons_self])
  | cons a text ih =>
    rw [List.cons_append, List.dropWhile_cons, List.dropWhile_cons, ih]
    split <;> rfl

theorem dropWhile_append_of_cons {a : α} {rest : List α} (h : text.dropWhile p = a :: rest) :
    (text ++ back).dropWhile p = a :: (rest ++ back) := by
  rw [List.dropWhile_append, h]
  rfl

theorem takeWhile_append_of_cons {a : α} {rest : List α} (h : text.dropWhile p = a :: rest) :
    (text ++ back).takeWhile p = text.takeWhile p := by
  have hlength := congrArg List.length (eq_run_append h)
  rw [List.length_append, List.length_cons] at hlength
  rw [List.takeWhile_append, if_neg (by omega)]

end Runs

/-- Blanks at the end do not bring a character that is not blank to the front. -/
theorem Text.IsBlank.append_ne_cons {text gap : List Char} (hgap : IsBlank gap) {c : Char}
    (hc : isBlank c = false) (h : ∀ rest, text = c :: rest → False) :
    ∀ rest, text ++ gap = c :: rest → False := by
  intro rest he
  cases text with
  | nil =>
    rw [List.nil_append] at he
    have hblank := hgap c (he ▸ List.mem_cons_self)
    rw [hblank] at hc
    cases hc
  | cons d text =>
    injection he with hd _
    exact h text (by rw [hd])

namespace Term

variable {opening text gap : List Char} {flaw : TermFault}

theorem isNameChar_of_isBlank {c : Char} (h : isBlank c = true) : isNameChar c = false := by
  simp [isNameChar, h]

theorem isMarkerChar_of_isBlank {c : Char} (h : isBlank c = true) : isMarkerChar c = false := by
  simp [isMarkerChar, isNameChar_of_isBlank h]

/-- The fault is the same whatever blanks come after the text. -/
theorem readVerb_append_blank (hgap : Text.IsBlank gap) (h : readVerb opening text = .error flaw) :
    ∃ other, readVerb opening (text ++ gap) = .error other ∧ other.fault = flaw.fault := by
  have hneg : ∀ c ∈ gap, isNameChar c = false := fun c hc => isNameChar_of_isBlank (hgap c hc)
  simp only [readVerb, takeWhile_append_of_neg hneg, dropWhile_append_of_neg hneg] at h ⊢
  split at h
  · rename_i rest hrest
    simp only [hrest, List.cons_append]
    split at h
    · rename_i hempty
      cases h
      rw [if_pos hempty]
      exact ⟨_, rfl, rfl⟩
    · cases h
  · rename_i rest hrest
    cases h
    simp only [hrest, List.cons_append]
    exact ⟨_, rfl, rfl⟩
  · rename_i hclosing hopening
    cases h
    split
    · rename_i rest hrest
      exact (hgap.append_ne_cons (by decide) hclosing rest hrest).elim
    · rename_i rest hrest
      exact (hgap.append_ne_cons (by decide) hopening rest hrest).elim
    · exact ⟨_, rfl, rfl⟩

theorem readDirectObject_append_blank (hgap : Text.IsBlank gap)
    (h : readDirectObject opening text = .error flaw) :
    ∃ other, readDirectObject opening (text ++ gap) = .error other ∧
      other.fault = flaw.fault := by
  simp only [readDirectObject] at h ⊢
  split at h
  · rename_i body
    rw [List.cons_append]
    split at h
    · rename_i hbody
      cases h
      -- No blank is a quote, so the literal does not end in the blanks either.
      have hall : gap.dropWhile (· != '"') = [] := by
        rw [List.dropWhile_eq_nil_iff]
        intro c hc
        rw [bne_iff_ne]
        rintro rfl
        exact absurd (hgap '"' hc) (by decide)
      have hdrop : (body ++ gap).dropWhile (· != '"') = [] := by
        rw [List.dropWhile_append, hbody, hall]
        rfl
      simp only [hdrop]
      exact ⟨_, rfl, rfl⟩
    · rename_i quote after hafter
      simp only [dropWhile_append_of_cons hafter]
      split at h
      · cases h
      · rename_i hclosing
        cases h
        split
        · rename_i rest hrest
          exact (hgap.append_ne_cons (by decide) hclosing rest hrest).elim
        · exact ⟨_, rfl, rfl⟩
  · rename_i hquote
    cases h
    split
    · rename_i rest hrest
      exact (hgap.append_ne_cons (by decide) hquote rest hrest).elim
    · exact ⟨_, rfl, rfl⟩

theorem read_error_append_blank (hgap : Text.IsBlank gap) (h : read text = .error flaw) :
    ∃ other, read (text ++ gap) = .error other ∧ other.fault = flaw.fault := by
  have hneg : ∀ c ∈ gap, isMarkerChar c = false := fun c hc => isMarkerChar_of_isBlank (hgap c hc)
  simp only [read, takeWhile_append_of_neg hneg, dropWhile_append_of_neg hneg] at h ⊢
  split at h
  · rename_i hempty
    cases h
    rw [if_pos hempty]
    exact ⟨_, rfl, rfl⟩
  rename_i hmarker
  rw [if_neg hmarker]
  split at h
  · cases h
    exact ⟨_, rfl, rfl⟩
  rename_i role hrole
  split at h
  · rename_i body hbody
    rw [hbody]
    cases role with
    | verb => exact readVerb_append_blank hgap h
    | directObject => exact readDirectObject_append_blank hgap h
  · rename_i hopening
    cases h
    split
    · rename_i rest hrest
      exact (hgap.append_ne_cons (by decide) hopening rest hrest).elim
    · exact ⟨_, rfl, rfl⟩

theorem read_ok_append {reading : Reading} (h : read text = .ok reading) (back : List Char) :
    read (text ++ back) = .ok { reading with rest := reading.rest ++ back } := by
  obtain ⟨word, htext, hterm, hspelling⟩ := read_sound h
  rw [htext, List.append_assoc, read_word, hterm, hspelling]

end Term

def Progress.extend (back : List Char) : Progress → Progress
  | .finished term => .finished term
  | .next term position text => .next term position (text ++ back)

theorem mapError_map {ε ζ α β : Type} (f : α → β) (g : ε → ζ) (result : Except ε α) :
    (result.map f).mapError g = (result.mapError g).map f := by
  cases result <;> rfl

namespace Term

variable {source position : Nat} {text gap : List Char}

theorem readOne_ok_append_blank (hgap : Text.IsBlank gap) {progress : Progress}
    (h : readOne source position text = .ok progress) :
    readOne source position (text ++ gap) = .ok (progress.extend gap) := by
  simp only [readOne] at h ⊢
  split at h
  · cases h
  rename_i reading hread
  simp only [read_ok_append hread gap]
  split at h
  · rename_i hrest
    cases h
    have hdrop : (reading.rest ++ gap).dropWhile isBlank = [] := by
      rw [List.dropWhile_append, hrest]
      exact List.dropWhile_eq_nil_iff.mpr hgap
    simp only [hdrop]
    rfl
  · rename_i c rest hrest
    simp only [takeWhile_append_of_cons hrest, dropWhile_append_of_cons hrest]
    split at h
    · cases h
    rename_i hclosing
    split at h
    · cases h
    rename_i hgap'
    cases h
    rw [if_neg hclosing, if_neg hgap']
    rfl

theorem readOne_error_append_blank (hgap : Text.IsBlank gap) {error : SyntaxError}
    (h : readOne source position text = .error error) : ∃ other,
      readOne source position (text ++ gap) = .error other ∧ other.fault = error.fault := by
  simp only [readOne] at h ⊢
  split at h
  · rename_i flaw hflaw
    cases h
    obtain ⟨other, hother, hfault⟩ := read_error_append_blank hgap hflaw
    simp only [hother]
    exact ⟨_, rfl, hfault⟩
  rename_i reading hread
  simp only [read_ok_append hread gap]
  split at h
  · cases h
  rename_i c rest hrest
  simp only [takeWhile_append_of_cons hrest, dropWhile_append_of_cons hrest]
  split at h
  · rename_i hclosing
    cases h
    rw [if_pos hclosing]
    exact ⟨_, rfl, rfl⟩
  rename_i hclosing
  rw [if_neg hclosing]
  split at h
  · rename_i hempty
    cases h
    rw [if_pos hempty]
    exact ⟨_, rfl, rfl⟩
  · cases h

/-- Blanks at the end change neither the terms nor the fault. -/
theorem readAll_append_blank (hgap : Text.IsBlank gap) :
    (readAll source position (text ++ gap)).mapError (·.fault) =
      (readAll source position text).mapError (·.fault) := by
  fun_induction readAll source position text with
  | case1 position text error hone =>
    obtain ⟨other, hother, hfault⟩ := readOne_error_append_blank hgap hone
    rw [readAll_of_error hother]
    exact congrArg Except.error hfault
  | case2 position text term hone =>
    rw [readAll_of_finished (readOne_ok_append_blank hgap hone)]
  | case3 position text term next rest hone ih =>
    rw [readAll_of_next (readOne_ok_append_blank hgap hone), mapError_map, mapError_map, ih]

end Term

/-- Blanks at the end of a sentence change neither its terms nor what is wrong with it. -/
theorem Excerpt.readTerms_append_blank {gap : List Char} (hgap : Text.IsBlank gap)
    (text : List Char) (source offset : Nat) :
    (readTerms ⟨text ++ gap, source, offset⟩).mapError (·.fault) =
      (readTerms ⟨text, source, offset⟩).mapError (·.fault) := by
  simp only [readTerms]
  cases hrest : text.dropWhile isBlank with
  | nil =>
    have hdrop : (text ++ gap).dropWhile isBlank = [] := by
      rw [List.dropWhile_append, hrest]
      exact List.dropWhile_eq_nil_iff.mpr hgap
    rw [hdrop]
    rfl
  | cons c rest =>
    rw [takeWhile_append_of_cons hrest, dropWhile_append_of_cons hrest]
    change (Term.readAll _ _ (c :: rest ++ gap)).mapError _ = (Term.readAll _ _ (c :: rest)).mapError _
    exact Term.readAll_append_blank hgap

end FreeOrder
