/-!
Texts cut at a separator, texts inside texts, and the removal of characters at both ends, on lists
of characters.
-/

namespace ClusterAdvisor.Text

/-- The pieces between separators; there is one piece more than there are separators. -/
def pieces (separator : Char) : List Char → List (List Char)
  | [] => [[]]
  | c :: rest =>
    if c = separator then [] :: pieces separator rest
    else
      match pieces separator rest with
      | [] => [[c]]
      | piece :: others => (c :: piece) :: others

def occursIn (part : List Char) : List Char → Bool
  | [] => part.isEmpty
  | c :: rest => part.isPrefixOf (c :: rest) || occursIn part rest

theorem pieces_ne_nil (separator : Char) (text : List Char) : pieces separator text ≠ [] := by
  cases text with
  | nil => simp [pieces]
  | cons c rest =>
    simp only [pieces]
    split
    · simp
    · split <;> simp

theorem occursIn_iff {part text : List Char} : occursIn part text = true ↔ part <:+: text := by
  induction text with
  | nil => cases part <;> simp [occursIn]
  | cons c rest ih =>
    simp [occursIn, ih, List.infix_cons_iff]

/-- Cutting a text at a separator is cutting a list. -/
theorem pieces_eq_splitOn (separator : Char) (text : List Char) :
    pieces separator text = text.splitOn separator := by
  induction text with
  | nil => simp [pieces]
  | cons c rest ih =>
    rw [List.splitOn_cons_eq_if_modifyHead, ← ih]
    by_cases hseparator : c = separator
    · simp [pieces, hseparator]
    · obtain ⟨piece, others, hrest⟩ := List.exists_cons_of_ne_nil (pieces_ne_nil separator rest)
      simp [pieces, hseparator, hrest]

/-- Two texts with a separator between them have the pieces of both. -/
theorem pieces_append_cons (separator : Char) (front back : List Char) :
    pieces separator (front ++ separator :: back) =
      pieces separator front ++ pieces separator back := by
  simp only [pieces_eq_splitOn, List.splitOn_append_cons_self]

theorem pieces_of_not_mem {separator : Char} {text : List Char} (h : separator ∉ text) :
    pieces separator text = [text] := by
  rw [pieces_eq_splitOn, List.splitOn_eq_singleton h]

/-- What stands in front of a text without a separator becomes a part of its first piece. -/
theorem pieces_append {separator : Char} {front : List Char} (hfront : separator ∉ front)
    (text : List Char) :
    pieces separator (front ++ text) =
      (front ++ text.takeWhile (· ≠ separator)) :: (pieces separator text).tail := by
  by_cases hmem : separator ∈ text
  · obtain ⟨first, rest, rfl, hfirst⟩ := List.eq_append_cons_of_mem hmem
    have hkept : ∀ c ∈ first, decide (c ≠ separator) = true := by
      intro c hc
      simpa using fun heq : c = separator => hfirst (heq ▸ hc)
    have hpiece : separator ∉ front ++ first := by simp [hfront, hfirst]
    rw [← List.append_assoc, pieces_append_cons, pieces_append_cons, pieces_of_not_mem hpiece,
      pieces_of_not_mem hfirst, List.takeWhile_append_of_pos hkept]
    simp
  · have hkept : ∀ c ∈ text, decide (c ≠ separator) = true := by
      intro c hc
      simpa using fun heq : c = separator => hmem (heq ▸ hc)
    have hpiece : separator ∉ front ++ text := by simp [hfront, hmem]
    have hwhole : text.takeWhile (· ≠ separator) = text := by
      rw [← List.append_nil text, List.takeWhile_append_of_pos hkept]
      rfl
    rw [pieces_of_not_mem hpiece, pieces_of_not_mem hmem, hwhole]
    rfl

/-- The pieces of a text that is read backwards. -/
theorem pieces_reverse (separator : Char) (text : List Char) :
    pieces separator text.reverse = ((pieces separator text).map List.reverse).reverse := by
  by_cases hmem : separator ∈ text
  · obtain ⟨first, rest, rfl, hfirst⟩ := List.eq_append_cons_of_mem hmem
    have hrest := pieces_reverse separator rest
    have hbackwards : separator ∉ first.reverse := by simpa using hfirst
    rw [pieces_append_cons, List.reverse_append, List.reverse_cons, List.append_assoc,
      List.singleton_append, pieces_append_cons, hrest, pieces_of_not_mem hfirst,
      pieces_of_not_mem hbackwards]
    simp
  · rw [pieces_of_not_mem hmem, pieces_of_not_mem (by simpa using hmem)]
    rfl
termination_by text.length
decreasing_by subst_vars; simp; omega

/-- The pieces hold all characters of a text but the separators. -/
theorem forall_mem_pieces {separator : Char} {P : Char → Prop} {text : List Char} :
    (∀ piece ∈ pieces separator text, ∀ c ∈ piece, P c) ↔ ∀ c ∈ text, c = separator ∨ P c := by
  induction text with
  | nil => simp [pieces]
  | cons c rest ih =>
    rw [List.forall_mem_cons, ← ih, pieces]
    by_cases hseparator : c = separator
    · simp [hseparator]
    · rw [if_neg hseparator]
      cases hpieces : pieces separator rest with
      | nil => exact absurd hpieces (pieces_ne_nil separator rest)
      | cons piece others => simp [hseparator, and_assoc]

theorem not_mem_of_mem_pieces {separator : Char} {text piece : List Char}
    (h : piece ∈ pieces separator text) : separator ∉ piece := by
  have hothers : ∀ c ∈ text, c = separator ∨ c ≠ separator := fun c _ => Decidable.em _
  intro hmember
  exact forall_mem_pieces.mpr hothers piece h separator hmember rfl

/-- A part without the separator never reaches across it. -/
theorem infix_append_cons_iff {separator : Char} {part : List Char} (hpart : separator ∉ part)
    (front back : List Char) :
    part <:+: front ++ separator :: back ↔ part <:+: front ∨ part <:+: back := by
  have hstarts (start : List Char) (hstart : start ⊆ part)
      (h : start <+: separator :: back) : start = [] := by
    rcases List.prefix_cons_iff.mp h with rfl | ⟨more, rfl, _⟩
    · rfl
    · exact absurd (hstart List.mem_cons_self) hpart
  constructor
  · intro h
    rcases List.infix_append_iff.mp h with hfront | hback | ⟨left, right, rfl, hleft, hright⟩
    · exact .inl hfront
    · rcases List.infix_cons_iff.mp hback with hstart | hback
      · rw [hstarts part (List.Subset.refl part) hstart]
        exact .inl List.nil_infix
      · exact .inr hback
    · rw [hstarts right (List.subset_append_right left right) hright, List.append_nil]
      exact .inl hleft.isInfix
  · rintro (hfront | hback)
    · exact List.infix_append_of_infix_left hfront
    · exact List.infix_append_of_infix_right (List.infix_cons hback)

end ClusterAdvisor.Text
