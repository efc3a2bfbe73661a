/-!
# Comma-separated lists

Several columns hold a list of names as one text with commas.  `items` reads the names, leaving
out empty ones, and `joinItems` writes them; a list of proper names survives the round trip.
-/

namespace HostingPanel.Text

/-- The pieces of a text between the occurrences of a separator. -/
def pieces (sep : Char) : List Char → List (List Char)
  | [] => [[]]
  | c :: s =>
    if c = sep then [] :: pieces sep s
    else match pieces sep s with
      | [] => [[c]]
      | p :: ps => (c :: p) :: ps

/-- Pieces put together again with a separator between them. -/
def joinPieces (sep : Char) : List (List Char) → List Char
  | [] => []
  | [p] => p
  | p :: ps => p ++ sep :: joinPieces sep ps

/-- The non-empty entries of a comma-separated list; an absent list has none. -/
def items (s : Option String) : List String :=
  ((pieces ',' (s.getD "").toList).filter (!·.isEmpty)).map String.ofList

/-- A comma-separated list of entries. -/
def joinItems (l : List String) : String :=
  String.ofList (joinPieces ',' (l.map String.toList))

theorem pieces_ne_nil (sep : Char) (s : List Char) : pieces sep s ≠ [] := by
  cases s with
  | nil => simp [pieces]
  | cons c s =>
    unfold pieces
    split
    · simp
    · split <;> simp

theorem pieces_eq_singleton {sep : Char} {s : List Char} (h : sep ∉ s) : pieces sep s = [s] := by
  induction s with
  | nil => rfl
  | cons c s ih =>
    simp only [List.mem_cons, not_or] at h
    simp [pieces, ih h.2, Ne.symm h.1]

theorem pieces_append_cons {sep : Char} {p : List Char} (h : sep ∉ p) (s : List Char) :
    pieces sep (p ++ sep :: s) = p :: pieces sep s := by
  induction p with
  | nil => simp [pieces]
  | cons c p ih =>
    simp only [List.mem_cons, not_or] at h
    simp [pieces, ih h.2, Ne.symm h.1]

theorem pieces_append (sep : Char) (s t : List Char) :
    pieces sep (s ++ sep :: t) = pieces sep s ++ pieces sep t := by
  induction s with
  | nil => simp [pieces]
  | cons c s ih =>
    by_cases hc : c = sep
    · simp [pieces, hc, ih]
    · cases hs : pieces sep s with
      | nil => exact absurd hs (pieces_ne_nil sep s)
      | cons p ps => simp [pieces, hc, ih, hs]

theorem not_mem_of_mem_pieces {sep : Char} {s p : List Char} (h : p ∈ pieces sep s) :
    sep ∉ p := by
  induction s generalizing p with
  | nil =>
    simp only [pieces, List.mem_singleton] at h
    simp [h]
  | cons c s ih =>
    unfold pieces at h
    split at h
    · rcases List.mem_cons.1 h with rfl | h
      · simp
      · exact ih h
    · rename_i hc
      split at h
      · rename_i e
        exact absurd e (pieces_ne_nil sep s)
      · rename_i q qs e
        rcases List.mem_cons.1 h with rfl | h
        · simp only [List.mem_cons, not_or]
          exact ⟨Ne.symm hc, ih (by simp [e])⟩
        · exact ih (by simp [e, h])

/-- Separator-free pieces come back from the text they were joined into. -/
theorem pieces_joinPieces {sep : Char} {l : List (List Char)} (ne : l ≠ [])
    (h : ∀ p ∈ l, sep ∉ p) : pieces sep (joinPieces sep l) = l := by
  induction l with
  | nil => exact absurd rfl ne
  | cons p l ih =>
    cases l with
    | nil => simpa [joinPieces] using pieces_eq_singleton (h p (by simp))
    | cons q l =>
      rw [joinPieces, pieces_append_cons (h p (by simp)), ih (by simp)]
      · intro r hr
        exact h r (by simp [hr])
      · simp

/-- The pieces of a text put together again are the text. -/
theorem joinPieces_pieces (sep : Char) (s : List Char) : joinPieces sep (pieces sep s) = s := by
  induction s with
  | nil => rfl
  | cons c s ih =>
    unfold pieces
    split
    · rename_i hc
      cases h : pieces sep s with
      | nil => exact absurd h (pieces_ne_nil sep s)
      | cons p ps =>
        rw [h] at ih
        rw [joinPieces, ih, hc, List.nil_append]
        exact List.cons_ne_nil p ps
    · split
      · rename_i e
        exact absurd e (pieces_ne_nil sep s)
      · rename_i p ps e
        rw [e] at ih
        rw [← ih]
        cases ps <;> rfl

theorem infix_joinPieces {sep : Char} {l : List (List Char)} {p : List Char} (h : p ∈ l) :
    p <:+: joinPieces sep l := by
  induction l with
  | nil => cases h
  | cons q l ih =>
    cases l with
    | nil =>
      rw [List.mem_singleton.1 h]
      exact List.infix_rfl
    | cons r l =>
      rcases List.mem_cons.1 h with rfl | h
      · exact (List.prefix_append p _).isInfix
      · have rest : joinPieces sep (r :: l) <:+ joinPieces sep (q :: r :: l) :=
          (List.suffix_cons sep _).trans (List.suffix_append q _)
        exact (ih h).trans rest.isInfix

theorem mem_joinPieces {sep c : Char} {l : List (List Char)} (h : c ∈ joinPieces sep l) :
    c = sep ∨ ∃ p ∈ l, c ∈ p := by
  induction l with
  | nil => cases h
  | cons p l ih =>
    cases l with
    | nil => exact .inr ⟨p, List.mem_singleton_self p, h⟩
    | cons q l =>
      rcases List.mem_append.1 h with hp | hrest
      · exact .inr ⟨p, List.mem_cons_self, hp⟩
      · rcases List.mem_cons.1 hrest with rfl | hrest
        · exact .inl rfl
        · exact (ih hrest).imp_right fun ⟨p', hp', hc⟩ => ⟨p', List.mem_cons_of_mem p hp', hc⟩

theorem infix_of_mem_items {s : Option String} {m : String} (h : m ∈ items s) :
    m.toList <:+: (s.getD "").toList := by
  obtain ⟨p, mem, rfl⟩ := List.mem_map.1 h
  rw [String.toList_ofList]
  have stands : p <:+: joinPieces ',' (pieces ',' (s.getD "").toList) :=
    infix_joinPieces (List.mem_filter.1 mem).1
  rwa [joinPieces_pieces] at stands

/-- The entries of a list are not empty and hold no comma. -/
theorem proper_of_mem_items {s : Option String} {m : String} (h : m ∈ items s) :
    m.toList ≠ [] ∧ ',' ∉ m.toList := by
  obtain ⟨p, mem, rfl⟩ := List.mem_map.1 h
  obtain ⟨piece, nonempty⟩ := List.mem_filter.1 mem
  rw [String.toList_ofList]
  exact ⟨by simpa using nonempty, not_mem_of_mem_pieces piece⟩

theorem items_joinItems {l : List String} (h : ∀ m ∈ l, m.toList ≠ [] ∧ ',' ∉ m.toList) :
    items (some (joinItems l)) = l := by
  cases l with
  | nil => rfl
  | cons m l =>
    have commas : ∀ p ∈ (m :: l).map String.toList, ',' ∉ p := by
      simpa using fun q hq => (h q hq).2
    have nonempty : ∀ p ∈ (m :: l).map String.toList, (!p.isEmpty) = true := by
      simpa using fun q hq => (h q hq).1
    rw [items, joinItems, Option.getD_some, String.toList_ofList,
      pieces_joinPieces (by simp) commas, List.filter_eq_self.2 nonempty, List.map_map]
    simp [Function.comp_def]

end HostingPanel.Text
