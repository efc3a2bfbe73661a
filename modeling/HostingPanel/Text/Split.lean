import Mathlib.Data.String.Basic

/-!
# Cutting a text at a character

A text is cut at the places where it holds another text by going along its positions.  Where that
other text is a single character, the pieces are those into which the list of characters is cut
(`splitOn_ofList`), so they can be computed from the list.
-/

namespace HostingPanel.Text

open String

/-- How the cutting goes on at the character after `l ++ m`, where the piece since `l` is not yet
complete: what remains is cut as a list, and the first piece is added to `m`. -/
theorem splitOnAux_of_valid (a : Char) (l m r : List Char) (pieces : List String) :
    splitOnAux (ofList (l ++ m ++ r)) (ofList [a]) ⟨utf8Len l⟩ ⟨utf8Len l + utf8Len m⟩ 0 pieces =
      pieces.reverse ++ (List.splitOnPPrepend (· == a) r m.reverse).map ofList := by
  have hget : Pos.Raw.get (ofList [a]) 0 = a := by simpa using get_of_valid [] [a]
  have hnext : Pos.Raw.next (ofList [a]) 0 = ⟨utf8Len [a]⟩ := by simpa using next_of_valid [] a []
  unfold splitOnAux
  simp only [List.append_assoc, atEnd_iff, rawEndPos_ofList, utf8Len_append, Pos.Raw.mk_le_mk,
    Nat.add_le_add_iff_left, (by omega : utf8Len m + utf8Len r ≤ utf8Len m ↔ utf8Len r = 0),
    utf8Len_eq_zero, List.reverse_cons, hget, hnext]
  split
  · subst r
    simpa using extract_of_valid l m []
  · rename_i hrest
    obtain ⟨c, r, rfl⟩ := r.exists_cons_of_ne_nil hrest
    have hnow := get_of_valid (l ++ m) (c :: r)
    have hafter := next_of_valid (l ++ m) c r
    simp only [utf8Len_append, List.append_assoc, List.headD_cons] at hnow hafter
    simp only [hnow]
    split
    · rename_i hsame
      obtain rfl : c = a := by simpa using hsame
      have hback : Pos.Raw.unoffsetBy ⟨utf8Len l + utf8Len m + c.utf8Size⟩ ⟨utf8Len [c]⟩ =
          ⟨utf8Len l + utf8Len m⟩ := by
        simp [Pos.Raw.unoffsetBy]
      have hpiece : Pos.Raw.extract (ofList (l ++ (m ++ c :: r))) ⟨utf8Len l⟩
          ⟨utf8Len l + utf8Len m⟩ = ofList m := by
        simpa [-ofList_append] using extract_of_valid l m (c :: r)
      simp only [hafter, le_refl, if_true, hback, hpiece]
      simpa [Nat.add_assoc, List.splitOnPPrepend_cons_eq_if, -ofList_append] using
        splitOnAux_of_valid c (l ++ m ++ [c]) [] r (ofList m :: pieces)
    · rename_i hother
      have hback : Pos.Raw.unoffsetBy ⟨utf8Len l + utf8Len m⟩ 0 = ⟨utf8Len l + utf8Len m⟩ := by
        simp [Pos.Raw.unoffsetBy]
      rw [hback, hafter]
      simpa [List.splitOnPPrepend_cons_eq_if, hother, Nat.add_assoc, -ofList_append] using
        splitOnAux_of_valid a l (m ++ [c]) r pieces

/-- A text is cut at a character as the list of its characters is. -/
theorem splitOn_ofList (s : String) (a : Char) :
    s.splitOn (ofList [a]) = (s.toList.splitOn a).map ofList := by
  obtain ⟨l, rfl⟩ := s.exists_eq_ofList
  have hne : (ofList [a] == "") = false := by simp
  rw [splitOn, hne, toList_ofList]
  exact splitOnAux_of_valid a [] [] l []

end HostingPanel.Text
