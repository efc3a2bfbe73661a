/-!
# Search patterns

The patterns by which the panel selects rows on part of a text.  In a pattern `%` stands for any
run of characters and `_` for any one character; every other character stands for itself, ASCII
letters in either case.  There is no escape: a wildcard cannot be taken literally.  `covers` says
this character by character, and `like` decides it for texts of the database.
-/

namespace HostingPanel.Text

/-- All the suffixes of a text, the text itself first. -/
def suffixes : List Char → List (List Char)
  | [] => [[]]
  | c :: t => (c :: t) :: suffixes t

/-- Two characters agree in a pattern when they are the same up to the case of ASCII letters. -/
def sameLetter (c d : Char) : Bool :=
  c.toLower == d.toLower

/-- Whether a pattern covers a text from its first character to its last. -/
def covers : List Char → List Char → Bool
  | [], t => t.isEmpty
  | c :: p, t =>
    if c = '%' then (suffixes t).any (covers p)
    else match t with
      | [] => false
      | d :: t => (c == '_' || sameLetter c d) && covers p t

/-! ### Covering in one pass

Which suffixes of a text a pattern covers follows from which ones the rest of the pattern covers, so
one list of truth values for each character of the pattern is enough. -/

/-- The truth value at the first place. -/
def first : List Bool → Bool
  | [] => false
  | b :: _ => b

/-- For every place of a list, whether it or a later one holds `true`. -/
def anyFrom : List Bool → List Bool
  | [] => []
  | b :: later =>
    let rest := anyFrom later
    (b || first rest) :: rest

/-- Which suffixes of a text start with a character that agrees with `c` and go on as `rest`
says. -/
def stepRow (c : Char) : List Char → List Bool → List Bool
  | d :: t, _ :: rest => ((c == '_' || sameLetter c d) && first rest) :: stepRow c t rest
  | _, _ => [false]

/-- Which suffixes of a text a pattern covers. -/
def coverRow : List Char → List Char → List Bool
  | [], t => (suffixes t).map List.isEmpty
  | c :: p, t =>
    let rest := coverRow p t
    if c = '%' then anyFrom rest else stepRow c t rest

/-! ### Texts and patterns of the database -/

/-- The character as which a character is compared: the last two of the first plane stand for the
replacement character. -/
def compared (c : Char) : Char :=
  if c.toNat = 0xFFFE ∨ c.toNat = 0xFFFF then Char.ofNat 0xFFFD else c

/-- The part of a text that is compared: what stands before the first NUL. -/
def comparedPart (s : List Char) : List Char :=
  (s.takeWhile (· != Char.ofNat 0)).map compared

/-- Whether a text of the database is like a pattern. -/
def like (pattern text : List Char) : Bool :=
  first (coverRow (comparedPart pattern) (comparedPart text))

/-- The pattern that covers the texts containing `inner`. -/
def containing (inner : String) : String :=
  "%" ++ inner ++ "%"

/-- The pattern that covers the texts starting with `stem`. -/
def startingWith (stem : String) : String :=
  stem ++ "%"

/-- The pattern that covers the addresses at a host. -/
def atHost (host : String) : String :=
  "%@" ++ host

/-- The pattern that covers the addresses at the hosts below a domain. -/
def belowHost (host : String) : String :=
  "%@%." ++ host

@[simp] theorem mem_suffixes {u t : List Char} : u ∈ suffixes t ↔ u <:+ t := by
  induction t with
  | nil => simp [suffixes]
  | cons c t ih => simp [suffixes, ih, List.suffix_cons_iff]

@[simp] theorem first_nil : first [] = false := rfl

@[simp] theorem first_cons (b : Bool) (row : List Bool) : first (b :: row) = b := rfl

@[simp] theorem first_map_suffixes (f : List Char → Bool) (t : List Char) :
    first ((suffixes t).map f) = f t := by
  cases t <;> simp [suffixes]

theorem anyFrom_map_suffixes (f : List Char → Bool) (t : List Char) :
    anyFrom ((suffixes t).map f) = (suffixes t).map fun u => (suffixes u).any f := by
  induction t with
  | nil => simp [suffixes, anyFrom]
  | cons c t ih =>
    simp [suffixes, anyFrom, ih]

theorem stepRow_map_suffixes (c : Char) (f : List Char → Bool) (t : List Char) :
    stepRow c t ((suffixes t).map f) = (suffixes t).map fun u =>
      match u with
      | [] => false
      | d :: u => (c == '_' || sameLetter c d) && f u := by
  induction t with
  | nil => simp [suffixes, stepRow]
  | cons d t ih => simp [suffixes, stepRow, ih]

/-- The list of truth values holds for each suffix whether the pattern covers it. -/
theorem coverRow_eq (p t : List Char) : coverRow p t = (suffixes t).map (covers p) := by
  induction p with
  | nil =>
    have : covers [] = List.isEmpty := by
      funext u
      simp [covers]
    rw [coverRow, this]
  | cons c p ih =>
    rw [coverRow, ih]
    by_cases h : c = '%'
    · have : covers (c :: p) = fun u => (suffixes u).any (covers p) := by
        funext u
        simp [covers, h]
      rw [this, if_pos h, anyFrom_map_suffixes]
    · have : covers (c :: p) = fun u =>
          match u with
          | [] => false
          | d :: u => (c == '_' || sameLetter c d) && covers p u := by
        funext u
        cases u <;> simp [covers, h]
      rw [this, if_neg h, stepRow_map_suffixes]

/-- A text is like a pattern if the pattern covers the part of it that is compared. -/
theorem like_eq_covers (pattern text : List Char) :
    like pattern text = covers (comparedPart pattern) (comparedPart text) := by
  rw [like, coverRow_eq, first_map_suffixes]

@[simp] theorem sameLetter_self (c : Char) : sameLetter c c = true := by
  simp [sameLetter]
/-- In front of a pattern and a text the same characters may be added. -/
theorem covers_append {p t : List Char} (s : List Char) (h : covers p t = true) :
    covers (s ++ p) (s ++ t) = true := by
  induction s with
  | nil => exact h
  | cons c s ih =>
    rw [List.cons_append, List.cons_append]
    unfold covers
    split
    · simp only [List.any_eq_true, mem_suffixes]
      exact ⟨s ++ t, List.suffix_cons c _, ih⟩
    · simp [ih]

theorem covers_self (t : List Char) : covers t t = true := by
  simpa using covers_append (p := []) (t := []) t rfl

theorem covers_percent_append {p t : List Char} (s : List Char) (h : covers p t = true) :
    covers ('%' :: p) (s ++ t) = true := by
  simp only [covers, if_true, List.any_eq_true, mem_suffixes]
  exact ⟨t, List.suffix_append s t, h⟩

/-- Behind characters other than NUL the comparison goes on. -/
theorem comparedPart_append {s : List Char} (whole : Char.ofNat 0 ∉ s) (t : List Char) :
    comparedPart (s ++ t) = s.map compared ++ comparedPart t := by
  have all : ∀ c ∈ s, (c != Char.ofNat 0) = true := fun c hc => by
    simp only [bne_iff_ne]
    rintro rfl
    exact whole hc
  rw [comparedPart, List.takeWhile_append_of_pos all, List.map_append, comparedPart]

theorem comparedPart_append_of_mem {s : List Char} (cut : Char.ofNat 0 ∈ s) (t : List Char) :
    comparedPart (s ++ t) = comparedPart s := by
  have short : (s.takeWhile (· != Char.ofNat 0)).length ≠ s.length := by
    intro same
    have all : (s.takeWhile (· != Char.ofNat 0)).all (· != Char.ofNat 0) = true :=
      List.all_takeWhile
    rw [(List.takeWhile_prefix _).eq_of_length same, List.all_eq_true] at all
    simpa using all _ cut
  rw [comparedPart, List.takeWhile_append, if_neg short, comparedPart]

/-- A leading `%` stands for any run of characters without NUL. -/
theorem like_percent_append {p t s : List Char} (whole : Char.ofNat 0 ∉ s)
    (h : like p t = true) : like ('%' :: p) (s ++ t) = true := by
  rw [like_eq_covers] at h ⊢
  have percent : comparedPart ('%' :: p) = '%' :: comparedPart p := by
    simp [comparedPart, compared]
  rw [percent, comparedPart_append whole]
  exact covers_percent_append _ h

/-- A text is like the pattern for the texts that start with a part of it. -/
theorem like_append_percent (s t : List Char) : like (s ++ ['%']) (s ++ t) = true := by
  rw [like_eq_covers]
  by_cases cut : Char.ofNat 0 ∈ s
  · rw [comparedPart_append_of_mem cut, comparedPart_append_of_mem cut]
    exact covers_self _
  · rw [comparedPart_append cut, comparedPart_append cut]
    have percent : comparedPart ['%'] = ['%'] := by
      decide
    have rest : covers ['%'] (comparedPart t) = true := by
      simp [covers]
    rw [percent]
    exact covers_append _ rest

/-- A text is like the pattern for the texts that contain a part of it if no NUL stands before that
part. -/
theorem like_containing {before inner : List Char} (whole : Char.ofNat 0 ∉ before)
    (after : List Char) : like ('%' :: (inner ++ ['%'])) (before ++ (inner ++ after)) = true :=
  like_percent_append whole (like_append_percent inner after)

example : like "%@EXAMPLE.com".toList "a@example.com".toList = true := by decide +kernel

end HostingPanel.Text
