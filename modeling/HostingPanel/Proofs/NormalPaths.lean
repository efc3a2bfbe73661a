import Mathlib.Data.List.Infix
import HostingPanel.Text.MountPath

/-!
# Normal forms of paths

Mount points are compared by their normal forms.  That serves its purpose only if a normal form
leads to the same directory as the path that it stands for, wherever one starts from, and if it is
the only normal form that does so.

Where a path leads is said by `resolve`, which walks along the segments and goes up at every `..`.
The normal form is made in another way: `climb` keeps a `..` of a relative path as long as there is
nothing before it to take back.  What is kept so far is therefore a stack of names on top of a stack
of `..`, and the latter is empty for an absolute path.  `IsKept` says this; every segment keeps it,
and while it holds the stack leads to where the segments read so far lead.

`normalizePath_keeps_location` says that the normal form is one (`IsNormal`), is its own normal form
and leads to the same directory.  `normalizePath_eq_iff` says that two paths have the same normal
form exactly if they lead to the same directory from everywhere.
-/

namespace HostingPanel.Text

/-! ### Definitions -/

/-- Walks from a directory along a segment.  The directory is given by the names on the way to it,
the last one first.  At the root `..` stays where it is. -/
def enter (directory : List (List Char)) (segment : List Char) : List (List Char) :=
  if segment = [] ∨ segment = ['.'] then directory
  else if segment = ['.', '.'] then directory.tail
  else segment :: directory

/-- The directory that a path leads to from another one.  An absolute path starts from the root. -/
def resolve (directory : List (List Char)) (path : List Char) : List (List Char) :=
  (pieces '/' path).foldl enter (if path.head? = some '/' then [] else directory)

/-- The segments of a path.  The slash of the root is in front of the first one; the root itself has
none. -/
def segments (path : List Char) : List (List Char) :=
  if path = ['/'] then []
  else pieces '/' (if path.head? = some '/' then path.tail else path)

/-- A path in normal form. -/
structure IsNormal (path : List Char) : Prop where
  noBackslash : '\\' ∉ path
  noEmpty : [] ∉ segments path
  /-- A segment `.` is the whole path. -/
  noDot : path ≠ ['.'] → ['.'] ∉ segments path
  noRepeat : ¬ ['/', '/'] <:+: path
  /-- A slash at the end is the whole path. -/
  noTrailing : path ≠ ['/'] → ¬ ['/'] <:+ path
  /-- An absolute path does not go up. -/
  noUps : path.head? = some '/' → ['.', '.'] ∉ segments path
  /-- A relative path goes up at its beginning only. -/
  upsFirst : path.head? ≠ some '/' →
    ∃ k rest, segments path = List.replicate k ['.', '.'] ++ rest ∧ ['.', '.'] ∉ rest

/-- A segment that is a name. -/
structure IsName (segment : List Char) : Prop where
  ne_nil : segment ≠ []
  ne_dot : segment ≠ ['.']
  ne_up : segment ≠ ['.', '.']
  slash : '/' ∉ segment
  backslash : '\\' ∉ segment

lemma IsName.not_skip {segment : List Char} (h : IsName segment) :
    ¬(segment = [] ∨ segment = ['.']) :=
  not_or.2 ⟨h.ne_nil, h.ne_dot⟩

/-- What may be kept of the segments of a path, the last one first: names above `..`, of which an
absolute path has none. -/
inductive IsKept (absolute : Bool) : List (List Char) → Prop
  | nil : IsKept absolute []
  /-- A `..` is kept if all that is below it is `..` too. -/
  | up {stack : List (List Char)} (hrelative : absolute = false)
      (hups : ∀ segment ∈ stack, segment = ['.', '.']) : IsKept absolute (['.', '.'] :: stack)
  /-- A name is kept. -/
  | name {segment : List Char} {stack : List (List Char)} (hname : IsName segment)
      (hstack : IsKept absolute stack) : IsKept absolute (segment :: stack)

/-- Where the segments that are kept lead from a directory. -/
def leadsTo (absolute : Bool) (stack directory : List (List Char)) : List (List Char) :=
  stack.foldr (fun segment d => enter d segment) (if absolute then [] else directory)

/-- A path written from its segments. -/
def writePath (absolute : Bool) (kept : List (List Char)) : List Char :=
  if absolute then '/' :: joinPieces '/' kept
  else if (joinPieces '/' kept).isEmpty then ['.']
  else joinPieces '/' kept

lemma normalChars_eq (s : List Char) :
    normalChars s = writePath (isAbsolute s) (keptSegments s) := rfl

/-! ### Walking -/

section Enter

variable (directory : List (List Char))

/-- A segment that stands for the directory itself leads nowhere else. -/
lemma enter_of_skip {segment : List Char} (h : segment = [] ∨ segment = ['.']) :
    enter directory segment = directory :=
  if_pos h

lemma enter_up : enter directory ['.', '.'] = directory.tail := by
  simp [enter]

lemma enter_of_ne {segment : List Char} (hskip : ¬(segment = [] ∨ segment = ['.']))
    (hup : segment ≠ ['.', '.']) : enter directory segment = segment :: directory := by
  rw [enter, if_neg hskip, if_neg hup]

lemma leadsTo_cons (absolute : Bool) (segment : List Char) (stack : List (List Char)) :
    leadsTo absolute (segment :: stack) directory =
      enter (leadsTo absolute stack directory) segment := rfl

end Enter

/-! ### Slashes -/

/-- No backslash is left where all are read as slashes. -/
lemma backslash_notMem_slashes (s : List Char) : '\\' ∉ slashes s := by
  intro h
  obtain ⟨c, -, hc⟩ := List.mem_map.1 h
  split at hc
  · cases hc
  · rename_i hne
    exact hne hc

lemma slashes_eq_self {s : List Char} (h : '\\' ∉ s) : slashes s = s := by
  refine (List.map_congr_left fun c hc => ?_).trans (List.map_id s)
  exact if_neg fun (heq : c = '\\') => h (heq ▸ hc)

/-- A path is absolute if it starts with a slash or a backslash. -/
lemma isAbsolute_iff {s : List Char} :
    isAbsolute s = true ↔ s.head? = some '/' ∨ s.head? = some '\\' := by
  cases s with
  | nil => simp [isAbsolute, slashes]
  | cons c s =>
    by_cases hc : c = '\\' <;> simp [isAbsolute, slashes, hc]

lemma head?_slashes (s : List Char) : (slashes s).head? = some '/' ↔ isAbsolute s = true := by
  simp [isAbsolute]

/-! ### What is kept -/

section Climb

variable (absolute : Bool) (stack : List (List Char))

/-- A segment that stands for the directory itself is left out. -/
lemma climb_of_skip {segment : List Char} (h : segment = [] ∨ segment = ['.']) :
    climb absolute stack segment = stack :=
  if_pos h

lemma climb_of_ne {segment : List Char} (hskip : ¬(segment = [] ∨ segment = ['.']))
    (hup : segment ≠ ['.', '.']) : climb absolute stack segment = segment :: stack :=
  (if_neg hskip).trans (if_pos hup)

lemma climb_up_nil : climb absolute [] ['.', '.'] = if absolute then [] else [['.', '.']] := by
  cases absolute <;> rfl

lemma climb_up_cons (top : List Char) :
    climb absolute (top :: stack) ['.', '.'] =
      if top = ['.', '.'] then ['.', '.'] :: top :: stack else stack := by
  simp [climb]

end Climb

namespace IsKept

variable {absolute : Bool} {stack : List (List Char)} {segment : List Char}

/-- What lies below a segment that is kept is kept too. -/
lemma tail (h : IsKept absolute (segment :: stack)) : IsKept absolute stack := by
  cases h with
  | up hrelative hups =>
    cases stack with
    | nil => exact .nil
    | cons top rest =>
      obtain ⟨rfl, hrest⟩ := List.forall_mem_cons.1 hups
      exact .up hrelative hrest
  | name _ hstack => exact hstack

/-- What is kept consists of names and some `..` below them. -/
lemma exists_names (h : IsKept absolute stack) :
    ∃ names k, stack = names ++ List.replicate k ['.', '.'] ∧ (∀ name ∈ names, IsName name) ∧
      (absolute = true → k = 0) := by
  induction h with
  | nil => exact ⟨[], 0, rfl, by simp, fun _ => rfl⟩
  | @up stack hrelative hups =>
    refine ⟨[], stack.length + 1, ?_, by simp, by simp [hrelative]⟩
    rw [List.nil_append, List.replicate_succ, ← List.eq_replicate_of_mem hups]
  | @name segment stack hname _ ih =>
    obtain ⟨names, k, rfl, hnames, habsolute⟩ := ih
    exact ⟨segment :: names, k, rfl, List.forall_mem_cons.2 ⟨hname, hnames⟩, habsolute⟩

/-- A segment that is kept stands for something and is free of slashes and backslashes. -/
lemma plain (h : IsKept absolute stack) (hmem : segment ∈ stack) :
    segment ≠ [] ∧ segment ≠ ['.'] ∧ '/' ∉ segment ∧ '\\' ∉ segment := by
  obtain ⟨names, k, rfl, hnames, -⟩ := h.exists_names
  rcases List.mem_append.1 hmem with hname | hup
  · have hname := hnames segment hname
    exact ⟨hname.ne_nil, hname.ne_dot, hname.slash, hname.backslash⟩
  · rw [List.eq_of_mem_replicate hup]
    decide

lemma up_notMem (h : IsKept true stack) : ['.', '.'] ∉ stack := by
  obtain ⟨names, k, rfl, hnames, hk⟩ := h.exists_names
  rw [hk rfl, List.replicate_zero, List.append_nil]
  exact fun hmem => (hnames _ hmem).ne_up rfl

/-- Folding a segment into what is kept leaves something that may be kept. -/
lemma climb (h : IsKept absolute stack) (hslash : '/' ∉ segment) (hbackslash : '\\' ∉ segment) :
    IsKept absolute (Text.climb absolute stack segment) := by
  by_cases hskip : segment = [] ∨ segment = ['.']
  · rwa [climb_of_skip absolute stack hskip]
  by_cases hup : segment = ['.', '.']
  · subst hup
    cases h with
    | nil =>
      rw [climb_up_nil]
      cases absolute with
      | false => exact .up rfl (by simp)
      | true => exact .nil
    | up hrelative hups =>
      rw [climb_up_cons, if_pos rfl]
      exact .up hrelative (List.forall_mem_cons.2 ⟨rfl, hups⟩)
    | name hname hstack =>
      rwa [climb_up_cons, if_neg hname.ne_up]
  · rw [climb_of_ne absolute stack hskip hup]
    exact .name ⟨fun h => hskip (.inl h), fun h => hskip (.inr h), hup, hslash, hbackslash⟩ h

/-- A segment that may be kept on top of others is put there. -/
lemma climb_eq_cons (h : IsKept absolute (segment :: stack)) :
    Text.climb absolute stack segment = segment :: stack := by
  cases h with
  | up hrelative hups =>
    cases stack with
    | nil => rw [climb_up_nil, hrelative, if_neg Bool.false_ne_true]
    | cons top rest =>
      obtain ⟨htop, -⟩ := List.forall_mem_cons.1 hups
      rw [climb_up_cons, if_pos htop]
  | name hname _ => exact climb_of_ne absolute stack hname.not_skip hname.ne_up

/-- Segments that may be kept are kept when they are read again. -/
lemma foldl_climb (h : IsKept absolute stack) :
    stack.reverse.foldl (Text.climb absolute) [] = stack := by
  induction stack with
  | nil => rfl
  | cons segment stack ih =>
    rw [List.reverse_cons, List.foldl_append, ih h.tail]
    exact h.climb_eq_cons

/-- Where what is kept leads after a further segment.  A `..` takes back a name that has been
entered, and at the root, from which an absolute path starts, it does nothing. -/
lemma leadsTo_climb (h : IsKept absolute stack) (segment : List Char)
    (directory : List (List Char)) :
    leadsTo absolute (Text.climb absolute stack segment) directory =
      enter (leadsTo absolute stack directory) segment := by
  by_cases hskip : segment = [] ∨ segment = ['.']
  · rw [climb_of_skip absolute stack hskip, enter_of_skip _ hskip]
  by_cases hup : segment = ['.', '.']
  · subst hup
    cases h with
    | nil =>
      rw [climb_up_nil, enter_up]
      cases absolute <;> rfl
    | up _ _ => rw [climb_up_cons, if_pos rfl, leadsTo_cons]
    | name hname _ =>
      rw [climb_up_cons, if_neg hname.ne_up, leadsTo_cons,
        enter_of_ne _ hname.not_skip hname.ne_up, enter_up, List.tail_cons]
  · rw [climb_of_ne absolute stack hskip hup, leadsTo_cons]

/-- A path is read to its end: what is kept may be kept, and leads to where the segments lead. -/
lemma foldl_leadsTo (h : IsKept absolute stack) {path : List (List Char)}
    (hpath : ∀ segment ∈ path, '/' ∉ segment ∧ '\\' ∉ segment) :
    IsKept absolute (path.foldl (Text.climb absolute) stack) ∧
      ∀ directory, leadsTo absolute (path.foldl (Text.climb absolute) stack) directory =
        path.foldl enter (leadsTo absolute stack directory) := by
  -- The induction is along the path; the stack is whatever has been kept before.
  induction path generalizing stack with
  | nil => exact ⟨h, fun _ => rfl⟩
  | cons segment path ih =>
    obtain ⟨⟨hslash, hbackslash⟩, hrest⟩ := List.forall_mem_cons.1 hpath
    obtain ⟨hkept, hleads⟩ := ih (h.climb hslash hbackslash) hrest
    refine ⟨hkept, fun directory => ?_⟩
    rw [List.foldl_cons, List.foldl_cons, hleads, h.leadsTo_climb]

/-- Names above `..` lead up by as many directories as there are `..`, and then down along the
names. -/
lemma leadsTo_names {names : List (List Char)} (hnames : ∀ name ∈ names, IsName name)
    (absolute : Bool) (k : Nat) (directory : List (List Char)) :
    leadsTo absolute (names ++ List.replicate k ['.', '.']) directory =
      names ++ (if absolute then [] else directory).drop k := by
  induction names with
  | nil =>
    induction k with
    | zero => rfl
    | succ k ih =>
      rw [List.nil_append] at ih ⊢
      rw [List.replicate_succ, leadsTo_cons, ih, enter_up, List.nil_append, List.tail_drop]
      rfl
  | cons name names ih =>
    obtain ⟨hname, hrest⟩ := List.forall_mem_cons.1 hnames
    rw [List.cons_append, leadsTo_cons, ih hrest, enter_of_ne _ hname.not_skip hname.ne_up]
    rfl

lemma eq_of_leadsTo {absolute' : Bool} {stack' : List (List Char)} (h : IsKept absolute stack)
    (h' : IsKept absolute' stack')
    (hleads : ∀ directory, leadsTo absolute stack directory = leadsTo absolute' stack' directory) :
    absolute = absolute' ∧ stack = stack' := by
  obtain ⟨names, k, rfl, hnames, hk⟩ := h.exists_names
  obtain ⟨names', k', rfl, hnames', hk'⟩ := h'.exists_names
  simp only [leadsTo_names hnames, leadsTo_names hnames'] at hleads
  -- From the root the names alone are left.
  obtain rfl : names = names' := by
    simpa using hleads []
  -- A directory that is deep enough tells how often the paths go up, and whether they start there.
  have hdepth := congrArg List.length (hleads (List.replicate (k + k' + 1) []))
  cases absolute <;> cases absolute' <;>
    simp only [List.length_append, List.length_drop, List.length_replicate, List.length_nil,
      if_true, if_false, Bool.false_eq_true, reduceCtorEq, false_and, true_and, forall_const]
      at hdepth hk hk' ⊢
  · obtain rfl : k = k' := by omega
    rfl
  · omega
  · omega
  · rw [hk, hk']

end IsKept

/-! ### Pieces -/

/-- In front of a separator at the beginning there is an empty piece. -/
lemma nil_mem_pieces_of_leading {sep : Char} {s : List Char} (h : [sep] <+: s) :
    [] ∈ pieces sep s := by
  obtain ⟨t, rfl⟩ := h
  simp [pieces]

/-- A text without empty pieces does not start with the separator. -/
lemma head?_ne_of_notMem_pieces {sep : Char} {s : List Char} (h : [] ∉ pieces sep s) :
    s.head? ≠ some sep := by
  intro hhead
  obtain ⟨t, rfl⟩ := List.head?_eq_some_iff.1 hhead
  exact h (nil_mem_pieces_of_leading ⟨t, rfl⟩)

/-- After a separator at the end there is an empty piece. -/
lemma nil_mem_pieces_of_trailing {sep : Char} {s : List Char} (h : [sep] <:+ s) :
    [] ∈ pieces sep s := by
  obtain ⟨t, rfl⟩ := h
  rw [pieces_append]
  simp [pieces]

lemma nil_mem_pieces_of_doubled {sep : Char} {s : List Char} (h : [sep, sep] <:+: s) :
    [] ∈ pieces sep s := by
  obtain ⟨before, after, rfl⟩ := h
  have hcut : pieces sep (before ++ [sep, sep] ++ after) =
      pieces sep before ++ pieces sep (sep :: after) := by
    rw [← pieces_append, List.append_assoc]
    rfl
  rw [hcut]
  simp [pieces]

lemma mem_pieces_of_mem {sep c : Char} {s : List Char} (h : c ∈ s) (hc : c ≠ sep) :
    ∃ p ∈ pieces sep s, c ∈ p := by
  rw [← joinPieces_pieces sep s] at h
  exact (mem_joinPieces h).resolve_left hc

lemma segments_of_relative {path : List Char} (h : path.head? ≠ some '/') :
    segments path = pieces '/' path := by
  have hroot : path ≠ ['/'] := fun hpath => h (hpath ▸ rfl)
  rw [segments, if_neg hroot, if_neg h]

lemma segments_slash_cons {body : List Char} (h : body ≠ []) :
    segments ('/' :: body) = pieces '/' body := by
  simp [segments, h]

/-! ### Written paths -/

namespace IsKept

variable {absolute : Bool} {stack : List (List Char)}

/-- A path is written as the root, as the directory itself, or from segments that can be read off
again, with the slash of the root in front of them if it is absolute. -/
lemma written_cases (h : IsKept absolute stack) :
    (stack = [] ∧ writePath absolute stack.reverse = if absolute then ['/'] else ['.']) ∨
      ∃ body, pieces '/' body = stack.reverse ∧ [] ∉ pieces '/' body ∧
        writePath absolute stack.reverse = if absolute then '/' :: body else body := by
  by_cases hstack : stack = []
  · subst hstack
    exact .inl ⟨rfl, rfl⟩
  · have hslash : ∀ segment ∈ stack.reverse, '/' ∉ segment := by
      intro segment hmem
      obtain ⟨-, -, hslash, -⟩ := h.plain (List.mem_reverse.1 hmem)
      exact hslash
    have hpieces : pieces '/' (joinPieces '/' stack.reverse) = stack.reverse :=
      pieces_joinPieces (by simpa using hstack) hslash
    have hnonempty : [] ∉ pieces '/' (joinPieces '/' stack.reverse) := by
      rw [hpieces, List.mem_reverse]
      exact fun hmem => (h.plain hmem).1 rfl
    refine .inr ⟨_, hpieces, hnonempty, ?_⟩
    have hbody : joinPieces '/' stack.reverse ≠ [] := by
      intro hempty
      rw [hempty] at hnonempty
      simp [pieces] at hnonempty
    simp [writePath, hbody]

/-- A written path starts with a slash exactly if it is absolute. -/
lemma head?_written (h : IsKept absolute stack) :
    (writePath absolute stack.reverse).head? = some '/' ↔ absolute = true := by
  rcases h.written_cases with ⟨-, hwritten⟩ | ⟨body, -, hnonempty, hwritten⟩
  · rw [hwritten]
    cases absolute <;> decide
  · have hbody : body.head? ≠ some '/' := head?_ne_of_notMem_pieces hnonempty
    rw [hwritten]
    cases absolute <;> simp [hbody]

lemma backslash_notMem_written (h : IsKept absolute stack) :
    '\\' ∉ writePath absolute stack.reverse := by
  rcases h.written_cases with ⟨-, hwritten⟩ | ⟨body, hpieces, -, hwritten⟩
  · rw [hwritten]
    cases absolute <;> decide
  · have hbody : '\\' ∉ body := by
      intro hmem
      have hne : '\\' ≠ '/' := by
        decide
      obtain ⟨segment, hsegment, hc⟩ := mem_pieces_of_mem hmem hne
      rw [hpieces, List.mem_reverse] at hsegment
      obtain ⟨-, -, -, hbackslash⟩ := h.plain hsegment
      exact hbackslash hc
    rw [hwritten]
    cases absolute <;> simp [hbody]

/-- Reading a written path is reading what was kept, if segments that stand for the directory itself
are passed over. -/
lemma foldl_written (h : IsKept absolute stack) {β : Type} (f : β → List Char → β)
    (hskip : ∀ b segment, segment = [] ∨ segment = ['.'] → f b segment = b) (b : β) :
    (pieces '/' (writePath absolute stack.reverse)).foldl f b = stack.reverse.foldl f b := by
  rcases h.written_cases with ⟨rfl, hwritten⟩ | ⟨body, hpieces, -, hwritten⟩
  · rw [hwritten]
    cases absolute <;> simp [pieces, hskip]
  · rw [hwritten, ← hpieces]
    cases absolute <;> simp [pieces, hskip]

/-- The segments of a written path are those that were kept, or `.` for the directory itself. -/
lemma segments_written (h : IsKept absolute stack) :
    segments (writePath absolute stack.reverse) =
      if absolute = false ∧ stack = [] then [['.']] else stack.reverse := by
  rcases h.written_cases with ⟨rfl, hwritten⟩ | ⟨body, hpieces, hnonempty, hwritten⟩
  · rw [hwritten]
    cases absolute <;> decide
  · have hstack : stack ≠ [] := by
      rintro rfl
      exact pieces_ne_nil '/' body hpieces
    rw [if_neg (fun hempty => hstack hempty.2 : ¬(absolute = false ∧ stack = [])), hwritten,
      ← hpieces]
    cases absolute with
    | true => exact segments_slash_cons fun hempty => hnonempty (by simp [hempty, pieces])
    | false => exact segments_of_relative (head?_ne_of_notMem_pieces hnonempty)

lemma noRepeat_written (h : IsKept absolute stack) :
    ¬ ['/', '/'] <:+: writePath absolute stack.reverse := by
  rcases h.written_cases with ⟨-, hwritten⟩ | ⟨body, -, hnonempty, hwritten⟩
  · rw [hwritten]
    cases absolute <;> decide
  · have hbody : ¬ ['/', '/'] <:+: body := fun hinfix =>
      hnonempty (nil_mem_pieces_of_doubled hinfix)
    rw [hwritten]
    cases absolute with
    | false => exact hbody
    | true =>
      intro hinfix
      rcases List.infix_cons_iff.1 hinfix with hprefix | hinfix
      · have hslash : ['/'] <+: body := (List.cons_prefix_cons.1 hprefix).2
        exact hnonempty (nil_mem_pieces_of_leading hslash)
      · exact hbody hinfix

/-- A written path ends with a slash only if it is the root. -/
lemma noTrailing_written (h : IsKept absolute stack)
    (hpath : writePath absolute stack.reverse ≠ ['/']) :
    ¬ ['/'] <:+ writePath absolute stack.reverse := by
  rcases h.written_cases with ⟨-, hwritten⟩ | ⟨body, -, hnonempty, hwritten⟩
  · rw [hwritten] at hpath ⊢
    cases absolute with
    | false => decide
    | true => exact absurd rfl hpath
  · have hbody : ¬ ['/'] <:+ body := fun hsuffix => hnonempty (nil_mem_pieces_of_trailing hsuffix)
    rw [hwritten] at hpath ⊢
    cases absolute with
    | false => exact hbody
    | true =>
      intro hsuffix
      rcases List.suffix_cons_iff.1 hsuffix with hwhole | hsuffix
      · exact hpath hwhole.symm
      · exact hbody hsuffix

lemma isNormal_written (h : IsKept absolute stack) :
    IsNormal (writePath absolute stack.reverse) where
  noBackslash := h.backslash_notMem_written
  noEmpty := by
    rw [h.segments_written]
    split_ifs
    · decide
    · exact fun hmem => (h.plain (List.mem_reverse.1 hmem)).1 rfl
  noDot hpath := by
    have hkept : ¬(absolute = false ∧ stack = []) := by
      rintro ⟨rfl, rfl⟩
      exact hpath rfl
    rw [h.segments_written, if_neg hkept]
    intro hmem
    obtain ⟨-, hdot, -⟩ := h.plain (List.mem_reverse.1 hmem)
    exact hdot rfl
  noRepeat := h.noRepeat_written
  noTrailing := h.noTrailing_written
  noUps hhead := by
    obtain rfl := h.head?_written.1 hhead
    rw [h.segments_written, if_neg (by simp), List.mem_reverse]
    exact h.up_notMem
  upsFirst hhead := by
    rw [h.segments_written]
    split_ifs
    · exact ⟨0, [['.']], rfl, by decide⟩
    · obtain ⟨names, k, rfl, hnames, -⟩ := h.exists_names
      refine ⟨k, names.reverse, by simp, fun hmem => ?_⟩
      exact (hnames _ (List.mem_reverse.1 hmem)).ne_up rfl

lemma resolve_written (h : IsKept absolute stack) (directory : List (List Char)) :
    resolve directory (writePath absolute stack.reverse) = leadsTo absolute stack directory := by
  simp only [resolve, h.head?_written]
  rw [h.foldl_written enter fun d _ => enter_of_skip d, List.foldl_reverse]
  rfl

lemma normalChars_written (h : IsKept absolute stack) :
    normalChars (writePath absolute stack.reverse) = writePath absolute stack.reverse := by
  have hslashes := slashes_eq_self h.backslash_notMem_written
  have habsolute : isAbsolute (writePath absolute stack.reverse) = absolute := by
    rw [Bool.eq_iff_iff, ← head?_slashes, hslashes, h.head?_written]
  have hkept : keptSegments (writePath absolute stack.reverse) = stack.reverse := by
    rw [keptSegments, habsolute, hslashes,
      h.foldl_written (Text.climb absolute) fun b _ => climb_of_skip absolute b, h.foldl_climb]
  rw [normalChars_eq, habsolute, hkept]

end IsKept

/-! ### Normal forms -/

/-- A path is read once: what is kept of it gives the normal form, and leads where the path leads. -/
lemma exists_kept (s : List Char) :
    ∃ stack, IsKept (isAbsolute s) stack ∧ normalChars s = writePath (isAbsolute s) stack.reverse ∧
      ∀ directory, resolve directory (slashes s) = leadsTo (isAbsolute s) stack directory := by
  have hplain : ∀ segment ∈ pieces '/' (slashes s), '/' ∉ segment ∧ '\\' ∉ segment := by
    intro segment hsegment
    refine ⟨not_mem_of_mem_pieces hsegment, fun hc => backslash_notMem_slashes s ?_⟩
    rw [← joinPieces_pieces '/' (slashes s)]
    exact (infix_joinPieces hsegment).subset hc
  have hnil : IsKept (isAbsolute s) [] := .nil
  obtain ⟨hkept, hleads⟩ := hnil.foldl_leadsTo hplain
  refine ⟨_, hkept, rfl, fun directory => ?_⟩
  rw [hleads]
  simp only [resolve, head?_slashes]
  rfl

/-- The normal form of a path leads where the path leads. -/
lemma resolve_normalChars (directory : List (List Char)) (s : List Char) :
    resolve directory (normalChars s) = resolve directory (slashes s) := by
  obtain ⟨stack, hstack, hnormal, hleads⟩ := exists_kept s
  rw [hnormal, hstack.resolve_written, hleads]

lemma toList_normalizePath (p : String) :
    (normalizePath (some p)).toList = normalChars p.toList :=
  String.toList_ofList

/-- The normal form of a path keeps its location.  Take any text as a path.  The normal form is in
normal form: it has no backslash, no empty segment and, unless it is `.` itself, no segment `.`; no
slash is repeated, and none ends it unless it is the root; it has no `..` if it is absolute, and
else at its beginning only.  It is absolute exactly if the path starts with a slash or a backslash,
it is its own normal form, and from every directory it leads to the same one as the path does if its
backslashes are read as slashes. -/
theorem normalizePath_keeps_location (p : String) :
    IsNormal (normalizePath (some p)).toList ∧
      ((normalizePath (some p)).toList.head? = some '/' ↔
        p.toList.head? = some '/' ∨ p.toList.head? = some '\\') ∧
      normalizePath (some (normalizePath (some p))) = normalizePath (some p) ∧
      ∀ directory, resolve directory (normalizePath (some p)).toList =
        resolve directory (slashes p.toList) := by
  obtain ⟨stack, hstack, hnormal, -⟩ := exists_kept p.toList
  refine ⟨?_, ?_, ?_, fun directory => ?_⟩
  · rw [toList_normalizePath, hnormal]
    exact hstack.isNormal_written
  · rw [toList_normalizePath, hnormal, hstack.head?_written, isAbsolute_iff]
  · rw [← String.toList_inj, toList_normalizePath, toList_normalizePath, hnormal]
    exact hstack.normalChars_written
  · rw [toList_normalizePath, resolve_normalChars]

example : resolve [['b'], ['a']] (slashes "..\\.//c/".toList) =
    resolve [['b'], ['a']] "../c".toList := by
  decide

/-- Two paths have the same normal form exactly if they lead to the same directory from
everywhere. -/
theorem normalizePath_eq_iff (p q : String) :
    normalizePath (some p) = normalizePath (some q) ↔
      ∀ directory, resolve directory (slashes p.toList) = resolve directory (slashes q.toList) := by
  rw [← String.toList_inj, toList_normalizePath, toList_normalizePath]
  constructor
  · intro hsame directory
    rw [← resolve_normalChars, hsame, resolve_normalChars]
  · intro hsame
    obtain ⟨stack, hstack, hnormal, hleads⟩ := exists_kept p.toList
    obtain ⟨stack', hstack', hnormal', hleads'⟩ := exists_kept q.toList
    obtain ⟨habsolute, rfl⟩ := hstack.eq_of_leadsTo hstack' fun directory => by
      rw [← hleads, ← hleads', hsame]
    rw [hnormal, hnormal', habsolute]

end HostingPanel.Text
