import HostingPanel.Proofs.AliasCoverage
import HostingPanel.Proofs.CustomerEstate
import Mathlib.Data.Fintype.Option

/-!
# Keys of different kinds

Subdomains, aliases and subdomains of aliases have keys of their own, which overlap, and three
tables refer to all of them by one column of keys and one of types.  The types of certificates and
of PHP settings are compared as texts.  The kinds of a mail account are a list, of which a pattern
asks that it contain the stem of a family, and the `_` at the end of a stem stands for any
character.  But no root of a stem stands within a kind of another family, and since it holds no
comma it cannot stand across two kinds either (`Text.exists_of_infix_joinPieces`).  So a pattern
covers the lists of its own family and no others, however long they are (`Site.isLike_iff`).

`web_deletion_reaches_own_kinds` says what that means for the three deletions of web space.
-/

namespace HostingPanel

open OperationM Statement

/-! ### What a pattern finds in a list -/

namespace Text

/-- If a pattern asks for a run of characters without wildcards somewhere in a text, the text holds
such a run, up to the case of letters. -/
lemma exists_infix_of_covers {s p t : List Char} (hs : ∀ c ∈ s, c ≠ '%' ∧ c ≠ '_')
    (h : covers ('%' :: (s ++ p)) t = true) :
    ∃ run, run <:+: t ∧ List.Forall₂ (fun c d => sameLetter c d = true) s run := by
  obtain ⟨-, u, hu, hcovers⟩ | ⟨hc, -⟩ := covers_cons_iff.1 h
  · have hprefix : ∃ run, run <+: u ∧ List.Forall₂ (fun c d => sameLetter c d = true) s run := by
      clear h hu
      induction s generalizing u with
      | nil => exact ⟨[], List.nil_prefix, .nil⟩
      | cons c s ih =>
        obtain ⟨⟨hpercent, hunderscore⟩, hs⟩ := List.forall_mem_cons.1 hs
        obtain ⟨hc, -⟩ | ⟨-, d, v, rfl, hd, hrest⟩ := covers_cons_iff.1 hcovers
        · exact absurd hc hpercent
        · obtain ⟨run, hrun, hsame⟩ := ih hs v hrest
          have hd : sameLetter c d = true := by
            simpa [hunderscore] using hd
          exact ⟨d :: run, (List.prefix_cons_inj d).2 hrun, .cons hd hsame⟩
    obtain ⟨run, hrun, hsame⟩ := hprefix
    exact ⟨run, hrun.isInfix.trans hu.isInfix, hsame⟩
  · exact absurd rfl hc

/-- What stands in a text without the separator stands on one side of it. -/
lemma infix_append_cons {sep : Char} {r : List Char} (hsep : sep ∉ r) {p t : List Char}
    (h : r <:+: p ++ sep :: t) : r <:+: p ∨ r <:+: t := by
  have hstart : ∀ p : List Char, r <+: p ++ sep :: t → r <+: p := by
    rintro p ⟨rest, hrest⟩
    rcases List.append_eq_append_iff.1 hrest with ⟨more, rfl, -⟩ | ⟨more, rfl, hmore⟩
    · exact List.prefix_append r more
    · cases more with
      | nil => simp
      | cons c more =>
        obtain ⟨rfl, -⟩ := List.cons.inj hmore
        simp at hsep
  induction p with
  | nil =>
    rcases List.infix_cons_iff.1 h with hprefix | hinfix
    · exact .inl (hstart [] hprefix).isInfix
    · exact .inr hinfix
  | cons c p ih =>
    rcases List.infix_cons_iff.1 h with hprefix | hinfix
    · exact .inl (hstart (c :: p) hprefix).isInfix
    · exact (ih hinfix).imp_left fun hp => hp.trans (List.suffix_cons c p).isInfix

/-- What stands in a list without the separator stands in one of its pieces. -/
lemma exists_of_infix_joinPieces {sep : Char} {r : List Char} (hne : r ≠ []) (hsep : sep ∉ r)
    {l : List (List Char)} (h : r <:+: joinPieces sep l) : ∃ p ∈ l, r <:+: p := by
  induction l with
  | nil => exact absurd (List.infix_nil.1 h) hne
  | cons p l ih =>
    cases l with
    | nil => exact ⟨p, List.mem_singleton_self p, h⟩
    | cons q l =>
      rcases infix_append_cons hsep h with hp | hrest
      · exact ⟨p, List.mem_cons_self, hp⟩
      · obtain ⟨p', hp', hinfix⟩ := ih hrest
        exact ⟨p', List.mem_cons_of_mem p hp', hinfix⟩

/-- A character that is compared as it is, and is no capital letter. -/
def IsPlain (c : Char) : Prop :=
  c ≠ Char.ofNat 0 ∧ compared c = c ∧ c.toLower = c

instance (c : Char) : Decidable (IsPlain c) :=
  inferInstanceAs (Decidable (_ ∧ _))

lemma comparedPart_eq_self {t : List Char} (h : ∀ c ∈ t, IsPlain c) : comparedPart t = t := by
  have hwhole : t.takeWhile (· != Char.ofNat 0) = t :=
    List.takeWhile_eq_self_iff.2 fun c hc => by simpa using (h c hc).1
  rw [comparedPart, hwhole, List.map_congr_left fun c hc => (h c hc).2.1, List.map_id']

lemma eq_of_sameLetter {s t : List Char}
    (h : List.Forall₂ (fun c d => sameLetter c d = true) s t) (hs : ∀ c ∈ s, IsPlain c)
    (ht : ∀ c ∈ t, IsPlain c) : s = t := by
  induction h with
  | nil => rfl
  | cons hsame _ ih =>
    obtain ⟨hc, hs⟩ := List.forall_mem_cons.1 hs
    obtain ⟨hd, ht⟩ := List.forall_mem_cons.1 ht
    rw [sameLetter, hc.2.2, hd.2.2, beq_iff_eq] at hsame
    rw [hsame, ih hs ht]

/-- If a text of plain characters is like the pattern for a stem that ends with `_`, it contains
what stands before the `_`. -/
lemma infix_of_like {root t : List Char} (hroot : ∀ c ∈ root, IsPlain c ∧ c ≠ '%' ∧ c ≠ '_')
    (ht : ∀ c ∈ t, IsPlain c) (h : like ('%' :: (root ++ ['_', '%'])) t = true) :
    root <:+: t := by
  have hwildcards : ∀ c ∈ ['_', '%'], IsPlain c :=
    List.forall_mem_cons.2 ⟨by decide, List.forall_mem_singleton.2 (by decide)⟩
  have hpattern : ∀ c ∈ '%' :: (root ++ ['_', '%']), IsPlain c := by
    refine List.forall_mem_cons.2 ⟨by decide, fun c hc => ?_⟩
    exact (List.mem_append.1 hc).elim (fun hc => (hroot c hc).1) (hwildcards c)
  rw [like_eq_covers, comparedPart_eq_self hpattern, comparedPart_eq_self ht] at h
  obtain ⟨run, hrun, hsame⟩ := exists_infix_of_covers (fun c hc => (hroot c hc).2) h
  rwa [eq_of_sameLetter hsame (fun c hc => (hroot c hc).1) fun c hc => ht c (hrun.subset hc)]

/-- A text of plain characters is like the pattern for what it contains. -/
lemma like_of_infix {s t : List Char} (ht : ∀ c ∈ t, IsPlain c) (h : s <:+: t) :
    like ('%' :: (s ++ ['%'])) t = true := by
  obtain ⟨before, after, rfl⟩ := h
  rw [List.append_assoc] at ht ⊢
  exact like_containing (fun hc => (ht _ (List.mem_append_left _ hc)).1 rfl) after

end Text

/-! ### Families of mail accounts -/

/-- The kinds of web space below a domain. -/
inductive Site where
  | subdomain
  | domainAlias
  | aliasSubdomain
deriving DecidableEq

namespace Site

instance : Fintype Site where
  elems := {.subdomain, .domainAlias, .aliasSubdomain}
  complete site := by cases site <;> decide

/-- The type of certificates. -/
def certificateType : Site → String
  | .subdomain => "sub"
  | .domainAlias => "als"
  | .aliasSubdomain => "alssub"

/-- The type of PHP settings. -/
def phpType : Site → String
  | .subdomain => "sub"
  | .domainAlias => "als"
  | .aliasSubdomain => "subals"

/-- The root of the kinds of mail accounts, of a site or else of the domain itself. -/
def mailRoot : Option Site → String
  | none => "normal"
  | some .subdomain => "subdom"
  | some .domainAlias => "alias"
  | some .aliasSubdomain => "alssub"

/-- What the kinds of mail accounts start with. -/
def mailStem (owner : Option Site) : String :=
  mailRoot owner ++ "_"

/-- The kinds of mail accounts of one family. -/
def mailKinds (owner : Option Site) : List String :=
  ["mail", "forward", "catchall"].map (mailStem owner ++ ·)

/-- The kinds of a mail account are a list of kinds of one family. -/
def HasMail (owner : Option Site) (m : Mailbox) : Prop :=
  ∃ kinds : List String, (∀ k ∈ kinds, k ∈ mailKinds owner) ∧ m.kind = some (Text.joinItems kinds)

/-- The roots are plain characters without wildcards or commas. -/
lemma mailRoot_plain : ∀ owner, (mailRoot owner).toList ≠ [] ∧ ',' ∉ (mailRoot owner).toList ∧
    ∀ c ∈ (mailRoot owner).toList, Text.IsPlain c ∧ c ≠ '%' ∧ c ≠ '_' := by
  -- The characters are gone through one by one, not among all that there are.
  have hroots : ∀ owner, (mailRoot owner).toList ≠ [] ∧ ',' ∉ (mailRoot owner).toList ∧
      (mailRoot owner).toList.all (fun c => Text.IsPlain c ∧ c ≠ '%' ∧ c ≠ '_') = true := by
    decide +kernel
  simpa only [List.all_eq_true, decide_eq_true_eq] using hroots

lemma mailKinds_plain : ∀ owner, ∀ k ∈ mailKinds owner, ∀ c ∈ k.toList, Text.IsPlain c := by
  have hkinds : ∀ owner, ∀ k ∈ mailKinds owner,
      k.toList.all (fun c => Text.IsPlain c) = true := by
    decide +kernel
  simpa only [List.all_eq_true, decide_eq_true_eq] using hkinds

lemma mailStem_within : ∀ owner, ∀ k ∈ mailKinds owner, (mailStem owner).toList <:+: k.toList := by
  decide +kernel

/-- The root of a family stands in no kind of another one. -/
lemma eq_of_root_within : ∀ owner owner', ∀ k ∈ mailKinds owner,
    (mailRoot owner').toList <:+: k.toList → owner' = owner := by
  decide +kernel

section Lists

variable {owner : Option Site} {kinds : List String}

lemma toList_joinItems (kinds : List String) :
    (Text.joinItems kinds).toList = Text.joinPieces ',' (kinds.map String.toList) := by
  rw [Text.joinItems, String.toList_ofList]

lemma joinItems_plain (hkinds : ∀ k ∈ kinds, k ∈ mailKinds owner) :
    ∀ c ∈ (Text.joinItems kinds).toList, Text.IsPlain c := by
  intro c hc
  rw [toList_joinItems] at hc
  rcases Text.mem_joinPieces hc with rfl | ⟨p, hp, hc⟩
  · decide
  · obtain ⟨k, hk, rfl⟩ := List.mem_map.1 hp
    exact mailKinds_plain owner k (hkinds k hk) c hc

/-- If the root of a family stands in it, the kinds are of this family. -/
lemma eq_of_root_within_joinItems (hkinds : ∀ k ∈ kinds, k ∈ mailKinds owner)
    {owner' : Option Site} (h : (mailRoot owner').toList <:+: (Text.joinItems kinds).toList) :
    owner' = owner := by
  obtain ⟨hne, hcomma, -⟩ := mailRoot_plain owner'
  rw [toList_joinItems] at h
  obtain ⟨p, hp, hinfix⟩ := Text.exists_of_infix_joinPieces hne hcomma h
  obtain ⟨k, hk, rfl⟩ := List.mem_map.1 hp
  exact eq_of_root_within owner owner' k (hkinds k hk) hinfix

/-- Unless it is empty, the stem of the family stands in it. -/
lemma mailStem_within_joinItems (hkinds : ∀ k ∈ kinds, k ∈ mailKinds owner)
    (hne : Text.joinItems kinds ≠ "") :
    (mailStem owner).toList <:+: (Text.joinItems kinds).toList := by
  obtain ⟨k, hk⟩ := List.exists_mem_of_ne_nil kinds fun hnil => hne (hnil ▸ rfl)
  rw [toList_joinItems]
  exact (mailStem_within owner k (hkinds k hk)).trans
    (Text.infix_joinPieces (List.mem_map_of_mem hk))

/-- The pattern for a family covers the lists of this family and no others, save that it does not
cover an empty list. -/
lemma isLike_iff {m : Mailbox} (h : HasMail owner m) (owner' : Option Site) :
    Cell.isLike (Text.containing (mailStem owner')) m.kind = true ↔
      owner' = owner ∧ m.kind ≠ some "" := by
  obtain ⟨kinds, hkinds, hkind⟩ := h
  have hplain := joinItems_plain hkinds
  have hpattern : (Text.containing (mailStem owner')).toList =
      '%' :: ((mailStem owner').toList ++ ['%']) := by
    simp [Text.containing]
  have hstem : (mailStem owner').toList ++ ['%'] = (mailRoot owner').toList ++ ['_', '%'] := by
    simp [mailStem]
  obtain ⟨hne, -, hroot⟩ := mailRoot_plain owner'
  rw [hkind, Cell.isLike, Option.any_some, hpattern, ne_eq, Option.some.injEq]
  constructor
  · intro hlike
    rw [hstem] at hlike
    have hinfix := Text.infix_of_like hroot hplain hlike
    refine ⟨eq_of_root_within_joinItems hkinds hinfix, fun hempty => ?_⟩
    rw [hempty] at hinfix
    exact hne (List.infix_nil.1 hinfix)
  · rintro ⟨rfl, hne⟩
    exact Text.like_of_infix hplain (mailStem_within_joinItems hkinds hne)

end Lists

end Site

/-! ### The three deletions -/

/-- Whether a deletion of web space is about the site of a kind with the key in a number column: for
an alias that is the alias itself and its subdomains. -/
def Job.reaches (s : Store) : Job → Site → Option Quantity → Bool
  | .deleteSubdomain id, .subdomain, key => id.equalsQuantity key
  | .deleteAliasSubdomain id, .aliasSubdomain, key => id.equalsQuantity key
  | .deleteDomainAlias id, .domainAlias, key => id.equalsQuantity key
  | .deleteDomainAlias id, .aliasSubdomain, key => Jobs.isSubdomainOfAlias s id key
  | _, _, _ => false

/-- Whether it is about a site of one of the given kinds with that key. -/
def Job.picks (job : Job) (s : Store) (isOf : Site → Bool) (key : Option Quantity) : Bool :=
  decide (∃ site, isOf site = true ∧ job.reaches s site key = true)

section Picks

variable {s : Store} {id : Json} {isOf : Site → Bool} {key : Option Quantity}

lemma Site.exists_iff {P : Site → Prop} :
    (∃ site, P site) ↔ P .subdomain ∨ P .domainAlias ∨ P .aliasSubdomain := by
  constructor
  · rintro ⟨_ | _ | _, h⟩
    · exact .inl h
    · exact .inr (.inl h)
    · exact .inr (.inr h)
  · rintro (h | h | h)
    · exact ⟨_, h⟩
    · exact ⟨_, h⟩
    · exact ⟨_, h⟩

@[simp] lemma Job.picks_deleteSubdomain :
    (Job.deleteSubdomain id).picks s isOf key =
      (id.equalsQuantity key && isOf .subdomain) := by
  simp [Job.picks, Site.exists_iff, Job.reaches, Bool.and_comm]

@[simp] lemma Job.picks_deleteAliasSubdomain :
    (Job.deleteAliasSubdomain id).picks s isOf key =
      (id.equalsQuantity key && isOf .aliasSubdomain) := by
  simp [Job.picks, Site.exists_iff, Job.reaches, Bool.and_comm]

@[simp] lemma Job.picks_deleteDomainAlias :
    (Job.deleteDomainAlias id).picks s isOf key =
      (id.equalsQuantity key && isOf .domainAlias ||
        Jobs.isSubdomainOfAlias s id key && isOf .aliasSubdomain) := by
  simp [Job.picks, Site.exists_iff, Job.reaches, Bool.and_comm]

end Picks

/-- The mail accounts, certificates and PHP settings after a deletion of web space. -/
structure Job.Reached (job : Job) (s s' : Store) : Prop where
  /-- The mail accounts of reached sites are scheduled, if the pattern finds them. -/
  mail : s'.rows .mail = updateRows
    (fun (m : Mailbox) => job.picks s
      (fun site => Cell.isLike (Text.containing (Site.mailStem (some site))) m.kind) m.subId)
    (fun (m : Mailbox) => { m with status := some Status.toDelete }) (s.rows .mail)
  /-- The certificates of reached sites are scheduled. -/
  certificates : s'.rows .certificate = updateRows
    (fun (c : Certificate) => job.picks s
      (fun site => Cell.isText site.certificateType c.ownerType) c.ownerId)
    (fun (c : Certificate) => { c with status := some Status.toDelete }) (s.rows .certificate)
  /-- The PHP settings of reached sites are removed. -/
  php : s'.rows .php = (s.rows .php).filter fun (p : PhpSetting) => !job.picks s
    (fun site => Cell.isText site.phpType p.ownerType) p.ownerId

namespace Jobs

open FtpGroups (Pruning)

lemma mailStem_eq : Site.mailStem (some .subdomain) = "subdom_" ∧
    Site.mailStem (some .domainAlias) = "alias_" ∧
    Site.mailStem (some .aliasSubdomain) = "alssub_" := by
  decide +kernel

lemma reached_subdomainStatements (id : Json) (sub : Subdomain) (host : String) (s : Store) :
    (Job.deleteSubdomain id).Reached s (applyAll (subdomainStatements id sub host) s) := by
  refine ⟨?_, ?_, ?_⟩
  · simp only [Job.picks_deleteSubdomain, mailStem_eq]
    rfl
  · simp only [Job.picks_deleteSubdomain]
    rfl
  · simp only [Job.picks_deleteSubdomain]
    rfl

lemma reached_aliasSubdomainStatements (id : Json) (sub : AliasSubdomain) (parent : DomainAlias)
    (host : String) (s : Store) : (Job.deleteAliasSubdomain id).Reached s
      (applyAll (aliasSubdomainStatements id sub parent host) s) := by
  refine ⟨?_, ?_, ?_⟩
  · simp only [Job.picks_deleteAliasSubdomain, mailStem_eq]
    rfl
  · simp only [Job.picks_deleteAliasSubdomain]
    rfl
  · simp only [Job.picks_deleteAliasSubdomain]
    rfl

/-- The statements on an alias.  They schedule the subdomains of the alias last, and that does not
change which ones they are. -/
lemma reached_aliasCascade (id : Json) (row : DomainAlias) (name : String) (s : Store) :
    (Job.deleteDomainAlias id).Reached s (applyAll (aliasCascade id row name) s) := by
  refine ⟨?_, ?_, ?_⟩
  · simp only [Job.picks_deleteDomainAlias, mailStem_eq]
    rfl
  · have hboth : (applyAll (aliasCascade id row name) s).rows .certificate =
        [fun (c : Certificate) =>
            Cell.isText "alssub" c.ownerType && isSubdomainOfAlias s id c.ownerId,
          fun (c : Certificate) =>
            id.equalsQuantity c.ownerId && Cell.isText "als" c.ownerType].foldl
          (fun rows picks => updateRows picks
            (fun (c : Certificate) => { c with status := some Status.toDelete }) rows)
          (s.rows .certificate) :=
      rfl
    have hchange : ∀ c : Certificate, Table.scheduleDeletion .certificate
        (Table.scheduleDeletion .certificate c) = Table.scheduleDeletion .certificate c :=
      fun _ => rfl
    refine hboth.trans ((foldl_updateRows hchange _ _).trans ?_)
    congr 1
    funext c
    simp [Site.certificateType, Bool.and_comm, Bool.or_comm]
  · have hboth : (applyAll (aliasCascade id row name) s).rows .php =
        ((s.rows .php).filter fun (p : PhpSetting) =>
          !(id.equalsQuantity p.ownerId && Cell.isText "als" p.ownerType)).filter
          fun (p : PhpSetting) =>
            !(Cell.isText "subals" p.ownerType && isSubdomainOfAlias s id p.ownerId) :=
      rfl
    rw [hboth, List.filter_filter]
    refine List.filter_congr fun p _ => ?_
    simp [Site.phpType, Bool.and_comm]

end Jobs

/-- What comes before the statements, and after them, does not touch these tables. -/
lemma Job.Reached.of_rows {job : Job} {s t t' s' : Store} (h : job.Reached t t')
    (hbefore : ∀ u ∈ [Table.mail, .certificate, .php, .aliasSubdomain], t.rows u = s.rows u)
    (hafter : ∀ u ∈ [Table.mail, .certificate, .php], s'.rows u = t'.rows u) :
    job.Reached s s' := by
  have hchildren : ∀ id, Jobs.isSubdomainOfAlias t id = Jobs.isSubdomainOfAlias s id := by
    intro id
    funext key
    rw [Jobs.isSubdomainOfAlias, Jobs.isSubdomainOfAlias, hbefore .aliasSubdomain (by simp)]
  have hreaches : job.reaches t = job.reaches s := by
    funext site key
    unfold Job.reaches
    split <;> simp only [hchildren]
  have hpicks : job.picks t = job.picks s := by
    funext isOf key
    simp only [Job.picks, hreaches]
  refine ⟨?_, ?_, ?_⟩
  · rw [hafter .mail (by simp), h.mail, hbefore .mail (by simp), hpicks]
  · rw [hafter .certificate (by simp), h.certificates, hbefore .certificate (by simp), hpicks]
  · rw [hafter .php (by simp), h.php, hbefore .php (by simp), hpicks]

/-- A deletion of web space that succeeds has reached what it is about. -/
lemma Job.reached_of_run {user : User} {job : Job} {c : Context} {p q : Panel} {answer : String}
    (hweb : job.isWebDeletion = true)
    (hrun : OperationM.run (job.run user) c p = (.ok answer, q)) :
    job.Reached p.store q.store := by
  obtain ⟨plan, hplan, changed, -, -, hblock, -, hrows, -⟩ := commitsWithEntry_of_run_job hrun
  have hafter : ∀ u ∈ [Table.mail, .certificate, .php], q.store.rows u = changed.rows u := by
    simpa using ⟨hrows .mail (by decide), hrows .certificate (by decide),
      hrows .php (by decide)⟩
  have hbefore : ∀ (x : FtpGroups.Pruning),
      ∀ u ∈ [Table.mail, .certificate, .php, .aliasSubdomain],
        (x.apply p.store).rows u = p.store.rows u := by
    intro x u hu
    refine x.rows_apply_of_notMem ?_ p.store
    revert u
    decide
  cases job with
  | deleteSubdomain id =>
    obtain ⟨customer, sub, domain, -, -, rfl⟩ := Jobs.planSubdomain_eq_ok hplan
    obtain rfl := Jobs.hostBlock_prunes hblock
    exact (Jobs.reached_subdomainStatements id sub _ _).of_rows (hbefore _) hafter
  | deleteAliasSubdomain id =>
    obtain ⟨customer, sub, parent, -, -, rfl⟩ := Jobs.planAliasSubdomain_eq_ok hplan
    obtain rfl := Jobs.hostBlock_prunes hblock
    exact (Jobs.reached_aliasSubdomainStatements id sub parent _ _).of_rows (hbefore _) hafter
  | deleteDomainAlias id =>
    obtain ⟨customer, row, owner, -, -, rfl⟩ := Jobs.planDomainAlias_eq_ok hplan
    obtain ⟨host, -, rfl⟩ := Jobs.aliasBlock_prunes hblock
    exact (Jobs.reached_aliasCascade id row host _).of_rows (hbefore _) hafter
  | _ => cases hweb

/-- A deletion of web space reaches nothing of another kind with the same key.  Take any database,
and let a subdomain, an alias or a subdomain of an alias be deleted with success.  The deletion is
about the site with the key, and if that is an alias, also about its subdomains.  Of the mail
accounts whose kinds are a list of one family, however long, those of a family and with a key of
such a site are scheduled, unless the list is empty, and all others stay as they are.  So do the
certificates of any other type or key, and the PHP settings of any other type or key are all that is
left of them. -/
theorem web_deletion_reaches_own_kinds {user : User} {job : Job} {c : Context} {p q : Panel}
    {answer : String} (hweb : job.isWebDeletion = true)
    (hrun : run (job.run user) c p = (.ok answer, q)) :
    List.Forall₂ (fun m m' : Mailbox => ∀ owner, Site.HasMail owner m →
        m' = if m.kind ≠ some "" ∧
            ∃ site, owner = some site ∧ job.reaches p.store site m.subId = true then
          { m with status := some "todelete" } else m)
        (p.store.rows .mail) (q.store.rows .mail) ∧
      q.store.rows .certificate = (p.store.rows .certificate).map (fun (x : Certificate) =>
        if ∃ site : Site, x.ownerType = some site.certificateType ∧
            job.reaches p.store site x.ownerId = true then
          { x with status := some "todelete" } else x) ∧
      q.store.rows .php = (p.store.rows .php).filter (fun (x : PhpSetting) =>
        ¬ ∃ site : Site, x.ownerType = some site.phpType ∧
          job.reaches p.store site x.ownerId = true) := by
  have hreached := Job.reached_of_run hweb hrun
  refine ⟨?_, ?_, ?_⟩
  · rw [hreached.mail, updateRows, List.forall₂_map_right_iff, List.forall₂_same]
    intro m _ owner hkinds
    simp only [Job.picks, Site.isLike_iff hkinds, decide_eq_true_eq, Status.toDelete]
    refine if_congr ⟨?_, ?_⟩ rfl rfl
    · rintro ⟨site, ⟨rfl, hne⟩, hsite⟩
      exact ⟨hne, site, rfl, hsite⟩
    · rintro ⟨hne, site, rfl, hsite⟩
      exact ⟨site, ⟨rfl, hne⟩, hsite⟩
  · simp only [hreached.certificates, updateRows, Job.picks, Cell.isText, beq_iff_eq,
      decide_eq_true_eq, Status.toDelete]
  · simp only [hreached.php, Job.picks, Cell.isText, beq_iff_eq, decide_not]

/-- A customer's site with a subdomain, an alias and a subdomain of the alias that all have the same
key, each with a mail account and a certificate. -/
def sampleSameKeys : Panel where
  store :=
    (((((Store.empty.set .domain
      [{ id := 1, name := some "example.test", ownerId := some (.whole 7) }]).set
      .subdomain [{ id := 4, domainId := some (.whole 1), name := some "shop" }]).set
      .domainAlias [{ id := 4, domainId := some (.whole 1), name := some "example.org" }]).set
      .aliasSubdomain [{ id := 4, aliasId := some (.whole 4), name := some "shop" }]).set
      .mail
      [{ id := 1, subId := some (.whole 4), kind := some "subdom_mail,subdom_forward" },
        { id := 2, subId := some (.whole 4), kind := some "alias_mail,alias_forward" },
        { id := 3, subId := some (.whole 4), kind := some "alssub_catchall" }]).set
      .certificate [{ id := 1, ownerId := some (.whole 4), ownerType := some "sub" },
        { id := 2, ownerId := some (.whole 4), ownerType := some "als" },
        { id := 3, ownerId := some (.whole 4), ownerType := some "alssub" }]
  notifier := Notifier.create {}

/-- The deletion of the subdomain schedules its own mail account and certificate only. -/
theorem web_deletion_reaches_own_kinds_sample :
    ∃ q, run (Job.run sampleCustomer (.deleteSubdomain (.int 4))) {} sampleSameKeys =
        (.ok "Subdomain scheduled for deletion.", q) ∧
      (q.store.rows .mail).map (fun (m : Mailbox) => m.status) =
        [some "todelete", some "ok", some "ok"] ∧
      (q.store.rows .certificate).map (fun (x : Certificate) => x.status) =
        [some "todelete", some "ok", some "ok"] := by
  have hrun : run (Job.run sampleCustomer (.deleteSubdomain (.int 4))) {} sampleSameKeys =
      (.ok "Subdomain scheduled for deletion.",
        (run (Job.run sampleCustomer (.deleteSubdomain (.int 4))) {} sampleSameKeys).2) :=
    Prod.ext rfl rfl
  obtain ⟨-, hcertificates, -⟩ := web_deletion_reaches_own_kinds (by rfl) hrun
  refine ⟨_, hrun, by decide +kernel, ?_⟩
  rw [hcertificates]
  decide +kernel

end HostingPanel
