import HostingPanel.Proofs.MountedAreas

/-!
# Aliases and their subdomains

When an alias goes, its subdomains go with it, with all that lies under them.  A subdomain can still
be deleted afterwards, and then there ought to be nothing left to do.  Both deletions are a pruning
and sweeps, so the question is what a cascade does after another one (`Cascade.effect_effect`).

A sweep leaves itself nothing to do, and what comes after it leaves it nothing to do either
(`Statement.idle_of_mem`).  So each statement on the subdomain is compared with the statement on the
alias that is about the same table: if that one has picked all its rows, it is idle.  PHP settings,
certificates, mail accounts and the subdomain itself are found by keys, and there the two agree.
FTP accounts are found by patterns, of which the one for the hosts below the alias covers the one
for the subdomain, unless a NUL cuts this one off.  Protected areas are found by directories, and
nothing says that the directory of a subdomain is within that of the alias: if it is not, its areas
are overlooked.

`alias_deletion_covers_subdomain_iff` says exactly when nothing is left.
-/

namespace HostingPanel

open OperationM Statement

open FtpGroups (Pruning)

/-! ### Patterns that cover what others cover -/

namespace Text

/-- What a pattern covers: behind `%` the rest of the pattern covers some end of the text, and any
other character takes one character that agrees with it. -/
lemma covers_cons_iff {c : Char} {p t : List Char} : covers (c :: p) t = true ↔
    (c = '%' ∧ ∃ u, u <:+ t ∧ covers p u = true) ∨
      (c ≠ '%' ∧ ∃ d u, t = d :: u ∧ (c == '_' || sameLetter c d) = true ∧ covers p u = true) := by
  by_cases hc : c = '%'
  · simp [covers, hc]
  · cases t <;> simp [covers, hc]

/-- If a pattern covers what another one covers, it still does behind the same characters. -/
lemma covers_append_mono {p p' : List Char} (h : ∀ t, covers p t = true → covers p' t = true)
    (s : List Char) : ∀ t, covers (s ++ p) t = true → covers (s ++ p') t = true := by
  induction s with
  | nil => exact h
  | cons c s ih =>
    intro t ht
    rw [List.cons_append, covers_cons_iff] at ht ⊢
    rcases ht with ⟨hc, u, hu, hcovers⟩ | ⟨hc, d, u, rfl, hd, hcovers⟩
    · exact .inl ⟨hc, u, hu, ih u hcovers⟩
    · exact .inr ⟨hc, d, u, rfl, hd, ih u hcovers⟩

/-- A `%` covers whatever the beginning of a pattern covers. -/
lemma covers_percent_of_append {s p : List Char} :
    ∀ t, covers (s ++ p) t = true → covers ('%' :: p) t = true := by
  induction s with
  | nil => exact fun t h => covers_percent_append [] h
  | cons c s ih =>
    -- The rest of the beginning has covered some end of the text, and `%` takes what is before it.
    intro t ht
    have hend : ∃ u, u <:+ t ∧ covers (s ++ p) u = true := by
      rcases covers_cons_iff.1 ht with ⟨-, u, hu, hcovers⟩ | ⟨-, d, u, rfl, -, hcovers⟩
      · exact ⟨u, hu, hcovers⟩
      · exact ⟨u, List.suffix_cons d u, hcovers⟩
    obtain ⟨u, ⟨before, rfl⟩, hcovers⟩ := hend
    obtain ⟨-, v, ⟨between, rfl⟩, hp⟩ | ⟨hc, -⟩ := covers_cons_iff.1 (ih u hcovers)
    · rw [← List.append_assoc]
      exact covers_percent_append _ hp
    · exact absurd rfl hc

/-- The pattern for a host below a domain covers no more than the pattern for all of them, if its
name is compared to its end. -/
lemma like_belowHost_of_atHost {name host : String} (hname : Char.ofNat 0 ∉ name.toList)
    {text : List Char} (h : like (atHost (name ++ "." ++ host)).toList text = true) :
    like (belowHost host).toList text = true := by
  have hat : (atHost (name ++ "." ++ host)).toList =
      (['%', '@'] ++ name.toList) ++ '.' :: host.toList := by
    simp [atHost]
  have hbelow : (belowHost host).toList = ['%', '@', '%'] ++ '.' :: host.toList := by
    simp [belowHost]
  have hwhole : Char.ofNat 0 ∉ ['%', '@'] ++ name.toList := by
    simp [hname]
  have hstart : ['%', '@', '%'].map compared = ['%', '@', '%'] := by
    decide
  have hstart' : ['%', '@'].map compared = ['%', '@'] := by
    decide
  rw [like_eq_covers, hat, comparedPart_append hwhole, List.map_append, hstart',
    List.append_assoc] at h
  rw [like_eq_covers, hbelow, comparedPart_append (by decide), hstart]
  exact covers_append_mono (fun _ => covers_percent_of_append _) ['%', '@'] _ h

/-- The pattern for what starts with a stem covers no more than the pattern for a shorter stem. -/
lemma like_startingWith_mono {stem longer : String} (h : stem.toList <+: longer.toList)
    {text : List Char} (hlike : like (startingWith longer).toList text = true) :
    like (startingWith stem).toList text = true := by
  obtain ⟨rest, hrest⟩ := h
  have hpattern (stem : String) : (startingWith stem).toList = stem.toList ++ ['%'] := by
    simp [startingWith]
  have hpercent : comparedPart ['%'] = ['%'] := by
    decide
  rw [like_eq_covers, hpattern, ← hrest, List.append_assoc] at hlike
  rw [like_eq_covers, hpattern]
  by_cases hcut : Char.ofNat 0 ∈ stem.toList
  · rw [comparedPart_append_of_mem hcut] at hlike ⊢
    exact hlike
  · rw [comparedPart_append hcut] at hlike
    rw [comparedPart_append hcut, hpercent]
    refine covers_append_mono (fun t _ => ?_) _ _ hlike
    simpa using covers_percent_append t (covers_self [])

end Text

namespace Jobs

/-! ### Web space that covers other web space -/

namespace WebSpace

/-- Whatever FTP accounts and protected areas the deletion of one web space picks, the deletion of
another one picks too, but for those that wait for their deletion already. -/
structure Covers (w w' : WebSpace) (s : Store) : Prop where
  /-- The protected areas are picked. -/
  areas : ∀ a : ProtectedArea, a ∈ s.rows .area → w'.picksArea a = true →
    w.picksArea a = true ∨ a.status = some Status.toDelete
  /-- The FTP accounts are covered by the patterns. -/
  ftpUsers : ∀ u : FtpUser, u ∈ s.rows .ftpUser → isCovered w'.patterns u = true →
    isCovered w.patterns u = true ∨ u.status = some Status.toDelete

variable {w w' : WebSpace} {s s' : Store}

/-- After the deletion of one web space the deletion of another one changes neither FTP accounts nor
protected areas exactly if the first covers the second. -/
lemma Gone.covers_iff (h : w.Gone s s') :
    w.Covers w' s ↔
      updateRows w'.picksArea (fun a => { a with status := some Status.toDelete })
          (s'.rows .area) = s'.rows .area ∧
        withCoveredDeleted w'.patterns (s'.rows .ftpUser) = s'.rows .ftpUser := by
  have harea (a : ProtectedArea) : { a with status := some Status.toDelete } = a ↔
      a.status = some Status.toDelete :=
    Table.scheduled_eq_self_iff (t := .area) rfl
  have huser (u : FtpUser) : { u with status := some Status.toDelete } = u ↔
      u.status = some Status.toDelete :=
    Table.scheduled_eq_self_iff (t := .ftpUser) rfl
  have hareas : updateRows w'.picksArea (fun a => { a with status := some Status.toDelete })
      (s'.rows .area) = s'.rows .area ↔ ∀ a : ProtectedArea, a ∈ s.rows .area →
        w'.picksArea a = true → w.picksArea a = true ∨ a.status = some Status.toDelete := by
    rw [h.areas]
    refine (updateRows_updateRows_eq_iff ?_ ?_).trans (by simp only [harea])
    · exact fun _ => rfl
    · exact fun _ => rfl
  have husers : withCoveredDeleted w'.patterns (s'.rows .ftpUser) = s'.rows .ftpUser ↔
      ∀ u : FtpUser, u ∈ s.rows .ftpUser → isCovered w'.patterns u = true →
        isCovered w.patterns u = true ∨ u.status = some Status.toDelete := by
    rw [h.ftpUsers]
    refine (updateRows_updateRows_eq_iff ?_ ?_).trans (by simp only [huser])
    · exact fun _ => rfl
    · exact fun _ => rfl
  rw [hareas, husers]
  exact ⟨fun h => ⟨h.areas, h.ftpUsers⟩, fun h => ⟨h.1, h.2⟩⟩

/-- Web space covers a host below it that lies in its directory, if the name of the host is compared
to its end. -/
lemma covers_of_within {name : String} (hbelow : w.below = true) (hbelow' : w'.below = false)
    (hhost : w'.host = name ++ "." ++ w.host) (hname : Char.ofNat 0 ∉ name.toList)
    (hdomain : w'.domainId = w.domainId)
    (hdirectory : w.directory.toList <+: w'.directory.toList) : w.Covers w' s where
  areas a _ hpicked := by
    simp only [picksArea, Bool.and_eq_true, Cell.isLike, Option.any_eq_true] at hpicked ⊢
    obtain ⟨hagree, path, hpath, hlike⟩ := hpicked
    exact .inl ⟨hdomain ▸ hagree, path, hpath, Text.like_startingWith_mono hdirectory hlike⟩
  ftpUsers u _ hcovered := by
    simp only [patterns, hbelow', Bool.false_eq_true, if_false, isCovered_singleton, hhost,
      Cell.isLike, Option.any_eq_true] at hcovered
    obtain ⟨userid, huserid, hlike⟩ := hcovered
    have hbelowHost := Text.like_belowHost_of_atHost hname hlike
    simp [patterns, hbelow, isCovered_pair, Cell.isLike, huserid, hbelowHost]

end WebSpace

end Jobs

/-! ### A subdomain that has gone with its alias -/

/-- Where PHP settings, certificates and mail accounts refer to what a parameter is equal to, they
do so by a whole number. -/
structure Store.RefersWholly (s : Store) (id : Json) : Prop where
  php : ∀ x : PhpSetting, x ∈ s.rows .php → id.equalsQuantity x.ownerId = true →
    ∃ k, x.ownerId = some (.whole k)
  certificate : ∀ x : Certificate, x ∈ s.rows .certificate → id.equalsQuantity x.ownerId = true →
    ∃ k, x.ownerId = some (.whole k)
  mail : ∀ m : Mailbox, m ∈ s.rows .mail → id.equalsQuantity m.subId = true →
    ∃ k, m.subId = some (.whole k)

lemma Store.RefersWholly.applyAll {s : Store} {id : Json} {sts : List Statement}
    (h : s.RefersWholly id) (hsweeps : ∀ st ∈ sts, st.IsSweep) :
    (Statement.applyAll sts s).RefersWholly id := by
  induction sts generalizing s with
  | nil => exact h
  | cons st sts ih =>
    obtain ⟨hfirst, hrest⟩ := List.forall_mem_cons.1 hsweeps
    refine ih ⟨fun x hx => ?_, fun x hx => ?_, fun m hm => ?_⟩ hrest
    · obtain ⟨x₀, hx₀, hsame⟩ := hfirst.exists_of_mem (f := PhpSetting.ownerId) (fun _ => rfl) hx
      exact hsame ▸ h.php x₀ hx₀
    · obtain ⟨x₀, hx₀, hsame⟩ := hfirst.exists_of_mem (f := Certificate.ownerId) (fun _ => rfl) hx
      exact hsame ▸ h.certificate x₀ hx₀
    · obtain ⟨m₀, hm₀, hsame⟩ := hfirst.exists_of_mem (f := Mailbox.subId) (fun _ => rfl) hm
      exact hsame ▸ h.mail m₀ hm₀

/-- Of the subdomains of aliases those with a key belong to an alias, and there is one. -/
structure Store.IsChild (s : Store) (key : Int) (id : Json) : Prop where
  /-- There is one that belongs to the alias. -/
  exists_alias : ∃ column, (key, column) ∈ s.aliasChildren ∧ id.equalsQuantity column = true
  /-- All of them do. -/
  equals : ∀ column, (key, column) ∈ s.aliasChildren → id.equalsQuantity column = true

namespace Jobs

variable {s : Store} {id id' : Json} {key : Int}

/-- What refers to a subdomain of an alias by a whole number belongs to a subdomain of the alias. -/
lemma isSubdomainOfAlias_of_isChild (h : s.IsChild key id) (hid : id'.equalsKey key = true)
    {column : Option Quantity} (hcolumn : id'.equalsQuantity column = true)
    (hwhole : ∃ k, column = some (.whole k)) : isSubdomainOfAlias s id column = true := by
  obtain ⟨k, rfl⟩ := hwhole
  obtain rfl : key = k := Json.eq_of_equalsInt (Json.equalsInt_of_equalsKey hid) hcolumn
  obtain ⟨aliasId, hmem, halias⟩ := h.exists_alias
  rw [isSubdomainOfAlias_eq]
  exact List.any_eq_true.2 ⟨_, hmem, by simp [Cell.refersTo, halias]⟩

section AliasGone

variable {row : DomainAlias} {name : String} (hchild : s.IsChild key id)
  (hid : id'.equalsKey key = true) (hwhole : s.RefersWholly id')
  (hidle : ∀ st ∈ aliasCascade id row name, st.Idle s)

include hchild hid hwhole hidle

/-- Where the deletion of an alias has nothing left to do, there are no PHP settings of its
subdomains. -/
lemma idle_removePhp : (removePhp id' "subals").Idle s := by
  have halias := idle_delete_iff.1 (hidle _ (List.mem_append_left _ (.tail _ (.tail _ (.head _)))))
  refine idle_delete_iff.2 fun (x : PhpSetting) hx => Bool.eq_false_iff.2 fun hpicked => ?_
  obtain ⟨hcolumn, htype⟩ := Bool.and_eq_true_iff.1 hpicked
  have hsub := isSubdomainOfAlias_of_isChild hchild hid hcolumn (hwhole.php x hx hcolumn)
  have hnone := halias x hx
  rw [htype, hsub] at hnone
  cases hnone

/-- Where the deletion of an alias has nothing left to do, the mail accounts under its subdomains
are scheduled. -/
lemma idle_scheduleMailUnder : (scheduleMailUnder id' "alssub_").Idle s := by
  have halias := idle_update_iff.1 (hidle _ (List.mem_append_right _ (.tail _ (.head _))))
  refine idle_update_iff.2 fun (m : Mailbox) hm hpicked => halias m hm ?_
  obtain ⟨hcolumn, hkind⟩ := Bool.and_eq_true_iff.1 hpicked
  have hsub := isSubdomainOfAlias_of_isChild hchild hid hcolumn (hwhole.mail m hm hcolumn)
  simp [hsub, hkind]

/-- Where the deletion of an alias has nothing left to do, the certificates of its subdomains are
scheduled. -/
lemma idle_scheduleCertificates : (scheduleCertificates id' "alssub").Idle s := by
  have halias := idle_update_iff.1
    (hidle _ (List.mem_append_right _ (.tail _ (.tail _ (.head _)))))
  refine idle_update_iff.2 fun (x : Certificate) hx hpicked => halias x hx ?_
  obtain ⟨hcolumn, htype⟩ := Bool.and_eq_true_iff.1 hpicked
  have hsub := isSubdomainOfAlias_of_isChild hchild hid hcolumn (hwhole.certificate x hx hcolumn)
  simp [hsub, htype]

/-- Where the deletion of an alias has nothing left to do, the deletion of one of its subdomains has
nothing left to do but with FTP accounts and protected areas. -/
lemma applyAll_aliasSubdomainStatements (sub : AliasSubdomain) (parent : DomainAlias)
    (host : String) :
    applyAll (aliasSubdomainStatements id' sub parent host) s =
      (scheduleAreasUnder parent.domainId sub.mount).apply ((scheduleFtpOfHost host).apply s) := by
  have hphp := idle_removePhp hchild hid hwhole hidle
  have hmail := idle_scheduleMailUnder hchild hid hwhole hidle
  have hcertificates := idle_scheduleCertificates hchild hid hwhole hidle
  have hrow : (update .aliasSubdomain [] [.text Status.toDelete, id']
      (fun _ (x : AliasSubdomain) => id'.equalsKey x.id)
      (fun (x : AliasSubdomain) => { x with status := some Status.toDelete })).Idle s := by
    have halias := idle_update_iff.1 (hidle _
      (List.mem_append_right _ (.tail _ (.tail _ (.tail _ (.tail _ (.tail _ (.head _))))))))
    refine idle_update_iff.2 fun (x : AliasSubdomain) hx hpicked => halias x hx ?_
    obtain rfl : key = x.id := Json.eq_of_equalsKey hid hpicked
    exact hchild.equals x.aliasId (List.mem_map_of_mem hx)
  have hsweeps := isSweep_of_mem_aliasSubdomainStatements id' sub parent host
  simp only [aliasSubdomainStatements, List.forall_mem_cons] at hsweeps
  obtain ⟨-, hftp, hmail', hcertificates', hareas, hrow', -⟩ := hsweeps
  simp only [aliasSubdomainStatements, applyAll_cons, applyAll_nil]
  rw [hphp.apply_eq, (hmail.apply (hmail'.commutes hftp)).apply_eq,
    (hcertificates.apply (hcertificates'.commutes hftp)).apply_eq,
    ((hrow.apply (hrow'.commutes hftp)).apply (hrow'.commutes hareas)).apply_eq]

end AliasGone

end Jobs

lemma Store.RefersWholly.effect {s : Store} {id : Json} (h : s.RefersWholly id) (x : Cascade) :
    (x.effect s).RefersWholly id := by
  refine Store.RefersWholly.applyAll ⟨?_, ?_, ?_⟩ x.sweeps
  · rw [Pruning.rows_apply_of_notMem (by decide)]
    exact h.php
  · rw [Pruning.rows_apply_of_notMem (by decide)]
    exact h.certificate
  · rw [Pruning.rows_apply_of_notMem (by decide)]
    exact h.mail

/-- In a database in which keys are keys, a subdomain of an alias is the only one with its key. -/
lemma Store.Keyed.isChild {s : Store} (h : s.Keyed) {id : Json} {sub : AliasSubdomain}
    (hsub : sub ∈ s.rows .aliasSubdomain) (halias : id.equalsQuantity sub.aliasId = true) :
    s.IsChild sub.id id where
  exists_alias := ⟨sub.aliasId, List.mem_map_of_mem hsub, halias⟩
  equals column hcolumn := by
    obtain ⟨x, hx, hsame⟩ := List.mem_map.1 hcolumn
    obtain ⟨hkey, rfl⟩ := Prod.mk.inj hsame
    obtain rfl := (h .aliasSubdomain (by decide)).eq_of_key hx hsub hkey
    exact halias

/-- In a database in which keys are keys, the deletion of a subdomain of an alias plans the same as
for the subdomain and the alias in it, whatever has become of their statuses. -/
lemma Jobs.plan_of_sameSites {user : User} {id : Json} {c : Context} {s s' : Store} {plan : Plan}
    {sub : AliasSubdomain} {row : DomainAlias} (hkeyed : s.Keyed)
    (hsub : sub ∈ s.rows .aliasSubdomain) (hid : id.equalsKey sub.id = true)
    (hrow : row ∈ s.rows .domainAlias) (hof : Cell.refersTo row.id sub.aliasId = true)
    (hsites : s.SameSites s') (hplan : planAliasSubdomain user id c s' = .ok plan) :
    plan = hostPlan (hostName sub.name row.name)
      (aliasSubdomainStatements id sub row (hostName sub.name row.name)) := by
  obtain ⟨customer, sub', row', -, hfound, rfl⟩ := planAliasSubdomain_eq_ok hplan
  let made (found : AliasSubdomain × DomainAlias) : Plan :=
    hostPlan (hostName found.1.name found.2.name)
      (aliasSubdomainStatements id found.1 found.2 (hostName found.1.name found.2.name))
  have hbefore := Ownership.aliasSubdomain_congr id customer hsites (m := made) (fun _ _ => rfl)
    fun _ _ => rfl
  rw [hfound] at hbefore
  obtain ⟨⟨sub₀, row₀⟩, hfound₀, hmade⟩ := Option.map_eq_some_iff.1 hbefore.symm
  obtain ⟨hsub₀, hid₀, hrow₀, hof₀, -⟩ := Ownership.mem_of_aliasSubdomain hfound₀
  obtain rfl : sub₀ = sub :=
    (hkeyed .aliasSubdomain (by decide)).eq_of_key hsub₀ hsub (Json.eq_of_equalsKey hid₀ hid)
  have hkey : row₀.id = row.id := by
    simp only [Cell.refersTo, beq_iff_eq] at hof hof₀
    simpa using hof₀.symm.trans hof
  obtain rfl : row₀ = row := (hkeyed .domainAlias (by decide)).eq_of_key hrow₀ hrow hkey
  exact hmade.symm

namespace Jobs

/-- The deletion of an alias with a name. -/
def aliasDeletion (id : Json) (row : DomainAlias) (owner : Admin) (name : String) : Cascade where
  pruning := .ofOwner owner.name name
  statements := aliasCascade id row name
  sweeps := isSweep_of_mem_aliasCascade id row name

/-- The deletion of a subdomain of an alias. -/
def aliasSubdomainDeletion (id : Json) (sub : AliasSubdomain) (row : DomainAlias) : Cascade where
  pruning := .ofHost (hostName sub.name row.name)
  statements := aliasSubdomainStatements id sub row (hostName sub.name row.name)
  sweeps := isSweep_of_mem_aliasSubdomainStatements id sub row _

variable {s s' : Store} {id id' : Json} {row : DomainAlias} {owner : Admin} {sub : AliasSubdomain}

/-- After the deletion of an alias, the deletion of one of its subdomains schedules FTP accounts and
protected areas, and does nothing else. -/
lemma effect_aliasSubdomainDeletion {name : String} (hkeyed : s.Keyed)
    (hname : row.name = some name) (hrow : id.equalsKey row.id = true)
    (hsub : sub ∈ s.rows .aliasSubdomain) (hid : id'.equalsKey sub.id = true)
    (hof : Cell.refersTo row.id sub.aliasId = true)
    (hgroups : ∀ g ∈ FtpGroups.holding (hostName sub.name row.name) s,
      Cell.agree g.name owner.name = true)
    (hwhole : s.RefersWholly id') :
    (aliasSubdomainDeletion id' sub row).effect ((aliasDeletion id row owner name).effect s) =
      (scheduleAreasUnder row.domainId sub.mount).apply
        ((scheduleFtpOfHost (hostName sub.name row.name)).apply
          ((aliasDeletion id row owner name).effect s)) := by
  have hprunings : (aliasSubdomainDeletion id' sub row).pruning.apply
      ((aliasDeletion id row owner name).pruning.apply s) =
        (aliasDeletion id row owner name).pruning.apply s := by
    refine Pruning.apply_apply_ofOwner hgroups fun m hm => ?_
    have hm : FtpGroups.belongsTo m (hostName sub.name row.name) false = true := hm
    rw [hname] at hm
    exact FtpGroups.belongsTo_of_below hm
  have halias : id.equalsQuantity sub.aliasId = true := by
    rw [beq_iff_eq.1 hof]
    exact Json.equalsQuantity_of_equalsKey hrow
  have hchild : ((aliasDeletion id row owner name).effect s).IsChild sub.id id := by
    have hchildren := (Cascade.effect_sameSites (aliasDeletion id row owner name) s).aliasChildren
    have hbefore := hkeyed.isChild hsub halias
    exact ⟨hchildren ▸ hbefore.exists_alias, hchildren ▸ hbefore.equals⟩
  rw [Cascade.effect_effect hprunings]
  have hidle : ∀ st ∈ aliasCascade id row name,
      st.Idle ((aliasDeletion id row owner name).effect s) :=
    fun st hst => idle_of_mem (isSweep_of_mem_aliasCascade id row name) hst _
  exact applyAll_aliasSubdomainStatements hchild hid (hwhole.effect _) hidle sub row _

/-- After the deletion of web space, scheduling the FTP accounts of a host and the protected areas
under a mount point changes no table exactly if the first web space covers the second. -/
lemma sameTables_iff_covers {w : WebSpace} (h : w.Gone s s') (host : String)
    (domainId : Option Quantity) (mount : Option String) :
    s'.SameTables ((scheduleAreasUnder domainId mount).apply ((scheduleFtpOfHost host).apply s')) ↔
      w.Covers ⟨.ofHost host, domainId, mount⟩ s := by
  have hareas : ((scheduleAreasUnder domainId mount).apply
      ((scheduleFtpOfHost host).apply s')).rows .area =
        updateRows (WebSpace.picksArea ⟨.ofHost host, domainId, mount⟩)
          (fun a => { a with status := some Status.toDelete }) (s'.rows .area) :=
    rfl
  have husers : ((scheduleAreasUnder domainId mount).apply
      ((scheduleFtpOfHost host).apply s')).rows .ftpUser =
        withCoveredDeleted (WebSpace.patterns ⟨.ofHost host, domainId, mount⟩)
          (s'.rows .ftpUser) := by
    have hpatterns : WebSpace.patterns ⟨.ofHost host, domainId, mount⟩ = [Text.atHost host] :=
      rfl
    rw [hpatterns, withCoveredDeleted, isCovered_singleton]
    rfl
  rw [h.covers_iff, ← hareas, ← husers]
  constructor
  · exact fun hsame => ⟨hsame .area (by decide), hsame .ftpUser (by decide)⟩
  · intro hsame t _
    cases t with
    | area => exact hsame.1
    | ftpUser => exact hsame.2
    | _ => rfl

variable {user : User} {customer : Json} {c : Context} {p q : Panel}

/-- The deletion of an alias that succeeds has its effect on the tables. -/
lemma effect_of_run_deleteDomainAlias {answer : String} (hcustomer : user.id = .ok customer)
    (hfound : (Ownership.domainAlias id customer).answer p.store = some (row, owner))
    (hrun : run (Job.run user (.deleteDomainAlias id)) c p = (.ok answer, q)) :
    ∃ name, row.name = some name ∧
      ((aliasDeletion id row owner name).effect p.store).SameTables q.store := by
  obtain ⟨plan, hplan, changed, -, -, hblock, -, hrows, -⟩ := commitsWithEntry_of_run_job hrun
  obtain ⟨customer', row', owner', hcustomer', hfound', rfl⟩ := planDomainAlias_eq_ok hplan
  obtain rfl := Except.ok.inj (hcustomer.symm.trans hcustomer')
  obtain ⟨rfl, rfl⟩ := Prod.mk.inj (Option.some.inj (hfound.symm.trans hfound'))
  obtain ⟨name, hname, rfl⟩ := aliasBlock_prunes hblock
  exact ⟨name, hname, hrows⟩

/-- The deletion of a subdomain of an alias does nothing, or it has its effect on the tables and the
outbox gets an entry. -/
lemma effect_of_run_deleteAliasSubdomain {result : Except Failure String}
    (hkeyed : s.Keyed) (hsub : sub ∈ s.rows .aliasSubdomain) (hid : id.equalsKey sub.id = true)
    (hrow : row ∈ s.rows .domainAlias) (hof : Cell.refersTo row.id sub.aliasId = true)
    (hsites : s.SameSites p.store)
    (hrun : run (Job.run user (.deleteAliasSubdomain id)) c p = (result, q)) :
    q.store = p.store ∨
      ((aliasSubdomainDeletion id sub row).effect p.store).SameTables q.store ∧
        ∃ old entry, q.store.rows .outbox = old ++ [entry] ∧
          Outbox.Persist (p.store.rows .outbox) old := by
  have heffect := effect_job user (.deleteAliasSubdomain id) c p
  rw [hrun] at heffect
  rcases heffect with hsame | ⟨_, _, ⟨plan, hplan, rfl, rfl⟩, hcommits⟩
  · exact .inl hsame
  · obtain ⟨changed, old, entry, hblock, -, hrows, houtbox, hold, -⟩ := hcommits
    obtain rfl := plan_of_sameSites hkeyed hsub hid hrow hof hsites hplan
    obtain rfl := hostBlock_prunes hblock
    exact .inr ⟨hrows, old, entry, houtbox, hold⟩

end Jobs

/-- After the deletion of an alias, the deletion of a subdomain of it has nothing left to do exactly
if the alias covers the subdomain.  Take any database in which keys are keys and what refers to the
subdomain does so by a whole number, an alias of a customer and a subdomain of the alias, such that
the groups with FTP accounts of the subdomain have the name of the customer.  Let the customer
delete the alias with success, and let anybody then delete the subdomain, with success or not and
with any faults.  This changes nothing, or the outbox gets an entry.  No other table changes but
those of the FTP accounts and the protected areas, and these do not change either if and only if
each row that the second deletion picks has been picked by the first or was waiting for its deletion
before.  So it is if the directory of the subdomain starts with that of the alias and there is no
NUL in its name. -/
theorem alias_deletion_covers_subdomain_iff {user user' : User} {id id' customer : Json}
    {c c' : Context} {p q r : Panel} {row : DomainAlias} {owner : Admin} {sub : AliasSubdomain}
    {answer : String} {result : Except Failure String} (hkeyed : p.store.Keyed)
    (hcustomer : user.id = .ok customer)
    (hfound : (Ownership.domainAlias id customer).answer p.store = some (row, owner))
    (hsub : sub ∈ p.store.rows .aliasSubdomain) (hid : id'.equalsKey sub.id = true)
    (hof : Cell.refersTo row.id sub.aliasId = true)
    (hgroups : ∀ g ∈ FtpGroups.holding (Jobs.hostName sub.name row.name) p.store,
      Cell.agree g.name owner.name = true)
    (hwhole : p.store.RefersWholly id')
    (hfirst : run (Job.run user (.deleteDomainAlias id)) c p = (.ok answer, q))
    (hsecond : run (Job.run user' (.deleteAliasSubdomain id')) c' q = (result, r)) :
    ∃ name, row.name = some name ∧
      (r.store = q.store ∨ ∃ old entry, r.store.rows .outbox = old ++ [entry] ∧
        Outbox.Persist (q.store.rows .outbox) old) ∧
      (∀ t, t ∉ [Table.outbox, .area, .ftpUser] → r.store.rows t = q.store.rows t) ∧
      (q.store.SameTables r.store ↔ r.store = q.store ∨
        Jobs.WebSpace.Covers ⟨.ofOwner owner.name name, row.domainId, row.mount⟩
          ⟨.ofHost (Jobs.hostName sub.name row.name), row.domainId, sub.mount⟩ p.store) ∧
      ((Text.normalizePath row.mount).toList <+: (Text.normalizePath sub.mount).toList →
        Char.ofNat 0 ∉ (Json.shownName sub.name).toList → q.store.SameTables r.store) := by
  obtain ⟨hrow, hkey⟩ := Ownership.mem_of_domainAlias hfound
  obtain ⟨name, hname, hbetween⟩ := Jobs.effect_of_run_deleteDomainAlias hcustomer hfound hfirst
  have hsites : p.store.SameSites q.store :=
    (Cascade.effect_sameSites _ p.store).trans (.of_sameTables hbetween)
  refine ⟨name, hname, ?_⟩
  obtain hsame | ⟨hafter, hentry⟩ :=
    Jobs.effect_of_run_deleteAliasSubdomain hkeyed hsub hid hrow hof hsites hsecond
  · have htables : q.store.SameTables r.store := fun t _ => by rw [hsame]
    exact ⟨.inl hsame, fun t _ => by rw [hsame], ⟨fun _ => .inl hsame, fun _ => htables⟩,
      fun _ _ => htables⟩
  · let w : Jobs.WebSpace := ⟨.ofOwner owner.name name, row.domainId, row.mount⟩
    let w' : Jobs.WebSpace := ⟨.ofHost (Jobs.hostName sub.name row.name), row.domainId, sub.mount⟩
    have hgone : w.Gone p.store ((Jobs.aliasDeletion id row owner name).effect p.store) :=
      Jobs.WebSpace.gone_of_sweeps (Jobs.isSweep_of_mem_aliasCascade id row name)
        (Jobs.ftpUsers_aliasStatements id row name) fun _ => rfl
    -- In all tables but the outbox, the second deletion has done the same as right after the first.
    have hdone := (Jobs.aliasSubdomainDeletion id' sub row).effect_sameTables hbetween
    rw [Jobs.effect_aliasSubdomainDeletion hkeyed hname hkey hsub hid hof hgroups hwhole] at hdone
    have hresult := fun t ht => (hafter t ht).trans (hdone t ht)
    have hcovers : q.store.SameTables r.store ↔ w.Covers w' p.store :=
      (hbetween.congr_iff hresult).trans (Jobs.sameTables_iff_covers hgone _ _ _)
    refine ⟨.inr hentry, fun t ht => ?_, ⟨fun h => .inr (hcovers.1 h), fun h => ?_⟩,
      fun hdirectory hnul => hcovers.2 ?_⟩
    · simp only [List.mem_cons, List.not_mem_nil, or_false, not_or] at ht
      rw [hresult t ht.1, hbetween t ht.1, rows_apply_of_ne _ _ (Ne.symm ht.2.1),
        rows_apply_of_ne _ _ (Ne.symm ht.2.2)]
    · rcases h with hsame | h
      · exact fun t _ => by rw [hsame]
      · exact hcovers.2 h
    · have hhost : w'.host = Json.shownName sub.name ++ "." ++ name :=
        congrArg (Jobs.hostName sub.name) hname
      exact Jobs.WebSpace.covers_of_within rfl rfl hhost hnul rfl hdirectory

/-- The account of the customer of the samples. -/
def sampleOwner : Admin :=
  { id := 7, name := some "mona", role := some "user" }

/-- An alias of the customer. -/
def sampleAlias : DomainAlias :=
  { id := 4, domainId := some (.whole 1), name := some "alias.test", mount := some "/alias" }

/-- A subdomain of the alias in a directory. -/
def sampleAliasShop (mount : String) : AliasSubdomain :=
  { id := 6, aliasId := some (.whole 4), name := some "shop", mount := some mount }

/-- A panel with the alias and its subdomain, which has PHP settings, an FTP account in the group of
the customer, and a protected area in its directory. -/
def sampleAliasSite (mount : String) : Panel where
  store :=
    (((((((Store.empty.set .admin [sampleOwner]).set .domain
      [{ id := 1, name := some "mona.test", ownerId := some (.whole 7) }]).set .domainAlias
      [sampleAlias]).set .aliasSubdomain [sampleAliasShop mount]).set .php
      [{ id := 9, ownerId := some (.whole 6), ownerType := some "subals" }]).set .ftpUser
      [sampleFtpUser "nils@shop.alias.test" 7 "ok"]).set .ftpGroup
      [{ rowNumber := 1, name := some "mona", gid := some (.whole 7),
         members := some "nils@shop.alias.test,mona@mona.test" }]).set .area
      [sampleArea (mount ++ "/orders") "ok"]
  notifier := Notifier.create {}

/-- The panel after the customer has deleted the alias. -/
def sampleAliasLeft (mount : String) : Panel :=
  (run (Job.run sampleCustomer (.deleteDomainAlias (.int 4))) {} (sampleAliasSite mount)).2

/-- The panel after the customer has deleted the subdomain too. -/
def sampleAliasShopLeft (mount : String) : Panel :=
  (run (Job.run sampleCustomer (.deleteAliasSubdomain (.int 6))) {} (sampleAliasLeft mount)).2

/-- The subdomain lies within the directory of the alias, so its deletion has nothing left to do. -/
theorem alias_deletion_covers_subdomain_iff_sample :
    (sampleAliasSite "/alias/shop").store.Keyed ∧
      run (Job.run sampleCustomer (.deleteDomainAlias (.int 4))) {}
          (sampleAliasSite "/alias/shop") =
        (.ok "Domain alias successfully scheduled for deletion.", sampleAliasLeft "/alias/shop") ∧
      run (Job.run sampleCustomer (.deleteAliasSubdomain (.int 6))) {}
          (sampleAliasLeft "/alias/shop") =
        (.ok "Subdomain scheduled for deletion.", sampleAliasShopLeft "/alias/shop") ∧
      (sampleAliasLeft "/alias/shop").store.SameTables
        (sampleAliasShopLeft "/alias/shop").store := by
  have hkeyed : (sampleAliasSite "/alias/shop").store.Keyed :=
    Store.keyed_of_length_le_one fun t => by cases t <;> decide
  have hfirst : run (Job.run sampleCustomer (.deleteDomainAlias (.int 4))) {}
      (sampleAliasSite "/alias/shop") =
      (.ok "Domain alias successfully scheduled for deletion.", sampleAliasLeft "/alias/shop") :=
    Prod.ext rfl rfl
  have hsecond : run (Job.run sampleCustomer (.deleteAliasSubdomain (.int 6))) {}
      (sampleAliasLeft "/alias/shop") =
      (.ok "Subdomain scheduled for deletion.", sampleAliasShopLeft "/alias/shop") :=
    Prod.ext rfl rfl
  have hgroups : ∀ g ∈ FtpGroups.holding "shop.alias.test" (sampleAliasSite "/alias/shop").store,
      Cell.agree g.name (some "mona") = true := by
    decide +kernel
  have hwhole : (sampleAliasSite "/alias/shop").store.RefersWholly (.int 6) := by
    refine ⟨fun x hx _ => ?_, fun x hx => ?_, fun m hm => ?_⟩
    · obtain rfl := List.mem_singleton.1 hx
      exact ⟨6, rfl⟩
    · cases hx
    · cases hm
  have hfound : (Ownership.domainAlias (.int 4) (.int 7)).answer
      (sampleAliasSite "/alias/shop").store = some (sampleAlias, sampleOwner) := by
    decide +kernel
  have hsub : sampleAliasShop "/alias/shop" ∈
      (sampleAliasSite "/alias/shop").store.rows .aliasSubdomain :=
    List.mem_singleton.2 rfl
  obtain ⟨name, -, -, -, -, hwithin⟩ := alias_deletion_covers_subdomain_iff hkeyed (by rfl) hfound
    hsub (by rfl) (by rfl) hgroups hwhole hfirst hsecond
  exact ⟨hkeyed, hfirst, hsecond, hwithin (by decide +kernel) (by decide)⟩

/-- The subdomain lies in a directory of its own: its protected area outlives the alias, and is
scheduled only when the subdomain is deleted once more. -/
theorem area_outlives_alias :
    FaultFree {} (sampleAliasSite "/shop").store ∧
      (∀ g ∈ FtpGroups.holding "shop.alias.test" (sampleAliasSite "/shop").store,
        Cell.agree g.name (some "mona") = true) ∧
      run (Job.run sampleCustomer (.deleteDomainAlias (.int 4))) {} (sampleAliasSite "/shop") =
        (.ok "Domain alias successfully scheduled for deletion.", sampleAliasLeft "/shop") ∧
      run (Job.run sampleCustomer (.deleteAliasSubdomain (.int 6))) {} (sampleAliasLeft "/shop") =
        (.ok "Subdomain scheduled for deletion.", sampleAliasShopLeft "/shop") ∧
      (sampleAliasLeft "/shop").store.rows .area = [sampleArea "/shop/orders" "ok"] ∧
      (sampleAliasShopLeft "/shop").store.rows .area = [sampleArea "/shop/orders" "todelete"] := by
  refine ⟨⟨rfl, rfl⟩, ?_, Prod.ext rfl rfl, Prod.ext rfl rfl, ?_, ?_⟩
  · decide +kernel
  · decide +kernel
  · decide +kernel

end HostingPanel
