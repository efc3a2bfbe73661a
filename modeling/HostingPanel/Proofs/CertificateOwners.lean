import HostingPanel.Proofs.PendingWork
import HostingPanel.Proofs.StaleChecks

/-!
# Certificates and the statuses of their owners

When a certificate is deleted, the site that it is for has to be set up again, and the job gives it
the status of a request.  Nobody asks which status the site has: it may be waiting for its deletion,
it may be out of service, or it may not have been approved yet.

`ItemType.KeepsToMoves` says that statuses have moved only where the panel may move them, and
`Status.TakesChange` which statuses may be replaced by the request.
`certificate_deletion_keeps_to_moves_iff` says that the job keeps to the permitted moves exactly if
the site has one of these statuses.
-/

namespace HostingPanel

open OperationM

/-! ### Permitted moves -/

/-- Items of a kind keep their statuses or are moved where the panel may move them. -/
def ItemType.KeepsToMoves (t : ItemType) (s s' : Store) : Prop :=
  List.Forall₂ (fun r r' => t.status r' = t.status r ∨ ∃ target, t.status r' = some target ∧
    Status.checkTransition (t.status r) (some target) = .ok target)
    (s.rows t.table) (s'.rows t.table)

namespace Status

/-- A status that a request for a change may replace or is this request itself: that of an item in
service, and the message of a failure. -/
def TakesChange (status : Option String) : Prop :=
  ∃ current, status = some current ∧
    (current = toChange ∨ current ≠ ordered ∧ current ≠ disabled ∧ current ∉ pending)

/-- A check succeeds exactly if the panel may make the move. -/
lemma checkTransition_eq_ok_iff {current : Option String} {target : String} :
    checkTransition current (some target) = .ok target ↔ mayMove current target = true := by
  unfold checkTransition
  split <;> simp_all

/-- An item may get a request for a change exactly if it has a status that is neither out of service
nor awaiting approval nor a request. -/
lemma mayMove_toChange_iff {status : Option String} :
    mayMove status toChange = true ↔
      ∃ current, status = some current ∧ current ≠ ordered ∧ current ≠ disabled ∧
        current ∉ pending := by
  have hterminal : terminal.contains toChange = false := by
    decide
  cases status with
  | none => simp [mayMove, allowedFrom, toChange, toAdd]
  | some current =>
    simp only [mayMove, hterminal, Bool.not_false, Bool.true_and, Option.some.injEq,
      exists_eq_left']
    unfold allowedFrom
    simp only
    split_ifs with hordered hok hdisabled hpending
    · simp [hordered, toChange, toAdd]
    · subst hok
      decide
    · simp [hdisabled, toChange, toEnable, toDelete]
    · simp_all
    · simp_all [afterFailure]

end Status

/-! ### The owner of a certificate -/

section Owner

variable {type : Jobs.OwnerType} {id : Json}

/-- The owner of a certificate gets the request, and its neighbours stay as they are. -/
lemma rows_scheduleOwner (type : Jobs.OwnerType) (id : Json) (s : Store) :
    ((Jobs.scheduleOwner type id).apply s).rows type.item.table =
      (s.rows type.item.table).map fun r =>
        if type.item.hasId id r then type.item.setStatus (some Status.toChange) r else r := by
  rw [Jobs.scheduleOwner_eq]
  exact s.rows_set_self type.item.table _

lemma Jobs.OwnerType.status_setStatus (type : OwnerType) (status : Option String)
    (r : type.item.table.Row) : type.item.status (type.item.setStatus status r) = status := by
  cases type <;> rfl

/-- The request keeps to the permitted moves exactly if all sites with the key have a status that it
may replace. -/
lemma keepsToMoves_scheduleOwner_iff {s s' : Store}
    (hrows : s'.rows type.item.table = (s.rows type.item.table).map fun r =>
      if type.item.hasId id r then type.item.setStatus (some Status.toChange) r else r) :
    type.item.KeepsToMoves s s' ↔
      ∀ r ∈ s.rows type.item.table, type.item.hasId id r = true →
        Status.TakesChange (type.item.status r) := by
  rw [ItemType.KeepsToMoves, hrows, List.forall₂_map_right_iff, List.forall₂_same]
  refine forall₂_congr fun r _ => ?_
  cases hkey : type.item.hasId id r with
  | false => simp
  | true =>
    simp only [if_true, type.status_setStatus, Option.some.injEq, exists_eq_left', forall_const,
      Status.checkTransition_eq_ok_iff, Status.mayMove_toChange_iff, Status.TakesChange]
    constructor
    · rintro (hsame | ⟨current, hcurrent, hother⟩)
      · exact ⟨_, hsame.symm, .inl rfl⟩
      · exact ⟨current, hcurrent, .inr hother⟩
    · rintro ⟨current, hcurrent, rfl | hother⟩
      · exact .inl hcurrent.symm
      · exact .inr ⟨current, hcurrent, hother⟩

end Owner

/-- The deletion of a certificate keeps to the permitted moves exactly if the site that the
certificate is for has a status that a request for a change may replace.  Take any database, any
kind of site, any site and any certificate.  If the job succeeds, the customer has a site of the
kind with the key; all the sites with the key get the request whatever statuses they have, and the
other sites of the kind stay as they are.  This is a permitted move, or none, if and only if each
site with the key is in service, shows the message of a failure, or waits for a change already. -/
theorem certificate_deletion_keeps_to_moves_iff {user : User} {ownerType ownerId id : Json}
    {c : Context} {p q : Panel} {answer : String}
    (hrun : run (Jobs.deleteCertificate user ownerType ownerId id) c p = (.ok answer, q)) :
    ∃ customer type, user.id = .ok customer ∧ Jobs.OwnerType.named? ownerType = some type ∧
      (∃ r ∈ p.store.rows type.item.table, type.item.hasId ownerId r = true ∧
        Ownership.OwnsSite customer p.store type r) ∧
      (q.store.rows type.item.table = (p.store.rows type.item.table).map fun r =>
        if type.item.hasId ownerId r then type.item.setStatus (some "tochange") r else r) ∧
      (type.item.KeepsToMoves p.store q.store ↔
        ∀ r ∈ p.store.rows type.item.table, type.item.hasId ownerId r = true →
          Status.TakesChange (type.item.status r)) := by
  have hjob : run (Job.run user (.deleteCertificate ownerType ownerId id)) c p = (.ok answer, q) :=
    hrun
  obtain ⟨plan, hplan, changed, -, -, hblock, -, hrows, -⟩ := commitsWithEntry_of_run_job hjob
  obtain ⟨customer, type, owner, hid, hnamed, hfound, rfl⟩ := Jobs.planCertificate_eq_ok hplan
  obtain ⟨-, rfl⟩ := Jobs.certificateBlock_eq_ok hblock
  have houtbox : type.item.table ≠ .outbox := by
    cases type <;> decide
  have hcertificate : Table.certificate ≠ type.item.table := by
    cases type <;> decide
  -- The certificate is scheduled first, in a table of its own.
  have hspared : ((Jobs.scheduleCertificate type ownerId id).apply p.store).rows type.item.table =
      p.store.rows type.item.table :=
    Statement.rows_apply_of_ne _ p.store hcertificate
  have hsites : q.store.rows type.item.table = (p.store.rows type.item.table).map fun r =>
      if type.item.hasId ownerId r then type.item.setStatus (some Status.toChange) r else r := by
    rw [hrows _ houtbox, rows_scheduleOwner, hspared]
  exact ⟨customer, type, hid, hnamed, Ownership.mem_of_ownerName hfound, hsites,
    keepsToMoves_scheduleOwner_iff hsites⟩

/-- If the domain is in service, the deletion of its certificate makes a permitted move. -/
theorem certificate_deletion_keeps_to_moves_iff_sample :
    ∃ q, run (Jobs.deleteCertificate sampleCustomer (.text "dmn") (.int 1) (.int 9)) {}
        sampleSecured = (.ok "SSL certificate successfully scheduled for deletion.", q) ∧
      ItemType.domain.KeepsToMoves sampleSecured.store q.store := by
  have hrun : run (Jobs.deleteCertificate sampleCustomer (.text "dmn") (.int 1) (.int 9)) {}
      sampleSecured = (.ok "SSL certificate successfully scheduled for deletion.",
        (run (Jobs.deleteCertificate sampleCustomer (.text "dmn") (.int 1) (.int 9)) {}
          sampleSecured).2) :=
    Prod.ext rfl rfl
  obtain ⟨customer, type, -, hnamed, -, -, hiff⟩ := certificate_deletion_keeps_to_moves_iff hrun
  obtain rfl : Jobs.OwnerType.domain = type := Option.some.inj hnamed
  refine ⟨_, hrun, hiff.2 fun r hr _ => ?_⟩
  obtain rfl := List.mem_singleton.1 hr
  exact ⟨"ok", rfl, .inr (by decide)⟩

/-- The panel of the customer whose subdomain is in service, with a certificate for the subdomain,
after the customer has deleted the subdomain. -/
def sampleSecuredShop : Panel :=
  (run (Jobs.deleteSubdomain sampleCustomer (.int 3)) {}
    { sampleHosting with
      store := sampleHosting.store.set .certificate
        [{ id := 9, ownerId := some (.whole 3), ownerType := some "sub" }] }).2

/-- The sample after the customer has deleted the certificate too. -/
def sampleShopLeft : Panel :=
  (run (Jobs.deleteCertificate sampleCustomer (.text "sub") (.int 3) (.int 9)) {}
    sampleSecuredShop).2

/-- A customer deletes a subdomain, and before the daemon has got round to it the certificate of the
subdomain: the subdomain is no longer to be deleted but to be changed. -/
theorem certificate_deletion_cancels_deletion :
    run (Jobs.deleteCertificate sampleCustomer (.text "sub") (.int 3) (.int 9)) {}
        sampleSecuredShop =
        (.ok "SSL certificate successfully scheduled for deletion.", sampleShopLeft) ∧
      sampleSecuredShop.store.rows .subdomain = [sampleShop "todelete"] ∧
      sampleShopLeft.store.rows .subdomain = [sampleShop "tochange"] ∧
      Status.mayMove (some "todelete") "tochange" = false ∧
      ¬ ItemType.subdomain.KeepsToMoves sampleSecuredShop.store sampleShopLeft.store := by
  have hbefore : sampleSecuredShop.store.rows .subdomain = [sampleShop "todelete"] := by
    decide +kernel
  have hafter : sampleShopLeft.store.rows .subdomain = [sampleShop "tochange"] := by
    decide +kernel
  have hmay : Status.mayMove (some "todelete") "tochange" = false := by
    decide
  refine ⟨Prod.ext rfl rfl, hbefore, hafter, hmay, fun hkeeps => ?_⟩
  have hrows : List.Forall₂ _ (sampleSecuredShop.store.rows .subdomain)
      (sampleShopLeft.store.rows .subdomain) := hkeeps
  rw [hbefore, hafter] at hrows
  cases hrows with
  | cons hmoved =>
    rcases hmoved with hsame | ⟨target, htarget, hcheck⟩
    · exact absurd hsame (by decide)
    · obtain rfl : "tochange" = target := Option.some.inj htarget
      rw [Status.checkTransition_eq_ok_iff] at hcheck
      exact absurd (hmay.symm.trans hcheck) (by decide)

end HostingPanel
