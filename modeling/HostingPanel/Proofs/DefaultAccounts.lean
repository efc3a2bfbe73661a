import HostingPanel.Proofs.MailPruning

/-!
# Default mail accounts under protection

With the protection on, a customer cannot delete a default mail account: the call is refused before
anything is scheduled.  But the protection is asked for the account that is named in the call and
for no other.  A default account is a forward, and the deletion of another account may take the last
target out of its list; then it is scheduled like any forward with an empty list.

`default_accounts_survive_iff` says that this is the only way, for every call and whatever comes of
it.
-/

namespace HostingPanel

open OperationM Jobs

/-- No default account has been scheduled for deletion that was not before. -/
def Store.SparesDefaults (s s' : Store) : Prop :=
  List.Forall₂ (fun r r' : Mailbox => isDefaultAccount r.account r.kind = true →
      r.status ≠ some Status.toDelete → r'.status ≠ some Status.toDelete)
    (s.rows .mail) (s'.rows .mail)

namespace Jobs

section

variable {id : Json} {address : Option String} {m r : Mailbox}

/-- A call that deletes a mail account leaves the mail accounts alone, or it deletes one that is not
protected. -/
lemma rows_of_call (user : User) (id : Json) (c : Context) {p : Panel}
    (hkeyed : Table.Keyed .mail (p.store.rows .mail)) :
    (run (deleteMailAccount user id) c p).2.store.rows .mail = p.store.rows .mail ∨
      ∃ m : Mailbox, m ∈ p.store.rows .mail ∧ id.equalsKey m.id = true ∧
        isProtected c.settings.protectDefaultAddresses m.account m.kind = false ∧
        (run (deleteMailAccount user id) c p).2.store.rows .mail =
          (p.store.rows .mail).map (leftMailbox id m.address) := by
  have heffect := effect_job user (.deleteMailAccount id) c p
  rw [Call.Effect, if_pos (by rfl)] at heffect
  rcases heffect with hsame | ⟨_, _, ⟨plan, hplan, rfl, rfl⟩, hcommits⟩
  · exact .inl (congrArg (Store.rows · .mail) hsame)
  · obtain ⟨changed, -, -, hblock, -, hrows, -⟩ := hcommits
    obtain ⟨customer, domain, m, -, -, hfound, hunprotected, rfl⟩ :=
      planMailAccount_unprotected hplan
    have hpicked := List.find?_some hfound
    simp only [Bool.and_eq_true] at hpicked
    refine .inr ⟨m, List.mem_of_find?_eq_some hfound, hpicked.1, hunprotected, ?_⟩
    exact (hrows .mail (by decide)).trans (rows_mailBlock hkeyed.nodup_id hpicked.1 hblock)

/-- A candidate is not scheduled for deletion exactly if its list holds something else, in case it
holds the address. -/
lemma status_pruned_ne_iff (hstatus : r.status ≠ some Status.toDelete) :
    (pruned address r).status ≠ some Status.toDelete ↔
      ∀ a ∈ targets r, address = some a → ∃ e ∈ targets r, e ≠ a := by
  constructor
  · rintro hspared a ha rfl
    by_contra hnot
    have hall : ∀ e ∈ targets r, e = a := by
      simpa using hnot
    exact hspared (by rw [pruned_of_forall ha hall])
  · intro hothers
    cases address with
    | none => exact hstatus
    | some a =>
      by_cases ha : a ∈ targets r
      · rw [pruned_of_exists ha (hothers a ha rfl)]
        exact fun hdeleted => absurd (Option.some.inj hdeleted) (by decide)
      · rwa [pruned_of_notMem ha]

/-- An account that does not go is not scheduled exactly if it is overlooked or its list holds
something else, in case it holds the address. -/
lemma status_leftMailbox_ne_iff (hid : id.equalsKey m.id = true) (hother : r.id ≠ m.id)
    (hstatus : r.status ≠ some Status.toDelete) :
    (leftMailbox id address r).status ≠ some Status.toDelete ↔
      (¬ IsOverlooked address r →
        ∀ a ∈ targets r, address = some a → ∃ e ∈ targets r, e ≠ a) := by
  by_cases hoverlooked : IsOverlooked address r
  · rw [leftMailbox_of_isOverlooked hid hother hoverlooked]
    exact iff_of_true hstatus fun hnot => absurd hoverlooked hnot
  · rw [leftMailbox_of_not_isOverlooked hid hother hoverlooked, status_pruned_ne_iff hstatus]
    exact ⟨fun h _ => h, fun h => h hoverlooked⟩

end

end Jobs

/-- With the protection on, default accounts survive the deletion of a mail account exactly if it
empties no list of theirs.  Take any database in which no two mail accounts have the same key, and
any call, whatever comes of it.  Either no mail account has changed, or the call has deleted an
account that is no default account.  In this case no default account has been scheduled for deletion
that was not before, if and only if every default account that was not waiting for its deletion, is
not overlooked and lists the address of the deleted account lists something else too. -/
theorem default_accounts_survive_iff {user : User} {id : Json} {c : Context} {p q : Panel}
    {result : Except Failure String} (hprotect : c.settings.protectDefaultAddresses = true)
    (hkeyed : Table.Keyed .mail (p.store.rows .mail))
    (hrun : run (Jobs.deleteMailAccount user id) c p = (result, q)) :
    q.store.rows .mail = p.store.rows .mail ∨
      ∃ m : Mailbox, m ∈ p.store.rows .mail ∧ id.equalsKey m.id = true ∧
        isDefaultAccount m.account m.kind = false ∧
        (p.store.SparesDefaults q.store ↔
          ∀ r : Mailbox, r ∈ p.store.rows .mail → isDefaultAccount r.account r.kind = true →
            r.status ≠ some "todelete" → ¬ IsOverlooked m.address r →
              ∀ a ∈ targets r, m.address = some a → ∃ e ∈ targets r, e ≠ a) := by
  have hcases := rows_of_call user id c hkeyed
  rw [hrun] at hcases
  rcases hcases with hsame | ⟨m, hm, hid, hunprotected, hrows⟩
  · exact .inl hsame
  · have hordinary : isDefaultAccount m.account m.kind = false := by
      simpa [isProtected, hprotect] using hunprotected
    refine .inr ⟨m, hm, hid, hordinary, ?_⟩
    unfold Store.SparesDefaults
    rw [hrows, List.forall₂_map_right_iff, List.forall₂_same]
    refine forall₄_congr fun (r : Mailbox) hr hdefault hstatus => ?_
    have hother : r.id ≠ m.id := by
      intro hkey
      rw [hkeyed.eq_of_key hr hm hkey, hordinary] at hdefault
      cases hdefault
    exact status_leftMailbox_ne_iff hid hother hstatus

/-- The forward of the webmaster, with a list of targets and a status. -/
def sampleWebmaster (list status : String) : Mailbox :=
  { id := 6, account := some "webmaster", forward := some list, domainId := some (.whole 1),
    kind := some "normal_forward", status := some status, address := some "webmaster@example.test" }

/-- A panel with a mail account and the forward of the webmaster. -/
def sampleProtected (list : String) : Panel where
  store :=
    (Store.empty.set .domain
      [{ id := 1, name := some "example.test", ownerId := some (.whole 7) }]).set .mail
      [sampleMailbox "ok", sampleWebmaster list "ok"]
  notifier := Notifier.create {}

/-- The panel after the customer has deleted the mail account. -/
def sampleProtectedLeft (list : String) : Panel :=
  (run (Jobs.deleteMailAccount sampleCustomer (.int 5)) {} (sampleProtected list)).2

/-- With a second target the forward of the webmaster survives. -/
theorem default_accounts_survive_iff_sample :
    ({} : Context).settings.protectDefaultAddresses = true ∧
      run (Jobs.deleteMailAccount sampleCustomer (.int 5)) {} (sampleProtected sampleTeam) =
        (.ok "Mail account successfully scheduled for deletion.",
          sampleProtectedLeft sampleTeam) ∧
      (sampleProtected sampleTeam).store.SparesDefaults (sampleProtectedLeft sampleTeam).store := by
  have hrun : run (Jobs.deleteMailAccount sampleCustomer (.int 5)) {} (sampleProtected sampleTeam) =
      (.ok "Mail account successfully scheduled for deletion.", sampleProtectedLeft sampleTeam) :=
    Prod.ext rfl rfl
  have hkeyed : Table.Keyed .mail ((sampleProtected sampleTeam).store.rows .mail) := by
    simp [sampleProtected, sampleMailbox, sampleWebmaster, Table.Keyed, Table.columns,
      Table.keyColumn, Column.clash]
  refine ⟨rfl, hrun, ?_⟩
  rcases default_accounts_survive_iff (by rfl) hkeyed hrun with hsame | ⟨m, hm, hid, -, hiff⟩
  · exact absurd hsame (by decide +kernel)
  · have hmailbox : m = sampleMailbox "ok" := by
      rcases List.mem_cons.1 hm with rfl | hm
      · rfl
      · rw [List.mem_singleton.1 hm] at hid
        exact absurd hid (by decide)
    rw [hmailbox] at hiff
    refine hiff.2 fun r hr hdefault _ _ a _ haddress => ⟨"bert@example.test", ?_, ?_⟩
    · rcases List.mem_cons.1 hr with rfl | hr
      · exact absurd hdefault (by decide)
      · rw [List.mem_singleton.1 hr]
        decide +kernel
    · rw [← Option.some.inj haddress]
      decide

/-- With no other target the forward of the webmaster is scheduled together with the mail account,
although it is a default account and cannot be deleted itself. -/
theorem emptied_default_account_scheduled :
    ({} : Context).settings.protectDefaultAddresses = true ∧
      isDefaultAccount (some "webmaster") (some "normal_forward") = true ∧
      (run (Jobs.deleteMailAccount sampleCustomer (.int 6)) {}
        (sampleProtected "anna@example.test")).1 = .error .protectedAddress ∧
      run (Jobs.deleteMailAccount sampleCustomer (.int 5)) {}
          (sampleProtected "anna@example.test") =
        (.ok "Mail account successfully scheduled for deletion.",
          sampleProtectedLeft "anna@example.test") ∧
      (sampleProtectedLeft "anna@example.test").store.rows .mail =
        [sampleMailbox "todelete", sampleWebmaster "anna@example.test" "todelete"] := by
  refine ⟨rfl, ?_, ?_, Prod.ext rfl rfl, ?_⟩
  · decide +kernel
  · rfl
  · decide +kernel

end HostingPanel
