import HostingPanel.Proofs.AutoreplyLogs
import HostingPanel.Proofs.Cascades

/-!
# Tables that a deletion has settled

What the deletion of a customer or of a mail account has left behind is left as it is if the same
deletion is made once more.

In a settled estate (`Estate.IsSettled`) the customer owns the same as before, since ownership goes
by keys, and the same addresses remain, so settling is a projection
(`Estate.IsSettled.settle_eq_self`).  When a mail account has gone (`Jobs.MailLeft`), another one
names its address only if it was emptied; then it has kept its list and is scheduled once more
(`Jobs.pruned_cases`), so the departure of an address is a projection as well
(`Jobs.MailLeft.sameTables`).

The same is also planned again: the questions find the same items, which only wait for their
deletion now (`Estate.IsSettled.planCustomer_eq`, `Jobs.MailLeft.planMailAccount_eq`).
-/

namespace HostingPanel

open Statement

/-! ### Settled estates -/

namespace Estate

variable {e : Estate} {s s' : Store}

/-- A row that stays, once the estate has been settled. -/
def settledRow (e : Estate) (s : Store) (t : Table) (r : t.Row) : t.Row :=
  if e.owns s t r then t.scheduleDeletion r else r

lemma settle_of_stays {t : Table} (h : ∀ r, e.removes s t r = false) :
    e.settle s t = (s.rows t).map (e.settledRow s t) := by
  have hall : (s.rows t).filter (fun r => !e.removes s t r) = s.rows t :=
    List.filter_eq_self.2 fun r _ => by rw [h r]; rfl
  rw [settle_eq, hall]
  rfl

lemma scheduleDeletion_scheduleDeletion (t : Table) (r : t.Row) :
    t.scheduleDeletion (t.scheduleDeletion r) = t.scheduleDeletion r := by
  cases t <;> rfl

lemma owns_scheduleDeletion (t : Table) (r : t.Row) :
    e.owns s t (t.scheduleDeletion r) = e.owns s t r := by
  cases t <;> rfl

/-- The tables of owners are the same after settling, but for the statuses. -/
lemma map_settle {t : Table} (h : ∀ r, e.removes s t r = false) :
    (e.settle s t).map t.scheduleDeletion = (s.rows t).map t.scheduleDeletion := by
  rw [settle_of_stays h, List.map_map]
  refine List.map_congr_left fun r _ => ?_
  rw [Function.comp_apply, settledRow]
  split
  · exact scheduleDeletion_scheduleDeletion t r
  · rfl

/-- A database whose tables are those of another one with the estate settled. -/
def IsSettled (e : Estate) (s s' : Store) : Prop :=
  ∀ t, t ≠ .outbox → s'.rows t = e.settle s t

namespace IsSettled

lemma owns_eq (h : e.IsSettled s s') : e.owns s' = e.owns s := by
  refine owns_congr ?_ ?_ ?_
  all_goals
    rw [h _ (by decide)]
    exact map_settle fun _ => rfl

lemma remainingAddresses_eq (h : e.IsSettled s s') :
    e.remainingAddresses s' = e.remainingAddresses s := by
  rw [remainingAddresses, h .mail (by decide), settle_of_stays fun _ => rfl, List.filterMap_map,
    remainingAddresses, h.owns_eq]
  refine List.filterMap_congr fun (m : Mailbox) _ => ?_
  rw [Function.comp_apply, settledRow]
  cases howned : e.owns s .mail m with
  | true =>
    have hstill := owns_scheduleDeletion (e := e) (s := s) .mail m
    rw [howned] at hstill
    simp only [if_true, hstill, Bool.not_true, Bool.false_and, Bool.false_eq_true, if_false]
  | false => simp only [Bool.false_eq_true, if_false, howned]

lemma removes_eq (h : e.IsSettled s s') (t : Table) : e.removes s' t = e.removes s t := by
  cases t with
  | autoreply =>
    funext l
    simp only [removes, h.remainingAddresses_eq]
  | _ => rfl

lemma settle_eq_self (h : e.IsSettled s s') {t : Table} (ht : t ≠ .outbox) :
    e.settle s' t = s'.rows t := by
  have hstays : (s'.rows t).filter (fun r => !e.removes s' t r) = s'.rows t := by
    refine List.filter_eq_self.2 fun r hr => ?_
    rw [h t ht, settle_eq] at hr
    rw [h.removes_eq]
    obtain ⟨r', hr', rfl⟩ := List.mem_map.1 hr
    have hkept := (List.mem_filter.1 hr').2
    split
    · rename_i howned
      -- What is owned does not leave, before and after it has been scheduled.
      rw [← owns_scheduleDeletion] at howned
      have hnot := (owns_iff.1 howned).not_leaves
      simpa [← removes_iff] using hnot
    · exact hkept
  rw [settle_eq, hstays, h.owns_eq, h t ht, settle_eq]
  exact (updateRows_updateRows_eq_iff (scheduleDeletion_scheduleDeletion t)
    (owns_scheduleDeletion t)).2 fun r _ howned => .inl howned

/-- The customers are the same but for their statuses. -/
lemma customer_eq (h : e.IsSettled s s') (id : Json) (creator : Option Json) :
    (Ownership.customer id creator).answer s' = ((Ownership.customer id creator).answer s).map
      (Prod.map (e.settledRow s .admin) (e.settledRow s .domain)) := by
  have hdomain : ∀ key : Int,
      (s'.rows .domain).find? (fun (d : Domain) => Cell.refersTo key d.ownerId) =
        ((s.rows .domain).find? fun (d : Domain) => Cell.refersTo key d.ownerId).map
          (e.settledRow s .domain) := by
    intro key
    rw [h .domain (by decide), settle_of_stays fun _ => rfl, List.find?_map]
    refine congrArg (fun picks => (List.find? picks _).map _) (funext fun (d : Domain) => ?_)
    rw [Function.comp_apply, settledRow]
    split <;> rfl
  simp only [Ownership.customer, hdomain]
  rw [h .admin (by decide), settle_of_stays fun _ => rfl, List.findSome?_map, List.map_findSome?]
  refine congrArg (List.findSome? · _) (funext fun (o : Admin) => ?_)
  obtain ⟨status, hadmin⟩ : ∃ status,
      e.settledRow s .admin o = ({ o with status := status } : Admin) := by
    unfold settledRow
    split
    · exact ⟨_, rfl⟩
    · exact ⟨o.status, rfl⟩
  simp only [Function.comp_def, apply_ite (Option.map _), Option.map_map, Option.map_none,
    Prod.map, hadmin]

end IsSettled

end Estate

/-! ### Plans for a customer -/

/-- If what a question finds has been changed in one database, the lookup finds the changed thing
there. -/
lemma FaultFree.fetchSome_map {c : Context} {s s' : Store} (h : FaultFree c s)
    (h' : FaultFree c s') {α : Type} {q : Query (Option α)} {f : Option α → LookupM α}
    {e : Failure} {change : α → α} (hnone : f none = throw e) (hsome : ∀ a, f (some a) = pure a)
    (hanswer : q.answer s' = (q.answer s).map change) :
    (LookupM.fetch q >>= f) c s' = ((LookupM.fetch q >>= f) c s).map change := by
  rw [h.fetch_bind, h'.fetch_bind, hanswer]
  cases Json.bindFailures? 1 q.params with
  | some e => rfl
  | none =>
    cases q.answer s with
    | none =>
      simp only [Option.map_none, hnone]
      rfl
    | some a =>
      simp only [Option.map_some, hsome]
      rfl

namespace Estate

variable {e : Estate} {user : User} {id : Json} {c : Context} {s s' : Store}

/-- The managed customer is the same but for the statuses. -/
lemma IsSettled.needManagedCustomer_eq (hsettled : e.IsSettled s s') (h : FaultFree c s)
    (h' : FaultFree c s') :
    Ownership.needManagedCustomer user id c s' =
      (Ownership.needManagedCustomer user id c s).map
        (Prod.map (e.settledRow s .admin) (e.settledRow s .domain)) := by
  unfold Ownership.needManagedCustomer
  cases user.role with
  | error e => rfl
  | ok role =>
    simp only [LookupM.lift_bind]
    split
    · exact h.fetchSome_map h' rfl (fun _ => rfl) (hsettled.customer_eq id none)
    · cases user.id with
      | error e => rfl
      | ok own =>
        exact h.fetchSome_map h' rfl (fun _ => rfl) (hsettled.customer_eq id (some own))

/-- The plan for a customer is made of the name of the account and the key of the domain. -/
lemma customerPlan_settledRow (account : Admin) (domain : Domain) :
    Jobs.customerPlan id (e.settledRow s .admin account) (e.settledRow s .domain domain) =
      Jobs.customerPlan id account domain := by
  unfold settledRow
  split <;> split <;> rfl

lemma IsSettled.planCustomer_eq (hsettled : e.IsSettled s s') (h : FaultFree c s)
    (h' : FaultFree c s') : Jobs.planCustomer user id c s' = Jobs.planCustomer user id c s := by
  have hcount : ∀ domainId,
      (Jobs.databaseCount domainId).answer s' = (Jobs.databaseCount domainId).answer s := by
    intro domainId
    have hrows : s'.rows .sqlDatabase = s.rows .sqlDatabase := by
      rw [hsettled .sqlDatabase (by decide), settle_of_stays fun _ => rfl]
      exact List.map_id _
    simp only [Jobs.databaseCount, hrows]
  have hkey : ∀ domain : Domain, (e.settledRow s .domain domain : Domain).id = domain.id := by
    intro domain
    unfold settledRow
    split <;> rfl
  unfold Jobs.planCustomer
  rw [LookupM.bind_apply, LookupM.bind_apply, hsettled.needManagedCustomer_eq h h']
  cases Ownership.needManagedCustomer user id c s with
  | error e => rfl
  | ok found =>
    obtain ⟨account, domain⟩ := found
    simp only [Except.map, Except.bind, Prod.map, h.fetch_bind, h'.fetch_bind, hkey, hcount,
      customerPlan_settledRow]
    cases Json.bindFailures? 1 (Jobs.databaseCount domain.id).params with
    | some e => rfl
    | none =>
      simp only
      split <;> rfl

end Estate

/-! ### Lists that an address has left -/

/-- If the mark of a catch-all stands in the list of a forward, it is the only entry. -/
def Jobs.MarkStandsAlone (m : Mailbox) : Prop :=
  "_no_" ∈ Text.items m.forward → ∀ e ∈ Text.items m.forward, e = "_no_"

namespace Jobs

section Accounts

variable {id : Json} {address : Option String} {m : Mailbox}

/-- An account that has been pruned names the address only if it was emptied, and then nothing but
its status has changed. -/
lemma pruned_cases (address : Option String) (hmark : MarkStandsAlone m) :
    (∀ a ∈ targets (pruned address m), address ≠ some a) ∨
      ∃ a, address = some a ∧ a ∈ targets m ∧ (∀ e ∈ targets m, e = a) ∧
        pruned address m = { m with status := some Status.toDelete } := by
  cases address with
  | none => exact .inl fun _ _ => nofun
  | some a =>
    by_cases ha : a ∈ targets m
    · by_cases hall : ∀ e ∈ targets m, e = a
      · exact .inr ⟨a, rfl, ha, hall, pruned_of_forall ha hall⟩
      · have hother : ∃ e ∈ targets m, e ≠ a := by
          simpa using hall
        left
        rintro e he ⟨⟩
        rw [targets_pruned ha hother hmark] at he
        simp at he
    · left
      rintro e he ⟨⟩
      rw [pruned_of_notMem ha] at he
      exact ha he

/-- There is no statement about an account that does not name the address. -/
lemma detach_of_forall_ne (h : ∀ a ∈ targets m, address ≠ some a) : detach address m = [] := by
  cases address with
  | none => rfl
  | some a =>
    have hnot : a ∉ targets m := fun ha => h a ha rfl
    simp [detach, hnot]

lemma pruned_pruned (hmark : MarkStandsAlone m) :
    pruned address (pruned address m) = pruned address m := by
  rcases pruned_cases address hmark with hgone | ⟨a, rfl, ha, hall, hemptied⟩
  · exact pruned_of_forall_ne hgone
  · rw [hemptied]
    exact pruned_of_forall ha hall

/-- What is done about a pruned account has been done before. -/
lemma mem_detach_of_pruned (hmark : MarkStandsAlone m) {st : Statement}
    (hst : st ∈ detach address (pruned address m)) : st ∈ detach address m := by
  rcases pruned_cases address hmark with hgone | ⟨a, rfl, ha, hall, hemptied⟩
  · rw [detach_of_forall_ne hgone] at hst
    cases hst
  · have hlisted : (targets m).contains a = true := by
      simpa using ha
    have hempty : ((targets m).filter (· != a)).isEmpty = true := by
      simpa using hall
    have hsame : targets { m with status := some Status.toDelete } = targets m := rfl
    rw [hemptied] at hst
    simp only [detach, hsame, hlisted, hempty, Bool.not_true, Bool.false_eq_true, if_false,
      if_true] at hst ⊢
    exact hst

/-- A second deletion leaves an account as the first one has left it. -/
lemma leftMailbox_leftMailbox (hmark : MarkStandsAlone m) :
    leftMailbox id address (leftMailbox id address m) = leftMailbox id address m := by
  by_cases hgoes : id.equalsKey m.id = true
  · simp only [leftMailbox, if_pos hgoes]
  · have hleft : leftMailbox id address m =
        if isFound (Json.shownName address) m then pruned address m else m := if_neg hgoes
    rw [leftMailbox, id_leftMailbox, if_neg hgoes, hleft]
    split
    · -- The search may find it again.
      split
      · exact pruned_pruned hmark
      · rfl
    · rfl

end Accounts

/-- The tables after the deletion of the mail account with a key and an address. -/
structure MailLeft (id : Json) (address : Option String) (s s' : Store) : Prop where
  /-- The mail accounts are left one by one. -/
  mail : s'.rows .mail = (s.rows .mail).map (leftMailbox id address)
  /-- Logs of live senders are kept. -/
  autoreply : s'.rows .autoreply =
    (s.rows .autoreply).filter fun l => decide (KeepsLog s' l)
  /-- The other tables are the same. -/
  others : ∀ t, t ≠ .mail → t ≠ .autoreply → t ≠ .outbox → s'.rows t = s.rows t

variable {id : Json} {address : Option String} {m : Mailbox} {c : Context} {s s' s'' : Store}

lemma mailLeft_of_mailBlock {u : Unit} (hids : ((s.rows .mail).map fun (r : Mailbox) => r.id).Nodup)
    (hid : id.equalsKey m.id = true) (h : mailBlock id address c s = .ok (u, s')) :
    MailLeft id address s s' where
  mail := rows_mailBlock hids hid h
  autoreply := (endsWithPurge_mailBlock h).rows_autoreply
  others t hmail hautoreply _ := by
    rw [mailBlock_eq_ok h, rows_apply_of_ne purgeAutoreplies _ (Ne.symm hautoreply),
      rows_applyAll_of_ne, rows_apply_of_ne (scheduleMailbox id) _ (Ne.symm hmail)]
    intro st hst
    obtain ⟨m, -, hm⟩ := List.mem_flatMap.1 hst
    rw [table_of_mem_detach hm]
    exact Ne.symm hmail

namespace MailLeft

/-- What it does to the tables does not depend on the outbox. -/
lemma of_sameTables (h : MailLeft id address s s') (htables : s'.SameTables s'') :
    MailLeft id address s s'' where
  mail := (htables .mail (by decide)).trans h.mail
  autoreply := by
    simp only [htables .autoreply (by decide), h.autoreply,
      keepsLog_congr (htables .mail (by decide))]
  others t hmail hautoreply ht := (htables t ht).trans (h.others t hmail hautoreply ht)

lemma ids_eq (h : MailLeft id address s s') :
    (s'.rows .mail).map (fun (r : Mailbox) => r.id) =
      (s.rows .mail).map fun (r : Mailbox) => r.id := by
  simp only [h.mail, List.map_map, Function.comp_def, id_leftMailbox]

lemma sameTables (h : MailLeft id address s s') (h' : MailLeft id address s' s'')
    (hmark : ∀ m : Mailbox, m ∈ s.rows .mail → MarkStandsAlone m) : s'.SameTables s'' := by
  have hmail : s''.rows .mail = s'.rows .mail := by
    rw [h'.mail, h.mail, List.map_map]
    exact List.map_congr_left fun (m : Mailbox) hm => leftMailbox_leftMailbox (hmark m hm)
  intro t ht
  by_cases hismail : t = .mail
  · rw [hismail, hmail]
  · by_cases hautoreply : t = .autoreply
    · subst hautoreply
      rw [h'.autoreply, h.autoreply, List.filter_filter]
      simp only [keepsLog_congr hmail, Bool.and_self]
    · exact h'.others t hismail hautoreply ht

end MailLeft

/-- Without faults, the deletion of a mail account runs to its end if everything can be bound. -/
lemma mailBlock_isOk_iff (h : FaultFree c s) :
    (∃ s', mailBlock id address c s = .ok ((), s')) ↔
      Json.bindFailures? 1 [.text Status.toDelete, id] = none ∧
        Json.bindFailures? 1 (referrers id (Json.shownName address)).params = none ∧
        Statement.bindFailure? (((referrers id (Json.shownName address)).answer
          ((scheduleMailbox id).apply s)).flatMap (detach address)) = none := by
  have hscheduled := h.apply (scheduleMailbox id)
  have hparams : (scheduleMailbox id).footprint.params = [.text Status.toDelete, id] := rfl
  unfold mailBlock
  rw [h.execute_bind, hscheduled.query_bind, hparams]
  cases Json.bindFailures? 1 [.text Status.toDelete, id] with
  | some e => simp
  | none =>
    cases Json.bindFailures? 1 (referrers id (Json.shownName address)).params with
    | some e => simp
    | none =>
      simp only [TransactionM.bind_apply, hscheduled.executeAll_eq, true_and]
      cases Statement.bindFailure? (((referrers id (Json.shownName address)).answer
          ((scheduleMailbox id).apply s)).flatMap (detach address)) with
      | some e => simp
      | none =>
        simp only [TransactionM.discard_apply, TransactionM.execute,
          (hscheduled.applyAll _).checkFootprint_eq]
        exact iff_of_true ⟨_, rfl⟩ trivial

/-- Another account is left alone when the one with the key is scheduled for deletion. -/
lemma scheduledMailbox_of_ne (hid : id.equalsKey m.id = true) {r : Mailbox} (hother : r.id ≠ m.id) :
    scheduledMailbox id r = r :=
  if_neg fun hsame => hother (Json.eq_of_equalsKey hsame hid)

/-- The candidates are the other accounts that the search finds. -/
lemma mem_referrers_iff (hid : id.equalsKey m.id = true) {r : Mailbox} {a : String} :
    r ∈ (referrers id a).answer ((scheduleMailbox id).apply s) ↔
      r ∈ s.rows .mail ∧ r.id ≠ m.id ∧ isFound a r = true := by
  have hother : id.differsInt r.id = true ↔ r.id ≠ m.id := by
    rw [Json.differsInt_of_equalsKey hid]
    simp
  have hanswer : (referrers id a).answer ((scheduleMailbox id).apply s) =
      ((s.rows .mail).map (scheduledMailbox id)).filter fun (r : Mailbox) =>
        id.differsInt r.id && isFound a r :=
    congrArg (List.filter _) (rows_scheduleMailbox id s)
  rw [hanswer, List.mem_filter, Bool.and_eq_true, hother, List.mem_map]
  constructor
  · rintro ⟨⟨r', hr', rfl⟩, hne, hfound⟩
    rw [id_scheduledMailbox] at hne
    rw [scheduledMailbox_of_ne hid hne] at hfound ⊢
    exact ⟨hr', hne, hfound⟩
  · rintro ⟨hr, hne, hfound⟩
    exact ⟨⟨r, hr, scheduledMailbox_of_ne hid hne⟩, hne, hfound⟩

/-- Whatever is done about a candidate the second time has been done the first time. -/
lemma MailLeft.mem_detach (h : MailLeft id address s s') (hid : id.equalsKey m.id = true)
    (hmark : ∀ m : Mailbox, m ∈ s.rows .mail → MarkStandsAlone m) {st : Statement}
    (hst : st ∈ ((referrers id (Json.shownName address)).answer
      ((scheduleMailbox id).apply s')).flatMap (detach address)) :
    st ∈ ((referrers id (Json.shownName address)).answer
      ((scheduleMailbox id).apply s)).flatMap (detach address) := by
  obtain ⟨r', hr', hst⟩ := List.mem_flatMap.1 hst
  obtain ⟨hr', hother, hfound'⟩ := (mem_referrers_iff hid).1 hr'
  rw [h.mail] at hr'
  obtain ⟨r, hr, rfl⟩ := List.mem_map.1 hr'
  rw [id_leftMailbox] at hother
  rw [leftMailbox_of_ne hid hother] at hst hfound'
  have hfound : isFound (Json.shownName address) r = true := by
    by_contra hnot
    rw [if_neg hnot] at hfound'
    exact hnot hfound'
  rw [if_pos hfound] at hst
  exact List.mem_flatMap.2 ⟨r, (mem_referrers_iff hid).2 ⟨hr, hother, hfound⟩,
    mem_detach_of_pruned (hmark r hr) hst⟩

/-- The mail account that goes is found again, now waiting for its deletion. -/
lemma MailLeft.mailAccount_eq (h : MailLeft id address s s') (domainId : Int) :
    (mailAccount id domainId).answer s' = ((mailAccount id domainId).answer s).map
      fun (m : Mailbox) => { m with status := some Status.toDelete } := by
  have hpicks : (fun m : Mailbox => id.equalsKey m.id && Cell.refersTo domainId m.domainId) ∘
      leftMailbox id address =
      fun m : Mailbox => id.equalsKey m.id && Cell.refersTo domainId m.domainId := by
    funext m
    simp only [Function.comp_apply, id_leftMailbox, domainId_leftMailbox]
  simp only [mailAccount, h.mail]
  rw [List.find?_map, hpicks]
  refine Option.map_congr fun m hm => ?_
  have hpicked := List.find?_some (Option.mem_def.1 hm)
  simp only [Bool.and_eq_true] at hpicked
  exact if_pos hpicked.1

variable {user : User}

lemma MailLeft.planMailAccount_eq (hleft : MailLeft id address s s') (h : FaultFree c s)
    (h' : FaultFree c s') : planMailAccount user id c s' = planMailAccount user id c s := by
  have hdomain : ∀ customer, Ownership.needMainDomain customer c s' =
      Ownership.needMainDomain customer c s := by
    intro customer
    refine h.fetchSome_congr h' (m := fun d => d) rfl (fun _ => rfl) ?_
    simp only [Ownership.mainDomain,
      hleft.others .domain (by decide) (by decide) (by decide)]
  unfold planMailAccount
  cases user.id with
  | error e => rfl
  | ok customer =>
    simp only [LookupM.lift_bind]
    rw [LookupM.bind_apply, LookupM.bind_apply, hdomain]
    cases Ownership.needMainDomain customer c s with
    | error e => rfl
    | ok domain =>
      simp only [Except.bind, h.fetch_bind, h'.fetch_bind, hleft.mailAccount_eq]
      cases Json.bindFailures? 1 (mailAccount id domain.id).params with
      | some e => rfl
      | none =>
        cases (mailAccount id domain.id).answer s with
        | none => rfl
        | some m =>
          simp only [Option.map_some, LookupM.read_bind]
          split <;> rfl

end Jobs

end HostingPanel
