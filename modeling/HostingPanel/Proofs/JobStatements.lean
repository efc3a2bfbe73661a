import Mathlib.Tactic.ByCases
import HostingPanel.Debugger
import HostingPanel.Proofs.Plans

/-!
# The statements of the jobs

What a job asks of the database when it makes its change.  `Job.MayRun` lists, job by job, the
statements that can occur, by the definitions of the job and with its arguments; what the job has
looked up before may be anything.  `Job.block_built` says that a planned block is put together from
these and from questions that are not about the outbox, so a question about all jobs becomes a
question about the statements in the list.
-/

namespace HostingPanel

/-! ### The list -/

/-- The statements that leave a group of FTP accounts with some members. -/
def FtpGroups.IsStored (st : Statement) : Prop :=
  ∃ name members, st ∈ FtpGroups.store name members

/-- The statements that a job may run. -/
def Job.MayRun : Job → Statement → Prop
  | .deleteSubdomain id, st =>
    FtpGroups.IsStored st ∨ ∃ sub host, st ∈ Jobs.subdomainStatements id sub host
  | .deleteAliasSubdomain id, st =>
    FtpGroups.IsStored st ∨ ∃ sub parent host, st ∈ Jobs.aliasSubdomainStatements id sub parent host
  | .deleteDomainAlias id, st =>
    FtpGroups.IsStored st ∨ st ∈ Jobs.aliasRemovals id ∨
      (∃ name, st = Jobs.scheduleFtpBelow name) ∨ ∃ row, st ∈ Jobs.aliasStatements id row
  | .deleteCustomer id, st => ∃ name domainId, st ∈ Jobs.customerStatements id name domainId
  | .changeCustomerStatus id action, st =>
    ∃ named hard domainId, Jobs.CustomerAction.named? action = some named ∧
      st ∈ Jobs.customerStatusStatements named hard id domainId
  | .deleteMailAccount id, st =>
    st = Jobs.scheduleMailbox id ∨ (∃ address m, st ∈ Jobs.detach address m) ∨
      st = Jobs.purgeAutoreplies
  | .deleteFtpAccount userid, st => FtpGroups.IsStored st ∨ st = Jobs.scheduleFtpUser userid
  | .deleteDnsRecord id, st => ∃ customer, st = Jobs.scheduleDnsRecord id customer
  | .deleteProtectedArea id, st => ∃ domainId, st = Jobs.scheduleArea id domainId
  | .deleteCertificate _ ownerId id, st =>
    ∃ type, st = Jobs.scheduleCertificate type ownerId id ∨ st = Jobs.scheduleOwner type ownerId
  | .scheduleBackupRestore, st => ∃ customer, st = Jobs.scheduleRestore customer

/-! ### Blocks run statements of the list -/

open TransactionM

variable {P : Statement → Prop} {Q : Table → Prop}

lemma FtpGroups.prune_built (hgroup : ∀ st, FtpGroups.IsStored st → P st) (group : FtpGroup)
    (domain : Option String) (below : Bool) : Built P Q (FtpGroups.prune group domain below) := by
  have hstore : ∀ members, Built P Q (executeAll (FtpGroups.store group.name members)) :=
    fun members => Built.executeAll fun st hst => hgroup st ⟨_, _, hst⟩
  cases domain with
  | some domain => exact hstore _
  | none =>
    unfold FtpGroups.prune
    simp only
    split
    · exact (Built.throw _).bind fun _ => hstore _
    · exact hstore _

/-- A group from which accounts have been removed has been stored. -/
lemma FtpGroups.prune_eq_ok {group : FtpGroup} {domain : Option String} {below : Bool} {c : Context}
    {s s' : Store} {u : Unit} (h : FtpGroups.prune group domain below c s = .ok (u, s')) :
    ∃ stored, (∀ st ∈ stored, FtpGroups.IsStored st) ∧ s' = Statement.applyAll stored s :=
  (FtpGroups.prune_built (Q := fun _ => True) (fun _ hst => hst) group domain below).only h

/-- A block that looks for a group, removes accounts from it if there is one, and goes on in the
same way in both cases: if it has run, a group has been stored or not before the rest. -/
lemma FtpGroups.stored_of_query {q : Query (Option FtpGroup)}
    {f : Option FtpGroup → TransactionM Unit} {rest : TransactionM Unit} {c : Context}
    {s s' : Store} {u : Unit} (h : (query q >>= f) c s = .ok (u, s')) (hnone : f none = rest)
    (hsome : ∀ group, ∃ domain below,
      f (some group) = FtpGroups.prune group domain below >>= fun _ => rest) :
    ∃ stored, (∀ st ∈ stored, FtpGroups.IsStored st) ∧
      rest c (Statement.applyAll stored s) = .ok (u, s') := by
  obtain ⟨found, between, hquery, hrest⟩ := bind_eq_ok h
  obtain ⟨-, rfl⟩ := query_eq_ok hquery
  cases found with
  | none =>
    rw [hnone] at hrest
    exact ⟨[], by simp, hrest⟩
  | some group =>
    obtain ⟨domain, below, hgroup⟩ := hsome group
    rw [hgroup] at hrest
    obtain ⟨_, pruned, hprune, hrest⟩ := bind_eq_ok hrest
    obtain ⟨stored, hstored, rfl⟩ := FtpGroups.prune_eq_ok hprune
    exact ⟨stored, hstored, hrest⟩

namespace Jobs

/-- The deletion of a host stores a group and runs the statements of the host. -/
lemma hostBlock_built (hquery : Q .ftpGroup) (hgroup : ∀ st, FtpGroups.IsStored st → P st)
    (host : String) {statements : List Statement} (hstatements : ∀ st ∈ statements, P st) :
    Built P Q (hostBlock host statements) := by
  refine (Built.query _ hquery).bind fun found => ?_
  cases found with
  | none => exact (Built.pure ()).bind fun _ => Built.executeAll hstatements
  | some group =>
    exact (FtpGroups.prune_built hgroup group _ _).bind fun _ => Built.executeAll hstatements

/-- The deletion of an alias stores a group and runs the statements of the alias. -/
lemma aliasBlock_built {id : Json} {row : DomainAlias} (hquery : Q .ftpGroup)
    (hgroup : ∀ st, FtpGroups.IsStored st → P st) (hremovals : ∀ st ∈ aliasRemovals id, P st)
    (hftp : ∀ name, P (scheduleFtpBelow name))
    (hstatements : ∀ st ∈ aliasStatements id row, P st) (owner : Admin) :
    Built P Q (aliasBlock id row owner) := by
  refine (Built.query _ hquery).bind fun found => ?_
  rcases found with _ | group
  on_goal 2 => refine (FtpGroups.prune_built hgroup group _ _).bind fun _ => ?_
  -- The rest of the block does not depend on the group.
  all_goals
    refine (Built.executeAll hremovals).bind fun _ => ?_
    cases row.name with
    | none => exact (Built.throw _).bind fun _ => Built.executeAll hstatements
    | some name =>
      exact (Built.execute (hftp name)).discard.bind fun _ => Built.executeAll hstatements

/-- The deletion of a host that ran has stored a group or not, and then run the statements of the
host. -/
lemma hostBlock_eq_ok {host : String} {statements : List Statement} {c : Context} {s s' : Store}
    {u : Unit} (h : hostBlock host statements c s = .ok (u, s')) :
    ∃ stored, (∀ st ∈ stored, FtpGroups.IsStored st) ∧
      s' = Statement.applyAll statements (Statement.applyAll stored s) := by
  obtain ⟨stored, hstored, hrest⟩ := FtpGroups.stored_of_query h rfl fun group => ⟨_, _, rfl⟩
  exact ⟨stored, hstored, executeAll_eq_ok hrest⟩

/-- The statements of the deletion of an alias with a name, but for its group. -/
def aliasCascade (id : Json) (row : DomainAlias) (name : String) : List Statement :=
  aliasRemovals id ++ scheduleFtpBelow name :: aliasStatements id row

/-- What comes after the group in the deletion of an alias: it runs only if the alias has a name. -/
lemma aliasRest_eq_ok {id : Json} {row : DomainAlias} {c : Context} {s s' : Store} {u : Unit}
    (h : (executeAll (aliasRemovals id) >>= fun _ =>
      match row.name with
      | none => throw .absentInPattern >>= fun _ : Unit => executeAll (aliasStatements id row)
      | some name => discard (execute (scheduleFtpBelow name)) >>= fun _ : Unit =>
        executeAll (aliasStatements id row)) c s = .ok (u, s')) :
    ∃ name, row.name = some name ∧
      s' = Statement.applyAll (aliasCascade id row name) s := by
  obtain ⟨_, removed, hremovals, hrest⟩ := bind_eq_ok h
  have hremoved := executeAll_eq_ok hremovals
  cases hname : row.name with
  | none =>
    rw [hname] at hrest
    cases hrest
  | some name =>
    rw [hname] at hrest
    obtain ⟨_, scheduled, hftp, hstatements⟩ := bind_eq_ok hrest
    refine ⟨name, rfl, ?_⟩
    rw [aliasCascade, Statement.applyAll_append, Statement.applyAll_cons, ← hremoved,
      ← discard_execute_eq_ok hftp]
    exact executeAll_eq_ok hstatements

/-- The deletion of an alias that ran has stored a group or not, and then run the statements of the
alias, which has a name. -/
lemma aliasBlock_eq_ok {id : Json} {row : DomainAlias} {owner : Admin} {c : Context} {s s' : Store}
    {u : Unit} (h : aliasBlock id row owner c s = .ok (u, s')) :
    ∃ stored name, (∀ st ∈ stored, FtpGroups.IsStored st) ∧ row.name = some name ∧
      s' = Statement.applyAll (aliasCascade id row name) (Statement.applyAll stored s) := by
  obtain ⟨stored, hstored, hrest⟩ := FtpGroups.stored_of_query h rfl fun group => ⟨_, _, rfl⟩
  obtain ⟨name, hname, hstatements⟩ := aliasRest_eq_ok hrest
  exact ⟨stored, name, hstored, hname, hstatements⟩

/-- The deletion of a mail account runs the statements on the account and on those that refer to
it. -/
lemma mailBlock_built {id : Json} {address : Option String} (hquery : Q .mail)
    (haccount : P (scheduleMailbox id)) (hdetach : ∀ m, ∀ st ∈ detach address m, P st)
    (hpurge : P purgeAutoreplies) : Built P Q (mailBlock id address) := by
  refine (Built.execute haccount).discard.bind fun _ => ?_
  refine (Built.query _ hquery).bind fun found => ?_
  have hfound : ∀ st ∈ found.flatMap (detach address), P st := by
    intro st hst
    obtain ⟨m, -, hm⟩ := List.mem_flatMap.1 hst
    exact hdetach m st hm
  exact (Built.executeAll hfound).bind fun _ => (Built.execute hpurge).discard

/-- The deletion of an FTP account stores a group and schedules the account. -/
lemma ftpBlock_built {userid : Json} (hquery : Q .ftpGroup)
    (hgroup : ∀ st, FtpGroups.IsStored st → P st) (haccount : P (scheduleFtpUser userid))
    (owner : Admin) : Built P Q (ftpBlock userid owner) := by
  have hlast : Built P Q (discard (execute (scheduleFtpUser userid))) :=
    (Built.execute haccount).discard
  refine (Built.query _ hquery).bind fun found => ?_
  cases found with
  | none => exact (Built.pure ()).bind fun _ => hlast
  | some group =>
    simp only
    cases withoutMember? group userid with
    | none => exact (Built.pure ()).bind fun _ => hlast
    | some members =>
      exact (Built.executeAll fun st hst => hgroup st ⟨_, _, hst⟩).bind fun _ => hlast

/-- The deletion of a mail account that ran has scheduled the account, taken the address out of the
lists of the accounts that the search has found then, and removed logs. -/
lemma mailBlock_eq_ok {id : Json} {address : Option String} {c : Context} {s s' : Store} {u : Unit}
    (h : mailBlock id address c s = .ok (u, s')) :
    s' = purgeAutoreplies.apply
      (Statement.applyAll (((referrers id (Json.shownName address)).answer
        ((scheduleMailbox id).apply s)).flatMap (detach address))
        ((scheduleMailbox id).apply s)) := by
  obtain ⟨_, scheduled, haccount, h⟩ := bind_eq_ok h
  obtain ⟨found, between, hquery, h⟩ := bind_eq_ok h
  obtain ⟨_, detached, hdetach, hpurge⟩ := bind_eq_ok h
  obtain rfl := discard_execute_eq_ok haccount
  obtain ⟨rfl, rfl⟩ := query_eq_ok hquery
  obtain rfl := executeAll_eq_ok hdetach
  exact discard_execute_eq_ok hpurge

/-- What the deletion of an FTP account does to the group of its owner: the account leaves it if it
is a member. -/
def ftpGroupStatements (userid : Json) (owner : Admin) (s : Store) : List Statement :=
  match (FtpGroups.named owner.name).answer s with
  | some group =>
    match withoutMember? group userid with
    | some members => FtpGroups.store group.name members
    | none => []
  | none => []

/-- The account leaves the group by storing the group. -/
lemma ftpGroupStatements_isStored (userid : Json) (owner : Admin) (s : Store) :
    ∀ st ∈ ftpGroupStatements userid owner s, FtpGroups.IsStored st := by
  intro st hst
  unfold ftpGroupStatements at hst
  split at hst
  · split at hst
    · exact ⟨_, _, hst⟩
    · cases hst
  · cases hst

/-- The deletion of an FTP account that ran has stored the group or not, and then scheduled the
account. -/
lemma ftpBlock_eq_ok {userid : Json} {owner : Admin} {c : Context} {s s' : Store} {u : Unit}
    (h : ftpBlock userid owner c s = .ok (u, s')) :
    s' = (scheduleFtpUser userid).apply
      (Statement.applyAll (ftpGroupStatements userid owner s) s) := by
  obtain ⟨found, between, hquery, h⟩ := bind_eq_ok h
  obtain ⟨rfl, rfl⟩ := query_eq_ok hquery
  unfold ftpGroupStatements
  cases hgroup : (FtpGroups.named owner.name).answer between with
  | none =>
    rw [hgroup] at h
    exact discard_execute_eq_ok h
  | some group =>
    simp only [hgroup] at h
    cases hmembers : withoutMember? group userid with
    | none =>
      simp only [hmembers] at h ⊢
      exact discard_execute_eq_ok h
    | some members =>
      simp only [hmembers] at h ⊢
      obtain ⟨_, stored, hstore, hlast⟩ := bind_eq_ok h
      obtain rfl := executeAll_eq_ok hstore
      exact discard_execute_eq_ok hlast

/-- A statement that has to pick a row has picked one, if it ran. -/
lemma picking_eq_ok {st : Statement} {e : Failure} {c : Context} {s s' : Store} {u : Unit}
    (h : (do if (← execute st) = 0 then throw e : TransactionM Unit) c s = .ok (u, s')) :
    st.count s ≠ 0 ∧ s' = st.apply s := by
  obtain ⟨count, between, hexecute, h⟩ := bind_eq_ok h
  obtain ⟨-, rfl, rfl⟩ := execute_eq_ok_iff.1 hexecute
  split at h
  · cases h
  · rename_i hcount
    cases h
    exact ⟨hcount, rfl⟩

/-- The deletion of a DNS record that ran has picked a record of the customer, and has scheduled
what it has picked. -/
lemma dnsBlock_eq_ok {user : User} {id : Json} {c : Context} {s s' : Store} {u : Unit}
    (h : dnsBlock user id c s = .ok (u, s')) :
    ∃ customer, user.id = .ok customer ∧ (scheduleDnsRecord id customer).count s ≠ 0 ∧
      s' = (scheduleDnsRecord id customer).apply s := by
  obtain ⟨customer, between, hlift, hpicking⟩ := bind_eq_ok h
  obtain ⟨hid, rfl⟩ : user.id = .ok customer ∧ between = s := by
    cases hid : user.id with
    | error e =>
      rw [hid] at hlift
      cases hlift
    | ok found =>
      rw [hid] at hlift
      cases hlift
      exact ⟨rfl, rfl⟩
  exact ⟨customer, hid, picking_eq_ok hpicking⟩

/-- The deletion of a certificate that ran has picked a certificate, and has scheduled it and its
owner. -/
lemma certificateBlock_eq_ok {type : OwnerType} {ownerId id : Json} {c : Context} {s s' : Store}
    {u : Unit} (h : certificateBlock type ownerId id c s = .ok (u, s')) :
    (scheduleCertificate type ownerId id).count s ≠ 0 ∧
      s' = (scheduleOwner type ownerId).apply ((scheduleCertificate type ownerId id).apply s) := by
  obtain ⟨count, between, hexecute, h⟩ := bind_eq_ok h
  obtain ⟨-, rfl, rfl⟩ := execute_eq_ok_iff.1 hexecute
  split at h
  · cases h
  · rename_i hcount
    exact ⟨hcount, discard_execute_eq_ok h⟩

lemma picking_built {st : Statement} (hst : P st) (e : Failure) :
    Built P Q (do if (← execute st) = 0 then throw e) := by
  refine (Built.execute hst).bind fun count => ?_
  split
  · exact Built.throw e
  · exact Built.pure ()

end Jobs

/-- The block that a job has planned is put together from statements of the job, and it does not ask
about the outbox. -/
theorem Job.block_built {user : User} {job : Job} {c : Context} {s : Store} {made : Plan}
    (h : job.plan user c s = .ok made) : made.block.Built job.MayRun (· ≠ .outbox) := by
  cases job with
  | deleteSubdomain id =>
    obtain ⟨customer, sub, domain, -, -, rfl⟩ := Jobs.planSubdomain_eq_ok h
    exact Jobs.hostBlock_built (by decide) (fun st => .inl) _ fun st hst => .inr ⟨_, _, hst⟩
  | deleteAliasSubdomain id =>
    obtain ⟨customer, sub, parent, -, -, rfl⟩ := Jobs.planAliasSubdomain_eq_ok h
    exact Jobs.hostBlock_built (by decide) (fun st => .inl) _ fun st hst => .inr ⟨_, _, _, hst⟩
  | deleteDomainAlias id =>
    obtain ⟨customer, row, owner, -, -, rfl⟩ := Jobs.planDomainAlias_eq_ok h
    exact Jobs.aliasBlock_built (by decide) (fun st => .inl) (fun st hst => .inr (.inl hst))
      (fun name => .inr (.inr (.inl ⟨name, rfl⟩)))
      (fun st hst => .inr (.inr (.inr ⟨_, hst⟩))) _
  | deleteCustomer id =>
    obtain ⟨account, domain, -, rfl⟩ := Jobs.planCustomer_eq_ok h
    exact Built.executeAll fun st hst => ⟨_, _, hst⟩
  | changeCustomerStatus id action =>
    obtain ⟨named, account, domain, hnamed, -, rfl⟩ := Jobs.planCustomerStatus_eq_ok h
    exact Built.executeAll fun st hst => ⟨named, _, _, hnamed, hst⟩
  | deleteMailAccount id =>
    obtain ⟨customer, domain, m, -, -, -, rfl⟩ := Jobs.planMailAccount_eq_ok h
    exact Jobs.mailBlock_built (by decide) (.inl rfl) (fun m st hst => .inr (.inl ⟨_, m, hst⟩))
      (.inr (.inr rfl))
  | deleteFtpAccount userid =>
    obtain ⟨customer, owner, -, -, rfl⟩ := Jobs.planFtpAccount_eq_ok h
    exact Jobs.ftpBlock_built (by decide) (fun st => .inl) (.inr rfl) owner
  | deleteDnsRecord id =>
    cases h
    exact (Built.lift _).bind fun customer => Jobs.picking_built ⟨customer, rfl⟩ _
  | deleteProtectedArea id =>
    obtain ⟨customer, domain, -, -, rfl⟩ := Jobs.planProtectedArea_eq_ok h
    exact Jobs.picking_built ⟨domain.id, rfl⟩ _
  | deleteCertificate ownerType ownerId id =>
    obtain ⟨customer, type, owner, -, -, -, rfl⟩ := Jobs.planCertificate_eq_ok h
    refine (Built.execute ⟨type, .inl rfl⟩).bind fun count => ?_
    have howner : Built (Job.MayRun (.deleteCertificate ownerType ownerId id)) (· ≠ .outbox)
        (discard (execute (Jobs.scheduleOwner type ownerId))) :=
      (Built.execute ⟨type, .inr rfl⟩).discard
    split
    · exact (Built.throw _).bind fun _ => howner
    · exact howner
  | scheduleBackupRestore =>
    obtain ⟨customer, domain, -, -, -, rfl⟩ := Jobs.planBackupRestore_eq_ok h
    exact (Built.execute ⟨customer, rfl⟩).discard

/-- The block that a job has planned runs only statements of the job. -/
theorem Job.block_only {user : User} {job : Job} {c : Context} {s : Store} {made : Plan}
    (h : job.plan user c s = .ok made) : made.block.Only job.MayRun :=
  (Job.block_built h).only

/-- A new attempt sets a status and does nothing else. -/
lemma Debugger.requeueBlock_only (t : ItemType) (id : Json) :
    Only (fun st => st = Debugger.setStatus t Status.toChange id)
      (Debugger.requeueBlock t id) := by
  have hblock : Built (fun st => st = Debugger.setStatus t Status.toChange id) (fun _ => True)
      (Debugger.requeueBlock t id) := by
    refine (Built.query _ trivial).bind fun found => ?_
    cases found with
    | none => exact Built.throw _
    | some status =>
      have hlast : Built (fun st => st = Debugger.setStatus t Status.toChange id) (fun _ => True)
          (do
            discard (Status.checkTransition status (some Status.toChange))
            discard (execute (Debugger.setStatus t Status.toChange id))) :=
        (Built.lift _).discard.bind fun _ => (Built.execute (by rfl)).discard
      simp only
      split
      · exact (Built.throw _).bind fun _ => hlast
      · exact hlast
  exact hblock.only

/-- A new attempt that ran has found the first item with the key in error, and has set the status of
all items with the key. -/
lemma Debugger.requeueBlock_eq_ok {t : ItemType} {id : Json} {c : Context} {s s' : Store} {u : Unit}
    (h : Debugger.requeueBlock t id c s = .ok (u, s')) :
    ∃ r, (s.rows t.table).find? (t.hasId id) = some r ∧
      Status.isError (t.status r) (some t.normal) = true ∧
      s' = (Debugger.setStatus t Status.toChange id).apply s := by
  obtain ⟨found, between, hquery, hrest⟩ := bind_eq_ok h
  have hfound : found = ((s.rows t.table).find? (t.hasId id)).map t.status ∧ between = s :=
    query_eq_ok hquery
  obtain ⟨rfl, rfl⟩ := hfound
  cases hrow : (between.rows t.table).find? (t.hasId id) with
  | none =>
    rw [hrow] at hrest
    cases hrest
  | some r =>
    simp only [hrow, Option.map_some] at hrest
    cases herror : Status.isError (t.status r) (some t.normal) with
    | false =>
      rw [herror] at hrest
      cases hrest
    | true =>
      simp only [herror, Bool.not_true, Bool.false_eq_true, if_false] at hrest
      obtain ⟨_, unchanged, hcheck, hset⟩ := bind_eq_ok hrest
      have hsame : unchanged = between := by
        cases hmove : Status.checkTransition (t.status r) (some Status.toChange) with
        | error e =>
          rw [hmove] at hcheck
          cases hcheck
        | ok target =>
          rw [hmove] at hcheck
          cases hcheck
          rfl
      rw [hsame] at hset
      exact ⟨r, rfl, herror, discard_execute_eq_ok hset⟩

/-! ### The outbox is left alone -/

/-- Storing a group is about groups and their quotas. -/
lemma FtpGroups.IsStored.table_mem {st : Statement} (h : FtpGroups.IsStored st) :
    st.table ∈ [Table.ftpGroup, Table.quotaLimit, Table.quotaTally] := by
  obtain ⟨name, members, hst⟩ := h
  unfold FtpGroups.store at hst
  split at hst
  · simp only [FtpGroups.removal, List.mem_cons, List.not_mem_nil, or_false] at hst
    rcases hst with rfl | rfl | rfl <;> simp [Statement.table]
  · simp only [List.mem_singleton] at hst
    subst hst
    simp [FtpGroups.setMembers, Statement.table]

/-- Storing a group leaves the tables alone that are not about groups. -/
lemma FtpGroups.rows_of_isStored {sts : List Statement} (h : ∀ st ∈ sts, IsStored st) {t : Table}
    (ht : t ∉ [Table.ftpGroup, Table.quotaLimit, Table.quotaTally]) (s : Store) :
    (Statement.applyAll sts s).rows t = s.rows t := by
  refine Statement.rows_applyAll_of_ne (fun st hst htable => ht ?_) s
  rw [← htable]
  exact (h st hst).table_mem

lemma FtpGroups.IsStored.table_ne_outbox {st : Statement} (h : FtpGroups.IsStored st) :
    st.table ≠ .outbox := by
  intro htable
  have hmem := h.table_mem
  rw [htable] at hmem
  exact absurd hmem (by decide)

/-- Taking an address out of a list of targets is about mail accounts. -/
lemma Jobs.table_of_mem_detach {address : Option String} {m : Mailbox} {st : Statement}
    (h : st ∈ Jobs.detach address m) : st.table = .mail := by
  unfold Jobs.detach at h
  split at h
  · simp at h
  · split at h
    · simp at h
    · simp only at h
      split at h
      · rw [List.mem_singleton.1 h]
        rfl
      · rw [List.mem_singleton.1 h]
        rfl

theorem Job.MayRun.table_ne_outbox {job : Job} {st : Statement} (h : job.MayRun st) :
    st.table ≠ .outbox := by
  cases job with
  | deleteSubdomain id =>
    rcases h with h | ⟨sub, host, h⟩
    · exact h.table_ne_outbox
    · revert st
      simp [Jobs.subdomainStatements, Statement.table, Jobs.removePhp, Jobs.scheduleFtpOfHost,
        Jobs.scheduleMailUnder, Jobs.scheduleCertificates, Jobs.scheduleAreasUnder]
  | deleteAliasSubdomain id =>
    rcases h with h | ⟨sub, parent, host, h⟩
    · exact h.table_ne_outbox
    · revert st
      simp [Jobs.aliasSubdomainStatements, Statement.table, Jobs.removePhp, Jobs.scheduleFtpOfHost,
        Jobs.scheduleMailUnder, Jobs.scheduleCertificates, Jobs.scheduleAreasUnder]
  | deleteDomainAlias id =>
    rcases h with h | h | ⟨name, rfl⟩ | ⟨row, h⟩
    · exact h.table_ne_outbox
    · revert st
      simp [Jobs.aliasRemovals, Jobs.removePhp, Statement.table]
    · simp [Jobs.scheduleFtpBelow, Statement.table]
    · revert st
      simp [Jobs.aliasStatements, Statement.table, Jobs.scheduleCertificates,
        Jobs.scheduleAreasUnder]
  | deleteCustomer id =>
    obtain ⟨name, domainId, h⟩ := h
    revert st
    simp [Jobs.customerStatements, Jobs.customerRemovals, Jobs.customerSchedules, FtpGroups.store,
      FtpGroups.removal, Jobs.scheduleCertificatesOf, Jobs.purgeAutoreplies, Statement.table]
  | changeCustomerStatus id action =>
    obtain ⟨named, hard, domainId, -, h⟩ := h
    revert st
    cases named <;> cases hard <;>
      simp [Jobs.customerStatusStatements, Jobs.closeMail, Jobs.openMail, Jobs.statusStatements,
        Statement.table]
  | deleteMailAccount id =>
    rcases h with rfl | ⟨address, m, h⟩ | rfl
    · simp [Jobs.scheduleMailbox, Statement.table]
    · simp [Jobs.table_of_mem_detach h]
    · simp [Jobs.purgeAutoreplies, Statement.table]
  | deleteFtpAccount userid =>
    rcases h with h | rfl
    · exact h.table_ne_outbox
    · simp [Jobs.scheduleFtpUser, Statement.table]
  | deleteDnsRecord id =>
    obtain ⟨customer, rfl⟩ := h
    simp [Jobs.scheduleDnsRecord, Statement.table]
  | deleteProtectedArea id =>
    obtain ⟨domainId, rfl⟩ := h
    simp [Jobs.scheduleArea, Statement.table]
  | deleteCertificate ownerType ownerId id =>
    obtain ⟨type, rfl | rfl⟩ := h
    · simp [Jobs.scheduleCertificate, Statement.table]
    · cases type <;> simp [Jobs.scheduleOwner, Statement.table]
  | scheduleBackupRestore =>
    obtain ⟨customer, rfl⟩ := h
    simp [Jobs.scheduleRestore, Statement.table]

theorem Job.block_spares_outbox {user : User} {job : Job} {c : Context} {s : Store} {made : Plan}
    (h : job.plan user c s = .ok made) : made.block.Spares .outbox :=
  ((Job.block_only h).mono fun _ hst => hst.table_ne_outbox).spares

/-- A kind of items that has a name is one of all kinds. -/
lemma ItemType.mem_all_of_named {name : Json} {t : ItemType} (h : ItemType.named name = .ok t) :
    t ∈ ItemType.all := by
  unfold ItemType.named at h
  split at h
  · rename_i hfound
    cases h
    exact List.mem_of_find?_eq_some hfound
  · cases h

lemma ItemType.table_ne_outbox {t : ItemType} (ht : t ∈ all) : t.table ≠ .outbox := by
  revert t
  decide

theorem Debugger.requeueBlock_spares_outbox {t : ItemType} (ht : t ∈ ItemType.all) (id : Json) :
    (Debugger.requeueBlock t id).Spares .outbox := by
  refine ((Debugger.requeueBlock_only t id).mono fun st hst => ?_).spares
  subst hst
  exact ItemType.table_ne_outbox ht

end HostingPanel
