import HostingPanel.Proofs.Scheduling

/-!
# Changes that fail

A change that fails should leave no trace but log records.  `Panel.Untouched` says so of the state
before and after it: the tables are the same, so is the notifier, and nobody has tried to connect to
the daemon.  For a failure that is meant for the user this always holds.  A technical failure can
come after the commit in three places: nobody can try to connect with the host, the port and the
timeout of the notifier, the version of the panel cannot be sent, or the user has no name for the
journal.

`Interrupted` lists what can stop a scheduled change before its commit, and `CutShort` says when the
first of the three stops it after its commit.
-/

namespace HostingPanel

open OperationM

/-- Two states with the same database and the same notifier, between which nobody has tried to
connect to the daemon. -/
structure Panel.Untouched (p q : Panel) : Prop where
  store : q.store = p.store
  notifier : q.notifier = p.notifier
  contacts : q.contacts = p.contacts

/-- Nothing has been touched between a state and itself. -/
lemma Panel.Untouched.refl (p : Panel) : p.Untouched p :=
  ⟨rfl, rfl, rfl⟩

/-- What can stop a scheduled change before it is committed, with the failure: a fault on the
connection or at the start of the transaction, the block, its outbox entry, or a fault at the
commit. -/
inductive Interrupted {α : Type} (c : Context) (s : Store) (action : Json) (body : TransactionM α) :
    Failure → Prop where
  | connect {message : String} (hfault : c.fault? .connect none = some message) :
    Interrupted c s action body (.database message)
  | begin {message : String} (hconnect : c.fault? .connect none = none)
    (hfault : c.fault? .begin none = some message) :
    Interrupted c s action body (.database message)
  | body {e : Failure} (hconnect : c.fault? .connect none = none)
    (hbegin : c.fault? .begin none = none) (hbody : body c s = .error e) :
    Interrupted c s action body e
  /-- The block has run, and the outbox does not take the entry. -/
  | entry {a : α} {changed : Store} {e : Failure} (hconnect : c.fault? .connect none = none)
    (hbegin : c.fault? .begin none = none) (hbody : body c s = .ok (a, changed))
    (hentry : Outbox.enqueue action c changed = .error e) : Interrupted c s action body e
  /-- The block and the entry are there, and the commit fails. -/
  | commit {a : α} {changed final : Store} {id : Int} {message : String}
    (hconnect : c.fault? .connect none = none) (hbegin : c.fault? .begin none = none)
    (hbody : body c s = .ok (a, changed))
    (hentry : Outbox.enqueue action c changed = .ok (id, final))
    (hfault : c.fault? .commit none = some message) :
    Interrupted c s action body (.database message)

/-! ### Scheduled changes -/

/-- An interrupted change is not committed, and it is not committed only if it is interrupted. -/
theorem commitBlock_announced_eq_error_iff {α : Type} {c : Context} {s : Store} {action : Json}
    {body : TransactionM α} {e : Failure} :
    commitBlock c s (announced action body) = .error e ↔ Interrupted c s action body e := by
  rw [commitBlock_eq, announced_apply]
  constructor
  · intro h
    split at h
    · rename_i hconnect
      cases h
      exact .connect hconnect
    rename_i hconnect
    split at h
    · rename_i hbegin
      cases h
      exact .begin hconnect hbegin
    rename_i hbegin
    rcases hbody : body c s with e' | ⟨a, changed⟩
    · rw [hbody] at h
      cases h
      exact .body hconnect hbegin hbody
    rcases hentry : Outbox.enqueue action c changed with e' | ⟨id, final⟩
    · simp only [hbody, hentry] at h
      cases h
      exact .entry hconnect hbegin hbody hentry
    simp only [hbody, hentry] at h
    split at h
    · rename_i hcommit
      cases h
      exact .commit hconnect hbegin hbody hentry hcommit
    · cases h
  · intro h
    cases h with
    | connect hfault => simp only [hfault]
    | begin hconnect hfault => simp only [hconnect, hfault]
    | body hconnect hbegin hbody => simp only [hconnect, hbegin, hbody]
    | entry hconnect hbegin hbody hentry => simp only [hconnect, hbegin, hbody, hentry]
    | commit hconnect hbegin hbody hentry hfault =>
      simp only [hconnect, hbegin, hbody, hentry, hfault]

/-- An interrupted change fails as it should and touches nothing. -/
lemma run_scheduledChange_of_interrupted {α : Type} {action failureMessage : Json}
    {body : TransactionM α} {c : Context} {p : Panel} {e : Failure}
    (h : Interrupted c p.store action body e) :
    ∃ q, run (scheduledChange action failureMessage body) c p =
        (.error (e.wrapped failureMessage), q) ∧
      p.Untouched q := by
  rw [run_scheduledChange, commitBlock_announced_eq_error_iff.2 h]
  exact ⟨_, rfl, rfl, rfl, rfl⟩

/-- A scheduled change is committed, with a store as the outcome, and then nobody can try to connect
to the daemon. -/
structure CutShort {α : Type} (c : Context) (p : Panel) (action : Json) (body : TransactionM α)
    (s : Store) (misuse : Misuse) : Prop where
  committed : ∃ a, commitBlock c p.store (announced action body) = .ok (a, s)
  talks : p.notifier.Talks
  misuse : p.notifier.reached c = .error misuse

/-- A panel as a change leaves it that is cut short: the change stands, the notifier counts as used
without an answer, and of one attempt to connect the daemon has taken nothing. -/
def Panel.cutShort (p : Panel) (s : Store) (journal : List LogRecord) : Panel where
  store := s
  notifier := { p.notifier with sent := true }
  journal := journal
  contacts := p.contacts ++ [⟨p.notifier.address, p.notifier.timeout, []⟩]

lemma Panel.not_untouched_cutShort (p : Panel) (s : Store) (journal : List LogRecord) :
    ¬ p.Untouched (p.cutShort s journal) := by
  intro h
  simpa [cutShort] using h.contacts

section ScheduledChange

variable {α : Type} {action : Json} {body : TransactionM α} {c : Context} {p q : Panel}
  {e : Failure} {s : Store} {misuse : Misuse}

/-- A change that is cut short fails with the misuse, and stands. -/
lemma run_scheduledChange_of_cutShort (failureMessage : Json)
    (h : CutShort c p action body s misuse) :
    ∃ journal, run (scheduledChange action failureMessage body) c p =
      (.error (.notConnectable misuse), p.cutShort s journal) := by
  obtain ⟨⟨a, hcommit⟩, htalks, hmisuse⟩ := h
  obtain ⟨journal, htold⟩ := Outbox.run_notifyAfterCommit_of_fresh (c := c)
    (p := { p with store := s }) htalks.fresh
  simp only [Notifier.send_of_misuse htalks hmisuse] at htold
  rw [run_scheduledChange, hcommit]
  simp only [htold]
  exact ⟨journal, rfl⟩

/-- A change that fails has been interrupted, or the announcement after its commit has failed. -/
lemma run_scheduledChange_eq_error {failureMessage : Json}
    (h : run (scheduledChange action failureMessage body) c p = (.error e, q)) :
    p.Untouched q ∨
      (e.isShown = false ∧ (isAscii p.notifier.version.shown = false ∨
        ∃ s misuse, CutShort c p action body s misuse)) := by
  rw [run_scheduledChange] at h
  cases hcommit : commitBlock c p.store (announced action body) with
  | error e' =>
    rw [hcommit] at h
    cases h
    exact .inl ⟨rfl, rfl, rfl⟩
  | ok done =>
    obtain ⟨a, s⟩ := done
    rw [hcommit] at h
    rcases htold : run Outbox.notifyAfterCommit c { p with store := s } with ⟨e' | told, q'⟩
    · simp only [htold] at h
      cases h
      obtain ⟨hanswer, hshown⟩ := Outbox.run_notifyAfterCommit_eq_error htold
      obtain ⟨htalks, ⟨misuse, hmisuse, -⟩ | ⟨-, hversion⟩⟩ := Notifier.answer_send_eq_error hanswer
      · exact .inr ⟨hshown, .inr ⟨s, misuse, ⟨a, hcommit⟩, htalks, hmisuse⟩⟩
      · exact .inr ⟨hshown, .inl hversion⟩
    · simp only [htold] at h
      cases h

/-- If the version of the panel can be sent, a change that fails has touched something exactly if it
was cut short. -/
lemma untouched_scheduledChange_iff {failureMessage : Json}
    (h : run (scheduledChange action failureMessage body) c p = (.error e, q))
    (hversion : isAscii p.notifier.version.shown = true) :
    p.Untouched q ↔ ¬ ∃ s misuse, CutShort c p action body s misuse := by
  constructor
  · rintro huntouched ⟨s, misuse, hcut⟩
    obtain ⟨journal, hrun⟩ := run_scheduledChange_of_cutShort failureMessage hcut
    rw [h] at hrun
    cases hrun
    exact p.not_untouched_cutShort s journal huntouched
  · intro hnever
    rcases run_scheduledChange_eq_error h with huntouched | ⟨-, hunsendable | hcut⟩
    · exact huntouched
    · rw [hversion] at hunsendable
      cases hunsendable
    · exact absurd hcut hnever

end ScheduledChange

/-! ### Jobs and new attempts -/

/-- A user whose description lacks a property is not told about that. -/
lemma User.isShown_of_name_eq_error {user : User} {e : Failure} (h : user.name = .error e) :
    e.isShown = false := by
  unfold User.name User.property Json.member at h
  split at h
  · rename_i fields _
    cases hfield : Json.field? "username" fields with
    | none =>
      rw [hfield] at h
      cases h
      rfl
    | some name =>
      rw [hfield] at h
      cases h
  · cases h
    rfl

/-- A job with a plan that fails has failed with its change, or its user has no name. -/
lemma run_job_eq_error {user : User} {job : Job} {c : Context} {p q : Panel} {e : Failure}
    (h : run (job.run user) c p = (.error e, q)) :
    (job.plan user c p.store = .error e ∧ q = p) ∨
      ∃ plan, job.plan user c p.store = .ok plan ∧
        (run (scheduledChange (.text plan.action) (.text plan.failureMessage) plan.block) c p =
            (.error e, q) ∨
          user.name = .error e) := by
  rw [run_job] at h
  cases hplan : job.plan user c p.store with
  | error e' =>
    rw [hplan] at h
    cases h
    exact .inl ⟨rfl, rfl⟩
  | ok plan =>
    simp only [hplan] at h
    rw [run_carryOut] at h
    refine .inr ⟨plan, rfl, ?_⟩
    rcases hchange : run (scheduledChange (.text plan.action) (.text plan.failureMessage)
      plan.block) c p with ⟨e' | done, q'⟩
    · rw [hchange] at h
      cases h
      exact .inl rfl
    · rw [hchange] at h
      cases hname : user.name with
      | error e' =>
        simp only [hname] at h
        cases h
        exact .inr rfl
      | ok name =>
        simp only [hname] at h
        cases h

/-- A job whose failure is meant for the user has touched nothing. -/
lemma untouched_job_of_isShown {user : User} {job : Job} {c : Context} {p q : Panel} {e : Failure}
    (h : run (job.run user) c p = (.error e, q)) (hshown : e.isShown = true) : p.Untouched q := by
  rcases run_job_eq_error h with ⟨-, rfl⟩ | ⟨plan, -, hchange | hname⟩
  · exact .refl q
  · rcases run_scheduledChange_eq_error hchange with huntouched | ⟨hhidden, -⟩
    · exact huntouched
    · rw [hshown] at hhidden
      cases hhidden
  · rw [User.isShown_of_name_eq_error hname] at hshown
    cases hshown

/-- If the version of the panel can be sent and the user has a name, a job that fails has touched
something exactly if its change was cut short. -/
lemma untouched_job_iff {user : User} {job : Job} {c : Context} {p q : Panel} {e : Failure}
    {name : Json} (h : run (job.run user) c p = (.error e, q))
    (hversion : isAscii p.notifier.version.shown = true) (hname : user.name = .ok name) :
    p.Untouched q ↔ ¬ ∃ plan s misuse, job.plan user c p.store = .ok plan ∧
      CutShort c p (.text plan.action) plan.block s misuse := by
  rcases run_job_eq_error h with ⟨hplan, rfl⟩ | ⟨plan, hplan, hchange | hnameless⟩
  · refine iff_of_true (.refl q) ?_
    rintro ⟨plan, -, -, hplan', -⟩
    rw [hplan] at hplan'
    cases hplan'
  · rw [untouched_scheduledChange_iff hchange hversion, hplan]
    simp
  · rw [hname] at hnameless
    cases hnameless

lemma run_requeue_eq_error {type id : Json} {c : Context} {p q : Panel} {e : Failure}
    (h : run (Debugger.requeue type id) c p = (.error e, q)) : p.Untouched q := by
  rw [run_requeue] at h
  split at h
  · cases h
    exact .refl p
  · split at h
    · cases h
      exact .refl p
    · cases h

/-! ### Failure atomicity -/

/-- Changes are atomic, but for those that are cut short.  Let a job, a new attempt or a scheduled
change around any block fail, in any database, with any faults and whatever the daemon does.  If the
failure is meant for the user, nothing has been touched.  If the version of the panel can be sent and
the user of the job has a name, nothing has been touched whatever the failure is, unless the change
was committed and then nobody could try to connect with the host, the port and the timeout of the
notifier.  A change that is cut short so fails with what is wrong with them, and stands.

A scheduled change that is interrupted before its commit, the commit included, fails with what
interrupted it if that is meant for the user, and else with the message that it was given. -/
theorem failed_change_untouched_iff (c : Context) (p : Panel) :
    (∀ (user : User) (job : Job) (e : Failure) (q : Panel),
      run (job.run user) c p = (.error e, q) →
        (e.isShown = true → p.Untouched q) ∧
        (isAscii p.notifier.version.shown = true → ∀ name, user.name = .ok name →
          (p.Untouched q ↔ ¬ ∃ plan s misuse, job.plan user c p.store = .ok plan ∧
            CutShort c p (.text plan.action) plan.block s misuse))) ∧
    (∀ (type id : Json) (e : Failure) (q : Panel),
      run (Debugger.requeue type id) c p = (.error e, q) → p.Untouched q) ∧
    (∀ (α : Type) (action failureMessage : Json) (body : TransactionM α),
      (∀ (e : Failure) (q : Panel),
        run (scheduledChange action failureMessage body) c p = (.error e, q) →
          (e.isShown = true → p.Untouched q) ∧
          (isAscii p.notifier.version.shown = true →
            (p.Untouched q ↔ ¬ ∃ s misuse, CutShort c p action body s misuse))) ∧
      (∀ (s : Store) (misuse : Misuse), CutShort c p action body s misuse →
        ∃ journal, run (scheduledChange action failureMessage body) c p =
          (.error (.notConnectable misuse), p.cutShort s journal)) ∧
      (∀ e : Failure, Interrupted c p.store action body e →
        ∃ q, run (scheduledChange action failureMessage body) c p =
            (.error (if e.isShown then e else .rolledBack failureMessage), q) ∧
          p.Untouched q)) := by
  refine ⟨?_, ?_, ?_⟩
  · intro user job e q hrun
    exact ⟨untouched_job_of_isShown hrun, fun hversion _ => untouched_job_iff hrun hversion⟩
  · intro type id e q hrun
    exact run_requeue_eq_error hrun
  · intro α action failureMessage body
    refine ⟨fun e q hrun => ⟨fun hshown => ?_, untouched_scheduledChange_iff hrun⟩, ?_, ?_⟩
    · rcases run_scheduledChange_eq_error hrun with huntouched | ⟨hhidden, -⟩
      · exact huntouched
      · rw [hshown] at hhidden
        cases hhidden
    · intro s misuse hcut
      exact run_scheduledChange_of_cutShort failureMessage hcut
    · intro e hinterrupted
      exact run_scheduledChange_of_interrupted hinterrupted

/-- A panel with the domain of one customer and one DNS record of that domain. -/
def samplePanel : Panel where
  store :=
    (Store.empty.set .domain
      [{ id := 1, name := some "example.test", ownerId := some (.whole 7),
         status := some "ok" }]).set .dns
      [{ id := 5, domainId := some (.whole 1), record := some "www",
         ownedBy := some "custom_dns_feature", status := some "ok" }]
  notifier := Notifier.create {}

/-- The customer of the sample, with some of the properties. -/
def sampleUser (names : List String) : User :=
  ⟨.object ([("user_id", .int 7), ("username", .text "mona"), ("role", .text "user")].filter
    fun property => names.contains property.1)⟩

/-- A database that refuses to commit. -/
def noCommit : Context :=
  { faults := [⟨.commit, none, "disk full"⟩] }

/-- A panel with the same database whose notifier has the timeout `-1`. -/
def unlimitedPanel : Panel :=
  { samplePanel with notifier := Notifier.sampleUnlimited }

/-- With a database that refuses to commit, the deletion of a DNS record and a change around an
empty block touch nothing; neither does the deletion of a subdomain for a user without a key, nor a
new attempt for a record that is not there.  With a timeout that the network does not take, a change
around an empty block is cut short. -/
theorem failed_change_untouched_iff_sample :
    samplePanel.Untouched
      (run (Job.run (sampleUser ["user_id", "username", "role"]) (.deleteDnsRecord (.int 5)))
        noCommit samplePanel).2 ∧
    samplePanel.Untouched
      (run (Job.run (sampleUser ["username"]) (.deleteSubdomain (.int 3))) {} samplePanel).2 ∧
    samplePanel.Untouched
      (run (Debugger.requeue (.text "custom_dns") (.int 9)) {} samplePanel).2 ∧
    samplePanel.Untouched
      (run (scheduledChange (.text "rest") (.text "no rest") (pure ())) noCommit samplePanel).2 ∧
    (∃ q, run (scheduledChange (.text "rest") (.text "no rest") (pure ())) noCommit samplePanel =
        (.error (.rolledBack (.text "no rest")), q) ∧
      samplePanel.Untouched q) ∧
    ∃ s journal, run (scheduledChange (.text "rest") (.text "no rest") (pure ()))
        Notifier.sampleNetwork unlimitedPanel =
      (.error (.notConnectable ⟨.value, "Timeout value out of range"⟩),
        unlimitedPanel.cutShort s journal) := by
  refine ⟨?_, ?_, ?_, ?_, ?_, ?_⟩
  · exact ((failed_change_untouched_iff noCommit samplePanel).1
      (sampleUser ["user_id", "username", "role"]) (.deleteDnsRecord (.int 5))
      (.rolledBack (.text "Couldn't delete DNS record. An unexpected error occurred.")) _ rfl).1
      rfl
  · refine (((failed_change_untouched_iff {} samplePanel).1 (sampleUser ["username"])
      (.deleteSubdomain (.int 3)) (.missingProperty "user_id") _ rfl).2 (by decide) (.text "mona")
      rfl).2 ?_
    rintro ⟨plan, -, -, hplan, -⟩
    cases hplan
  · exact (failed_change_untouched_iff {} samplePanel).2.1 (.text "custom_dns") (.int 9)
      (.notFound (.item "custom_dns" (.int 9))) _ rfl
  · exact (((failed_change_untouched_iff noCommit samplePanel).2.2 Unit (.text "rest")
      (.text "no rest") (pure ())).1 (.rolledBack (.text "no rest")) _ rfl).1 rfl
  · exact ((failed_change_untouched_iff noCommit samplePanel).2.2 Unit (.text "rest")
      (.text "no rest") (pure ())).2.2 (.database "disk full") (.commit rfl rfl rfl rfl rfl)
  · exact ⟨_, ((failed_change_untouched_iff Notifier.sampleNetwork unlimitedPanel).2.2 Unit
      (.text "rest") (.text "no rest") (pure ())).2.1 _ _ ⟨⟨(), rfl⟩, ⟨rfl, rfl⟩, rfl⟩⟩

/-- With such a timeout the deletion of a DNS record fails for a customer with all properties and a
version that can be sent, and yet the record is to be deleted and the notifier has been used. -/
theorem cut_short_deletion_stands :
    isAscii unlimitedPanel.notifier.version.shown = true ∧
    ∃ q, run (Job.run (sampleUser ["user_id", "username", "role"]) (.deleteDnsRecord (.int 5)))
          Notifier.sampleNetwork unlimitedPanel =
        (.error (.notConnectable ⟨.value, "Timeout value out of range"⟩), q) ∧
      (q.store.rows .dns).map (fun (r : DnsRecord) => r.status) = [some "todelete"] ∧
      (Outbox.pending q.store).length = 1 ∧ q.notifier.sent = true ∧
      ¬ unlimitedPanel.Untouched q := by
  refine ⟨by decide, _, rfl, rfl, rfl, rfl, ?_⟩
  intro h
  cases h.notifier

end HostingPanel
