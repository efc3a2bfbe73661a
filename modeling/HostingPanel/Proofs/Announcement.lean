import HostingPanel.Outbox
import HostingPanel.Proofs.Blocks
import HostingPanel.Proofs.Exchange

/-!
# What an announcement leaves behind

The daemon is told about committed changes in three steps: the largest pending key is read, the
daemon is told, and the entries up to that key are marked.  Two announcements take these steps,
`Outbox.afterCommit` after a change and `Outbox.relay` on behalf of the relay.

This module runs both of them, first each step and then the whole.  `Outbox.snapshot` is what the
first step finds and `Outbox.settle` is what the last one does; the journal is the only part of the
state that the equations leave open.  From them come the facts that later modules use: an
announcement changes the database only by marking entries, uses the notifier as `Notifier.send`
does, and fails only if nobody can try to connect or the version of the panel cannot be sent.
-/

namespace HostingPanel

/-! ### Telling the daemon -/

namespace OperationM

/-- The record that a call of a notifier leaves in the journal. -/
def troubleRecords (d : Delivery) : List LogRecord :=
  (d.trouble.map fun trouble => ⟨.error, .daemon, trouble.message⟩).toList

/-- Taking note of a call adds the contact and a record of the trouble, and gives the answer. -/
lemma run_report (d : Delivery) (c : Context) (p : Panel) :
    run (report d) c p =
      (d.answer, { p with
        journal := p.journal ++ troubleRecords d
        contacts := p.contacts ++ d.contact.toList }) := by
  obtain ⟨notifier, answer, contact, trouble⟩ := d
  cases trouble with
  | none =>
    simp only [troubleRecords, Option.map_none, Option.toList_none, List.append_nil]
    cases answer <;> rfl
  | some t => cases answer <;> rfl

/-- The notifier of the operation is used as `Notifier.send` says. -/
lemma run_sendRequest (c : Context) (p : Panel) :
    run sendRequest c p =
      ((p.notifier.send c).answer, { p with
        notifier := (p.notifier.send c).notifier
        journal := p.journal ++ troubleRecords (p.notifier.send c)
        contacts := p.contacts ++ (p.notifier.send c).contact.toList }) :=
  run_report (p.notifier.send c) c { p with notifier := (p.notifier.send c).notifier }

lemma run_sendFresh (c : Context) (p : Panel) :
    run sendFresh c p =
      (((Notifier.create c.settings).send c).answer, { p with
        journal := p.journal ++ troubleRecords ((Notifier.create c.settings).send c)
        contacts :=
          p.contacts ++ ((Notifier.create c.settings).send c).contact.toList }) :=
  run_report ((Notifier.create c.settings).send c) c p

end OperationM

namespace Outbox

open OperationM

/-! ### Reading before and marking after -/

/-- The largest pending key as an announcement learns it; none also if it cannot be read. -/
def snapshot (c : Context) (s : Store) : Option Int :=
  match readOnce c s latestPending with
  | .ok latest => latest
  | .error _ => none

/-- Reading the largest pending key does not stop the operation. -/
lemma run_readLatest (c : Context) (p : Panel) :
    ∃ journal, run readLatest c p = (.ok (snapshot c p.store), { p with journal }) := by
  have hfetch : run (fetch latestPending) c p = (readOnce c p.store latestPending, p) := rfl
  unfold readLatest
  rw [run_bind, run_attempt, hfetch]
  cases h : readOnce c p.store latestPending with
  | ok latest => exact ⟨p.journal, by simp only [snapshot, h, run_pure]⟩
  | error e =>
    simp only [snapshot, h]
    exact ⟨_, rfl⟩

/-- What comes of marking the entries of a snapshot: whether it succeeds, and the store. -/
def settle (c : Context) (s : Store) : Option Int → Bool × Store
  | none => (true, s)
  | some id =>
    match executeOnce c s (markDispatched c.now (.int id)) with
    | .ok (_, s) => (true, s)
    | .error _ => (false, s)

lemma run_markTold (latest : Option Int) (c : Context) (p : Panel) :
    ∃ journal, run (markTold latest) c p =
      (.ok (some (settle c p.store latest).1),
        { p with store := (settle c p.store latest).2, journal }) := by
  cases latest with
  | none => exact ⟨p.journal, rfl⟩
  | some id =>
    unfold markTold
    simp only
    rw [run_bind, run_read]
    simp only
    rw [run_bind, run_attempt]
    cases h : executeOnce c p.store (markDispatched c.now (.int id)) with
    | ok done => exact ⟨p.journal, by simp only [run, executeNow, h, settle]; rfl⟩
    | error e =>
      simp only [run, executeNow, h, settle]
      exact ⟨_, rfl⟩

/-! ### The steps of an announcement -/

/-- The announcement after a change reads the largest pending key, unless its notifier has been
used. -/
lemma run_inquire_afterCommit (c : Context) (p : Panel) :
    ∃ journal, run afterCommit.inquire c p =
      (.ok (if p.notifier.sent then .inl p.notifier.result else .inr (snapshot c p.store)),
        { p with journal }) := by
  simp only [afterCommit]
  rw [run_bind, run_get]
  simp only
  cases p.notifier.sent with
  | true => exact ⟨p.journal, rfl⟩
  | false =>
    obtain ⟨journal, hread⟩ := run_readLatest c p
    simp only [Bool.false_eq_true, if_false]
    rw [run_bind, hread]
    exact ⟨journal, rfl⟩

/-- The announcement after a change tells the daemon with the notifier of the operation. -/
lemma run_tell_afterCommit (c : Context) (p : Panel) :
    ∃ journal, run afterCommit.tell c p =
      let d := p.notifier.send c
      let told : Panel :=
        { p with notifier := d.notifier, journal, contacts := p.contacts ++ d.contact.toList }
      match d.answer with
      | .ok (some true) => (.ok none, told)
      | .ok _ => (.ok (some (some false)), told)
      | .error e => (.error e, told) := by
  simp only [afterCommit]
  rw [run_bind, run_sendRequest]
  cases (p.notifier.send c).answer with
  | error e => exact ⟨_, rfl⟩
  | ok answer => rcases answer with _ | _ | _ <;> exact ⟨_, rfl⟩

/-- The relay reads the largest pending key, and has nothing to do if there is none. -/
lemma run_inquire_relay (c : Context) (p : Panel) :
    run relay.inquire c p =
      (match readOnce c p.store latestPending with
        | .error e => .error e
        | .ok none => .ok (.inl 0)
        | .ok (some id) => .ok (.inr id), p) := by
  have hfetch : run (fetch latestPending) c p = (readOnce c p.store latestPending, p) := rfl
  simp only [relay]
  rw [run_bind, hfetch]
  rcases readOnce c p.store latestPending with e | _ | id <;> rfl

lemma run_tell_relay (c : Context) (p : Panel) :
    ∃ journal, run relay.tell c p =
      let d := (Notifier.create c.settings).send c
      let told : Panel := { p with journal, contacts := p.contacts ++ d.contact.toList }
      match d.answer with
      | .ok (some true) => (.ok none, told)
      | .ok _ => (.ok (some 0), told)
      | .error e => (.error e, told) := by
  simp only [relay]
  rw [run_bind, run_sendFresh]
  cases ((Notifier.create c.settings).send c).answer with
  | error e => exact ⟨_, rfl⟩
  | ok answer => rcases answer with _ | _ | _ <;> exact ⟨_, rfl⟩

/-- The relay marks the entries up to the key, or the run stops. -/
lemma run_mark_relay (id : Int) (c : Context) (p : Panel) :
    ∃ journal, run (relay.mark id) c p =
      match executeOnce c p.store (markDispatched c.now (.int id)) with
      | .ok (count, s) => (.ok count, { p with store := s, journal })
      | .error e => (.error e, p) := by
  simp only [relay]
  rw [run_bind, run_read]
  simp only
  rw [run_bind]
  cases hmark : executeOnce c p.store (markDispatched c.now (.int id)) with
  | error e =>
    simp only [run, executeNow, hmark]
    exact ⟨p.journal, trivial⟩
  | ok done =>
    simp only [run, executeNow, hmark]
    exact ⟨_, rfl⟩

/-- An announcement takes its steps until one of them fails or ends it.  The database is used in the
surroundings of the two phases. -/
lemma run_announcement {κ α : Type} (a : Announcement κ α) (c : Context) (p : Panel) :
    run a.run c p =
      match run a.inquire (c.during .inquiry) p with
      | (.error e, q) => (.error e, q)
      | (.ok (.inl answer), q) => (.ok answer, q)
      | (.ok (.inr latest), q) =>
        match run a.tell c q with
        | (.error e, q) => (.error e, q)
        | (.ok (some answer), q) => (.ok answer, q)
        | (.ok none, q) => run (a.mark latest) (c.during .marking) q := by
  have hduring {β : Type} (phase : Phase) (op : OperationM β) (q : Panel) :
      run (during phase op) c q = run op (c.during phase) q := rfl
  unfold Announcement.run
  rw [run_bind, hduring]
  rcases run a.inquire (c.during .inquiry) p with ⟨e | answer | latest, q⟩
  · rfl
  · rfl
  · simp only
    rw [run_bind]
    rcases run a.tell c q with ⟨e | _ | answer, q'⟩
    · rfl
    · exact hduring .marking (a.mark latest) q'
    · rfl

section Announcement

variable {κ α : Type} {a : Announcement κ α} {c : Context} {p q : Panel} {latest : κ}

/-- If no key is learnt, an announcement leaves what its first step leaves. -/
lemma run_announcement_of_passed
    (hends : ∀ latest, (run a.inquire (c.during .inquiry) p).1 ≠ .ok (.inr latest)) :
    (run a.run c p).2 = (run a.inquire (c.during .inquiry) p).2 := by
  rw [run_announcement]
  rcases hinquire : run a.inquire (c.during .inquiry) p with ⟨e | answer | latest, q⟩
  · rfl
  · rfl
  · exact absurd (congrArg Prod.fst hinquire) (hends latest)

/-- If the daemon has not been told, an announcement leaves what the attempt to tell it leaves. -/
lemma run_announcement_of_untold
    (hinquire : run a.inquire (c.during .inquiry) p = (.ok (.inr latest), q))
    (hends : (run a.tell c q).1 ≠ .ok none) : (run a.run c p).2 = (run a.tell c q).2 := by
  rw [run_announcement, hinquire]
  simp only
  rcases htell : run a.tell c q with ⟨e | _ | answer, q'⟩
  · rfl
  · exact absurd (congrArg Prod.fst htell) hends
  · rfl

/-- If the daemon has been told, an announcement ends as its last step does. -/
lemma run_announcement_of_told {q' : Panel}
    (hinquire : run a.inquire (c.during .inquiry) p = (.ok (.inr latest), q))
    (htell : run a.tell c q = (.ok none, q')) :
    run a.run c p = run (a.mark latest) (c.during .marking) q' := by
  rw [run_announcement, hinquire]
  simp only [htell]

end Announcement

/-! ### The two operations -/

/-- A notifier that has been used answers as before, and nothing happens. -/
lemma run_notifyAfterCommit_of_sent {c : Context} {p : Panel} (hsent : p.notifier.sent = true) :
    run notifyAfterCommit c p = (.ok p.notifier.result, p) := by
  have hinquire (c : Context) :
      run afterCommit.inquire c p = (.ok (.inl p.notifier.result), p) := by
    simp only [afterCommit]
    rw [run_bind, run_get]
    simp only [hsent]
    rfl
  rw [notifyAfterCommit, run_announcement, hinquire]

/-- An announcement with a notifier that has not been used: the snapshot is taken from the store
before the exchange, and the entries up to it are marked if the exchange succeeds. -/
lemma run_notifyAfterCommit_of_fresh {c : Context} {p : Panel} (hfresh : p.notifier.sent = false) :
    ∃ journal, run notifyAfterCommit c p =
      let d := p.notifier.send c
      let told (s : Store) : Panel :=
        { store := s, notifier := d.notifier, journal, contacts := p.contacts ++ d.contact.toList }
      match d.answer with
      | .ok (some true) =>
        let (marked, s) :=
          settle (c.during .marking) p.store (snapshot (c.during .inquiry) p.store)
        (.ok (some marked), told s)
      | .ok _ => (.ok (some false), told p.store)
      | .error e => (.error e, told p.store) := by
  obtain ⟨read, hread⟩ := run_inquire_afterCommit (c.during .inquiry) p
  obtain ⟨told, htell⟩ := run_tell_afterCommit c { p with journal := read }
  rw [notifyAfterCommit, run_announcement, hread]
  simp only [hfresh, Bool.false_eq_true, if_false]
  rw [htell]
  simp only
  cases (p.notifier.send c).answer with
  | error e => exact ⟨_, rfl⟩
  | ok answer =>
    rcases answer with _ | _ | _
    · exact ⟨_, rfl⟩
    · exact ⟨_, rfl⟩
    · obtain ⟨marked, hmark⟩ :=
        run_markTold (snapshot (c.during .inquiry) p.store) (c.during .marking) _
      exact ⟨_, hmark⟩

/-- If only the commit of the marks fails, the daemon has been told and the entry stays pending. -/
example :
    let c : Context := { passing := fun
      | .inquiry => []
      | .marking => [⟨.commit, none, "disk full"⟩] }
    let p : Panel :=
      { store := Store.empty.set .outbox [{ id := 1, reason := "rest" }]
        notifier := Notifier.create {} }
    let (result, q) := run notifyAfterCommit c p
    result = .ok (some false) ∧ q.contacts.length = 1 ∧ (pending q.store).length = 1 :=
  ⟨rfl, rfl, rfl⟩

/-- A run of the relay: it stops if the outbox cannot be read, and its own notifier leaves the one
of the panel alone. -/
lemma run_relayOnce (c : Context) (p : Panel) :
    ∃ journal, run relayOnce c p =
      let d := (Notifier.create c.settings).send c
      let told (s : Store) : Panel :=
        { p with store := s, journal, contacts := p.contacts ++ d.contact.toList }
      match readOnce (c.during .inquiry) p.store latestPending with
      | .error e => (.error e, p)
      | .ok none => (.ok 0, p)
      | .ok (some id) =>
        match d.answer with
        | .ok (some true) =>
          match executeOnce (c.during .marking) p.store (markDispatched c.now (.int id)) with
          | .ok (count, s) => (.ok count, told s)
          | .error e => (.error e, told p.store)
        | .ok _ => (.ok 0, told p.store)
        | .error e => (.error e, told p.store) := by
  obtain ⟨told, htell⟩ := run_tell_relay c p
  rw [relayOnce, run_announcement, run_inquire_relay]
  rcases readOnce (c.during .inquiry) p.store latestPending with e | _ | id
  · exact ⟨p.journal, rfl⟩
  · exact ⟨p.journal, rfl⟩
  · simp only
    rw [htell]
    simp only
    cases ((Notifier.create c.settings).send c).answer with
    | error e => exact ⟨_, rfl⟩
    | ok answer =>
      rcases answer with _ | _ | _
      · exact ⟨_, rfl⟩
      · exact ⟨_, rfl⟩
      · obtain ⟨marked, hmark⟩ := run_mark_relay id (c.during .marking)
          { p with journal := told, contacts := p.contacts ++
            ((Notifier.create c.settings).send c).contact.toList }
        simp only
        rw [hmark]
        simp only [Context.during]
        split
        · exact ⟨_, rfl⟩
        · exact ⟨_, rfl⟩

/-! ### What may have changed -/

/-- A store differs from another one at most by the marks of one announcement. -/
def MarksOnly (now : Int) (s s' : Store) : Prop :=
  s' = s ∨ ∃ id : Int, s' = (markDispatched now (.int id)).apply s

lemma marksOnly_settle (c : Context) (s : Store) (latest : Option Int) :
    MarksOnly c.now s (settle c s latest).2 := by
  cases latest with
  | none => exact .inl rfl
  | some id =>
    unfold settle
    simp only
    cases h : executeOnce c s (markDispatched c.now (.int id)) with
    | error e => exact .inl rfl
    | ok done => exact .inr ⟨id, (executeOnce_eq_ok h).2⟩

/-- An announcement only marks entries, whatever comes of it. -/
theorem marksOnly_notifyAfterCommit (c : Context) (p : Panel) :
    MarksOnly c.now p.store (run notifyAfterCommit c p).2.store := by
  cases hsent : p.notifier.sent with
  | true =>
    rw [run_notifyAfterCommit_of_sent hsent]
    exact .inl rfl
  | false =>
    obtain ⟨journal, hrun⟩ := run_notifyAfterCommit_of_fresh (c := c) hsent
    rw [hrun]
    simp only
    split
    · exact marksOnly_settle (c.during .marking) p.store _
    · exact .inl rfl
    · exact .inl rfl

/-- A run of the relay only marks entries, whatever comes of it. -/
theorem marksOnly_relayOnce (c : Context) (p : Panel) :
    MarksOnly c.now p.store (run relayOnce c p).2.store := by
  obtain ⟨journal, hrun⟩ := run_relayOnce c p
  rw [hrun]
  simp only
  split
  · exact .inl rfl
  · exact .inl rfl
  · rename_i id _
    split
    · split
      · rename_i hmark
        exact .inr ⟨id, (executeOnce_eq_ok hmark).2⟩
      · exact .inl rfl
    · exact .inl rfl
    · exact .inl rfl

/-- An announcement fails with what escapes from the notifier, and else it has an answer. -/
lemma map_result_notifyAfterCommit {α : Type} (c : Context) (p : Panel) (a : α) :
    ((run notifyAfterCommit c p).1.map fun _ => a) =
      (p.notifier.send c).answer.map fun _ => a := by
  cases hsent : p.notifier.sent with
  | true =>
    rw [run_notifyAfterCommit_of_sent hsent, Notifier.send_of_sent hsent]
  | false =>
    obtain ⟨journal, hrun⟩ := run_notifyAfterCommit_of_fresh (c := c) hsent
    rw [hrun]
    simp only
    rcases (p.notifier.send c).answer with e | _ | _ | _ <;> rfl

/-- An announcement fails only if nobody can try to connect, or if the version of the panel cannot be
sent. -/
theorem run_notifyAfterCommit_eq_error {c : Context} {p q : Panel} {e : Failure}
    (h : run notifyAfterCommit c p = (.error e, q)) :
    (p.notifier.send c).answer = .error e ∧ e.isShown = false := by
  cases hsent : p.notifier.sent with
  | true =>
    rw [run_notifyAfterCommit_of_sent hsent] at h
    cases h
  | false =>
    obtain ⟨journal, hrun⟩ := run_notifyAfterCommit_of_fresh (c := c) hsent
    rw [hrun] at h
    simp only at h
    split at h
    · cases h
    · cases h
    · rename_i hanswer
      cases h
      refine ⟨hanswer, ?_⟩
      obtain ⟨-, ⟨misuse, -, rfl⟩ | ⟨rfl, -⟩⟩ := Notifier.answer_send_eq_error hanswer <;> rfl

end Outbox

end HostingPanel
