import HostingPanel.Proofs.Interleaving
import HostingPanel.Proofs.PendingWork
import HostingPanel.Schedule

/-!
# Scheduled runs of the relay

The relay runs again and again, and every run may meet other faults and another daemon.  A run that
fails leaves the entries for the next one, so it must not mark some of the entries that it has
announced and forget the others.

`Outbox.markAll` marks all pending entries, and `Outbox.RelaySucceeds` says that nothing stops a
run.  A run does the one or leaves the database alone, and it does it exactly if nothing stops it
(`Outbox.AllOrNothing`): the bound up to which it marks is the largest pending key, and no pending
entry lies above it (`Outbox.apply_markDispatched_of_latest`).  Once nothing is pending the relay is
at rest (`Outbox.relayTicks_of_pending_eq_nil`).
-/

namespace HostingPanel.Outbox

open OperationM

/-! ### Marking everything -/

/-- The database with every pending entry marked. -/
def markAll (now : Int) (s : Store) : Store :=
  s.modify .outbox fun entries => entries.map fun (e : OutboxEntry) =>
    if e.dispatchedAt = none then { e with dispatchedAt := some (Calendar.timestamp now) } else e

lemma rows_markAll (now : Int) (s : Store) :
    (markAll now s).rows .outbox = (s.rows .outbox).map fun (e : OutboxEntry) =>
      if e.dispatchedAt = none then { e with dispatchedAt := some (Calendar.timestamp now) }
      else e :=
  s.rows_set_self .outbox _

/-- After everything has been marked nothing is pending. -/
lemma pending_markAll (now : Int) (s : Store) : pending (markAll now s) = [] := by
  refine List.filter_eq_nil_iff.2 fun e he => ?_
  rw [rows_markAll] at he
  obtain ⟨e', -, rfl⟩ := List.mem_map.1 he
  split
  · simp
  · rename_i hmarked
    simpa using hmarked

/-- Marking everything leaves the database as it is exactly if nothing is pending. -/
lemma markAll_eq_self_iff {now : Int} {s : Store} : markAll now s = s ↔ pending s = [] := by
  constructor
  · intro hsame
    rw [← hsame, pending_markAll]
  · intro hnone
    have hrows : (s.rows .outbox).map (fun (e : OutboxEntry) =>
        if e.dispatchedAt = none then { e with dispatchedAt := some (Calendar.timestamp now) }
        else e) = s.rows .outbox := by
      refine (List.map_congr_left fun (e : OutboxEntry) he => ?_).trans (List.map_id _)
      have hmarked : e.dispatchedAt ≠ none := fun hmark =>
        List.filter_eq_nil_iff.1 hnone e he (by rw [hmark]; rfl)
      exact if_neg hmarked
    rw [markAll, Store.modify, hrows, s.set_rows_self]

/-! ### The largest pending key -/

/-- There is no largest pending key exactly if nothing is pending. -/
lemma answer_latestPending_eq_none_iff {s : Store} :
    latestPending.answer s = none ↔ pending s = [] := by
  have hnone : ∀ keys : List Int, largest? keys = none ↔ keys = [] := by
    intro keys
    cases keys <;> simp [largest?]
  exact (hnone _).trans List.map_eq_nil_iff

/-- An entry is pending and has a key up to the largest pending one exactly if it is pending. -/
lemma isPicked_of_latest {s : Store} {k : Int} (hlatest : latestPending.answer s = some k)
    {e : OutboxEntry} (he : e ∈ s.rows .outbox) :
    (e.dispatchedAt.isNone && (Json.int k).boundsInt e.id) = e.dispatchedAt.isNone := by
  rw [Bool.and_eq_left_iff_imp, Json.boundsInt_int, decide_eq_true_iff]
  intro hnone
  exact (largest?_eq_some_iff.1 hlatest).2 _
    (List.mem_map_of_mem (List.mem_filter.2 ⟨he, hnone⟩))

/-- Marking up to the largest pending key marks everything. -/
lemma apply_markDispatched_of_latest {now : Int} {s : Store} {k : Int}
    (hlatest : latestPending.answer s = some k) :
    (markDispatched now (.int k)).apply s = markAll now s := by
  simp only [markDispatched, Statement.apply, Store.modify, markAll, Statement.updateRows]
  congr 1
  refine List.map_congr_left fun e he => ?_
  rw [isPicked_of_latest hlatest he]
  simp

lemma count_markDispatched_of_latest {now : Int} {s : Store} {k : Int}
    (hlatest : latestPending.answer s = some k) :
    (markDispatched now (.int k)).count s = (pending s).length := by
  simp only [markDispatched, Statement.count, pending, ← List.countP_eq_length_filter]
  exact List.countP_congr fun e he => by rw [isPicked_of_latest hlatest he]

/-! ### A run of the relay -/

/-- Nothing stops a run of the relay: the largest pending key can be read, and if there is one, the
daemon is told with success, and the mark and its commit succeed. -/
def RelaySucceeds (c : Context) (s : Store) : Prop :=
  ∃ latest, readOnce (c.during .inquiry) s latestPending = .ok latest ∧ ∀ k, latest = some k →
    ((Notifier.create c.settings).send c).answer = .ok (some true) ∧
      ∃ done, executeOnce (c.during .marking) s (markDispatched c.now (.int k)) = .ok done

/-- A run that nothing stops marks everything and answers with the number of entries. -/
lemma run_relayOnce_of_succeeds {c : Context} {p : Panel} (h : RelaySucceeds c p.store) :
    (run relayOnce c p).1 = .ok (pending p.store).length ∧
      (run relayOnce c p).2.store = markAll c.now p.store := by
  obtain ⟨latest, hread, hrest⟩ := h
  obtain ⟨journal, hrun⟩ := run_relayOnce c p
  have hanswer : latestPending.answer p.store = latest := (readOnce_eq_ok hread).symm
  rw [hrun]
  cases latest with
  | none =>
    have hpending := answer_latestPending_eq_none_iff.1 hanswer
    simp only [hread, hpending, markAll_eq_self_iff.2 hpending, List.length_nil, and_self]
  | some k =>
    obtain ⟨htold, ⟨n, s⟩, hmark⟩ := hrest k rfl
    obtain ⟨hn, hs⟩ := executeOnce_eq_ok hmark
    simp only [hread, htold, hmark]
    rw [hn, hs, count_markDispatched_of_latest hanswer, apply_markDispatched_of_latest hanswer]
    exact ⟨rfl, rfl⟩

/-- A run that something stops leaves the database alone. -/
lemma store_relayOnce_of_not_succeeds {c : Context} {p : Panel} (h : ¬ RelaySucceeds c p.store) :
    (run relayOnce c p).2.store = p.store := by
  obtain ⟨journal, hrun⟩ := run_relayOnce c p
  rw [hrun]
  simp only
  split
  · rfl
  · rfl
  · rename_i k hread
    split
    · rename_i htold
      split
      · rename_i hmark
        refine absurd ⟨some k, hread, fun k' hk' => ?_⟩ h
        cases hk'
        exact ⟨htold, _, hmark⟩
      · rfl
    · rfl
    · rfl

/-- A run tells the daemon exactly if the largest pending key can be read and there is one. -/
lemma contacts_relayOnce (c : Context) (p : Panel) :
    (run relayOnce c p).2.contacts = p.contacts ++
      match readOnce (c.during .inquiry) p.store latestPending with
      | .ok (some _) => ((Notifier.create c.settings).send c).contact.toList
      | _ => [] := by
  obtain ⟨journal, hrun⟩ := run_relayOnce c p
  rw [hrun]
  rcases readOnce (c.during .inquiry) p.store latestPending with e | _ | k
  · exact (List.append_nil _).symm
  · exact (List.append_nil _).symm
  · simp only
    split
    · split <;> rfl
    · rfl
    · rfl

/-- What a run of the relay may leave: it has marked all pending entries or left the database
alone. -/
structure AllOrNothing (c : Context) (before after : Panel) : Prop where
  /-- The database is as before, up to the marks of all entries that were pending. -/
  store : after.store = before.store ∨ after.store = markAll c.now before.store
  /-- If entries were pending, they are marked exactly if nothing has stopped the run. -/
  marks : pending before.store ≠ [] →
    (after.store = markAll c.now before.store ↔ RelaySucceeds c before.store)
  /-- If the daemon waits to be told, the run has tried to connect exactly if it could read that
  entries were pending; if it does not wait, the run has not. -/
  attempt : ∃ attempt : Option Contact, after.contacts = before.contacts ++ attempt.toList ∧
    (attempt.isSome ↔ c.settings.daemonType.isText listeningType = true ∧
      (∃ latest, readOnce (c.during .inquiry) before.store latestPending = .ok latest) ∧
      pending before.store ≠ [])

/-- A run tries to connect exactly if the daemon waits to be told and the run can read that entries
are pending. -/
lemma attempt_relayOnce (c : Context) (p : Panel) :
    ∃ attempt : Option Contact,
      (run relayOnce c p).2.contacts = p.contacts ++ attempt.toList ∧
      (attempt.isSome ↔ c.settings.daemonType.isText listeningType = true ∧
        (∃ latest, readOnce (c.during .inquiry) p.store latestPending = .ok latest) ∧
        pending p.store ≠ []) := by
  rw [contacts_relayOnce]
  cases hread : readOnce (c.during .inquiry) p.store latestPending with
  | error e => exact ⟨none, rfl, by simp⟩
  | ok latest =>
    have hanswer : latestPending.answer p.store = latest := (readOnce_eq_ok hread).symm
    cases latest with
    | none => exact ⟨none, rfl, by simp [answer_latestPending_eq_none_iff.1 hanswer]⟩
    | some k =>
      have hpending : pending p.store ≠ [] := fun hnone => by
        rw [answer_latestPending_eq_none_iff.2 hnone] at hanswer
        cases hanswer
      refine ⟨_, rfl, ?_⟩
      rw [Notifier.isSome_contact_send rfl]
      exact ⟨fun htype => ⟨htype, ⟨_, rfl⟩, hpending⟩, fun h => h.1⟩

lemma allOrNothing_relayOnce (c : Context) (p : Panel) :
    AllOrNothing c p (run relayOnce c p).2 where
  store := by
    by_cases hsucceeds : RelaySucceeds c p.store
    · exact .inr (run_relayOnce_of_succeeds hsucceeds).2
    · exact .inl (store_relayOnce_of_not_succeeds hsucceeds)
  marks hpending := by
    refine ⟨fun hmarked => ?_, fun hsucceeds => (run_relayOnce_of_succeeds hsucceeds).2⟩
    by_contra hfails
    rw [store_relayOnce_of_not_succeeds hfails] at hmarked
    exact hpending (markAll_eq_self_iff.1 hmarked.symm)
  attempt := attempt_relayOnce c p

/-- If nothing is pending, an all-or-nothing run changes nothing and does not try to connect. -/
lemma AllOrNothing.eq_of_pending_eq_nil {c : Context} {before after : Panel}
    (h : AllOrNothing c before after) (hnone : pending before.store = []) :
    after.store = before.store ∧ after.contacts = before.contacts := by
  obtain ⟨attempt, hattempt, hsome⟩ := h.attempt
  have hquiet : attempt = none := by
    rw [← Option.not_isSome_iff_eq_none, hsome]
    exact fun h => h.2.2 hnone
  refine ⟨?_, by simpa [hquiet] using hattempt⟩
  rcases h.store with hsame | hmarked
  · exact hsame
  · rw [hmarked, markAll_eq_self_iff.2 hnone]

/-- If nothing is pending, whoever can read the outbox counts no entries. -/
lemma run_pendingCount_of_pending_eq_nil {c : Context} {p : Panel} (hnone : pending p.store = [])
    (hread : ∃ latest, readOnce c p.store latestPending = .ok latest) :
    run (fetch pendingCount) c p = (.ok 0, p) := by
  obtain ⟨latest, hread⟩ := hread
  obtain ⟨_, hconnect, hread⟩ := except_bind_eq_ok hread
  obtain ⟨_, hfootprint, -⟩ := except_bind_eq_ok hread
  have hcount : readOnce c p.store pendingCount = .ok (pendingCount.answer p.store) := by
    rw [readOnce, hconnect]
    exact congrArg (· >>= fun _ => .ok (pendingCount.answer p.store)) hfootprint
  have hzero : pendingCount.answer p.store = 0 := congrArg List.length hnone
  rw [hzero] at hcount
  exact congrArg (·, p) hcount

/-! ### One tick after another -/

/-- A scheduled run ends well and leaves what the run of the relay leaves, up to the journal. -/
lemma run_relayTick (c : Context) (p : Panel) :
    ∃ journal, run relayTick c p = (.ok (), { (run relayOnce c p).2 with journal }) := by
  unfold relayTick
  rw [run_bind, run_attempt]
  rcases run relayOnce c p with ⟨e | n, q⟩
  · exact ⟨_, rfl⟩
  · exact ⟨_, rfl⟩

lemma allOrNothing_relayTick (c : Context) (p : Panel) :
    AllOrNothing c p (run relayTick c p).2 := by
  obtain ⟨journal, htick⟩ := run_relayTick c p
  rw [htick]
  exact ⟨(allOrNothing_relayOnce c p).store, (allOrNothing_relayOnce c p).marks,
    (allOrNothing_relayOnce c p).attempt⟩

/-- What scheduled runs of the relay leave, each with its own surroundings. -/
def relayTicks (ticks : List Context) (p : Panel) : Panel :=
  ticks.foldl (fun q c => (run relayTick c q).2) p

/-- The scheduler's runs are ticks with the same surroundings. -/
theorem run_runTicks (n : Nat) (c : Context) (p : Panel) :
    run (Schedule.runTicks n) c p = (.ok (), relayTicks (List.replicate n c) p) := by
  induction n generalizing p with
  | zero => rfl
  | succ n ih =>
    obtain ⟨journal, htick⟩ := run_relayTick c p
    rw [Schedule.runTicks, run_bind, htick]
    simp only
    rw [ih, List.replicate_succ, relayTicks, relayTicks, List.foldl_cons, htick]

/-- Once nothing is pending, ticks neither change the database nor try to connect. -/
lemma relayTicks_of_pending_eq_nil {p : Panel} (hnone : pending p.store = [])
    (ticks : List Context) :
    (relayTicks ticks p).store = p.store ∧ (relayTicks ticks p).contacts = p.contacts := by
  induction ticks generalizing p with
  | nil => exact ⟨rfl, rfl⟩
  | cons c ticks ih =>
    obtain ⟨hstore, hcontacts⟩ := (allOrNothing_relayTick c p).eq_of_pending_eq_nil hnone
    have hstill : pending (run relayTick c p).2.store = [] := by
      rw [hstore, hnone]
    obtain ⟨ihstore, ihcontacts⟩ := ih hstill
    exact ⟨ihstore.trans hstore, ihcontacts.trans hcontacts⟩

/-- Scheduled runs of the relay are all-or-nothing and survive every error.  Take any outbox, any
list of ticks, each with its own faults and its own daemon, and any tick of the list.  Nothing
escapes the tick.  It leaves the database alone or marks all the entries that were pending when it
started and does nothing else; if there were any, it marks them exactly if the reading, the telling
and the marking have all succeeded.  It tries to connect to a daemon that waits to be told exactly
if it has read that entries are pending.  And if the tick succeeds, the relay has answered with the
number of entries that were pending, whoever can read the outbox after the later ticks counts none,
and no later tick has tried to connect. -/
theorem relay_ticks_all_or_nothing (earlier : List Context) (c : Context) (later : List Context)
    (p : Panel) :
    (run relayTick c (relayTicks earlier p)).1 = .ok () ∧
      AllOrNothing c (relayTicks earlier p) (run relayTick c (relayTicks earlier p)).2 ∧
      (RelaySucceeds c (relayTicks earlier p).store →
        (run relayOnce c (relayTicks earlier p)).1 =
          .ok (pending (relayTicks earlier p).store).length ∧
        (∀ c', (∃ latest, readOnce c' (relayTicks (earlier ++ c :: later) p).store latestPending =
            .ok latest) →
          run (fetch pendingCount) c' (relayTicks (earlier ++ c :: later) p) =
            (.ok 0, relayTicks (earlier ++ c :: later) p)) ∧
        (relayTicks (earlier ++ c :: later) p).contacts =
          (run relayTick c (relayTicks earlier p)).2.contacts) := by
  have hlater : relayTicks (earlier ++ c :: later) p =
      relayTicks later (run relayTick c (relayTicks earlier p)).2 := by
    simp only [relayTicks, List.foldl_append, List.foldl_cons]
  rw [hlater]
  generalize relayTicks earlier p = before
  obtain ⟨journal, htick⟩ := run_relayTick c before
  refine ⟨by rw [htick], allOrNothing_relayTick c before, fun hsucceeds => ?_⟩
  obtain ⟨hanswer, hmarked⟩ := run_relayOnce_of_succeeds hsucceeds
  have hnone : pending (run relayTick c before).2.store = [] := by
    rw [htick, hmarked, pending_markAll]
  obtain ⟨hkept, hquiet⟩ := relayTicks_of_pending_eq_nil hnone later
  refine ⟨hanswer, fun c' hread => ?_, hquiet⟩
  exact run_pendingCount_of_pending_eq_nil (by rw [hkept, hnone]) hread

/-- A panel with four entries in its outbox, two of which are pending. -/
def sampleQueue : Panel where
  store := Store.empty.set .outbox
    [{ id := 1, reason := "delete the a.test domain alias", createdAt := "2023-11-13 09:00:00",
       dispatchedAt := some "2023-11-13 09:00:00" },
     { id := 2, reason := "delete the b.test domain alias", createdAt := "2023-11-13 10:00:00" },
     { id := 3, reason := "delete the c.test domain alias", createdAt := "2023-11-13 11:00:00",
       dispatchedAt := some "2023-11-13 11:00:00" },
     { id := 5, reason := "delete the d.test domain alias", createdAt := "2023-11-13 12:00:00" }]
  notifier := Notifier.create {}

/-- Two ticks that fail: the daemon refuses the first one, and the mark of the second one cannot be
committed after the daemon has been told. -/
def sampleFailures : List Context :=
  [{ peer := .refusing "Connection refused" }, { faults := [⟨.commit, none, "disk full"⟩] }]

/-- The two ticks, a third one that nothing stops, and a fourth one. -/
def sampleTicks : List Context :=
  sampleFailures ++ ([{}, {}] : List Context)

/-- After the two ticks both entries are still pending.  The third tick marks them both, and the
fourth one finds nothing to announce. -/
theorem relay_ticks_all_or_nothing_sample :
    pending (relayTicks sampleFailures sampleQueue).store ≠ [] ∧
      RelaySucceeds {} (relayTicks sampleFailures sampleQueue).store ∧
      (run relayTick {} (relayTicks sampleFailures sampleQueue)).2.store =
        markAll 1700000000 (relayTicks sampleFailures sampleQueue).store ∧
      (run relayOnce {} (relayTicks sampleFailures sampleQueue)).1 = .ok 2 ∧
      run (fetch pendingCount) {} (relayTicks sampleTicks sampleQueue) =
        (.ok 0, relayTicks sampleTicks sampleQueue) ∧
      (relayTicks sampleTicks sampleQueue).contacts.length = 3 := by
  have hpending : pending (relayTicks sampleFailures sampleQueue).store ≠ [] :=
    List.cons_ne_nil _ _
  have hsucceeds : RelaySucceeds {} (relayTicks sampleFailures sampleQueue).store := by
    refine ⟨some 5, rfl, fun k hk => ?_⟩
    cases hk
    exact ⟨rfl, _, rfl⟩
  obtain ⟨-, hrun, hdone⟩ := relay_ticks_all_or_nothing sampleFailures {} [{}] sampleQueue
  obtain ⟨hanswer, hcount, hcontacts⟩ := hdone hsucceeds
  exact ⟨hpending, hsucceeds, (hrun.marks hpending).2 hsucceeds, hanswer, hcount _ ⟨none, rfl⟩,
    (congrArg List.length hcontacts).trans rfl⟩

end HostingPanel.Outbox
