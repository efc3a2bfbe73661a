import Mathlib.Data.List.Forall2
import HostingPanel.Proofs.JobStatements
import HostingPanel.Proofs.Scheduling

/-!
# The outbox as a ledger

The outbox records every committed change and forgets none.  `OutboxEntry.Becomes` says what may
become of an entry, and `Outbox.Extends` what may become of the outbox: the entries stay in their
places, and new ones with larger keys follow.  Both relations are transitive, so they hold between
any two moments of a run if they hold of every single operation.

The operations are jobs, new attempts, requests by hand, announcements and runs of the relay
(`Call`).  `Call.Effect` says what one operation does to the database: jobs and new attempts commit
their statements together with one entry or do nothing, and the others only mark entries.
-/

namespace HostingPanel

open OperationM

/-! ### Entries -/

/-- What may become of an entry: all stays but the mark, and the mark is set at most once. -/
structure OutboxEntry.Becomes (e e' : OutboxEntry) : Prop where
  id : e'.id = e.id
  reason : e'.reason = e.reason
  createdAt : e'.createdAt = e.createdAt
  /-- The mark stays, or it was absent and is now the text of some moment. -/
  dispatchedAt : e'.dispatchedAt = e.dispatchedAt ∨
    e.dispatchedAt = none ∧ ∃ now, e'.dispatchedAt = some (Calendar.timestamp now)

namespace OutboxEntry.Becomes

lemma refl (e : OutboxEntry) : e.Becomes e :=
  ⟨rfl, rfl, rfl, .inl rfl⟩

/-- What may become of an entry in two steps may become of it in one. -/
lemma trans {e₁ e₂ e₃ : OutboxEntry} (h₁ : e₁.Becomes e₂) (h₂ : e₂.Becomes e₃) : e₁.Becomes e₃ where
  id := h₂.id.trans h₁.id
  reason := h₂.reason.trans h₁.reason
  createdAt := h₂.createdAt.trans h₁.createdAt
  dispatchedAt := by
    rcases h₂.dispatchedAt with hsame | ⟨hnone, now, hmark⟩
    · rw [hsame]
      exact h₁.dispatchedAt
    · rcases h₁.dispatchedAt with hsame | ⟨-, earlier, hearlier⟩
      · exact .inr ⟨hsame ▸ hnone, now, hmark⟩
      · rw [hnone] at hearlier
        cases hearlier

end OutboxEntry.Becomes

namespace Outbox

/-- Entries in the same places, each of them as it may have become. -/
abbrev Persist (entries entries' : List OutboxEntry) : Prop :=
  List.Forall₂ OutboxEntry.Becomes entries entries'

lemma persist_refl (entries : List OutboxEntry) : Persist entries entries :=
  List.forall₂_same.2 fun e _ => .refl e

/-- What may become of entries in two steps may become of them in one. -/
lemma Persist.trans {l₁ l₂ l₃ : List OutboxEntry} (h₁ : Persist l₁ l₂) (h₂ : Persist l₂ l₃) :
    Persist l₁ l₃ := by
  induction h₁ generalizing l₃ with
  | nil => exact h₂
  | cons hhead _ ih =>
    cases h₂ with
    | cons hhead' htail' => exact .cons (hhead.trans hhead') (ih htail')

/-- The first part and the rest of some entries persist for themselves. -/
lemma Persist.append_left {l₁ l₂ l' : List OutboxEntry} (h : Persist (l₁ ++ l₂) l') :
    ∃ l₁' l₂', l' = l₁' ++ l₂' ∧ Persist l₁ l₁' ∧ Persist l₂ l₂' := by
  refine ⟨l'.take l₁.length, l'.drop l₁.length, (List.take_append_drop _ _).symm, ?_, ?_⟩
  · have htake := List.forall₂_take l₁.length h
    rwa [List.take_left] at htake
  · have hdrop := List.forall₂_drop l₁.length h
    rwa [List.drop_left] at hdrop

lemma Persist.ids {l l' : List OutboxEntry} (h : Persist l l') :
    l'.map (·.id) = l.map (·.id) := by
  induction h with
  | nil => rfl
  | cons hhead _ ih => rw [List.map_cons, List.map_cons, hhead.id, ih]

/-- An entry of a later list comes from the entry at the same place of the earlier one. -/
lemma exists_of_mem_forall₂ {R : OutboxEntry → OutboxEntry → Prop} {l l' : List OutboxEntry}
    (h : List.Forall₂ R l l') {e' : OutboxEntry} (he' : e' ∈ l') : ∃ e ∈ l, R e e' := by
  induction h with
  | nil => simp at he'
  | cons hhead _ ih =>
    rcases List.mem_cons.1 he' with rfl | he'
    · exact ⟨_, by simp, hhead⟩
    · obtain ⟨e, he, hrelated⟩ := ih he'
      exact ⟨e, by simp [he], hrelated⟩

/-- A condition on keys holds of entries that have persisted if it held before. -/
lemma Persist.forall_id {l l' : List OutboxEntry} (h : Persist l l') {P : Int → Prop}
    (hl : ∀ e ∈ l, P e.id) : ∀ e' ∈ l', P e'.id := by
  intro e' he'
  obtain ⟨e, he, hbecomes⟩ := exists_of_mem_forall₂ h he'
  exact hbecomes.id ▸ hl e he

/-! ### The outbox -/

/-- The outbox of a later store: the old entries have persisted, and the new ones follow in the
order of their keys, which are larger than all keys before. -/
structure Extends (s s' : Store) : Prop where
  /-- The entries of the later store are the old ones and then the new ones. -/
  entries : ∃ old new, s'.rows .outbox = old ++ new ∧ Persist (s.rows .outbox) old ∧
    (∀ e ∈ s.rows .outbox, ∀ n ∈ new, e.id < n.id) ∧ (∀ n ∈ new, s.lastOutboxId < n.id) ∧
      new.Pairwise fun n n' => n.id < n'.id
  /-- The largest key that was ever given out does not decrease. -/
  last : s.lastOutboxId ≤ s'.lastOutboxId

namespace Extends

lemma refl (s : Store) : Extends s s where
  entries := ⟨_, [], (List.append_nil _).symm, persist_refl _, by simp, by simp, .nil⟩
  last := Int.le_refl _

lemma trans {s₁ s₂ s₃ : Store} (h₁ : Extends s₁ s₂) (h₂ : Extends s₂ s₃) : Extends s₁ s₃ where
  entries := by
    obtain ⟨old, new, heq, hold, hnew, hlast, hsorted⟩ := h₁.entries
    obtain ⟨old', new', heq', hold', hnew', hlast', hsorted'⟩ := h₂.entries
    rw [heq] at hold' hnew'
    obtain ⟨kept, added, rfl, hkept, hadded⟩ := hold'.append_left
    refine ⟨kept, added ++ new', by rw [heq', List.append_assoc], hold.trans hkept, ?_, ?_, ?_⟩
    · intro e he n hn
      rcases List.mem_append.1 hn with hn | hn
      · exact hadded.forall_id (hnew e he) n hn
      · obtain ⟨e', he', hid⟩ := List.mem_map.1 (hold.ids ▸ List.mem_map_of_mem he)
        exact hid ▸ hnew' e' (List.mem_append_left _ he') n hn
    · intro n hn
      rcases List.mem_append.1 hn with hn | hn
      · exact hadded.forall_id hlast n hn
      · exact Int.lt_of_le_of_lt h₁.last (hlast' n hn)
    · refine List.pairwise_append.2 ⟨?_, hsorted', ?_⟩
      · have hids : (new.map (·.id)).Pairwise (· < ·) := List.pairwise_map.2 hsorted
        exact List.pairwise_map.1 (hadded.ids ▸ hids)
      · exact hadded.forall_id (P := fun k => ∀ n ∈ new', k < n.id) fun n hn =>
          hnew' n (List.mem_append_right _ hn)
  last := Int.le_trans h₁.last h₂.last

end Extends

/-! ### Marks -/

/-- Two stores that differ at most in the marks of outbox entries. -/
structure OnlyDispatches (s s' : Store) : Prop where
  rows : ∀ t, t ≠ .outbox → s'.rows t = s.rows t
  /-- The entries have persisted, and there are no others. -/
  entries : Persist (s.rows .outbox) (s'.rows .outbox)
  missing : s'.missing = s.missing
  last : s'.lastOutboxId = s.lastOutboxId

lemma persist_markDispatched (now : Int) (upTo : Json) (s : Store) :
    Persist (s.rows .outbox) (((markDispatched now upTo).apply s).rows .outbox) := by
  simp only [markDispatched, Statement.apply, Store.modify, Store.rows_set_self,
    Statement.updateRows]
  refine List.forall₂_map_right_iff.2 (List.forall₂_same.2 ?_)
  intro e _
  split
  · rename_i hpicked
    have hnone : e.dispatchedAt = none := by
      simp only [Bool.and_eq_true, Option.isNone_iff_eq_none] at hpicked
      exact hpicked.1
    exact ⟨rfl, rfl, rfl, .inr ⟨hnone, now, rfl⟩⟩
  · exact .refl e

lemma OnlyDispatches.refl (s : Store) : OnlyDispatches s s :=
  ⟨fun _ _ => rfl, persist_refl _, rfl, rfl⟩

lemma MarksOnly.onlyDispatches {now : Int} {s s' : Store} (h : MarksOnly now s s') :
    OnlyDispatches s s' := by
  rcases h with rfl | ⟨id, rfl⟩
  · exact .refl s'
  · refine ⟨fun t ht => ?_, persist_markDispatched now (.int id) s, ?_, ?_⟩
    · exact Statement.rows_apply_of_ne _ s (Ne.symm ht)
    · exact Statement.missing_apply _ s
    · exact Statement.lastOutboxId_apply _ s

/-- A store with other marks extends the outbox by nothing. -/
lemma OnlyDispatches.extends {s s' : Store} (h : OnlyDispatches s s') : Extends s s' where
  entries := ⟨_, [], (List.append_nil _).symm, h.entries, by simp, by simp, .nil⟩
  last := Int.le_of_eq h.last.symm

/-! ### New entries -/

/-- The next key of the outbox is larger than every key that is or was given out. -/
lemma lt_of_nextKey?_eq_some {s : Store} {id : Int} (h : s.nextKey? .outbox = some id) :
    (∀ e ∈ s.rows .outbox, e.id < id) ∧ s.lastOutboxId < id := by
  have hmax : ∀ (keys : List Int) (start : Int),
      start ≤ keys.foldl max start ∧ ∀ k ∈ keys, k ≤ keys.foldl max start := by
    intro keys
    induction keys with
    | nil => simp
    | cons k keys ih =>
      intro start
      obtain ⟨hstart, hkeys⟩ := ih (max start k)
      refine ⟨Int.le_trans (Int.le_max_left _ _) hstart, fun k' hk' => ?_⟩
      rcases List.mem_cons.1 hk' with rfl | hk'
      · exact Int.le_trans (Int.le_max_right _ _) hstart
      · exact hkeys k' hk'
  unfold Store.nextKey? at h
  simp only at h
  split at h
  · cases h
    obtain ⟨hlast, hkeys⟩ := hmax ((s.rows .outbox).map (·.id)) s.lastOutboxId
    refine ⟨fun e he => ?_, ?_⟩
    · exact Int.lt_add_one_of_le (hkeys e.id (List.mem_map_of_mem he))
    · exact Int.lt_add_one_of_le hlast
  · cases h

/-- A committed change: some statements have run, on other tables than the outbox, and the outbox
has got one entry for them, whose reason is the beginning of what was scheduled.  Afterwards entries
may have been marked. -/
def CommitsWithEntry (c : Context) (s s' : Store) (action : String) (block : TransactionM Unit) :
    Prop :=
  ∃ changed old entry, block c s = .ok ((), changed) ∧
    changed.rows .outbox = s.rows .outbox ∧
    (∀ t, t ≠ .outbox → s'.rows t = changed.rows t) ∧
    s'.rows .outbox = old ++ [entry] ∧ Persist (s.rows .outbox) old ∧
    entry.reason.toList = action.toList.take 255 ∧
    (∀ e ∈ s.rows .outbox, e.id < entry.id) ∧
    s.lastOutboxId < entry.id ∧ s'.lastOutboxId = entry.id

/-- A committed change extends the outbox by its entry. -/
lemma CommitsWithEntry.extends {c : Context} {s s' : Store} {action : String}
    {block : TransactionM Unit} (h : CommitsWithEntry c s s' action block) : Extends s s' := by
  obtain ⟨changed, old, entry, -, -, -, hrows, hold, -, hids, hlast, hlast'⟩ := h
  refine ⟨⟨old, [entry], hrows, hold, ?_, ?_, List.pairwise_singleton _ _⟩, ?_⟩
  · intro e he n hn
    rw [List.mem_singleton.1 hn]
    exact hids e he
  · intro n hn
    rw [List.mem_singleton.1 hn]
    exact hlast
  · rw [hlast']
    exact Int.le_of_lt hlast

/-- An announced block that spares the outbox is a committed change; marks may follow. -/
lemma commitsWithEntry_of_announced {c : Context} {s middle s' : Store} {action : String}
    {block : TransactionM Unit} (hspares : block.Spares .outbox)
    (hrun : announced (.text action) block c s = .ok ((), middle))
    (hmarks : OnlyDispatches middle s') : CommitsWithEntry c s s' action block := by
  obtain ⟨changed, id, hblock, hkey, rfl⟩ := announced_eq_ok hrun
  obtain ⟨hrows, hlast⟩ := hspares hblock
  obtain ⟨hids, hid⟩ := lt_of_nextKey?_eq_some hkey
  have hpersist := hmarks.entries
  rw [rows_append] at hpersist
  obtain ⟨old, marked, hold, hkept, hentry⟩ := hpersist.append_left
  cases hentry with
  | cons hbecomes hnil =>
    cases hnil
    refine ⟨changed, old, _, hblock, hrows, ?_, hold, hrows ▸ hkept, ?_, ?_, ?_, ?_⟩
    · intro t ht
      rw [hmarks.rows t ht]
      exact Store.rows_set_of_ne _ _ (Ne.symm ht)
    · rw [hbecomes.reason]
      exact String.toList_ofList
    · rw [hbecomes.id, ← hrows]
      exact hids
    · rw [hbecomes.id, ← hlast]
      exact hid
    · rw [hbecomes.id, hmarks.last]
      rfl

end Outbox

/-! ### Operations -/

/-- The operations that write to the outbox. -/
inductive Call where
  | job (user : User) (task : Job)
  | requeue (type id : Json)
  | runPending
  | notify
  | relay
  | relayTick

namespace Call

/-- The state that an operation leaves, whatever comes of it. -/
def after (c : Context) (p : Panel) : Call → Panel
  | .job user task => (run (task.run user) c p).2
  | .requeue type id => (run (Debugger.requeue type id) c p).2
  | .runPending => (run Debugger.runPending c p).2
  | .notify => (run Outbox.notifyAfterCommit c p).2
  | .relay => (run Outbox.relayOnce c p).2
  | .relayTick => (run Outbox.relayTick c p).2

/-- What an operation schedules and the statements for it. -/
def Schedules (c : Context) (s : Store) (action : String) (block : TransactionM Unit) : Call → Prop
  | .job user task =>
    ∃ plan, task.plan user c s = .ok plan ∧ action = plan.action ∧ block = plan.block
  | .requeue type id =>
    ∃ t, ItemType.named type = .ok t ∧ action = Debugger.requeueAction t id ∧
      block = Debugger.requeueBlock t id
  | _ => False

/-- Whether an operation is a job or a new attempt. -/
def isChange : Call → Bool
  | .job _ _ => true
  | .requeue _ _ => true
  | _ => false

/-- What an operation does to the database.  A job or a new attempt does nothing, or it commits what
it schedules together with one entry; any other operation only marks entries. -/
def Effect (c : Context) (s s' : Store) (call : Call) : Prop :=
  if call.isChange then
    s' = s ∨ ∃ action block, call.Schedules c s action block ∧
      Outbox.CommitsWithEntry c s s' action block
  else Outbox.OnlyDispatches s s'

/-- Whatever an operation does, the outbox is extended. -/
lemma Effect.extends {c : Context} {s s' : Store} {call : Call} (h : call.Effect c s s') :
    Outbox.Extends s s' := by
  unfold Effect at h
  split at h
  · rcases h with rfl | ⟨action, block, -, hcommits⟩
    · exact .refl s'
    · exact hcommits.extends
  · exact h.extends

end Call

/-! ### What the operations do -/

/-- A scheduled change does nothing to the database, or it commits its block and entries are marked
afterwards. -/
lemma store_scheduledChange {α : Type} (action failureMessage : Json) (body : TransactionM α)
    (c : Context) (p : Panel) :
    (run (scheduledChange action failureMessage body) c p).2.store = p.store ∨
      ∃ a middle, announced action body c p.store = .ok (a, middle) ∧
        Outbox.MarksOnly c.now middle
          (run (scheduledChange action failureMessage body) c p).2.store := by
  rw [run_scheduledChange]
  cases hcommit : commitBlock c p.store (announced action body) with
  | error e => exact .inl rfl
  | ok done =>
    obtain ⟨a, middle⟩ := done
    refine .inr ⟨a, middle, commitBlock_eq_ok hcommit, ?_⟩
    exact Outbox.marksOnly_notifyAfterCommit c { p with store := middle }

/-- After its scheduled change a job does nothing to the database. -/
lemma store_carryOut (plan : Plan) (user : User) (c : Context) (p : Panel) :
    (run (plan.carryOut user) c p).2.store =
      (run (scheduledChange (.text plan.action) (.text plan.failureMessage) plan.block)
        c p).2.store := by
  rw [run_carryOut]
  rcases run (scheduledChange (.text plan.action) (.text plan.failureMessage) plan.block) c p with
    ⟨_ | _, q⟩
  · rfl
  · cases user.name <;> rfl

lemma effect_job (user : User) (job : Job) (c : Context) (p : Panel) :
    (Call.job user job).Effect c p.store (run (job.run user) c p).2.store := by
  rw [run_job]
  cases hplan : job.plan user c p.store with
  | error e => exact .inl rfl
  | ok plan =>
    simp only [store_carryOut]
    rcases store_scheduledChange (.text plan.action) (.text plan.failureMessage) plan.block c p
      with hsame | ⟨_, middle, hrun, hmarks⟩
    · exact .inl hsame
    · exact .inr ⟨plan.action, plan.block, ⟨plan, hplan, rfl, rfl⟩,
        Outbox.commitsWithEntry_of_announced (Job.block_spares_outbox hplan) hrun
          hmarks.onlyDispatches⟩

/-- A plan that has been carried out has been committed, in the database as it was then. -/
lemma commitsWithEntry_of_run_carryOut {plan : Plan} {user : User} {c : Context} {p q : Panel}
    {answer : String} (hspares : plan.block.Spares .outbox)
    (h : run (plan.carryOut user) c p = (.ok answer, q)) :
    Outbox.CommitsWithEntry c p.store q.store plan.action plan.block := by
  have hstore : q.store = (run (scheduledChange (.text plan.action) (.text plan.failureMessage)
      plan.block) c p).2.store := by
    rw [← store_carryOut plan user, h]
  rw [run_carryOut, run_scheduledChange] at h
  rw [run_scheduledChange] at hstore
  cases hcommit : commitBlock c p.store (announced (.text plan.action) plan.block) with
  | error e =>
    rw [hcommit] at h
    cases h
  | ok done =>
    obtain ⟨_, middle⟩ := done
    rw [hcommit] at hstore
    refine Outbox.commitsWithEntry_of_announced hspares (commitBlock_eq_ok hcommit) ?_
    rw [hstore]
    exact (Outbox.marksOnly_notifyAfterCommit c { p with store := middle }).onlyDispatches

/-- A job that succeeds has committed what it has planned. -/
lemma commitsWithEntry_of_run_job {user : User} {job : Job} {c : Context} {p q : Panel}
    {answer : String} (h : run (job.run user) c p = (.ok answer, q)) :
    ∃ plan, job.plan user c p.store = .ok plan ∧
      Outbox.CommitsWithEntry c p.store q.store plan.action plan.block := by
  rw [run_job] at h
  cases hplan : job.plan user c p.store with
  | error e =>
    rw [hplan] at h
    cases h
  | ok plan =>
    simp only [hplan] at h
    exact ⟨plan, rfl, commitsWithEntry_of_run_carryOut (Job.block_spares_outbox hplan) h⟩

lemma effect_requeue (type id : Json) (c : Context) (p : Panel) :
    (Call.requeue type id).Effect c p.store (run (Debugger.requeue type id) c p).2.store := by
  rw [run_requeue]
  cases hnamed : ItemType.named type with
  | error e => exact .inl rfl
  | ok t =>
    simp only
    cases hcommit : commitBlock c p.store
        (announced (.text (Debugger.requeueAction t id)) (Debugger.requeueBlock t id)) with
    | error e => exact .inl rfl
    | ok done =>
      obtain ⟨_, middle⟩ := done
      have hspares := Debugger.requeueBlock_spares_outbox (ItemType.mem_all_of_named hnamed) id
      refine .inr ⟨_, _, ⟨t, hnamed, rfl, rfl⟩, ?_⟩
      exact Outbox.commitsWithEntry_of_announced hspares (commitBlock_eq_ok hcommit)
        (.refl middle)

/-- Questions about each of some things are answered one after the other, and leave the state as it
is. -/
lemma run_mapM_fetch {α β : Type} (q : α → Query β) (l : List α) (c : Context) (p : Panel) :
    run (l.mapM fun x => fetch (q x)) c p = (l.mapM fun x => readOnce c p.store (q x), p) := by
  induction l with
  | nil => rfl
  | cons x l ih =>
    have hfetch : run (fetch (q x)) c p = (readOnce c p.store (q x), p) := rfl
    rw [List.mapM_cons, List.mapM_cons, run_bind, hfetch]
    cases readOnce c p.store (q x) with
    | error e => rfl
    | ok b =>
      simp only
      rw [run_bind, ih]
      cases l.mapM fun x => readOnce c p.store (q x) <;> rfl

/-- Counting what waits adds up the answers, and leaves the state as it is. -/
lemma run_countPending (c : Context) (p : Panel) :
    run Debugger.countPending c p =
      ((ItemType.all.mapM fun t => readOnce c p.store (Debugger.pendingItems t)).map fun counts =>
        counts.foldl (· + ·) 0, p) := by
  unfold Debugger.countPending
  rw [run_bind, run_mapM_fetch]
  cases ItemType.all.mapM fun t => readOnce c p.store (Debugger.pendingItems t) <;> rfl

/-- A request by hand is an announcement with another answer, if the count has found something. -/
lemma run_runPending_eq (c : Context) (p : Panel) :
    run Debugger.runPending c p =
      match (run Debugger.countPending c p).1 with
      | .error e => (.error e, p)
      | .ok count =>
        if count = 0 then (.ok (false, "There is no pending request. Operation canceled."), p)
        else
          match run Outbox.notifyAfterCommit c p with
          | (.error e, q) => (.error e, q)
          | (.ok told, q) =>
            (.ok (if told = some true then (true, "Daemon request successful.")
              else (false, "Daemon request failed.")), q) := by
  have hstate : (run Debugger.countPending c p).2 = p :=
    congrArg Prod.snd (run_countPending c p)
  unfold Debugger.runPending
  rw [run_bind]
  rcases hrun : run Debugger.countPending c p with ⟨e | count, q⟩
  · obtain rfl : q = p := by rw [← hstate, hrun]
    rfl
  · obtain rfl : q = p := by rw [← hstate, hrun]
    simp only
    split
    · rfl
    · rw [run_bind]
      rcases run Outbox.notifyAfterCommit c q with ⟨_ | told, q'⟩
      · rfl
      · simp only
        split <;> rfl

/-- A request by hand leaves the state as it is or as an announcement leaves it. -/
lemma run_runPending (c : Context) (p : Panel) :
    (run Debugger.runPending c p).2 = p ∨
      (run Debugger.runPending c p).2 = (run Outbox.notifyAfterCommit c p).2 := by
  rw [run_runPending_eq]
  split
  · exact .inl rfl
  · split
    · exact .inl rfl
    · rcases run Outbox.notifyAfterCommit c p with ⟨_ | told, q⟩ <;> exact .inr rfl

/-- A scheduled run of the relay leaves the database as the run leaves it. -/
lemma store_relayTick (c : Context) (p : Panel) :
    (run Outbox.relayTick c p).2.store = (run Outbox.relayOnce c p).2.store := by
  unfold Outbox.relayTick
  rw [run_bind, run_attempt]
  rcases run Outbox.relayOnce c p with ⟨_ | _, q⟩ <;> rfl

/-- Every operation has the effect that it should have. -/
theorem Call.effect_after (call : Call) (c : Context) (p : Panel) :
    call.Effect c p.store (call.after c p).store := by
  cases call with
  | job user task => exact effect_job user task c p
  | requeue type id => exact effect_requeue type id c p
  | runPending =>
    have hnotify := (Outbox.marksOnly_notifyAfterCommit c p).onlyDispatches
    rcases run_runPending c p with hrun | hrun
    · unfold Call.after
      rw [hrun]
      exact .refl p.store
    · unfold Call.after
      rw [hrun]
      exact hnotify
  | notify => exact (Outbox.marksOnly_notifyAfterCommit c p).onlyDispatches
  | relay => exact (Outbox.marksOnly_relayOnce c p).onlyDispatches
  | relayTick =>
    unfold Call.after
    rw [store_relayTick]
    exact (Outbox.marksOnly_relayOnce c p).onlyDispatches

/-! ### Runs -/

/-- An operation of a run: it has surroundings and a notifier of its own. -/
structure Turn where
  context : Context
  notifier : Notifier
  call : Call

/-- The state after an operation of a run. -/
def Turn.after (p : Panel) (turn : Turn) : Panel :=
  turn.call.after turn.context { p with notifier := turn.notifier }

/-- The state after a run of operations, one after the other. -/
def Turn.run (turns : List Turn) (p : Panel) : Panel :=
  turns.foldl Turn.after p

lemma Turn.extends_run (turns : List Turn) (p : Panel) :
    Outbox.Extends p.store (Turn.run turns p).store := by
  induction turns generalizing p with
  | nil => exact .refl p.store
  | cons turn turns ih =>
    have hfirst : Outbox.Extends p.store (turn.after p).store :=
      (turn.call.effect_after turn.context { p with notifier := turn.notifier }).extends
    exact hfirst.trans (ih (turn.after p))

/-- The outbox is an append-only ledger of committed changes.  Take any run of jobs, new attempts,
requests by hand, announcements and runs of the relay, with any faults and any daemon, and any
operation in it.  The operation has the effect that it should have: a job or a new attempt changes
nothing at all or commits its statements together with exactly one entry, whose reason is the
beginning of what was scheduled, and any other operation only marks entries.  And from each moment
of the run to any later one the entries stay in their places with their keys, reasons and times,
marks are set at most once, and new entries follow with larger keys. -/
theorem outbox_appends_only (before later : List Turn) (turn : Turn) (p : Panel) :
    turn.call.Effect turn.context (Turn.run before p).store
        (turn.after (Turn.run before p)).store ∧
      Outbox.Extends p.store (Turn.run before p).store ∧
      Outbox.Extends (Turn.run before p).store (turn.after (Turn.run before p)).store ∧
      Outbox.Extends (turn.after (Turn.run before p)).store
        (Turn.run (before ++ turn :: later) p).store := by
  have heffect := turn.call.effect_after turn.context
    { Turn.run before p with notifier := turn.notifier }
  have hlater : Turn.run (before ++ turn :: later) p =
      Turn.run later (turn.after (Turn.run before p)) := by
    simp only [Turn.run, List.foldl_append, List.foldl_cons]
  refine ⟨heffect, Turn.extends_run before p, heffect.extends, ?_⟩
  rw [hlater]
  exact Turn.extends_run later _

end HostingPanel
