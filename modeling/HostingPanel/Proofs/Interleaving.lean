import HostingPanel.Proofs.Ledger
import HostingPanel.Proofs.Workers

/-!
# No entry is lost to a concurrent announcement

Marking is a range update with a bound that was read long before, while other workers commit, mark
and talk to the daemon.  An entry is lost if it is marked although no exchange that began after its
commit has succeeded.  The invariant `System.Inv` relates the stage of every worker to the moments
of the run: the bound that a worker carries is the key of an entry, and the entries up to it were
there when its exchange began.  Keys follow the commits, so an entry that is committed later lies
above the bound of every worker.
-/

namespace HostingPanel

open OperationM

/-- An entry was in the outbox of an earlier store. -/
def OutboxEntry.WasIn (e : OutboxEntry) (s : Store) : Prop :=
  ∃ e' ∈ s.rows .outbox, e'.Becomes e

namespace System

/-! ### Exchanges of a run -/

/-- A worker has begun its last exchange with the given database, and has done nothing since. -/
def Begun (moments : List Moment) (i : Nat) (s : Store) : Prop :=
  ∃ earlier later, moments = earlier ++ ⟨i, .began, s⟩ :: later ∧ ∀ m ∈ later, m.worker ≠ i

/-- A worker has succeeded with the exchange that it began with the given database. -/
def Succeeded (moments : List Moment) (i : Nat) (s : Store) : Prop :=
  ∃ earlier s' later, moments = earlier ++ ⟨i, .ended true, s'⟩ :: later ∧ Begun earlier i s

/-- A worker has succeeded with the exchange that it began with the given database, and has done
nothing since. -/
def JustSucceeded (moments : List Moment) (i : Nat) (s : Store) : Prop :=
  ∃ earlier s' later, moments = earlier ++ ⟨i, .ended true, s'⟩ :: later ∧ Begun earlier i s ∧
    ∀ m ∈ later, m.worker ≠ i

/-- An entry was in the outbox when some exchange began that has succeeded. -/
def Announced (moments : List Moment) (e : OutboxEntry) : Prop :=
  ∃ i s, Succeeded moments i s ∧ e.WasIn s

section Moments

variable {moments : List Moment} {i : Nat} {s : Store} {m : Moment}

lemma begun_snoc (moments : List Moment) (i : Nat) (s : Store) :
    Begun (moments ++ [⟨i, .began, s⟩]) i s :=
  ⟨moments, [], rfl, by simp⟩

lemma Begun.snoc (h : Begun moments i s) (hm : m.worker ≠ i) : Begun (moments ++ [m]) i s := by
  obtain ⟨earlier, later, rfl, hlater⟩ := h
  refine ⟨earlier, later ++ [m], by simp, fun m' hm' => ?_⟩
  rcases List.mem_append.1 hm' with hm' | hm'
  · exact hlater m' hm'
  · rw [List.mem_singleton.1 hm']
    exact hm

/-- An exchange that has begun and now ends with success. -/
lemma Begun.justSucceeded (h : Begun moments i s) (s' : Store) :
    JustSucceeded (moments ++ [⟨i, .ended true, s'⟩]) i s :=
  ⟨moments, s', [], rfl, h, by simp⟩

/-- Others do not disturb a worker who has succeeded. -/
lemma JustSucceeded.snoc (h : JustSucceeded moments i s) (hm : m.worker ≠ i) :
    JustSucceeded (moments ++ [m]) i s := by
  obtain ⟨earlier, s', later, rfl, hbegun, hlater⟩ := h
  refine ⟨earlier, s', later ++ [m], by simp, hbegun, fun m' hm' => ?_⟩
  rcases List.mem_append.1 hm' with hm' | hm'
  · exact hlater m' hm'
  · rw [List.mem_singleton.1 hm']
    exact hm

lemma JustSucceeded.succeeded (h : JustSucceeded moments i s) : Succeeded moments i s := by
  obtain ⟨earlier, s', later, heq, hbegun, -⟩ := h
  exact ⟨earlier, s', later, heq, hbegun⟩

lemma Succeeded.snoc (h : Succeeded moments i s) (m : Moment) : Succeeded (moments ++ [m]) i s := by
  obtain ⟨earlier, s', later, rfl, hbegun⟩ := h
  exact ⟨earlier, s', later ++ [m], by simp, hbegun⟩

lemma Announced.snoc {e : OutboxEntry} (h : Announced moments e) (m : Moment) :
    Announced (moments ++ [m]) e := by
  obtain ⟨i, s, hsucceeded, hwas⟩ := h
  exact ⟨i, s, hsucceeded.snoc m, hwas⟩

end Moments

/-! ### Bounds -/

/-- A bound that a worker carries: it is the key of an entry, and the entries up to it were in the
outbox of an earlier store. -/
structure Bounded (now s : Store) (k : Int) : Prop where
  /-- There is an entry with the key. -/
  key : ∃ e ∈ now.rows .outbox, e.id = k
  /-- The entries up to the key are old. -/
  old : ∀ e ∈ now.rows .outbox, e.id ≤ k → e.WasIn s

/-- The key of an entry is the key of an entry for ever. -/
lemma exists_key_of_extends {s s' : Store} (h : Outbox.Extends s s') {k : Int}
    (hkey : ∃ e ∈ s.rows .outbox, e.id = k) : ∃ e ∈ s'.rows .outbox, e.id = k := by
  obtain ⟨old, new, heq, hold, -⟩ := h.entries
  obtain ⟨e, he, rfl⟩ := hkey
  have hid : e.id ∈ old.map (·.id) := hold.ids ▸ List.mem_map_of_mem he
  obtain ⟨e', he', hid'⟩ := List.mem_map.1 hid
  exact ⟨e', by rw [heq]; exact List.mem_append_left _ he', hid'⟩

/-- A bound stays a bound: what is committed later lies above it. -/
lemma Bounded.extends {now now' s : Store} {k : Int} (h : Bounded now s k)
    (hextends : Outbox.Extends now now') : Bounded now' s k where
  key := exists_key_of_extends hextends h.key
  old := by
    obtain ⟨old, new, heq, hold, hnew, -⟩ := hextends.entries
    intro e' he' hle
    rw [heq] at he'
    rcases List.mem_append.1 he' with he' | he'
    · obtain ⟨e, he, hbecomes⟩ := Outbox.exists_of_mem_forall₂ hold he'
      obtain ⟨e₀, he₀, hbecomes₀⟩ := h.old e he (hbecomes.id ▸ hle)
      exact ⟨e₀, he₀, hbecomes₀.trans hbecomes⟩
    · obtain ⟨e, he, hid⟩ := h.key
      have habove := hnew e he e' he'
      omega

/-- The key of an entry bounds the entries of the store itself. -/
lemma bounded_self {s : Store} {k : Int} (hkey : ∃ e ∈ s.rows .outbox, e.id = k) :
    Bounded s s k where
  key := hkey
  old e he _ := ⟨e, he, .refl e⟩

end System

/-! ### Marks of a snapshot -/

lemma Json.boundsInt_int (k n : Int) : (Json.int k).boundsInt n = decide (n ≤ k) := rfl

/-- Settling leaves an entry as it is, or marks it if it lies within the snapshot. -/
lemma Outbox.forall₂_settle (c : Context) (s : Store) (latest : Option Int) :
    List.Forall₂
      (fun e e' : OutboxEntry =>
        e' = e ∨ e.Becomes e' ∧ ∃ k, latest = some k ∧ e.id ≤ k)
      (s.rows .outbox) ((Outbox.settle c s latest).2.rows .outbox) := by
  cases latest with
  | none => exact List.forall₂_same.2 fun e _ => .inl rfl
  | some k =>
    unfold Outbox.settle
    simp only
    cases h : executeOnce c s (Outbox.markDispatched c.now (.int k)) with
    | error e => exact List.forall₂_same.2 fun e _ => .inl rfl
    | ok done =>
      rw [(executeOnce_eq_ok h).2]
      simp only [Outbox.markDispatched, Statement.apply, Store.modify, Store.rows_set_self,
        Statement.updateRows, Json.boundsInt_int]
      refine List.forall₂_map_right_iff.2 (List.forall₂_same.2 fun e _ => ?_)
      split
      · rename_i hpicked
        simp only [Bool.and_eq_true, Option.isNone_iff_eq_none, decide_eq_true_eq] at hpicked
        obtain ⟨hnone, hle⟩ := hpicked
        exact .inr ⟨⟨rfl, rfl, rfl, .inr ⟨hnone, c.now, rfl⟩⟩, k, rfl, hle⟩
      · exact .inl rfl

/-- The largest of some keys is one of them and bounds them all. -/
lemma Outbox.largest?_eq_some_iff {keys : List Int} {k : Int} :
    largest? keys = some k ↔ k ∈ keys ∧ ∀ key ∈ keys, key ≤ k := by
  have hmax : largest? keys = keys.max? := by
    cases keys <;> rfl
  rw [hmax, List.max?_eq_some_iff]

lemma Outbox.exists_of_readOnce {c : Context} {s : Store} {k : Int}
    (h : readOnce c s Outbox.latestPending = .ok (some k)) : ∃ e ∈ s.rows .outbox, e.id = k := by
  have hanswer : largest? ((pending s).map (·.id)) = some k := (readOnce_eq_ok h).symm
  obtain ⟨e, he, hid⟩ := List.mem_map.1 (largest?_eq_some_iff.1 hanswer).1
  exact ⟨e, (List.mem_filter.1 he).1, hid⟩

lemma Outbox.exists_of_snapshot {c : Context} {s : Store} {k : Int}
    (h : Outbox.snapshot c s = some k) : ∃ e ∈ s.rows .outbox, e.id = k := by
  unfold Outbox.snapshot at h
  split at h
  · rename_i hread
    rw [h] at hread
    exact exists_of_readOnce hread
  · cases h

/-! ### The steps of an announcement -/

namespace Errand

variable {errand : Errand} {c : Context} {p q : Panel}

/-- The key up to which an announcement marks entries, if it marks any. -/
def bound : (errand : Errand) → errand.Key → Option Int
  | .change, latest => latest
  | .relay, id => some id

lemma store_inquire (errand : Errand) (c : Context) (p : Panel) :
    (run errand.steps.inquire c p).2.store = p.store := by
  cases errand with
  | change =>
    obtain ⟨journal, hrun⟩ := Outbox.run_inquire_afterCommit c p
    exact congrArg (·.2.store) hrun
  | relay => exact congrArg (·.2.store) (Outbox.run_inquire_relay c p)

lemma exists_of_inquire {latest : errand.Key}
    (h : run errand.steps.inquire c p = (.ok (.inr latest), q)) {k : Int}
    (hk : errand.bound latest = some k) : ∃ e ∈ p.store.rows .outbox, e.id = k := by
  cases errand with
  | change =>
    obtain ⟨journal, hrun⟩ := Outbox.run_inquire_afterCommit c p
    have hread := hrun.symm.trans h
    split at hread
    · cases hread
    · cases hread
      exact Outbox.exists_of_snapshot hk
  | relay =>
    have hread := (Outbox.run_inquire_relay c p).symm.trans h
    cases hk
    split at hread
    · cases hread
    · cases hread
    · rename_i hfound
      cases hread
      exact Outbox.exists_of_readOnce hfound

lemma store_tell (errand : Errand) (c : Context) (p : Panel) :
    (run errand.steps.tell c p).2.store = p.store := by
  cases errand with
  | change =>
    obtain ⟨journal, hrun⟩ := Outbox.run_tell_afterCommit c p
    refine (congrArg (·.2.store) hrun).trans ?_
    simp only
    split <;> rfl
  | relay =>
    obtain ⟨journal, hrun⟩ := Outbox.run_tell_relay c p
    refine (congrArg (·.2.store) hrun).trans ?_
    simp only
    split <;> rfl

lemma store_mark (errand : Errand) (latest : errand.Key) (c : Context) (p : Panel) :
    (run (errand.steps.mark latest) c p).2.store =
      (Outbox.settle c p.store (errand.bound latest)).2 := by
  cases errand with
  | change =>
    obtain ⟨journal, hrun⟩ := Outbox.run_markTold latest c p
    exact congrArg (·.2.store) hrun
  | relay =>
    obtain ⟨journal, hrun⟩ := Outbox.run_mark_relay latest c p
    refine (congrArg (·.2.store) hrun).trans ?_
    simp only [bound, Outbox.settle]
    split <;> rfl

end Errand

namespace System

/-! ### The invariant -/

/-- What holds of a worker at a stage.  The bound that it carries is the key of an entry; once its
exchange has begun, the entries up to the bound are those that were there at that time. -/
def StageInv (moments : List Moment) (now : Store) (i : Nat) : Stage → Prop
  | .idle => True
  | .waking _ _ => True
  | .informed errand latest _ =>
    ∀ k, errand.bound latest = some k → ∃ e ∈ now.rows .outbox, e.id = k
  | .talking errand latest _ =>
    ∃ s, Begun moments i s ∧ ∀ k, errand.bound latest = some k → Bounded now s k
  | .told errand latest _ =>
    ∃ s, JustSucceeded moments i s ∧ ∀ k, errand.bound latest = some k → Bounded now s k

/-- The invariant of all runs: the workers carry bounds as they should, and a marked entry was
marked from the beginning or has been announced. -/
structure Inv (s₀ : Store) (moments : List Moment) (σ : System) : Prop where
  /-- Every worker carries a bound as it should. -/
  stages : ∀ i, StageInv moments σ.store i (σ.stage i)
  /-- Marked entries were marked at the start or have been announced. -/
  announced : ∀ e ∈ σ.store.rows .outbox, e.dispatchedAt ≠ none →
    e ∈ s₀.rows .outbox ∨ Announced moments e

lemma inv_start (s₀ : Store) : Inv s₀ [] (start s₀) where
  stages _ := trivial
  announced _ he _ := .inl he

/-- A step of another worker does not disturb a worker. -/
lemma StageInv.snoc {moments : List Moment} {now now' : Store} {i : Nat} {stage : Stage}
    {m : Moment} (h : StageInv moments now i stage) (hm : m.worker ≠ i)
    (hextends : Outbox.Extends now now') :
    StageInv (moments ++ [m]) now' i stage := by
  cases stage with
  | idle => trivial
  | waking errand notifier => trivial
  | informed errand latest notifier => exact fun k hk => exists_key_of_extends hextends (h k hk)
  | talking errand latest notifier =>
    obtain ⟨s, hbegun, hbound⟩ := h
    exact ⟨s, hbegun.snoc hm, fun k hk => (hbound k hk).extends hextends⟩
  | told errand latest notifier =>
    obtain ⟨s, hsucceeded, hbound⟩ := h
    exact ⟨s, hsucceeded.snoc hm, fun k hk => (hbound k hk).extends hextends⟩

lemma extends_settle (c : Context) (s : Store) (latest : Option Int) :
    Outbox.Extends s (Outbox.settle c s latest).2 :=
  (Outbox.marksOnly_settle c s latest).onlyDispatches.extends

/-- What a step does to the database: a commit appends its entry to what the block has left, the
marks of a worker settle its bound, and the other steps leave the database alone. -/
lemma Step.store_cases {σ σ' : System} {i : Nat} {deed : Deed} (h : Step σ i deed σ') :
    σ'.store = σ.store ∨
    (deed = .committed ∧ ∃ (c : Context) (action : String) (block : TransactionM Unit),
      block.Spares .outbox ∧ announced (.text action) block c σ.store = .ok ((), σ'.store)) ∨
    (deed = .marked ∧ ∃ c errand latest notifier, σ.stage i = .told errand latest notifier ∧
      σ'.store = (Outbox.settle c σ.store (errand.bound latest)).2) := by
  cases h with
  | @commit c action block p q hstage hstore hspares hrun =>
    refine .inr (.inl ⟨rfl, c, action, block, hspares, ?_⟩)
    rw [run_transaction] at hrun
    rcases hblock : commitBlock c p.store (announced (.text action) block) with e | ⟨⟨⟩, s⟩
    · rw [hblock] at hrun
      cases hrun
    · rw [hblock] at hrun
      cases hrun
      rw [← hstore]
      exact commitBlock_eq_ok hblock
  | wake errand notifier hstage => exact .inl rfl
  | @read c errand latest p q hstage hstore hrun =>
    have hsame := errand.store_inquire c p
    rw [hrun] at hsame
    exact .inl (hsame.trans hstore)
  | @pass c errand p hstage hstore hends => exact .inl ((errand.store_inquire c p).trans hstore)
  | begin hstage => exact .inl rfl
  | @succeed c errand latest p q hstage hstore hrun =>
    have hsame := errand.store_tell c p
    rw [hrun] at hsame
    exact .inl (hsame.trans hstore)
  | @fail c errand latest p hstage hstore hends =>
    exact .inl ((errand.store_tell c p).trans hstore)
  | @mark c errand latest p hstage hstore =>
    refine .inr (.inr ⟨rfl, c, errand, latest, p.notifier, hstage, ?_⟩)
    rw [store_next, errand.store_mark, hstore]

lemma Step.extends {σ σ' : System} {i : Nat} {deed : Deed} (h : Step σ i deed σ') :
    Outbox.Extends σ.store σ'.store := by
  obtain hsame | ⟨-, c, action, block, hspares, hblock⟩ | ⟨-, c, errand, latest, -, -, hsettled⟩ :=
    h.store_cases
  · rw [hsame]
    exact .refl _
  · exact (Outbox.commitsWithEntry_of_announced hspares hblock (.refl _)).extends
  · rw [hsettled]
    exact extends_settle c σ.store _

/-- After its own step a worker carries a bound as it should. -/
lemma Step.stageInv {moments : List Moment} {σ σ' : System} {i : Nat} {deed : Deed}
    (h : Step σ i deed σ') (hinv : StageInv moments σ.store i (σ.stage i)) :
    StageInv (moments ++ [⟨i, deed, σ.store⟩]) σ'.store i (σ'.stage i) := by
  have hextends := h.extends
  cases h with
  | @read c errand latest p q hstage hstore hrun =>
    rw [stage_next_self]
    intro k hk
    refine exists_key_of_extends hextends ?_
    rw [← hstore]
    exact errand.exists_of_inquire hrun hk
  | begin hstage =>
    rw [hstage] at hinv
    rw [stage_next_self]
    exact ⟨σ.store, begun_snoc moments i σ.store, fun k hk => bounded_self (hinv k hk)⟩
  | succeed c hstage hstore hrun =>
    rw [hstage] at hinv
    obtain ⟨s, hbegun, hbound⟩ := hinv
    rw [stage_next_self]
    exact ⟨s, hbegun.justSucceeded σ.store, fun k hk => (hbound k hk).extends hextends⟩
  | _ =>
    rw [stage_next_self]
    trivial

/-- A step that marks entries marks only such as were there when the exchange of the worker
began. -/
lemma Step.marks_old {moments : List Moment} {σ σ' : System} {i : Nat} (h : Step σ i .marked σ')
    (hinv : StageInv moments σ.store i (σ.stage i)) :
    ∃ s, JustSucceeded moments i s ∧
      List.Forall₂ (fun e e' : OutboxEntry => e' = e ∨ e.Becomes e' ∧ e.WasIn s)
        (σ.store.rows .outbox) (σ'.store.rows .outbox) := by
  obtain hsame | ⟨hother, -⟩ | ⟨-, c, errand, latest, notifier, hstage, hsettled⟩ := h.store_cases
  · cases h with
    | mark c hstage hstore =>
      rw [hstage] at hinv
      obtain ⟨s, hsucceeded, -⟩ := hinv
      refine ⟨s, hsucceeded, ?_⟩
      rw [hsame]
      exact List.forall₂_same.2 fun e _ => .inl rfl
  · cases hother
  · rw [hstage] at hinv
    obtain ⟨s, hsucceeded, hbound⟩ := hinv
    refine ⟨s, hsucceeded, ?_⟩
    rw [hsettled]
    have hmarks := (List.forall₂_and_left (p := (· ∈ σ.store.rows .outbox)) _ _).2
      ⟨fun _ he => he, Outbox.forall₂_settle c σ.store (errand.bound latest)⟩
    refine hmarks.imp fun e e' hmark => ?_
    obtain ⟨he, rfl | ⟨hbecomes, k, hk, hle⟩⟩ := hmark
    · exact .inl rfl
    · exact .inr ⟨hbecomes, (hbound k hk).old e he hle⟩

/-- A marked entry after a step was marked before it, or the step marked it and its exchange had
begun when the entry was there. -/
lemma Step.announced {s₀ : Store} {moments : List Moment} {σ σ' : System} {i : Nat} {deed : Deed}
    (h : Step σ i deed σ') (hinv : Inv s₀ moments σ) :
    ∀ e ∈ σ'.store.rows .outbox, e.dispatchedAt ≠ none →
      e ∈ s₀.rows .outbox ∨ Announced (moments ++ [⟨i, deed, σ.store⟩]) e := by
  intro e he hmarked
  have hbefore : e ∈ σ.store.rows .outbox →
      e ∈ s₀.rows .outbox ∨ Announced (moments ++ [⟨i, deed, σ.store⟩]) e := fun he =>
    (hinv.announced e he hmarked).imp_right fun hannounced => hannounced.snoc _
  obtain hsame | ⟨rfl, c, action, block, hspares, hcommit⟩ | ⟨rfl, -⟩ := h.store_cases
  · rw [hsame] at he
    exact hbefore he
  · obtain ⟨changed, id, hblock, -, hstore⟩ := announced_eq_ok hcommit
    rw [hstore, Outbox.rows_append, (hspares hblock).1] at he
    rcases List.mem_append.1 he with he | he
    · exact hbefore he
    · rw [List.mem_singleton.1 he] at hmarked
      exact absurd rfl hmarked
  · obtain ⟨s, hsucceeded, hmarks⟩ := h.marks_old (hinv.stages i)
    obtain ⟨e', he', rfl | ⟨hbecomes, e₀, he₀, hbecomes₀⟩⟩ := Outbox.exists_of_mem_forall₂ hmarks he
    · exact hbefore he'
    · exact .inr ⟨i, s, hsucceeded.succeeded.snoc _, e₀, he₀, hbecomes₀.trans hbecomes⟩

lemma Run.inv {s₀ : Store} {moments : List Moment} {σ : System} (h : Run (start s₀) moments σ) :
    Inv s₀ moments σ := by
  induction h with
  | nil => exact inv_start s₀
  | @snoc moments σ σ' i deed _ hstep ih =>
    refine ⟨fun j => ?_, hstep.announced ih⟩
    by_cases hj : j = i
    · subst hj
      exact hstep.stageInv (ih.stages j)
    · rw [hstep.stage_of_ne hj]
      exact (ih.stages j).snoc (Ne.symm hj) hstep.extends

/-! ### The result -/

/-- No entry is lost to a concurrent announcement.  Take any number of workers that start on any
database and take their steps in any order.  Then an entry that is marked was marked at the start,
or it was in the outbox when an exchange began that has succeeded.  And when a worker marks entries,
all entries stay as they are that were not in the outbox when this worker began the exchange with
which it has just succeeded. -/
theorem marked_entries_announced {s₀ : Store} {moments : List Moment} {σ : System}
    (hrun : Run (start s₀) moments σ) :
    (∀ e ∈ σ.store.rows .outbox, e.dispatchedAt ≠ none →
      e ∈ s₀.rows .outbox ∨ ∃ i s, Succeeded moments i s ∧ e.WasIn s) ∧
    (∀ i σ', Step σ i .marked σ' → ∃ s, JustSucceeded moments i s ∧
      List.Forall₂ (fun e e' : OutboxEntry => e' = e ∨ e.Becomes e' ∧ e.WasIn s)
        (σ.store.rows .outbox) (σ'.store.rows .outbox)) :=
  ⟨hrun.inv.announced, fun i _ hstep => hstep.marks_old (hrun.inv.stages i)⟩

/-- A database with one pending entry. -/
def samplePending : Store :=
  { Store.empty.set .outbox [{ id := 1, reason := "first" }] with lastOutboxId := 1 }

/-- The database with a second entry. -/
def sampleSecond : Store :=
  Outbox.append samplePending 2 1700000000 "second"

/-- While one worker talks to the daemon another one commits a second change: the exchange succeeds,
the first entry is marked, and the second one stays pending. -/
theorem marked_entries_announced_sample :
    ∃ moments σ, Run (start samplePending) moments σ ∧
      (σ.store.rows .outbox).map (fun (e : OutboxEntry) => (e.id, e.dispatchedAt)) =
        [(1, some "2023-11-14 22:13:20"), (2, none)] ∧
      ∀ e ∈ σ.store.rows .outbox, e.dispatchedAt ≠ none →
        e ∈ samplePending.rows .outbox ∨ ∃ i s, Succeeded moments i s ∧ e.WasIn s := by
  have hwoken := Run.nil.snoc
    (Step.wake (σ := start samplePending) (i := 0) .change (Notifier.create {}) rfl)
  have hread := hwoken.snoc
    (Step.read {} (p := ⟨samplePending, Notifier.create {}, [], []⟩) (stage_next_self _ 0 _ _)
      rfl rfl)
  have hbegan := hread.snoc (Step.begin (stage_next_self _ 0 _ _))
  have hspares : (pure () : TransactionM Unit).Spares .outbox :=
    (TransactionM.Only.pure (P := (·.table ≠ .outbox)) ()).spares
  have hcommitted := hbegan.snoc
    (Step.commit (i := 1) {} "second" (pure ()) (p := ⟨samplePending, Notifier.create {}, [], []⟩)
      rfl rfl hspares rfl)
  have hended := hcommitted.snoc
    (Step.succeed {} (i := 0) (p := ⟨sampleSecond, Notifier.create {}, [], []⟩) rfl rfl rfl)
  have hmarked := hended.snoc (Step.mark {} (stage_next_self _ 0 _ _) rfl)
  exact ⟨_, _, hmarked, rfl, (marked_entries_announced hmarked).1⟩

end System

end HostingPanel
