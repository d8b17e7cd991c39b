/-
This file shows that it does not count in which order the workers of a batch move. What the queue
and the workers still have to check, and what the workers have kept, are together always the
documents of the batch with what their checks come to, each with its place and each once. So when
all workers have stopped, sorting what they have kept by place gives the reports in the order of the
documents, whether or not documents or their labels are alike.

Every move brings the batch nearer to its end, and as long as it has not come to an end some worker
can move. So however the workers take turns the batch ends, and if every document can be checked it
ends with the reports on the documents one by one.
-/

import LlmTxt.Batch.Pool
import LlmTxt.Proofs.Steps
import Mathlib.Algebra.BigOperators.Group.List.Basic
import Mathlib.Algebra.Order.Group.Multiset
import Mathlib.Tactic.Abel

namespace LlmTxt

theorem BatchItem.validate_eq_ok_iff {item : BatchItem} {settings : Settings} {report : Report} :
    item.validate settings = .ok report ↔
      LlmTxt.validate item.text settings (some item.source) = .ok report := by
  unfold BatchItem.validate
  cases LlmTxt.validate item.text settings (some item.source) <;> simp [Except.mapError]

/-- Checking a batch is checking its documents one by one. -/
theorem validateBatch_eq_ok_iff {items : List BatchItem} {settings : Settings} {workers : Int}
    (positive : 1 ≤ workers) {reports : List Report} :
    validateBatch items settings workers = .ok reports ↔
      List.Forall₂ (fun item report => item.validate settings = .ok report) items reports := by
  unfold validateBatch
  rw [if_neg (by omega), mapM_eq_ok_iff]

/-- What the check of a document comes to, with the place of the document. -/
def PlacedItem.result (settings : Settings) (placed : PlacedItem) :
    Nat × Except BatchFailure Report :=
  (placed.place, placed.item.validate settings)

namespace Worker

/-- The reports that a worker has kept, as what the checks of their documents have come to. -/
def results (worker : Worker) : List (Nat × Except BatchFailure Report) :=
  worker.kept.map fun entry => (entry.1, .ok entry.2)

/-- What a worker accounts for: the document that it is checking, and those it has reports on. -/
def account (settings : Settings) (worker : Worker) :
    Multiset (Nat × Except BatchFailure Report) :=
  match worker.task with
  | .checking placed => placed.result settings ::ₘ worker.results
  | _ => worker.results

/-- How many moves are left to a worker whose queue is empty. -/
def remaining (worker : Worker) : Nat :=
  match worker.task with
  | .looking => 1
  | .checking _ => 2
  | .stopped => 0

end Worker

namespace WorkerPool

variable {settings : Settings} {items : List BatchItem} {count : Nat} {pool next : WorkerPool}

/-- What a pool accounts for: the documents in the queue, and those that its workers account for. -/
def account (settings : Settings) (pool : WorkerPool) :
    Multiset (Nat × Except BatchFailure Report) :=
  (pool.queue.map (PlacedItem.result settings) : Multiset (Nat × Except BatchFailure Report)) +
    (pool.workers.map (Worker.account settings)).sum

/-- How many moves are left to a pool: a document in the queue is taken and finished. -/
def remaining (pool : WorkerPool) : Nat :=
  2 * pool.queue.length + (pool.workers.map Worker.remaining).sum

/-! ### What a move keeps -/

/-- What holds of a pool whatever its workers have done so far. -/
structure IsSound (settings : Settings) (items : List BatchItem) (workers : Nat)
    (pool : WorkerPool) : Prop where
  /-- No document is lost, and none is there twice. -/
  account_eq : pool.failure = none →
    pool.account settings = ((placed items).map (PlacedItem.result settings) : List _)
  /-- A worker stops only where nothing is left in the queue. -/
  queue_eq_nil : pool.failure = none → ∀ worker ∈ pool.workers, worker.task = .stopped →
    pool.queue = []
  /-- What breaks the batch off is the failure of one of its documents. -/
  failure_eq : ∀ failure, pool.failure = some failure →
    ∃ item ∈ items, item.validate settings = .error failure
  length_eq : pool.workers.length = min workers items.length

theorem item_mem_of_mem_placed {entry : PlacedItem} (member : entry ∈ placed items) :
    entry.item ∈ items := by
  obtain ⟨pair, inItems, rfl⟩ := List.mem_map.mp member
  exact List.fst_mem_of_mem_zipIdx inItems

theorem isSound_start (settings : Settings) (items : List BatchItem) (workers : Nat) :
    (start items workers).IsSound settings items workers where
  account_eq _ := by
    simp only [account, start, List.map_replicate, Worker.account, Worker.results, List.map_nil,
      Multiset.coe_nil, List.sum_replicate, nsmul_zero, add_zero]
  queue_eq_nil _ worker member stopped := by
    rw [List.eq_of_mem_replicate member] at stopped
    cases stopped
  failure_eq _ failed := nomatch failed
  length_eq := List.length_replicate

/-- The account of a pool with one worker set apart. -/
theorem account_split (settings : Settings) (queue : List PlacedItem) (before after : List Worker)
    (worker : Worker) (failure : Option BatchFailure) :
    account settings ⟨queue, before ++ worker :: after, failure⟩ =
      (queue.map (PlacedItem.result settings) : Multiset (Nat × Except BatchFailure Report)) +
        worker.account settings + ((before ++ after).map (Worker.account settings)).sum := by
  simp only [account, List.map_append, List.map_cons, List.sum_append, List.sum_cons]
  abel

/-- A worker that has stopped is not the one that has just moved. -/
theorem mem_of_stopped {before after : List Worker} {moved other worker : Worker}
    (member : worker ∈ before ++ moved :: after) (stopped : worker.task = .stopped)
    (moving : moved.task ≠ .stopped) : worker ∈ before ++ other :: after := by
  simp only [List.mem_append, List.mem_cons] at member ⊢
  rcases member with inBefore | rfl | inAfter
  · exact Or.inl inBefore
  · exact absurd stopped moving
  · exact Or.inr (Or.inr inAfter)

theorem IsSound.step (sound : pool.IsSound settings items count) (step : Step settings pool next) :
    next.IsSound settings items count := by
  obtain ⟨account_eq, queue_eq_nil, failure_eq, length_eq⟩ := sound
  cases step with
  | @take placed queue before after kept =>
    refine ⟨fun _ => ?_, fun _ worker member stopped => ?_, nofun, by simpa using length_eq⟩
    · rw [← account_eq rfl, account_split, account_split]
      simp only [Worker.account, Worker.results, List.map_cons, ← Multiset.cons_coe,
        Multiset.cons_add, Multiset.add_cons]
    · -- Nobody had stopped before, since a document was still in the queue.
      cases queue_eq_nil rfl worker (mem_of_stopped member stopped nofun) stopped
  | @finish placed queue before after kept report checked =>
    refine ⟨fun _ => ?_, fun _ worker member stopped => ?_, nofun, by simpa using length_eq⟩
    · rw [← account_eq rfl, account_split, account_split]
      have result : placed.result settings = (placed.place, .ok report) :=
        Prod.ext rfl checked
      simp only [Worker.account, Worker.results, result, List.map_append, List.map_cons,
        List.map_nil, ← Multiset.coe_add, Multiset.coe_singleton, Multiset.add_comm _ {_},
        Multiset.singleton_add]
    · exact queue_eq_nil rfl worker (mem_of_stopped member stopped nofun) stopped
  | @stop before after kept =>
    refine ⟨fun _ => ?_, fun _ _ _ _ => rfl, nofun, by simpa using length_eq⟩
    rw [← account_eq rfl, account_split, account_split]
    rfl
  | @breakOff placed queue before after kept failure failed =>
    refine ⟨nofun, nofun, fun other same => ?_, by simpa using length_eq⟩
    have accounted : placed.result settings ∈
        account settings ⟨queue, before ++ ⟨.checking placed, kept⟩ :: after, none⟩ := by
      simp [account_split, Worker.account]
    rw [account_eq rfl, Multiset.mem_coe] at accounted
    obtain ⟨entry, inItems, equal⟩ := List.mem_map.mp accounted
    refine ⟨entry.item, item_mem_of_mem_placed inItems, ?_⟩
    cases same
    exact (congrArg Prod.snd equal).trans failed

theorem Step.remaining_lt (step : Step settings pool next) : next.remaining < pool.remaining := by
  cases step <;>
    simp only [remaining, List.map_append, List.map_cons, List.sum_append, List.sum_cons,
      List.length_cons, Worker.remaining] <;>
    omega

/-- What has come to an end stays as it is. -/
theorem Step.outcome?_eq_none (step : Step settings pool next) : pool.outcome? = none := by
  cases step <;> simp [outcome?, isIdle]

/-- Some worker can move until the batch has come to an end. -/
theorem exists_step_of_outcome? (settings : Settings) (unfinished : pool.outcome? = none) :
    ∃ next, Step settings pool next := by
  obtain ⟨queue, workers, failure⟩ := pool
  cases failure with
  | some failure => cases unfinished
  | none =>
    have busy : ¬(workers.all fun worker => worker.task == .stopped) = true := by
      intro idle
      simp [outcome?, isIdle, idle] at unfinished
    obtain ⟨⟨task, kept⟩, inPool, moving⟩ : ∃ worker ∈ workers, worker.task ≠ .stopped := by
      simpa using busy
    obtain ⟨before, after, rfl⟩ := List.append_of_mem inPool
    cases task with
    | stopped => exact absurd rfl moving
    | looking =>
      cases queue with
      | nil => exact ⟨_, .stop⟩
      | cons placed queue => exact ⟨_, .take⟩
    | checking placed =>
      cases checked : placed.item.validate settings with
      | ok report => exact ⟨_, .finish checked⟩
      | error failure => exact ⟨_, .breakOff checked⟩

/-! ### What a run comes to -/

theorem remaining_start (items : List BatchItem) (workers : Nat) :
    (start items workers).remaining = 2 * items.length + min workers items.length := by
  simp [remaining, start, placed, Worker.remaining]

/-- A run keeps what a move keeps, and is no longer than what was left at its beginning. -/
theorem Run.isSound {moves : Nat} (run : Run settings (start items count) moves pool) :
    pool.IsSound settings items count ∧
      moves + pool.remaining ≤ 2 * items.length + min count items.length := by
  induction run with
  | here => exact ⟨isSound_start settings items count, by rw [remaining_start]; omega⟩
  | move run step inductionHypothesis =>
    have fewer := step.remaining_lt
    exact ⟨inductionHypothesis.1.step step, by omega⟩

/-- Workers that have stopped account for what they have kept. -/
theorem sum_account_of_stopped {workers : List Worker}
    (stopped : ∀ worker ∈ workers, worker.task = .stopped) :
    (workers.map (Worker.account settings)).sum = (workers.flatMap Worker.results : List _) := by
  induction workers with
  | nil => rfl
  | cons worker rest inductionHypothesis =>
    rw [List.map_cons, List.sum_cons,
      inductionHypothesis fun other member => stopped other (List.mem_cons_of_mem _ member),
      List.flatMap_cons, ← Multiset.coe_add, Worker.account, stopped worker List.mem_cons_self]

theorem map_fst_placed (settings : Settings) (items : List BatchItem) :
    ((placed items).map (PlacedItem.result settings)).map Prod.fst = List.range items.length := by
  rw [placed, List.map_map, List.map_map, List.range_eq_range']
  exact List.zipIdx_map_snd 0 items

theorem map_snd_placed (settings : Settings) (items : List BatchItem) :
    ((placed items).map (PlacedItem.result settings)).map Prod.snd =
      items.map fun item => item.validate settings := by
  rw [placed, List.map_map, List.map_map]
  conv_rhs => rw [← List.zipIdx_map_fst 0 items, List.map_map]
  rfl

/-- Reports that are sorted by the places of their documents are in the order of the documents. -/
theorem map_mergeSort_of_perm {entries : List (Nat × Report)}
    (accounted : (entries.map fun entry => (entry.1, Except.ok entry.2)).Perm
      ((placed items).map (PlacedItem.result settings))) :
    (entries.mergeSort fun first second => decide (first.1 ≤ second.1)).map
        (fun entry => (entry.1, Except.ok entry.2)) =
      (placed items).map (PlacedItem.result settings) := by
  have sorted : (entries.mergeSort fun first second => decide (first.1 ≤ second.1)).Pairwise
      fun first second => first.1 ≤ second.1 := by
    refine (List.pairwise_mergeSort ?_ ?_ entries).imp of_decide_eq_true
    · exact fun _ _ _ => by simpa using Nat.le_trans
    · exact fun _ _ => by simpa using Nat.le_total _ _
  have perm : ((entries.mergeSort fun first second => decide (first.1 ≤ second.1)).map
      fun entry => (entry.1, Except.ok entry.2)).Perm
      ((placed items).map (PlacedItem.result settings)) :=
    ((List.mergeSort_perm entries _).map _).trans accounted
  have places := map_fst_placed settings items
  refine List.Perm.eq_of_pairwise ?_ (List.pairwise_map.mpr sorted)
    (List.pairwise_map.mp (?_ : (List.map Prod.fst _).Pairwise (· ≤ ·))) perm
  · -- No place is there twice, so what agrees in its place is the same.
    intro first second inSorted inPlaced before behind
    have distinct : (((placed items).map (PlacedItem.result settings)).map Prod.fst).Nodup := by
      rw [places]
      exact List.nodup_range
    exact List.inj_on_of_nodup_map distinct (perm.mem_iff.mp inSorted) inPlaced
      (Nat.le_antisymm before behind)
  · rw [places]
    exact List.pairwise_le_range

/-- A batch that has come to an end without a failure has the reports on its documents. -/
theorem IsSound.forall₂_reports (sound : pool.IsSound settings items count) (positive : 1 ≤ count)
    (intact : pool.failure = none) (idle : pool.isIdle = true) :
    List.Forall₂ (fun item report => item.validate settings = .ok report) items pool.reports := by
  have stopped : ∀ worker ∈ pool.workers, worker.task = .stopped := by
    simpa [isIdle] using idle
  have account := sound.account_eq intact
  have emptied : pool.queue = [] := by
    cases workers : pool.workers with
    | cons worker rest =>
      have member : worker ∈ pool.workers := by simp [workers]
      exact sound.queue_eq_nil intact worker member (stopped worker member)
    | nil =>
      -- Without workers there are no documents either.
      have none : items.length = 0 := by
        have size := sound.length_eq
        rw [workers, List.length_nil] at size
        omega
      rw [List.length_eq_zero_iff.mp none] at account
      simpa [WorkerPool.account, workers, placed] using account
  rw [WorkerPool.account, emptied, sum_account_of_stopped stopped, List.map_nil, Multiset.coe_nil,
    zero_add, Multiset.coe_eq_coe] at account
  have kept : pool.workers.flatMap Worker.results =
      (pool.workers.flatMap Worker.kept).map fun entry => (entry.1, Except.ok entry.2) := by
    rw [List.map_flatMap]
    rfl
  have sorted := congrArg (List.map Prod.snd) (map_mergeSort_of_perm (kept ▸ account))
  rw [map_snd_placed, List.map_map] at sorted
  have each : List.Forall₂ (· = ·) (items.map fun item => item.validate settings)
      (pool.reports.map Except.ok) := by
    rw [List.forall₂_eq_eq_eq, reports, List.map_map]
    exact sorted.symm
  rwa [List.forall₂_map_left_iff, List.forall₂_map_right_iff] at each

/-- A batch that has come to an end has either the reports on its documents or the failure of one of
them, however its workers have taken turns. -/
theorem Run.outcome {moves : Nat} (run : Run settings (start items count) moves pool)
    (positive : 1 ≤ count) {outcome : Except BatchFailure (List Report)}
    (ended : pool.outcome? = some outcome) :
    (∃ reports, outcome = .ok reports ∧
        List.Forall₂ (fun item report => item.validate settings = .ok report) items reports) ∨
      ∃ failure, outcome = .error failure ∧
        ∃ item ∈ items, item.validate settings = .error failure := by
  have sound := run.isSound.1
  unfold outcome? at ended
  split at ended
  · rename_i failure broken
    cases ended
    exact Or.inr ⟨failure, rfl, sound.failure_eq failure broken⟩
  · rename_i intact
    split_ifs at ended with idle
    cases ended
    exact Or.inl ⟨_, rfl, sound.forall₂_reports positive intact idle⟩

end WorkerPool

/-- A batch whose documents can all be checked comes to their reports in their order, whatever the
order in which its workers move: no run is longer than the batch has moves, and every run either can
go on or has come to an end with these reports. -/
theorem batch_comes_to_reports_in_order {items : List BatchItem} {settings : Settings}
    {workers : Int} (positive : 1 ≤ workers)
    (returns : ∀ item ∈ items, ∃ report,
      validate item.text settings (some item.source) = .ok report) :
    ∃ reports, validateBatch items settings workers = .ok reports ∧
      List.Forall₂ (fun item report =>
        validate item.text settings (some item.source) = .ok report) items reports ∧
      ∀ moves pool, WorkerPool.Run settings (.start items workers.toNat) moves pool →
        moves ≤ 2 * items.length + min workers.toNat items.length ∧
          (pool.outcome? = some (.ok reports) ∧ (¬∃ next, WorkerPool.Step settings pool next) ∨
            pool.outcome? = none ∧ ∃ next, WorkerPool.Step settings pool next) := by
  have each : ∀ item ∈ items, ∃ report, item.validate settings = .ok report :=
    fun item member => (returns item member).imp fun _ => BatchItem.validate_eq_ok_iff.mpr
  obtain ⟨reports, checked⟩ := mapM_isOk_iff.mpr each
  have pairs := mapM_eq_ok_iff.mp checked
  refine ⟨reports, (validateBatch_eq_ok_iff positive).mpr pairs,
    pairs.imp fun _ _ => BatchItem.validate_eq_ok_iff.mp, fun moves pool run => ?_⟩
  have length := run.isSound.2
  refine ⟨by omega, ?_⟩
  cases ended : pool.outcome? with
  | none => exact Or.inr ⟨rfl, WorkerPool.exists_step_of_outcome? settings ended⟩
  | some outcome =>
    refine Or.inl ⟨?_, fun ⟨_, step⟩ => ?_⟩
    · rcases run.outcome (by omega) ended with
        ⟨found, rfl, foundPairs⟩ | ⟨failure, rfl, item, member, failed⟩
      · have same := mapM_eq_ok_iff.mpr foundPairs
        rw [checked] at same
        cases same
        rfl
      · obtain ⟨report, run⟩ := each item member
        rw [run] at failed
        cases failed
    · rw [step.outcome?_eq_none] at ended
      cases ended

/-- Two documents that are alike, label and all, and one with a fatal defect. -/
def alikeItems : List BatchItem :=
  [⟨"a", "## Index\n"⟩, ⟨"b", "~~~\n"⟩, ⟨"a", "## Index\n"⟩]

theorem batch_comes_to_reports_in_order_of_alike :
    (1 : Int) ≤ 2 ∧
      (∀ item ∈ alikeItems, ∃ report,
        validate item.text .default (some item.source) = .ok report) ∧
      ∃ reports, validateBatch alikeItems .default 2 = .ok reports ∧
        List.Forall₂ (fun item report =>
          validate item.text .default (some item.source) = .ok report) alikeItems reports ∧
        ∀ moves pool, WorkerPool.Run .default (.start alikeItems 2) moves pool →
          moves ≤ 2 * 3 + min 2 3 ∧
            (pool.outcome? = some (.ok reports) ∧ (¬∃ next, WorkerPool.Step .default pool next) ∨
              pool.outcome? = none ∧ ∃ next, WorkerPool.Step .default pool next) := by
  have returns : ∀ item ∈ alikeItems, ∃ report,
      validate item.text .default (some item.source) = .ok report := by
    simp only [alikeItems, List.forall_mem_cons, List.not_mem_nil, false_implies, implies_true,
      and_true]
    exact ⟨⟨_, rfl⟩, ⟨_, rfl⟩, ⟨_, rfl⟩⟩
  exact ⟨by decide, returns, batch_comes_to_reports_in_order (by decide) returns⟩

end LlmTxt
