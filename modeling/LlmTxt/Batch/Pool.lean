/-
This file lets workers share the documents of a batch. The documents stand in a queue in their
order. A worker takes the one in front, checks it, keeps the report together with the place of the
document, and looks for the next one until the queue is empty. Nothing says which worker is the
next to move. When all have stopped, what they have kept is put together and sorted by place; a
document that cannot be checked to the end breaks the batch off.
-/

import LlmTxt.Batch

namespace LlmTxt

/-- A document with its place in the batch. -/
structure PlacedItem where
  place : Nat
  item : BatchItem
deriving DecidableEq, Repr

/-- What a worker is at. -/
inductive WorkerTask where
  /-- It is about to look for a document in the queue. -/
  | looking
  | checking (placed : PlacedItem)
  /-- It has found the queue empty. -/
  | stopped
deriving DecidableEq, Repr

/-- A worker with the reports that it has kept, each with the place of its document. -/
structure Worker where
  task : WorkerTask
  kept : List (Nat × Report)
deriving DecidableEq, Repr

/-- Workers that share a queue, and what has broken the batch off, if something has. -/
structure WorkerPool where
  queue : List PlacedItem
  workers : List Worker
  failure : Option BatchFailure
deriving DecidableEq, Repr

namespace WorkerPool

/-- The documents of a batch with their places. -/
def placed (items : List BatchItem) : List PlacedItem :=
  items.zipIdx.map fun entry => ⟨entry.2, entry.1⟩

/-- The pool before the first move. There are no more workers than documents. -/
def start (items : List BatchItem) (workers : Nat) : WorkerPool :=
  ⟨placed items, List.replicate (min workers items.length) ⟨.looking, []⟩, none⟩

/-- One worker moves. -/
inductive Step (settings : Settings) : WorkerPool → WorkerPool → Prop where
  /-- It takes the document in front of the queue. -/
  | take {placed : PlacedItem} {queue : List PlacedItem} {before after : List Worker}
      {kept : List (Nat × Report)} :
      Step settings ⟨placed :: queue, before ++ ⟨.looking, kept⟩ :: after, none⟩
        ⟨queue, before ++ ⟨.checking placed, kept⟩ :: after, none⟩
  /-- It keeps the report on the document that it has checked. -/
  | finish {placed : PlacedItem} {queue : List PlacedItem} {before after : List Worker}
      {kept : List (Nat × Report)} {report : Report}
      (checked : placed.item.validate settings = .ok report) :
      Step settings ⟨queue, before ++ ⟨.checking placed, kept⟩ :: after, none⟩
        ⟨queue, before ++ ⟨.looking, kept ++ [(placed.place, report)]⟩ :: after, none⟩
  /-- It finds the queue empty. -/
  | stop {before after : List Worker} {kept : List (Nat × Report)} :
      Step settings ⟨[], before ++ ⟨.looking, kept⟩ :: after, none⟩
        ⟨[], before ++ ⟨.stopped, kept⟩ :: after, none⟩
  /-- The check of its document fails. -/
  | breakOff {placed : PlacedItem} {queue : List PlacedItem} {before after : List Worker}
      {kept : List (Nat × Report)} {failure : BatchFailure}
      (failed : placed.item.validate settings = .error failure) :
      Step settings ⟨queue, before ++ ⟨.checking placed, kept⟩ :: after, none⟩
        ⟨queue, before ++ ⟨.stopped, kept⟩ :: after, some failure⟩

/-- So many moves lead from one pool to another. -/
inductive Run (settings : Settings) (first : WorkerPool) : Nat → WorkerPool → Prop where
  | here : Run settings first 0 first
  | move {count : Nat} {pool next : WorkerPool} (run : Run settings first count pool)
      (step : Step settings pool next) : Run settings first (count + 1) next

/-- Whether all workers have stopped. -/
def isIdle (pool : WorkerPool) : Bool :=
  pool.workers.all fun worker => worker.task == .stopped

/-- What the workers have kept, in the order of the documents. -/
def reports (pool : WorkerPool) : List Report :=
  ((pool.workers.flatMap Worker.kept).mergeSort fun first second =>
    decide (first.1 ≤ second.1)).map Prod.snd

/-- What the batch comes to, once it has come to an end. -/
def outcome? (pool : WorkerPool) : Option (Except BatchFailure (List Report)) :=
  match pool.failure with
  | some failure => some (.error failure)
  | none => if pool.isIdle then some (.ok pool.reports) else none

end WorkerPool

end LlmTxt
