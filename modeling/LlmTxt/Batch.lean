/-
This file checks many documents with one set of settings. A check looks at nothing but
its own document, so the reports are those of the documents one by one, in their
order, however many workers share the work. There has to be a worker, and a document
that cannot be checked to the end stops the batch.
-/

import LlmTxt.Validation

namespace LlmTxt

/-- A document of a batch: the label that its report carries, and its text. -/
structure BatchItem where
  source : String
  text : String
deriving DecidableEq, Repr

/-- Why a batch comes to nothing. -/
inductive BatchFailure where
  | noWorkers (count : Int)
  | check (failure : CheckFailure)
deriving DecidableEq, Repr

namespace BatchFailure

/-- The wording of a failure. -/
def message : BatchFailure → String
  | noWorkers count => "num_workers must be at least 1, got " ++ toString count
  | check failure => failure.message

end BatchFailure

/-- The report on a document of a batch. -/
def BatchItem.validate (item : BatchItem) (settings : Settings) : Except BatchFailure Report :=
  (LlmTxt.validate item.text settings (some item.source)).mapError .check

/-- The reports on the documents of a batch, in their order. -/
def validateBatch (items : List BatchItem) (settings : Settings) (workers : Int) :
    Except BatchFailure (List Report) :=
  if workers < 1 then .error (.noWorkers workers)
  else items.mapM fun item => item.validate settings

end LlmTxt
