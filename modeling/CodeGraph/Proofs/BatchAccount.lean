import CodeGraph.Proofs.Account

/-!
# The account of one batch

What a destination states of a batch goes into the account in one of two ways: some of its documents
are taken, or the whole is refused.  Either way each document counts once.
-/

set_option autoImplicit false

namespace CodeGraph

/-- What one batch adds to an account: the documents of it that are taken, and whether it counts as
refused.  The other documents of the batch are lost. -/
structure WriteReport.Counts (before after : WriteReport) (batch : Batch) (taken refusals : Nat) :
    Prop where
  deliveredTo : ∀ collection, after.deliveredTo collection =
    before.deliveredTo collection + if collection = batch.collection then taken else 0
  failedDocuments : after.failedDocuments = before.failedDocuments + (batch.size - taken)
  failedBatches : after.failedBatches = before.failedBatches + refusals
  batches : after.batches = before.batches + 1

namespace WriteReport

theorem counts_taken (report : WriteReport) (batch : Batch) (stated : Nat) :
    report.Counts (report.taken batch stated) batch (min stated batch.size) 0 where
  deliveredTo collection := by
    simp only [deliveredTo, taken, KeyMap.get?_add]
    by_cases same : collection = batch.collection
    · simp [same]
    · simp [same]
  failedDocuments := rfl
  failedBatches := rfl
  batches := rfl

theorem counts_refused (report : WriteReport) (batch : Batch) :
    report.Counts (report.refused batch) batch 0 1 where
  deliveredTo collection := by simp [deliveredTo, refused]
  failedDocuments := rfl
  failedBatches := rfl
  batches := rfl

theorem conserves_answered (report : WriteReport) (batch : Batch)
    (answer : Except DeliveryError Nat) :
    (report.answered batch answer).totalDelivered + (report.answered batch answer).failedDocuments =
      report.totalDelivered + report.failedDocuments + batch.size := by
  cases answer with
  | ok stated =>
      have added := KeyMap.total_add report.delivered batch.collection (min stated batch.size)
      simp only [answered, taken, totalDelivered, added]
      omega
  | error => simp only [answered, refused, totalDelivered, Nat.add_assoc]

end WriteReport

end CodeGraph
