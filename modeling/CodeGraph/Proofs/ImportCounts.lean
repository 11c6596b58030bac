import CodeGraph.Arango
import CodeGraph.Proofs.BatchAccount
import CodeGraph.Proofs.Documents
import CodeGraph.Proofs.Json.Typed
import CodeGraph.Proofs.Results

/-!
# Counts of a batch

A database server answers a batch by the numbers of the documents that it created, updated and
refused.  The writer counts the sum of the first two in 64 bits: `import_counts_are_accounted` says
what comes of an answer, and that it is what the server states just when the sum fits.
-/

set_option autoImplicit false

namespace CodeGraph

variable {ν : Type}

namespace Arango

/-! ## Reading the counts -/

theorem reads_count (count : UInt64) :
    Json.Reads Json.readCount (.ofNat count.toNat) count := by
  intro written reordered rest ends start
  cases reordered
  have fits : count.toNat < UInt64.size := count.toNat_lt
  obtain ⟨stop, taken⟩ := Json.readBelow_takes fits fits "usize" ends start
  refine ⟨stop, ?_⟩
  rw [Json.Value.ofNat, Json.Value.compact]
  simp only [Json.readCount, taken, bind, Except.bind, pure, Except.pure, UInt64.ofNat_toNat]

/-- The counts that a server states, each of which it may leave out. -/
structure StatedCounts where
  created : Option UInt64
  updated : Option UInt64
  errors : Option UInt64

namespace StatedCounts

variable (stated : StatedCounts)

def members : List (String × Json.Value) :=
  Json.Value.optional "created" (fun count => .ofNat count.toNat) stated.created
    ++ Json.Value.optional "updated" (fun count => .ofNat count.toNat) stated.updated
    ++ Json.Value.optional "errors" (fun count => .ofNat count.toNat) stated.errors

def only (names : List String) : ImportResult where
  created := if "created" ∈ names then stated.created.getD 0 else 0
  updated := if "updated" ∈ names then stated.updated.getD 0 else 0
  errors := if "errors" ∈ names then stated.errors.getD 0 else 0

def result : ImportResult :=
  ⟨stated.created.getD 0, stated.updated.getD 0, stated.errors.getD 0⟩

theorem ite_isSome_getD (count : Option UInt64) :
    (if count.isSome then count.getD 0 else 0) = count.getD 0 := by
  cases count <;> rfl

theorem fills : ImportResult.format.Fills stated.members stated.only stated.result where
  distinct := by
    simp [members, Json.Value.mem_keys_optional, Json.Value.nodup_keys_optional,
      Json.Value.nodup_keys_optional_append]
  blank := rfl
  required := by simp [ImportResult.format, Json.Field.omittable]
  whole names present := by
    simp [only, result, present, members, Json.Value.mem_keys_optional, ite_isSome_getD]
  reads := by
    simp only [members, List.forall_mem_append]
    refine ⟨⟨Json.Value.forall_mem_optional fun count isCount =>
        ⟨_, rfl, fun names => Json.Field.reads_omittable _ (reads_count count) ?_⟩,
      Json.Value.forall_mem_optional fun count isCount =>
        ⟨_, rfl, fun names => Json.Field.reads_omittable _ (reads_count count) ?_⟩⟩,
      Json.Value.forall_mem_optional fun count isCount =>
        ⟨_, rfl, fun names => Json.Field.reads_omittable _ (reads_count count) ?_⟩⟩
    all_goals simp [only, *]

/-- A count that the server leaves out is zero. -/
theorem decode_body :
    Json.readAll ImportResult.format.read (Json.Value.ofMembers stated.members).compact =
      .ok stated.result :=
  stated.fills.reads_ofMembers.readAll (.same _)

end StatedCounts

/-! ## What is counted -/

theorem ImportResult.toNat_accepted (counts : ImportResult) :
    counts.accepted.toNat = (counts.created.toNat + counts.updated.toNat) % UInt64.size :=
  UInt64.toNat_add _ _

theorem ImportResult.answer_eq (counts : ImportResult) :
    counts.answer =
      if (counts.created.toNat + counts.updated.toNat) % UInt64.size = 0 ∧
          0 < counts.errors.toNat then
        .error (.rejected "arangodb"
          ("all " ++ toString counts.errors ++ " documents failed to import"))
      else .ok ((counts.created.toNat + counts.updated.toNat) % UInt64.size) := by
  have noneTaken : counts.accepted = 0 ↔ counts.accepted.toNat = 0 := by
    rw [← UInt64.toNat_inj]
    rfl
  have someErrors : counts.errors > 0 ↔ 0 < counts.errors.toNat := UInt64.lt_iff_toNat_lt
  rw [answer, ← toNat_accepted]
  simp only [noneTaken, someErrors]
  rfl

theorem Connection.answer_upsert {connection : Connection} {network : Http.Network ν}
    {batch : Batch} {state : ν} {response : Http.Response} {counts : ImportResult}
    (answered : (network.send (connection.importRequest batch) state).1 = .ok response)
    (decoded : Json.readAll ImportResult.format.read response.body.toList = .ok counts) :
    (connection.upsert network batch state).answer = counts.answer := by
  have asked : (ask network (connection.importRequest batch) ImportResult.format.read state).1 =
      .ok counts := by
    unfold ask
    cases sent : network.send (connection.importRequest batch) state with
    | mk answer later =>
        rw [sent] at answered
        cases answered
        simp only [Except.mapError, Except.bind, decodeBody, decoded]
  unfold upsert
  cases replied : ask network (connection.importRequest batch) ImportResult.format.read state with
  | mk answer later =>
      rw [replied] at asked
      cases asked
      cases isAnswer : counts.answer <;> simp only [isAnswer]

theorem send_scripted {request : Http.Request} {response : Http.Response}
    (sendable : (request.check 0).toOption = some ()) (accepted : response.status < 400) :
    ((Http.Network.scripted 0).send request { answers := [response] }).1 = .ok response := by
  have isSent : (Http.Network.scripted 0).client.check request (Http.Network.scripted 0).clock =
      .ok () := eq_ok_of_toOption sendable
  have noError : ¬Http.leastErrorStatus ≤ response.status := Nat.not_le.mpr accepted
  rw [Http.Network.send, isSent]
  exact if_neg noError

/-- A server states 2^63 created and 2^63 updated documents and an error of a batch of one. -/
def wrappingCounts : StatedCounts :=
  ⟨some 9223372036854775808, some 9223372036854775808, some 1⟩

/-- The sum of the counts is not what comes of them: with 2^64 documents stated to be created or
updated the batch is refused. -/
theorem import_sum_wraps :
    ¬ ∀ (connection : Connection) (network : Http.Network Http.Script) (batch : Batch)
        (state : Http.Script) (response : Http.Response) (counts : ImportResult),
      0 < batch.size →
        (network.send (connection.importRequest batch) state).1 = .ok response →
        Json.readAll ImportResult.format.read response.body.toList = .ok counts →
          let stated := counts.created.toNat + counts.updated.toNat
          (connection.upsert network batch state).answer =
            if stated = 0 ∧ 0 < counts.errors.toNat then
              .error (.rejected "arangodb"
                ("all " ++ toString counts.errors ++ " documents failed to import"))
            else .ok stated := by
  intro answersSum
  let connection : Connection := ⟨"http://localhost:8529", "codegraph", "Basic cm9vdDo=", 10⟩
  let batch : Batch := ⟨"functions", [.object [("_key", .text "a")]]⟩
  let body := (Json.Value.ofMembers wrappingCounts.members).compact
  let response : Http.Response := ⟨201, .ofList body⟩
  have answered : ((Http.Network.scripted 0).send (connection.importRequest batch)
      { answers := [response] }).1 = .ok response := send_scripted (by decide +kernel) (by decide)
  have decoded : Json.readAll ImportResult.format.read response.body.toList =
      .ok wrappingCounts.result := by
    rw [String.toList_ofList]
    exact wrappingCounts.decode_body
  have summed : (connection.upsert (.scripted 0) batch { answers := [response] }).answer =
      .ok (9223372036854775808 + 9223372036854775808) :=
    answersSum connection (.scripted 0) batch _ response _ (by decide) answered decoded
  have refused : wrappingCounts.result.answer =
      .error (.rejected "arangodb" "all 1 documents failed to import") := by
    rw [ImportResult.answer_eq, if_pos (by decide)]
    rfl
  rw [Connection.answer_upsert answered decoded, refused] at summed
  cases summed

/-- What comes of the counts that a server states of a batch, however far a writer has come that
sends it.  The created and the updated documents are summed up in 64 bits: the sum is what the
server states just when it fits.  If the sum is zero and there are errors, the batch is refused;
otherwise as many documents count as taken as the sum says, though no more than there are. -/
theorem import_counts_are_accounted (connection : Connection) (network : Http.Network ν)
    (batch : Batch) (progress : Progress ν) {response : Http.Response} {counts : ImportResult}
    (answered :
      (network.send (connection.importRequest batch) progress.state).1 = .ok response)
    (decoded : Json.readAll ImportResult.format.read response.body.toList = .ok counts) :
    let stated := counts.created.toNat + counts.updated.toNat
    let counted := stated % UInt64.size
    let answer := (connection.upsert network batch progress.state).answer
    let before := progress.report
    let after := (progress.handle (connection.destination network) (.send batch)).report
    (counted = stated ↔ stated < UInt64.size) ∧
    (counted = 0 ∧ 0 < counts.errors.toNat →
      answer = .error (.rejected "arangodb"
        ("all " ++ toString counts.errors ++ " documents failed to import")) ∧
      before.Counts after batch 0 1) ∧
    (¬(counted = 0 ∧ 0 < counts.errors.toNat) →
      answer = .ok counted ∧ before.Counts after batch (min counted batch.size) 0) := by
  intro stated counted answer before after
  have isAnswer : answer = counts.answer := Connection.answer_upsert answered decoded
  have isAfter : after = before.answered batch answer := rfl
  rw [counts.answer_eq] at isAnswer
  refine ⟨?_, fun noneTaken => ?_, fun someTaken => ?_⟩
  · have positive : 0 < UInt64.size := by decide
    exact ⟨fun same => same ▸ Nat.mod_lt stated positive, Nat.mod_eq_of_lt⟩
  · rw [if_pos noneTaken] at isAnswer
    rw [isAfter, isAnswer]
    exact ⟨rfl, before.counts_refused batch⟩
  · rw [if_neg someTaken] at isAnswer
    rw [isAfter, isAnswer]
    exact ⟨rfl, before.counts_taken batch counted⟩

/-- A server that states more created documents than the batch has: all of them count as taken, and
none beyond. -/
theorem import_counts_are_accounted_of_surplus :
    let connection : Connection := ⟨"http://localhost:8529", "codegraph", "Basic cm9vdDo=", 10⟩
    let batch : Batch := ⟨"functions", [.object [("_key", .text "a")]]⟩
    let stated : StatedCounts := ⟨some 2, none, some 1⟩
    let body := (Json.Value.ofMembers stated.members).compact
    let progress : Progress Http.Script := { state := { answers := [⟨201, .ofList body⟩] } }
    let destination := connection.destination (.scripted 0)
    (connection.upsert (.scripted 0) batch progress.state).answer = .ok 2 ∧
      progress.report.Counts (progress.handle destination (.send batch)).report batch 1 0 := by
  intro connection batch stated body progress destination
  have answered : ((Http.Network.scripted 0).send (connection.importRequest batch)
      progress.state).1 = .ok ⟨201, .ofList body⟩ := send_scripted (by decide +kernel) (by decide)
  have decoded : Json.readAll ImportResult.format.read (String.ofList body).toList =
      .ok stated.result := by
    rw [String.toList_ofList]
    exact stated.decode_body
  obtain ⟨_, _, taken⟩ :=
    import_counts_are_accounted connection (.scripted 0) batch progress answered decoded
  exact taken (by decide)

end Arango

end CodeGraph
