import CodeGraph.Proofs.BatchAccount
import CodeGraph.Proofs.Results
import CodeGraph.Proofs.Text.Lines
import CodeGraph.Typesense

/-!
# Answers to a batch

A search server answers a batch by lines that state of documents whether they were taken.  There may
be more or fewer of them than documents, and some that are no statements.  `importOutcome_of_told`
and `importOutcome_of_fault` say what an answer comes to, and `import_answers_are_accounted` what is
counted for it.
-/

set_option autoImplicit false

namespace CodeGraph

namespace Typesense

/-! ## What the lines come to -/

def ImportLine.decode (line : List Char) : Except Json.Fault ImportLine :=
  Json.readAll ImportLine.format.read line

def toldLines (lines : List (List Char)) : List (List Char) :=
  lines.filter fun line => !line.all Text.isBlank

theorem importLinesOf_eq {text : List Char} {lines : List (List Char)}
    (isLines : Text.IsLines text lines) :
    importLinesOf text = (toldLines lines).mapM ImportLine.decode := by
  rw [importLinesOf, Text.isLines_iff.mp isLines]
  rfl

/-- Where every line tells of a failure, the error is the first one that is told at all. -/
theorem firstError_of_failed {stated : List ImportLine}
    (failed : stated.countP ImportLine.success = 0) :
    (ImportResult.ofLines stated).firstError = stated.findSome? ImportLine.error := by
  -- errors are told of failed lines only, and here no other ones are left
  have allFailed : (stated.filter fun line => !line.success) = stated :=
    List.filter_eq_self.mpr fun line member => by
      simpa using List.countP_eq_zero.mp failed line member
  rw [ImportResult.ofLines, allFailed]

section Outcome

variable {batch : Batch} {text : String} {lines : List (List Char)} {stated : List ImportLine}

theorem importOutcome_of_fault {before later : List (List Char)} {line : List Char}
    {fault : Json.Fault} (isLines : Text.IsLines text.toList lines)
    (parts : toldLines lines = before ++ line :: later)
    (readable : ∀ earlier ∈ before, ∃ one, ImportLine.decode earlier = .ok one)
    (failed : ImportLine.decode line = .error fault) :
    (importOutcome batch text).1 = .error (.undecodable fault) := by
  rw [importOutcome, importLinesOf_eq isLines, parts, mapM_of_error readable failed]

theorem importOutcome_of_told (nonempty : 0 < batch.size)
    (isLines : Text.IsLines text.toList lines)
    (decoded : List.Forall₂ (fun line one => ImportLine.decode line = .ok one)
      (toldLines lines) stated) :
    (importOutcome batch text).1 =
      if stated.countP ImportLine.success = 0 then
        .error (.rejected name
          ((ImportResult.ofLines stated).firstError.getD "no document accepted"))
      else .ok (stated.countP ImportLine.success) := by
  have notEmpty : batch.size ≠ 0 := Nat.ne_of_gt nonempty
  rw [importOutcome, importLinesOf_eq isLines, mapM_eq_ok_iff.mpr decoded]
  by_cases noneTaken : stated.countP ImportLine.success = 0
  · simp [ImportResult.answer, ImportResult.ofLines, noneTaken, notEmpty]
  · simp [ImportResult.answer, ImportResult.ofLines, noneTaken]

end Outcome

/-! ## What is counted -/

variable {ν : Type}

theorem Connection.answer_upsert {connection : Connection} {network : Http.Network ν}
    {batch : Batch} {state : ν} {response : Http.Response}
    (answered : (network.send (connection.importRequest batch) state).1 = .ok response) :
    (connection.upsert network batch state).answer = (importOutcome batch response.body).1 := by
  unfold upsert
  cases sent : network.send (connection.importRequest batch) state with
  | mk answer later =>
      rw [sent] at answered
      cases answered
      rfl

/-- Whatever text a server answers to a batch with documents, and however far a writer has come that
sends the batch, the documents are counted once, in one of three ways.  A line that is no statement
makes the batch fail with the fault of the first such line.  If no line states success, the batch is
refused, with the first error that is told.  Otherwise as many documents count as taken as lines
state success, though no more than there are. -/
theorem import_answers_are_accounted (connection : Connection) (network : Http.Network ν)
    (batch : Batch) (progress : Progress ν) {response : Http.Response} (nonempty : 0 < batch.size)
    (answered :
      (network.send (connection.importRequest batch) progress.state).1 = .ok response) :
    let answer := (connection.upsert network batch progress.state).answer
    let before := progress.report
    let after := (progress.handle (connection.destination network) (.send batch)).report
    after.totalDelivered + after.failedDocuments =
        before.totalDelivered + before.failedDocuments + batch.size ∧
      ∃ lines, (∀ others, Text.IsLines response.body.toList others ↔ others = lines) ∧
        (∀ earlier line later fault, toldLines lines = earlier ++ line :: later →
          (∀ readable ∈ earlier, ∃ one, ImportLine.decode readable = .ok one) →
          ImportLine.decode line = .error fault →
            answer = .error (.undecodable fault) ∧ before.Counts after batch 0 1) ∧
        ∀ stated : List ImportLine,
          List.Forall₂ (fun line one => ImportLine.decode line = .ok one) (toldLines lines) stated →
            let taken := stated.countP ImportLine.success
            (taken = 0 →
              (∀ earlier line later reason, stated = earlier ++ line :: later →
                (∀ silent ∈ earlier, silent.error = none) → line.error = some reason →
                  answer = .error (.rejected "typesense" reason)) ∧
              ((∀ line ∈ stated, line.error = none) →
                answer = .error (.rejected "typesense" "no document accepted")) ∧
              before.Counts after batch 0 1) ∧
            (0 < taken →
              answer = .ok taken ∧ before.Counts after batch (min taken batch.size) 0) := by
  intro answer before after
  have isOutcome : answer = (importOutcome batch response.body).1 :=
    Connection.answer_upsert answered
  have isAfter : after = before.answered batch answer := rfl
  have countsRefusal : ∀ {error}, answer = .error error → before.Counts after batch 0 1 := by
    intro error refused
    rw [isAfter, refused]
    exact before.counts_refused batch
  refine ⟨before.conserves_answered batch answer, ?_⟩
  obtain ⟨lines, isLines⟩ := Text.exists_isLines response.body.toList
  refine ⟨lines, fun others => ?_, ?_, fun stated decoded => ⟨fun noneTaken => ?_, fun someTaken =>
    ?_⟩⟩
  · rw [Text.isLines_iff, Text.isLines_iff.mp isLines, eq_comm]
  · intro earlier line later fault parts readable failed
    have refused := isOutcome.trans (importOutcome_of_fault isLines parts readable failed)
    exact ⟨refused, countsRefusal refused⟩
  · have refused := isOutcome.trans (importOutcome_of_told nonempty isLines decoded)
    rw [if_pos noneTaken, firstError_of_failed noneTaken] at refused
    refine ⟨?_, fun silent => ?_, countsRefusal refused⟩
    · rintro earlier line later reason rfl silent told
      have isFirst : (earlier ++ line :: later).findSome? ImportLine.error = some reason :=
        List.findSome?_eq_some_iff.mpr ⟨earlier, line, later, rfl, told, silent⟩
      rw [refused, isFirst]
      rfl
    · rw [refused, List.findSome?_eq_none_iff.mpr silent]
      rfl
  · have taken := isOutcome.trans (importOutcome_of_told nonempty isLines decoded)
    rw [if_neg (Nat.ne_of_gt someTaken)] at taken
    refine ⟨taken, ?_⟩
    rw [isAfter, taken]
    exact before.counts_taken batch _

/-- Of one document the server states three times whether it was taken, with a line of white space
between them: that it was, that it was not, and that it was.  It counts as taken once. -/
theorem import_answers_are_accounted_of_surplus :
    let connection : Connection := ⟨"http://localhost:8108", "xyz", 10⟩
    let batch : Batch := ⟨"code_nodes", [.object [("id", .text "f")]]⟩
    let taking := "\x7b\"success\":true\x7d"
    let refusing := "\x7b\"success\":false,\"error\":\"!\"\x7d"
    let response : Http.Response := ⟨200, taking ++ "\r\n \r\n" ++ refusing ++ "\n" ++ taking⟩
    let progress : Progress Http.Script := { state := { answers := [response] } }
    let destination := connection.destination (.scripted 0)
    0 < batch.size ∧ (connection.upsert (.scripted 0) batch progress.state).answer = .ok 2 ∧
      progress.report.Counts (progress.handle destination (.send batch)).report batch 1 0 := by
  intro connection batch taking refusing response progress destination
  have nonempty : 0 < batch.size := by decide
  have answered : ((Http.Network.scripted 0).send (connection.importRequest batch)
      progress.state).1 = .ok response := eq_ok_of_toOption (by decide +kernel)
  obtain ⟨_, lines, areLines, _, ofStated⟩ :=
    import_answers_are_accounted connection (.scripted 0) batch progress nonempty answered
  have isTold : toldLines lines = [taking.toList, refusing.toList, taking.toList] := by
    rw [← Text.isLines_iff.mp ((areLines lines).mpr rfl)]
    decide
  have ofTaking : ImportLine.decode taking.toList = .ok ⟨true, none⟩ :=
    eq_ok_of_toOption (by decide +kernel)
  have ofRefusing : ImportLine.decode refusing.toList = .ok ⟨false, some "!"⟩ :=
    eq_ok_of_toOption (by decide +kernel)
  have decoded : List.Forall₂ (fun line one => ImportLine.decode line = .ok one) (toldLines lines)
      [⟨true, none⟩, ⟨false, some "!"⟩, ⟨true, none⟩] := by
    rw [isTold]
    exact .cons ofTaking (.cons ofRefusing (.cons ofTaking .nil))
  obtain ⟨taken, counts⟩ := (ofStated _ decoded).2 (by decide)
  exact ⟨nonempty, taken, counts⟩

end Typesense

end CodeGraph
