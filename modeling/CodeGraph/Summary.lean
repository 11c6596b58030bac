import CodeGraph.GraphRun
import CodeGraph.Json.Print
import CodeGraph.SearchRun

/-!
# Summaries

What a command tells of its runs: as text for people, or as JSON.
-/

set_option autoImplicit false

namespace CodeGraph

structure Summary where
  graph : Option GraphStats := none
  search : Option SearchStats := none

def padded (width : Nat) (text : String) : String :=
  text ++ .ofList (List.replicate (width - text.length) ' ')

def countLine (width : Nat) (name : String) (count : Nat) : String :=
  "  " ++ padded width name ++ " " ++ toString count

def countLines (width : Nat) (counts : KeyMap Nat) : List String :=
  counts.entries.map fun entry => countLine width entry.1 entry.2

def classWidth : Nat := 14

def reasonWidth : Nat := 22

def failureLines (batches documents : Nat) : List String :=
  if batches > 0 ∨ documents > 0 then
    ["⚠ " ++ toString batches ++ " failed batches, " ++ toString documents
      ++ " documents not written"]
  else
    []

def GraphStats.droppedLines (stats : GraphStats) : List String :=
  if stats.dropped.isEmpty then
    []
  else
    ["", "• " ++ toString stats.droppedTotal ++ " of " ++ toString stats.relations
        ++ " relations produced no edge:"]
      ++ countLines reasonWidth stats.dropped

def GraphStats.lines (stats : GraphStats) (elapsed : Nat) : List String :=
  ["✓ Wrote " ++ toString stats.nodesWritten ++ " nodes and " ++ toString stats.edgesWritten
      ++ " edges in " ++ toString elapsed ++ "ms", "", "Nodes"]
    ++ countLines classWidth stats.nodesByClass
    ++ [countLine classWidth "skipped" stats.skipped, "", "Edges"]
    ++ countLines classWidth stats.edgesByClass
    ++ stats.droppedLines
    ++ failureLines stats.failedBatches stats.failedDocuments

def SearchStats.lines (stats : SearchStats) (elapsed : Nat) : List String :=
  ("✓ Indexed " ++ toString stats.written ++ " of " ++ toString stats.entities
      ++ " entities into " ++ stats.collection ++ " in " ++ toString elapsed ++ "ms")
    :: failureLines stats.failedBatches stats.failedDocuments

def timed (members : List (String × Json.Value)) (elapsed : Nat) : Json.Value :=
  .ofMembers (("elapsed_ms", .ofNat elapsed) :: members)

namespace Summary

def failures (summary : Summary) : Nat :=
  summary.graph.elim 0 GraphStats.failures + summary.search.elim 0 SearchStats.failures

def text (summary : Summary) (elapsed : Nat) : String :=
  let lines := summary.graph.elim [] (fun stats => stats.lines elapsed)
    ++ summary.search.elim [] (fun stats => stats.lines elapsed)
  String.join (lines.map fun line => line ++ "\n")

def toValue (summary : Summary) (elapsed : Nat) : Json.Value :=
  .ofMembers <|
    Json.Value.optional "graph" (fun stats => timed stats.members elapsed) summary.graph
      ++ Json.Value.optional "search" (fun stats => timed stats.members elapsed) summary.search

def print (summary : Summary) (json : Bool) (elapsed : Nat) : String :=
  if json then .ofList ((summary.toValue elapsed).indented 0 ++ ['\n']) else summary.text elapsed

end Summary

end CodeGraph
