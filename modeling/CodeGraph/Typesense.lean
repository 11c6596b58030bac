import CodeGraph.Destination
import CodeGraph.Http.Network
import CodeGraph.Json.Print
import CodeGraph.Json.Record

/-!
# Typesense

The search server that holds the search documents.  A batch is sent as one JSON text a line, and
answered by one line for each document.
-/

set_option autoImplicit false

namespace CodeGraph.Typesense

open CodeGraph.Http (Network Request Provisioned)

structure Settings where
  url : String := "http://localhost:8108"
  apiKey : String := "xyz"
  timeLimit : Nat := Http.defaultTimeLimit

structure Connection where
  base : String
  apiKey : String
  timeLimit : Nat

def name : String := "typesense"

def defaultPort : UInt16 := 8108

def Settings.connection (settings : Settings) : Connection where
  base := Address.withDefaultPort (Address.baseUrl settings.url) defaultPort
  apiKey := settings.apiKey
  timeLimit := settings.timeLimit

/-- The fields of the search collection: name, type, and the property that is set, if one is. -/
def collectionFields : List (String × String × Option String) :=
  [("qname", "string", none), ("name", "string", none), ("name_variants", "string[]", none),
    ("code", "string", some "optional"), ("doc", "string", some "optional"),
    ("kind", "string", some "facet"), ("language", "string", some "facet"),
    ("filepath", "string", some "optional"), ("namespace", "string", some "optional"),
    ("pos", "int32", some "optional"), ("end", "int32", some "optional")]

def collectionSchema (collection : String) : Json.Value :=
  .ofMembers [
    ("name", .text collection),
    ("fields", .array (collectionFields.map fun field =>
      .ofMembers ([("name", .text field.1), ("type", .text field.2.1)]
        ++ field.2.2.toList.map fun property => (property, .bool true))))]

def importLines (documents : List Json.Value) : List Char :=
  documents.flatMap fun document => document.compact ++ ['\n']

namespace Connection

def credentials (connection : Connection) : String × String :=
  ("X-TYPESENSE-API-KEY", connection.apiKey)

def collectionsRequest (connection : Connection) : Request where
  method := .get
  url := connection.base ++ "/collections"
  credentials := connection.credentials
  timeLimit := connection.timeLimit

def collectionRequest (connection : Connection) (collection : String) : Request where
  method := .post
  url := connection.base ++ "/collections"
  credentials := connection.credentials
  body := .json (collectionSchema collection)
  timeLimit := connection.timeLimit

def importRequest (connection : Connection) (batch : Batch) : Request where
  method := .post
  url := connection.base ++ "/collections/" ++ batch.collection
    ++ "/documents/import?action=upsert"
  credentials := connection.credentials
  body := .plain (.ofList (importLines batch.documents))
  timeLimit := connection.timeLimit

end Connection

def connect {ν : Type} (network : Network ν) (settings : Settings) (state : ν) :
    Reply ν Connection :=
  let connection := settings.connection
  match network.send connection.collectionsRequest state with
  | (.ok _, state) =>
      { answer := .ok connection, state
        events := [⟨.info, "Connected to Typesense at " ++ connection.base⟩] }
  | (.error fault, state) => { answer := .error (.http fault), state }

def provisionedEvent (collection : String) : Provisioned → Event
  | .created => ⟨.info, "Created collection: " ++ collection⟩
  | .existing => ⟨.info, "Collection exists: " ++ collection⟩

def Connection.ensureCollection {ν : Type} (connection : Connection) (network : Network ν)
    (collection : String) (state : ν) : Reply ν Provisioned :=
  match network.create (connection.collectionRequest collection) state with
  | (.ok outcome, state) =>
      { answer := .ok outcome, state, events := [provisionedEvent collection outcome] }
  | (.error fault, state) => { answer := .error (.http fault), state }

structure ImportLine where
  success : Bool := false
  error : Option String := none
  deriving DecidableEq

def ImportLine.format : Json.RecordFormat ImportLine where
  name := "ImportLine"
  blank := {}
  fields := [
    .mandatory "success" Json.readBool fun line success => { line with success },
    .defaulted "error" Json.readText fun line error => { line with error }]

/-- The number of documents that were taken, and the error of the first that has one. -/
structure ImportResult where
  accepted : Nat
  firstError : Option String

/-- The statements of an answer, one in each line that is not blank. -/
def importLinesOf (text : List Char) : Except Json.Fault (List ImportLine) :=
  ((Text.lines text).filter fun line => !line.all Text.isBlank).mapM
    (Json.readAll ImportLine.format.read)

def ImportResult.ofLines (lines : List ImportLine) : ImportResult where
  accepted := lines.countP ImportLine.success
  firstError := (lines.filter fun line => !line.success).findSome? ImportLine.error

namespace ImportResult

def answer (result : ImportResult) (batch : Batch) : Except DeliveryError Nat :=
  if result.accepted = 0 ∧ batch.size ≠ 0 then
    .error (.rejected name (result.firstError.getD "no document accepted"))
  else
    .ok result.accepted

def events (result : ImportResult) (batch : Batch) : List Event :=
  if result.accepted < batch.size then
    [⟨.warn, "Typesense rejected " ++ toString (batch.size - result.accepted) ++ " of "
      ++ toString batch.size ++ " documents in " ++ batch.collection ++ ": "
      ++ result.firstError.getD "unknown error"⟩]
  else
    []

end ImportResult

def importOutcome (batch : Batch) (text : String) : Except DeliveryError Nat × List Event :=
  match importLinesOf text.toList with
  | .error fault => (.error (.undecodable fault), [])
  | .ok lines =>
      let result := ImportResult.ofLines lines
      match result.answer batch with
      | .error error => (.error error, [])
      | .ok accepted => (.ok accepted, result.events batch)

def Connection.upsert {ν : Type} (connection : Connection) (network : Network ν) (batch : Batch)
    (state : ν) : Reply ν Nat :=
  match network.send (connection.importRequest batch) state with
  | (.error fault, state) => { answer := .error (.http fault), state }
  | (.ok response, state) =>
      let (answer, events) := importOutcome batch response.body
      { answer, state, events }

def Connection.destination {ν : Type} (connection : Connection) (network : Network ν) :
    Destination ν where
  name := name
  upsert := fun batch state => connection.upsert network batch state

end CodeGraph.Typesense
