import CodeGraph.Destination
import CodeGraph.Http.Network
import CodeGraph.Json.Parse
import CodeGraph.Json.Record
import CodeGraph.Schema
import CodeGraph.Text.Base64

/-!
# ArangoDB

The database server that holds the property graph.  Documents go through its bulk import, which
replaces a record whose key comes again.  The database, the collections and the named graph are
created where they are not there yet.
-/

set_option autoImplicit false

namespace CodeGraph.Arango

open CodeGraph.Http (Network Request)

structure Settings where
  url : String := "http://localhost:8529"
  database : String := "codegraph"
  username : String := "root"
  password : String := ""
  timeLimit : Nat := Http.defaultTimeLimit

/-- A server that is reached: its address, the database, the value of the header with the
credentials, and the seconds to wait for an answer. -/
structure Connection where
  base : String
  database : String
  authorization : String
  timeLimit : Nat

def name : String := "arangodb"

def basicAuthorization (username password : String) : String :=
  "Basic " ++ .ofList (Text.base64 (username ++ ":" ++ password).toUTF8.toList)

def Settings.connection (settings : Settings) : Connection where
  base := Address.baseUrl settings.url
  database := settings.database
  authorization := basicAuthorization settings.username settings.password
  timeLimit := settings.timeLimit

namespace Connection

def credentials (connection : Connection) : String × String :=
  ("Authorization", connection.authorization)

def post (connection : Connection) (database path : String) (value : Json.Value) : Request where
  method := .post
  url := connection.base ++ "/_db/" ++ database ++ path
  credentials := connection.credentials
  body := .json value
  timeLimit := connection.timeLimit

def versionRequest (connection : Connection) : Request where
  method := .get
  url := connection.base ++ "/_db/_system/_api/version"
  credentials := connection.credentials
  timeLimit := connection.timeLimit

def databaseRequest (connection : Connection) : Request :=
  connection.post "_system" "/_api/database" (.ofMembers [("name", .text connection.database)])

def collectionRequest (connection : Connection) (collection : String) (type : Nat) : Request :=
  connection.post connection.database "/_api/collection"
    (.ofMembers [("name", .text collection), ("type", .ofNat type)])

def graphRequest (connection : Connection) (graph : String) : Request :=
  connection.post connection.database "/_api/gharial" (graphDefinition graph)

def importRequest (connection : Connection) (batch : Batch) : Request :=
  connection.post connection.database
    ("/_api/import?collection=" ++ batch.collection ++ "&type=list&onDuplicate=replace")
    (.array batch.documents)

end Connection

def versionText (answer : Json.Value) : String :=
  ((answer.member? "version").bind Json.Value.text?).getD "?"

def decodeBody {α : Type} (reader : Json.Reader α) (response : Http.Response) :
    Except DeliveryError α :=
  match Json.readAll reader response.body.toList with
  | .ok value => .ok value
  | .error fault => .error (.http (.body fault))

def ask {ν α : Type} (network : Network ν) (request : Request) (reader : Json.Reader α)
    (state : ν) : Except DeliveryError α × ν :=
  let (answer, state) := network.send request state
  ((answer.mapError .http).bind (decodeBody reader), state)

/-- Reaches a server and sees whether it accepts the credentials. -/
def connect {ν : Type} (network : Network ν) (settings : Settings) (state : ν) :
    Reply ν Connection :=
  let connection := settings.connection
  let (answer, state) :=
    ask network connection.versionRequest (Json.readValue Json.maxDepth) state
  match answer with
  | .ok version =>
      { answer := .ok connection, state
        events := [⟨.info, "Connected to ArangoDB " ++ versionText version ++ " at "
          ++ connection.base⟩] }
  | .error error => { answer := .error error, state }

def documentType : Nat := 2

def edgeType : Nat := 3

/-- Asks for an object that may be there already, and tells if it is new. -/
def ensure {ν : Type} (network : Network ν) (request : Request) (label : String) (state : ν) :
    Reply ν Unit :=
  match network.create request state with
  | (.error fault, state) => { answer := .error (.http fault), state }
  | (.ok outcome, state) =>
      { answer := .ok (), state
        events := if outcome = .created then [⟨.info, "Created " ++ label⟩] else [] }

/-- Asks for one object after the other, up to the first that cannot be had. -/
def ensureEach {κ ν : Type} (ensureOne : κ → ν → Reply ν Unit) : List κ → ν → Reply ν Unit
  | [], state => { answer := .ok (), state }
  | first :: later, state => (ensureOne first state).andThen fun _ => ensureEach ensureOne later

namespace Connection

variable {ν : Type} (connection : Connection) (network : Network ν)

def ensureCollection (collection : String) (type : Nat) : ν → Reply ν Unit :=
  ensure network (connection.collectionRequest collection type) ("collection: " ++ collection)

/-- Creates what the property graph needs: the database, the collections of the nodes and of the
edges, and the named graph. -/
def ensureSchema (graph : String) (state : ν) : Reply ν Unit :=
  (ensure network connection.databaseRequest ("database: " ++ connection.database) state).andThen
    fun _ state =>
      (ensureEach (fun nodeClass : NodeClass =>
        connection.ensureCollection network nodeClass.name documentType) NodeClass.all
        state).andThen fun _ state =>
          (ensureEach (fun edgeClass : EdgeClass =>
            connection.ensureCollection network edgeClass.name edgeType) EdgeClass.all
            state).andThen fun _ =>
              ensure network (connection.graphRequest graph) ("graph: " ++ graph)

end Connection

structure ImportResult where
  created : UInt64 := 0
  updated : UInt64 := 0
  errors : UInt64 := 0
  deriving DecidableEq

namespace ImportResult

def format : Json.RecordFormat ImportResult where
  name := "ImportResponse"
  blank := {}
  fields := [
    .omittable "created" Json.readCount fun result created => { result with created },
    .omittable "updated" Json.readCount fun result updated => { result with updated },
    .omittable "errors" Json.readCount fun result errors => { result with errors }]

def accepted (result : ImportResult) : UInt64 :=
  result.created + result.updated

/-- The number of documents taken, unless there are errors and none was. -/
def answer (result : ImportResult) : Except DeliveryError Nat :=
  if result.accepted = 0 ∧ result.errors > 0 then
    .error (.rejected name ("all " ++ toString result.errors ++ " documents failed to import"))
  else
    .ok result.accepted.toNat

def events (result : ImportResult) (batch : Batch) : List Event :=
  if result.errors > 0 then
    [⟨.warn, "ArangoDB rejected " ++ toString result.errors ++ " of " ++ toString batch.size
      ++ " documents in " ++ batch.collection⟩]
  else
    []

end ImportResult

def Connection.upsert {ν : Type} (connection : Connection) (network : Network ν) (batch : Batch)
    (state : ν) : Reply ν Nat :=
  let (answer, state) :=
    ask network (connection.importRequest batch) ImportResult.format.read state
  match answer with
  | .error error => { answer := .error error, state }
  | .ok result =>
      match result.answer with
      | .error error => { answer := .error error, state }
      | .ok accepted => { answer := .ok accepted, state, events := result.events batch }

def Connection.destination {ν : Type} (connection : Connection) (network : Network ν) :
    Destination ν where
  name := name
  upsert := fun batch state => connection.upsert network batch state

end CodeGraph.Arango
