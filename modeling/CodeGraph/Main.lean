import CodeGraph.Session

/-!
# The program

Reads the input and the local stores, carries out the command, writes the stores back and prints
what is told.  There is no transport to servers in it, so a command that needs one reports that the
network cannot be reached.
-/

set_option autoImplicit false

namespace CodeGraph.Program

open CommandLine (Command Environment Invocation)

def readEnvironment : IO Environment :=
  CommandLine.fallbackVariables.filterMapM fun name => do
    let value? ← IO.getEnv name
    return value?.map fun value => (name, value)

def directoryCode : UInt32 := 21

def pathFault? : IO.Error → Option PathFault
  | .noFileOrDirectory .. => some .notFound
  | .alreadyExists .. => some .fileExists
  | .inappropriateType _ code _ =>
      some (if code = directoryCode then .isDirectory else .notDirectory)
  | .invalidArgument .. => some .nameTooLong
  | _ => none

def loadInput (path : String) : IO (Except LoadError EntityGraph) := do
  try
    let content ← IO.FS.readBinFile path
    return EntityGraph.decode path content
  catch error =>
    match pathFault? error with
    | some fault => return .error (.ofPathFault path fault)
    | none => return .error (.unreadable path (toString error))

def storeFile (directory : String) : String :=
  joinPath directory "store.json"

def readStore (text : String) : Except DeliveryError Store :=
  match Json.parse text.toList with
  | .error fault => .error (.undecodable fault)
  | .ok value =>
      match Store.ofValue? value with
      | some store => .ok store
      | none => .error (.storage .corrupted)

/-- Makes a directory with those above it, unless a file is in the way. -/
def makeDirectory (directory : String) : IO Unit := do
  try
    IO.FS.createDir directory
  catch error =>
    match error with
    | .inappropriateType .. => throw error
    | _ => IO.FS.createDirAll directory

def storeFault (error : IO.Error) : StoreFault :=
  ((pathFault? error).map .path).getD (.system (toString error))

def openStore (directory : String) : IO (Except DeliveryError Store) := do
  try
    makeDirectory directory
    let text ← IO.FS.readFile (storeFile directory)
    return readStore text
  catch error =>
    match storeFault error with
    | .path .notFound => return .ok .empty
    | fault => return .error (.storage fault)

def storeDirectories : Command → List String
  | .write options graph search =>
      match options.store with
      | some directory =>
          (if graph.isSome then [joinPath directory "graph"] else [])
            ++ (if search.isSome then [joinPath directory "search"] else [])
      | none => []
  | .inspect _ _ => []

def openStores : List String → IO (List (String × Except DeliveryError Store))
  | [] => return []
  | directory :: later => do
      let store ← openStore directory
      let stores ← if store.toBool then openStores later else pure []
      return (directory, store) :: stores

/-- Writes the stores in directories, and gives the places where that fails, with the reasons. -/
def writeStores (world : World Unit) : List String → IO (List (String × StoreFault))
  | [] => return []
  | directory :: later => do
      let place := settledPath directory
      let fault? ← try
          if let some store := world.stores.get? place then
            IO.FS.writeFile (storeFile directory) (.ofList store.toValue.compact)
          pure none
        catch error => pure (some (storeFault error))
      let faults ← writeStores world later
      return fault?.toList.map (place, ·) ++ faults

def refusingDisk (faults : List (String × StoreFault)) : Disk Unit :=
  fun place _ outside => ((faults.lookup place).elim (.ok ()) .error, outside)

/-- Carries out a session and writes its stores.  Files are written when all is done, so that a
place where that fails is only known then: the session is carried out again with a disk that refuses
what is written there. -/
def settle (session : Disk Unit → Outcome Unit) (directories : List String) :
    Nat → List (String × StoreFault) → IO (Outcome Unit)
  | 0, faults => return session (refusingDisk faults)
  | tries + 1, faults => do
      let outcome := session (refusingDisk faults)
      let writable := directories.filter fun directory =>
        (faults.lookup (settledPath directory)).isNone
      let refused ← writeStores outcome.world writable
      if refused.isEmpty then return outcome
      settle session directories tries (refused ++ faults)

/-- Prints what is told.  Of the events those count that matter at least so much. -/
def tell (verbose : Bool) : Message → IO Unit
  | .notice text => IO.eprintln text
  | .event event =>
      match event.level with
      | .trace => return ()
      | .debug => if verbose then IO.eprintln event.line else return ()
      | _ => IO.eprintln event.line

def carryOut (invocation : Invocation) : IO UInt32 := do
  let command := invocation.command
  let started ← IO.monoMsNow
  let loaded ← loadInput command.input
  let stores ← openStores (if loaded.toBool then storeDirectories command else [])
  let surroundings (disk : Disk Unit) : Surroundings Unit := {
    load := fun _ => loaded
    openStore := fun path _ => { answer := (stores.lookup path).getD (.ok .empty), state := () }
    disk
    network := Http.Network.unreachable (started / 1000) }
  let outcome ← settle (fun disk => (surroundings disk).run command { outside := () })
    (stores.map Prod.fst) stores.length []
  for message in outcome.told do
    tell invocation.verbose message
  let ended ← IO.monoMsNow
  if let some summary := outcome.summary then
    IO.print (summary.print command.json (ended - started))
  return outcome.exitStatus.toUInt32

end CodeGraph.Program

def main (arguments : List String) : IO UInt32 := do
  let environment ← CodeGraph.Program.readEnvironment
  match CodeGraph.CommandLine.parse environment arguments with
  | .ok invocation => CodeGraph.Program.carryOut invocation
  | .error .version => do
      IO.println CodeGraph.CommandLine.versionLine
      return 0
  | .error .help => do
      IO.println CodeGraph.CommandLine.usageLine
      return 0
  | .error .refused => do
      IO.eprintln CodeGraph.CommandLine.usageLine
      return 2
