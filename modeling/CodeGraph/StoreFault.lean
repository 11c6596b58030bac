import CodeGraph.FileTree

/-!
# Faults of a store

Why the store in a directory cannot be opened.
-/

set_option autoImplicit false

namespace CodeGraph

inductive Incompatibility where
  /-- Its settings are no text, as those of old stores. -/
  | settingsNoText
  | compression (stored : Bool)
  | segmentSize (stored : Nat)
  | version (stored wanted : Nat × Nat)
  deriving DecidableEq

def versionText (version : Nat × Nat) : String :=
  toString version.1 ++ "." ++ toString version.2

def Incompatibility.message : Incompatibility → String
  | settingsNoText =>
      "failed to open database that may have been created using a sled version earlier than 0.29"
  | compression stored =>
      "cannot change compression values across restarts. old value of use_compression loaded from "
        ++ "disk: " ++ toString stored ++ ", currently set value: " ++ toString (!stored) ++ "."
  | segmentSize stored =>
      "cannot change the io buffer size across restarts. please change it back to "
        ++ toString stored
  | version stored wanted =>
      "This database was created using pagecache version " ++ versionText stored
        ++ ", but our pagecache version is " ++ versionText wanted ++ ". Please perform an upgrade "
        ++ "using the sled::Db::export and sled::Db::import methods."

inductive StoreFault where
  | path (fault : PathFault)
  | system (reason : String)
  /-- A file of the store holds something else than it should. -/
  | corrupted
  | unsupported (reason : Incompatibility)

def StoreFault.message : StoreFault → String
  | path fault => "IO error: " ++ fault.message
  | system reason => "IO error: " ++ reason
  | corrupted => "Read corrupted data at file offset None backtrace ()"
  | unsupported reason => "Unsupported: " ++ reason.message

end CodeGraph
