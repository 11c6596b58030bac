import CodeGraph.Session
import CodeGraph.StoreDirectory

/-!
# Sites

A site is where a session takes place: a tree of files, in which the input lies and the stores are
opened, and the state of a network.
-/

set_option autoImplicit false

namespace CodeGraph

/-- The path of the working directory, the files around it, and the state of the network. -/
structure Site (ν : Type) where
  home : String := ""
  files : FileTree := {}
  network : ν

namespace Site

variable {ν : Type}

/-- Opens the store in a directory, which is made if it is not there.  Directories of a tree of
files hold no documents yet. -/
def openStore (path : String) (site : Site ν) : Reply (Site ν) Store :=
  let (opened, files) := site.files.openStore site.home path
  { answer := match opened with
      | .ok () => .ok .empty
      | .error fault => .error (.storage fault)
    state := { site with files } }

def reach (network : Http.Network ν) : Http.Network (Site ν) where
  clock := network.clock
  client := network.client
  exchange := fun request site =>
    let (answer, state) := network.exchange request site.network
    (answer, { site with network := state })

def surroundings (site : Site ν) (network : Http.Network ν) : Surroundings (Site ν) where
  load := EntityGraph.load site.files
  openStore := openStore
  disk := fun _ _ site => (.ok (), site)
  network := reach network

/-- The store in a directory, if there is such a directory and it can be opened as one: the store
that was opened there, and otherwise an empty one. -/
def storeAt? (world : World (Site ν)) (path : String) : Option Store :=
  match world.outside.files.find path, (openStore path world.outside).answer with
  | .ok .directory, .ok fresh => some ((world.stores.get? (settledPath path)).getD fresh)
  | _, _ => none

end Site

end CodeGraph
