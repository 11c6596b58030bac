import CodeGraph.KeyMap
import CodeGraph.StoreFault
import CodeGraph.Text.Count
import CodeGraph.Text.Split

/-!
# Settings of a store

A store keeps its settings in a file: one in a line, a name and a value with a mark between them,
and behind the lines some bytes that guard them.  With other settings than those a store is not
opened again.
-/

set_option autoImplicit false

namespace CodeGraph

/-- The settings of a store: those of a new one, unless stated otherwise. -/
structure StoreSettings where
  segmentSize : Nat := 524288
  isCompressed : Bool := false
  version : Nat × Nat := (0, 34)
  deriving DecidableEq

namespace StoreSettings

def separator : String := ": "

def guardLength : Nat := 4

def beforeSeparator (text : List Char) : List Char :=
  ((Text.cutAtFirst separator.toList text).map Prod.fst).getD text

/-- The name and the value in a line.  A value ends where a separator follows. -/
def entryOfLine (line : List UInt8) : Except StoreFault (String × String) :=
  match String.fromUTF8? ⟨line.toArray⟩ with
  | none => .error (.unsupported .settingsNoText)
  | some text =>
      match Text.cutAtFirst separator.toList text.toList with
      | none => .error .corrupted
      | some (name, value) => .ok (.ofList name, .ofList (beforeSeparator value))

def truth? (text : String) : Option Bool :=
  if text = "true" then some true
  else if text = "false" then some false
  else none

def version? (text : String) : Option (Nat × Nat) :=
  match Text.pieces '.' text.toList with
  | major :: minor :: _ => do
      let major ← Text.count? major
      let minor ← Text.count? minor
      return (major, minor)
  | _ => none

def ofEntries? (entries : KeyMap String) : Option StoreSettings := do
  let segmentSize ← (entries.get? "segment_size").bind fun value => Text.count? value.toList
  let isCompressed ← (entries.get? "use_compression").bind truth?
  let version ← (entries.get? "version").bind version?
  return { segmentSize, isCompressed, version }

/-- The settings in the content of a file.  Of settings with one name the last counts. -/
def ofContent (content : ByteArray) : Except StoreFault StoreSettings := do
  let bytes := content.data.toList.take (content.size - guardLength)
  let entries ← (Text.byteLines bytes).mapM entryOfLine
  match ofEntries? (.ofList entries) with
  | some settings => return settings
  | none => throw .corrupted

def check (stored wanted : StoreSettings) : Except StoreFault Unit :=
  if stored.isCompressed ≠ wanted.isCompressed then
    .error (.unsupported (.compression stored.isCompressed))
  else if stored.segmentSize ≠ wanted.segmentSize then
    .error (.unsupported (.segmentSize stored.segmentSize))
  else if stored.version ≠ wanted.version then
    .error (.unsupported (.version stored.version wanted.version))
  else
    .ok ()

end StoreSettings

end CodeGraph
