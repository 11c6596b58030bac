import CodeGraph.Json.Reader
import CodeGraph.Json.Skip

/-!
# Records

A record is written as an object of its fields or as the list of them in order.  In an object
the fields may stand in any order, unknown members are passed, and no field may come twice.  In a
list fields at the end may be missing if they have a default.
-/

set_option autoImplicit false

namespace CodeGraph.Json

structure Field (ρ : Type) where
  name : String
  /-- Whether an object has to have the field. -/
  required : Bool
  /-- Whether a list has to be long enough for the field. -/
  positional : Bool
  read : ρ → Reader ρ

namespace Field

variable {ρ α : Type}

def into (reader : Reader α) (set : ρ → α → ρ) : ρ → Reader ρ := fun record c => do
  let (value, c) ← reader c
  return (set record value, c)

def defaulted (name : String) (reader : Reader α) (set : ρ → Option α → ρ) : Field ρ :=
  ⟨name, false, false, into (readOption reader) set⟩

def optional (name : String) (reader : Reader α) (set : ρ → Option α → ρ) : Field ρ :=
  ⟨name, false, true, into (readOption reader) set⟩

def mandatory (name : String) (reader : Reader α) (set : ρ → α → ρ) : Field ρ :=
  ⟨name, true, true, into reader set⟩

/-- A field that may not be null, and may be missing in either form. -/
def omittable (name : String) (reader : Reader α) (set : ρ → α → ρ) : Field ρ :=
  ⟨name, false, false, into reader set⟩

end Field

structure RecordFormat (ρ : Type) where
  name : String
  fields : List (Field ρ)
  blank : ρ

namespace RecordFormat

variable {ρ : Type}

/-- Reads a member of the object form: the names of the fields read so far stand beside the
record. -/
def readMember (format : RecordFormat ρ) (state : List String × ρ) (name : String) :
    Reader (List String × ρ) := fun c =>
  match format.fields.find? fun field => field.name = name with
  | some field =>
      if state.1.contains name then
        .error ((c.settle '}').fault (.duplicateField name))
      else do
        let c ← readColon c
        let (record, c) ← field.read state.2 c
        return ((name :: state.1, record), c)
  | none => do
      let c ← readColon c
      let c ← skipValue c
      return (state, c)

def firstMissing? (format : RecordFormat ρ) (present : List String) : Option String :=
  (format.fields.find? fun field => field.required && !present.contains field.name).map Field.name

def readObject (format : RecordFormat ρ) : Reader ρ := fun c => do
  let ((present, record), c) ← readMembers format.readMember c.rest true ([], format.blank) c
  match format.firstMissing? present with
  | some name => throw (c.next.fault (.missingField name))
  | none => return (record, c.next)

def listForm (format : RecordFormat ρ) : String :=
  "struct " ++ format.name ++ " with " ++ toString format.fields.length ++ " elements"

def readPositions (format : RecordFormat ρ) : List (Field ρ) → Nat → ρ → Reader ρ
  | [], _, record, c => .ok (record, c)
  | field :: later, passed, record, c => do
      let (more, c) ← nextItem (passed = 0) c
      if more then
        let (record, c) ← field.read record c
        format.readPositions later (passed + 1) record c
      else
        match (field :: later).findIdx? Field.positional with
        | some ahead => throw ((c.settle ']').fault (.wrongLength (passed + ahead) format.listForm))
        | none => return (record, c)

def readSequence (format : RecordFormat ρ) : Reader ρ := fun c => do
  let (record, c) ← format.readPositions format.fields 0 format.blank c
  let c ← closeList c
  return (record, c)

def read (format : RecordFormat ρ) : Reader ρ := fun c => do
  let c ← valueStart c
  match c.rest with
  | '{' :: _ => format.readObject c.next
  | '[' :: _ => format.readSequence c.next
  | _ => refuse ("struct " ++ format.name) c

end RecordFormat

end CodeGraph.Json
