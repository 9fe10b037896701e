import Gossip.Bytes.LittleEndian
import Gossip.Text.Quoted

/-! Diagnostic text of values.

Values are shown for people who debug: a record by its name and fields, a tagged value by its name
and content, a list in brackets, all on one line. -/
namespace Gossip.Text.Diagnostic

/-- A record: its name, then its fields in braces. -/
def record (name : String) (fields : List (String × String)) : String :=
  let shown := fields.map fun field => field.1 ++ ": " ++ field.2
  name ++ " \x7b " ++ String.intercalate ", " shown ++ " \x7d"

/-- A value under a name. -/
def tagged (name value : String) : String :=
  name ++ "(" ++ value ++ ")"

/-- Values between brackets. -/
def list (values : List String) : String :=
  "[" ++ String.intercalate ", " values ++ "]"

/-- A byte string, as numbers. -/
def bytes (bytes : Bytes) : String :=
  list (bytes.map toString)

/-- Pairs of a key and a value between braces. -/
def mapping (entries : List (String × String)) : String :=
  "\x7b" ++ String.intercalate ", " (entries.map fun entry => entry.1 ++ ": " ++ entry.2) ++ "\x7d"

/-- A value that may be absent. -/
def optional : Option String → String
  | none => "None"
  | some value => tagged "Some" value

end Gossip.Text.Diagnostic
