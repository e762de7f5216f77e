import ShapeKit.Validation.Event
import ShapeKit.Json.Writer

/-!
# Command output

What the commands print, in one of two formats. In text format a message is
printed as it is, data as indented JSON and events one per line; in JSON
format a message becomes `{"success": true, "message": ...}`, and data and
event lists are printed as compact JSON. Every print ends with a newline.

The summary of a list of events counts them by severity.
-/

namespace ShapeKit.Cli

open Json

/-- An output format. -/
inductive Format where
  | text | json
deriving DecidableEq, Repr

/-- The name of a format. -/
def Format.name : Format → String
  | .text => "text"
  | .json => "json"

namespace Format

/-- A success message as printed. -/
def success (f : Format) (message : String) : String :=
  match f with
  | .text => message ++ "\n"
  | .json => (Node.obj [("success", .bool true), ("message", .str message)]).compact ++ "\n"

/-- Structured data as printed. -/
def data (f : Format) (n : Node) : String :=
  match f with
  | .text => n.pretty ++ "\n"
  | .json => n.compact ++ "\n"

/-- Events as printed: one line each, or one JSON array. -/
def events (f : Format) (es : List Event) : String :=
  match f with
  | .text => String.join (es.map fun e => e.text ++ "\n")
  | .json => f.data (.arr (es.map Event.toNode))

end Format

/-- Event counts per severity. -/
structure Summary where
  errors : Nat := 0
  dangers : Nat := 0
  warnings : Nat := 0
  notes : Nat := 0
  suppressed : Nat := 0
deriving DecidableEq, Repr

namespace Summary

/-- Counts one more event. -/
def add (s : Summary) : Severity → Summary
  | .error => { s with errors := s.errors + 1 }
  | .danger => { s with dangers := s.dangers + 1 }
  | .warning => { s with warnings := s.warnings + 1 }
  | .note => { s with notes := s.notes + 1 }
  | .suppressed => { s with suppressed := s.suppressed + 1 }

/-- The counts of a list of events. -/
def count (es : List Event) : Summary := es.foldl (fun s e => s.add e.severity) {}

/-- The summary as text. -/
def text (s : Summary) : String :=
  s!"{s.errors} error(s), {s.dangers} danger(s), {s.warnings} warning(s), {s.notes} note(s), {s.suppressed} suppressed"

/-- The summary as a JSON object. -/
def toNode (s : Summary) : Node :=
  .obj [("errors", .num (.nat s.errors)), ("dangers", .num (.nat s.dangers)),
    ("warnings", .num (.nat s.warnings)), ("notes", .num (.nat s.notes)),
    ("suppressed", .num (.nat s.suppressed))]

end Summary

end ShapeKit.Cli
