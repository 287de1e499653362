/-
# ChunkVault.Log.Event -- what the server reports about itself, and the lines that report it

An event has a level, a message and named values. It is written on one line, either as the message with
the values after it or as a JSON object. What differs from one run to the next has no place on a line: the
time of an event, and some of its values.
-/
import ChunkVault.Text.Printable
import ChunkVault.Text.Quoted

namespace ChunkVault.Log

/-- How much an event matters, the gravest first. -/
inductive Level where
  | error
  | warn
  | info
  | debug
  | trace
deriving DecidableEq

namespace Level

/-- The place of a level, counted from the gravest, which is the first. -/
def rank : Level → Nat
  | error => 1
  | warn => 2
  | info => 3
  | debug => 4
  | trace => 5

/-- The name of a level as events are written. -/
def name : Level → String
  | error => "ERROR"
  | warn => "WARN"
  | info => "INFO"
  | debug => "DEBUG"
  | trace => "TRACE"

end Level

/-- A value of an event. -/
inductive FieldValue where
  /-- A string, which a plain line puts in quotes. -/
  | string (s : String)
  /-- The text of something else, which a plain line takes as it is. -/
  | shown (s : String)
  | number (n : Nat)
  /-- Something that differs from one run to the next. -/
  | varying
deriving DecidableEq

/-- Something that happened. -/
structure Event where
  level : Level
  /-- The part of the program that it comes from. -/
  target : String
  message : String
  fields : List (String × FieldValue)
deriving DecidableEq

namespace Event

/-- The names of the values of an event; the message is one of them. -/
def fieldNames (e : Event) : List String := "message" :: e.fields.map (·.1)

/-! ## Plain lines -/

/-- A value on a plain line. -/
def plainField? : String × FieldValue → Option String
  | (name, .string s) => some (name ++ "=" ++ Text.quoted s)
  | (name, .shown s) => some (name ++ "=" ++ s)
  | (name, .number n) => some (name ++ "=" ++ toString n)
  | (_, .varying) => none

/-- The plain line of an event. -/
def plain (e : Event) : String :=
  String.intercalate " " (e.level.name :: e.message :: e.fields.filterMap plainField?)

/-! ## JSON -/

/-- A value in a JSON object. -/
def jsonField? : String × FieldValue → Option (String × String)
  | (name, .string s) | (name, .shown s) => some (name, Text.jsonString s)
  | (name, .number n) => some (name, toString n)
  | (_, .varying) => none

/-- The JSON object of an event. -/
def json (e : Event) : String :=
  let fields := ("message", Text.jsonString e.message) :: e.fields.filterMap jsonField?
  Text.jsonObject
    [("level", Text.jsonString e.level.name), ("fields", Text.jsonObject fields),
      ("target", Text.jsonString e.target)]

end Event

/-- How events are written. -/
inductive Format where
  | plain
  | json
deriving DecidableEq

/-- The line of an event. -/
def Format.line : Format → Event → String
  | .plain, e => e.plain
  | .json, e => e.json

end ChunkVault.Log
