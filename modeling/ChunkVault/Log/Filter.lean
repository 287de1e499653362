/-
# ChunkVault.Log.Filter -- which events are written

A filter is a list of directives with commas between them. A directive names a level for all events, or
for those of some targets, or for those with a certain field:

    info
    server=debug
    server[{error}]=warn

Of the directives that an event falls under the most specific one decides: the one with the longest
target, then one with a field, then the one whose field comes last in the order of names, and of two for
the same target and field the last. An event under no directive is not written. A directive for the events
within a span, or for a value of a field, never applies, because no event lies in a span.

The form of a directive is looked for in the text without the blanks around it. Its parts are then taken
from the text as it is written, at the same places: a blank in front shifts all parts by its length, and one
at the end belongs to the last part.
-/
import ChunkVault.Log.Event
import ChunkVault.Log.Pattern
import ChunkVault.Text.Parts

namespace ChunkVault.Log

/-- The gravest levels, up to a last one; `none` stands for no level at all. -/
abbrev Threshold := Option Level

namespace Threshold

/-- The threshold with a number, from none to all. -/
def ofNumber? : Nat → Option Threshold
  | 0 => some none
  | 1 => some (some .error)
  | 2 => some (some .warn)
  | 3 => some (some .info)
  | 4 => some (some .debug)
  | 5 => some (some .trace)
  | _ => none

/-- The names of the thresholds. -/
def names : List (String × Threshold) :=
  [("off", none), ("error", some .error), ("warn", some .warn), ("info", some .info),
    ("debug", some .debug), ("trace", some .trace)]

/-- Reads a number or a name of either case. -/
def parse? (cs : List Char) : Option Threshold :=
  ((Text.unsigned? Text.maxWord64 cs).bind ofNumber?).orElse fun _ =>
    names.lookup (String.ofList (cs.map Char.toLower))

/-- Whether a threshold lets a level pass. -/
def allows (t : Threshold) (level : Level) : Bool := t.any fun last => level.rank ≤ last.rank

end Threshold

/-- A directive. -/
structure Directive where
  /-- What the target of an event has to begin with. -/
  target : Option String
  /-- Whether it asks for a span, or for the value of a field, which only spans are asked for. -/
  asksForSpan : Bool
  /-- The field that an event has to have. -/
  field : Option String
  threshold : Threshold
deriving DecidableEq

/-- Why a filter cannot be read. -/
inductive FilterError where
  | malformed
  /-- A part of a directive begins or ends within a character. -/
  | splitCharacter
deriving DecidableEq

namespace Directive

/-- A directive for all events. -/
def all (threshold : Threshold) : Directive := ⟨none, false, none, threshold⟩

/-! ## Reading -/

/-- A directive while it is read: as it is written, and without the blanks around it. -/
structure Draft where
  written : List Char
  trimmed : List Char

namespace Draft

/-- The place in the trimmed text where its last part begins. -/
def place (d : Draft) (last : List Char) : Nat := Text.byteLength d.trimmed - Text.byteLength last

/-- What is written from the place of one last part of the trimmed text up to that of another. -/
def cut (d : Draft) (first last : List Char) : Except FilterError (List Char) :=
  let part := do
    let rest ← Text.dropBytes? (d.place first) d.written
    Text.takeBytes? (d.place last - d.place first) rest
  match part with
  | some part => .ok part
  | none => .error .splitCharacter

/-- What is written from the place of a last part of the trimmed text to the end. -/
def cutRest (d : Draft) (first : List Char) : Except FilterError (List Char) :=
  match Text.dropBytes? (d.place first) d.written with
  | some part => .ok part
  | none => .error .splitCharacter

/-- The level after a target or brackets; without one all events pass. -/
def threshold (d : Draft) : List Char → Except FilterError Threshold
  | [] => .ok (some .trace)
  | '=' :: cs => do
    let name ← d.cutRest cs
    if name.isEmpty then return some .trace
    match Threshold.parse? name with
    | some t => return t
    | none => throw .malformed
  | _ => .error .malformed

/-- Reads the text of a field: its name, and whether a value is asked for. -/
def field (text : List Char) : Except FilterError (String × Bool) :=
  match Text.parts '=' text with
  | name :: value :: _ =>
    if Pattern.isFieldValue value then .ok (String.ofList name, true) else .error .malformed
  | _ => if text.isEmpty then .error .malformed else .ok (String.ofList text, false)

/-- Reads what stands behind an opening bracket: the name of a span or a field in braces, and the closing
bracket. -/
def inBrackets (d : Draft) (target : Option String) (cs : List Char) : Except FilterError Directive := do
  let isSpan (c : Char) : Bool := c ≠ ']' && c ≠ '\x7b'
  let rest := cs.dropWhile isSpan
  if rest.isEmpty then throw .malformed
  let span ← d.cut cs rest
  if rest.head? = some ']' then
    return ⟨target, true, none, ← d.threshold (rest.drop 1)⟩
  let inBraces := rest.drop 1
  let rest := inBraces.dropWhile (· ≠ '\x7d')
  if rest.isEmpty then throw .malformed
  let (name, hasValue) ← field (← d.cut inBraces rest)
  match rest.drop 1 with
  | ']' :: rest => return ⟨target, !span.isEmpty || hasValue, some name, ← d.threshold rest⟩
  | _ => throw .malformed

/-- Reads a directive without brackets and level: it is a level itself, or a target. -/
def bare (d : Draft) : Directive :=
  match Threshold.parse? d.written with
  | some t => all t
  | none => ⟨some (String.ofList d.written), false, none, some .trace⟩

end Draft

/-- A character that a directive without brackets may begin with. -/
def isStart (c : Char) : Bool := c = '-' || c = ':' || c = '_' || Text.isAlphanumeric c

/-- Reads a directive. -/
def parse (written : List Char) : Except FilterError Directive :=
  let d : Draft := ⟨written, Text.trim written⟩
  match d.trimmed with
  | [] => .error .malformed
  | '[' :: rest => d.inBrackets none rest
  | c :: _ =>
    if !isStart c then .error .malformed
    else
      let rest := d.trimmed.dropWhile fun c => c ≠ '=' && c ≠ '['
      if rest.isEmpty then .ok d.bare
      else do
        let target := some (String.ofList (← d.cut d.trimmed rest))
        if rest.head? = some '[' then d.inBrackets target (rest.drop 1)
        else return ⟨target, false, none, ← d.threshold rest⟩

/-! ## Deciding -/

/-- Whether an event falls under a directive. -/
def appliesTo (d : Directive) (e : Event) : Bool :=
  !d.asksForSpan && d.target.all (·.isPrefixOf e.target) && d.field.all (· ∈ e.fieldNames)

/-- How specific a target is: its length, counted from one. -/
def targetRank (d : Directive) : Nat := (d.target.map (·.utf8ByteSize + 1)).getD 0

/-- Whether a directive is at least as specific as another. -/
def isAsSpecificAs (d other : Directive) : Bool :=
  other.targetRank < d.targetRank ||
    (other.targetRank = d.targetRank &&
      match other.field, d.field with
      | none, _ => true
      | some _, none => false
      | some b, some a => b ≤ a)

end Directive

/-- A filter. -/
abbrev Filter := List Directive

namespace Filter

/-- The filter that is used when none is given: no event that is only of use to developers. -/
def default : Filter := [.all (some .info)]

/-- Reads a filter; empty directives are skipped. -/
def parse (s : String) : Except FilterError Filter :=
  ((Text.parts ',' s.toList).filter fun part => !part.isEmpty).mapM Directive.parse

/-- The directive that decides about an event. -/
def decisive? (f : Filter) (e : Event) : Option Directive :=
  (f.filter (·.appliesTo e)).foldl (fun best d =>
    if best.all d.isAsSpecificAs then some d else best) none

/-- Whether a filter lets an event pass. -/
def allows (f : Filter) (e : Event) : Bool := (f.decisive? e).any fun d => d.threshold.allows e.level

/-- The filter for a setting: one that is absent or malformed is replaced by the default. There is none if
the setting cannot be cut into its parts. -/
def ofSetting? : Option String → Option Filter
  | none => some default
  | some setting =>
    match parse setting with
    | .ok f => some f
    | .error .malformed => some default
    | .error .splitCharacter => none

end Filter
end ChunkVault.Log
