import StaffIndex.Decimal.Shortest
import StaffIndex.Text.Quoted

/-!
# Errors of JSON text

Why a text is not JSON, or is JSON of another shape than the wanted one, and where in the wanted value the problem lies.
-/

namespace StaffIndex.Json

/-- What stood where something else was wanted. -/
inductive Found where
  | null
  | boolean (b : Bool)
  | integer (n : Int)
  | float (x : Float)
  | text (s : String)
  | sequence
  | map
  /-- The name of a variant without contents. -/
  | unitVariant

/-- What the text broke off in. -/
inductive Place where
  | value
  | list
  | object
  | text
  deriving DecidableEq

inductive Cause where
  | unfinished (place : Place)
  | expectedValue
  | expectedIdent
  | expectedColon
  | expectedCommaOrBracket
  | expectedCommaOrBrace
  | keyNotText
  | trailingComma
  | trailingCharacters
  | invalidNumber
  | numberOutOfRange
  | invalidEscape
  | invalidCodePoint
  | loneSurrogate
  | unfinishedPair
  | controlCharacter
  | wrongType (found : Found) (wanted : String)
  | wrongValue (found : Found) (wanted : String)
  | wrongLength (length : Nat) (wanted : String)
  | unknownVariant (name : String) (known : List String)
  | missingField (name : String)
  | duplicateField (name : String)

/-- One step into a value. -/
inductive Step where
  | field (name : String)
  | element (place : Nat)

/-- A problem, and the way from the outermost value to the innermost one that it lies in. -/
structure Error where
  path : List Step := []
  cause : Cause

/-- Floating-point numbers stand in messages with a fraction or an exponent. -/
def numberLayout : Decimal.Layout := ⟨-5, 15⟩

def Found.message : Found → String
  | null => "null"
  | boolean true => "boolean `true`"
  | boolean false => "boolean `false`"
  | integer n => s!"integer `{n}`"
  | float x => s!"floating point `{numberLayout.text x}`"
  | text s => s!"string {Text.quoted s}"
  | sequence => "sequence"
  | map => "map"
  | unitVariant => "unit variant"

def Place.name : Place → String
  | value => "a value"
  | list => "a list"
  | object => "an object"
  | text => "a string"

namespace Cause

def message : Cause → String
  | unfinished place => s!"EOF while parsing {place.name}"
  | expectedValue => "expected value"
  | expectedIdent => "expected ident"
  | expectedColon => "expected `:`"
  | expectedCommaOrBracket => "expected `,` or `]`"
  | expectedCommaOrBrace => "expected `,` or `\x7d`"
  | keyNotText => "key must be a string"
  | trailingComma => "trailing comma"
  | trailingCharacters => "trailing characters"
  | invalidNumber => "invalid number"
  | numberOutOfRange => "number out of range"
  | invalidEscape => "invalid escape"
  | invalidCodePoint => "invalid unicode code point"
  | loneSurrogate => "lone leading surrogate in hex escape"
  | unfinishedPair => "unexpected end of hex escape"
  | controlCharacter => "control character (\\u0000-\\u001F) found while parsing a string"
  | wrongType found wanted => s!"invalid type: {found.message}, expected {wanted}"
  | wrongValue found wanted => s!"invalid value: {found.message}, expected {wanted}"
  | wrongLength length wanted => s!"invalid length {length}, expected {wanted}"
  | unknownVariant name known =>
    s!"unknown variant `{name}`, expected one of " ++ ", ".intercalate (known.map fun k => s!"`{k}`")
  | missingField name => s!"missing field `{name}`"
  | duplicateField name => s!"duplicate field `{name}`"

/-- Is the text JSON as far as it was read, but of another shape? -/
def isShape : Cause → Bool
  | wrongType .. | wrongValue .. | wrongLength .. | unknownVariant .. | missingField _ | duplicateField _ => true
  | _ => false

end Cause

namespace Error

/-- The way to the problem: names joined by points, places in brackets. -/
def pathText : List Step → String
  | [] => ""
  | .element n :: path => s!"[{n}]" ++ pathText path
  | .field name :: path => name ++ (match path with
    | .field _ :: _ => "."
    | _ => "") ++ pathText path

/-- The problem behind its path, if it has one. -/
def located (e : Error) : String :=
  if e.path.isEmpty then e.cause.message else s!"{pathText e.path}: {e.cause.message}"

def message (e : Error) : String := e.cause.message

end Error

end StaffIndex.Json
