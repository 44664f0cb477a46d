/-!
# Media types

The media type of a request body: a type and a subtype, the latter perhaps with a suffix after its last plus, and
parameters, of which only the form is checked. Names are compared in lower case.
-/

namespace StaffIndex.Http

/-- The characters that names are made of. -/
def isTokenChar (c : Char) : Bool :=
  c.isAlphanum || "!#$%&'*+-.^_`|~".toList.contains c

/-- The characters that a value in quotes is made of. -/
def isQuotedChar (c : Char) : Bool := ' ' ≤ c && c ≤ '~'

structure MediaType where
  type : String
  /-- The subtype without its suffix. -/
  subtype : String
  suffix : Option String
  deriving DecidableEq

namespace MediaType

/-- A place in the parameters, each of which is a name, an equals sign and a value, behind a semicolon. -/
inductive Place where
  /-- Before a name. -/
  | start
  | name
  /-- After an equals sign. -/
  | equals
  | value
  /-- After an opening quote. -/
  | opened
  | quoted
  /-- After a closing quote. -/
  | closed
  deriving DecidableEq

namespace Place

/-- The place after one more character, if it may stand there. -/
def next (place : Place) (c : Char) : Option Place :=
  match place with
  | start => if c = ' ' then some start else if isTokenChar c then some name else none
  | name => if c = '=' then some equals else if isTokenChar c then some name else none
  | equals => if c = '"' then some opened else if isTokenChar c then some value else none
  | value => if c = ';' then some start else if isTokenChar c then some value else none
  | opened => if isQuotedChar c then some quoted else none
  | quoted => if c = '"' then some closed else if isQuotedChar c then some quoted else none
  | closed => if c = ' ' then some closed else if c = ';' then some start else none

/-- May the parameters end here? -/
def isEnd : Place → Bool
  | start | equals | value | closed => true
  | name | opened | quoted => false

end Place

/-- Are these well-formed parameters? -/
def paramsFormed (text : List Char) : Bool := (text.foldlM Place.next .start).any Place.isEnd

def lowered (name : List Char) : String := String.ofList (name.map Char.toLower)

/-- The subtype and the suffix: the last plus divides them unless it is the first character. -/
def splitSuffix (subtype : List Char) : String × Option String :=
  let (after, before) := subtype.reverse.span (· ≠ '+')
  match before with
  | _ :: c :: before => (lowered (c :: before).reverse, some (lowered after.reverse))
  | _ => (lowered subtype, none)

/-- The media type that a text stands for. -/
def parse (text : String) : Option MediaType :=
  let (type, rest) := text.toList.span isTokenChar
  match rest with
  | '/' :: rest =>
    let (sub, params) := rest.span isTokenChar
    let formed := match params with
      | [] => true
      | ';' :: params => sub ≠ [] && paramsFormed params
      | _ => false
    if type ≠ [] && formed then
      let (subtype, suffix) := splitSuffix sub
      some ⟨lowered type, subtype, suffix⟩
    else none
  | _ => none

/-- JSON goes by its own name or by that of a format written in it. -/
def isJson (m : MediaType) : Bool :=
  m.type = "application" && (m.subtype = "json" || m.suffix = some "json")

end MediaType

end StaffIndex.Http
