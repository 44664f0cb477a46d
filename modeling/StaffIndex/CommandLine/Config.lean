import StaffIndex.Decimal.Reading
import StaffIndex.Net.Address
import StaffIndex.Search.Engine

/-!
# Configuration

The arguments are scanned from the second one on. Each of the five flags takes the argument after it, whatever that is,
and any other argument is passed over. A flag that comes again replaces what it set before, and the first flag without a
value or with a bad one is the error. The address to listen on has to be given.
-/

namespace StaffIndex

structure Config where
  address : Net.Address
  databaseUrl : Option String
  seedPath : Option String
  search : Search.Settings

inductive Flag where
  | bind
  | databaseUrl
  | seed
  | threshold
  | maxLimit
  deriving DecidableEq

namespace Flag

def text : Flag → String
  | bind => "--bind"
  | databaseUrl => "--database-url"
  | seed => "--seed"
  | threshold => "--similarity-threshold"
  | maxLimit => "--max-limit"

def ofText? (argument : String) : Option Flag :=
  [bind, databaseUrl, seed, threshold, maxLimit].find? fun f => f.text = argument

end Flag

inductive ConfigError where
  | missingValue (flag : Flag)
  | badAddress
  | badThreshold (e : Decimal.FloatError)
  | thresholdOutOfRange
  | badLimit (e : Decimal.CountError)
  | zeroLimit
  | noAddress
  deriving DecidableEq

namespace ConfigError

/-- What is wrong, in short. -/
def context : ConfigError → String
  | missingValue flag => s!"missing value for {flag.text}"
  | badAddress => "invalid --bind address"
  | badThreshold _ => "invalid --similarity-threshold"
  | thresholdOutOfRange => "--similarity-threshold must be within [0, 1]"
  | badLimit _ => "invalid --max-limit"
  | zeroLimit => "--max-limit must be positive"
  | noAddress => "--bind is required"

def cause? : ConfigError → Option String
  | badAddress => some "invalid socket address syntax"
  | badThreshold e => some e.message
  | badLimit e => some e.message
  | _ => none

def message (e : ConfigError) : String :=
  match e.cause? with
  | some cause => s!"{e.context}: {cause}"
  | none => e.context

end ConfigError

/-- What the flags scanned so far have set. -/
structure Scanned where
  address : Option Net.Address := none
  databaseUrl : Option String := none
  seedPath : Option String := none
  search : Search.Settings := {}

namespace Scanned

def set (c : Scanned) (flag : Flag) (value : String) : Except ConfigError Scanned :=
  match flag with
  | .bind => match Net.Address.parse value with
    | some address => .ok { c with address := some address }
    | none => .error .badAddress
  | .databaseUrl => .ok { c with databaseUrl := some value }
  | .seed => .ok { c with seedPath := some value }
  | .threshold => match Decimal.readFloat value with
    | .error e => .error (.badThreshold e)
    | .ok x =>
      if 0 ≤ x && x ≤ 1 then .ok { c with search.threshold := x } else .error .thresholdOutOfRange
  | .maxLimit => match Decimal.readCount value with
    | .error e => .error (.badLimit e)
    | .ok n => if n = 0 then .error .zeroLimit else .ok { c with search.maxLimit := n }

def scan (c : Scanned) : List String → Except ConfigError Scanned
  | [] => .ok c
  | argument :: arguments => match Flag.ofText? argument with
    | none => c.scan arguments
    | some flag => match arguments with
      | [] => .error (.missingValue flag)
      | value :: arguments => match c.set flag value with
        | .ok c => c.scan arguments
        | .error e => .error e

end Scanned

/-- The configuration given by the arguments, of which the first names the program. Without a flag for it the database
is that of the environment. -/
def Config.ofArguments (arguments : List String) (databaseUrl : Option String) : Except ConfigError Config :=
  match Scanned.scan {} (arguments.drop 1) with
  | .error e => .error e
  | .ok c => match c.address with
    | none => .error .noAddress
    | some address => .ok ⟨address, c.databaseUrl.or databaseUrl, c.seedPath, c.search⟩

end StaffIndex
