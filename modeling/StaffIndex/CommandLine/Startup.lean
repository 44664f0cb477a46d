import StaffIndex.CommandLine.Config
import StaffIndex.Service.Seed

/-!
# Starting up

The program reads its configuration, seeds its stores, and takes its address. Whatever fails first stops it, with some
lines on what went wrong and the exit code 1.
-/

namespace StaffIndex

/-- What the program finds around it. -/
structure Surroundings where
  databaseUrl : Option String := none
  /-- The contents of the file of that name. -/
  file : String → Except FileError String
  /-- Is somebody else listening there? -/
  taken : Net.Address → Bool

/-- Why the program stops by itself. -/
inductive Stop where
  /-- The program has the given name. -/
  | config (program : String) (e : ConfigError)
  | seed (e : SeedError)
  | addressTaken

namespace Stop

def usage : String :=
  "Usage: workday-search --bind <addr:port> [--database-url <url>] [--seed <employees.json>] " ++
    "[--similarity-threshold <0..1>] [--max-limit <n>]"

/-- What is written on the way out. -/
def lines : Stop → List String
  | config program e =>
    [e.context, usage, s!"Example: {program} --bind 127.0.0.1:8080 --seed staff.json"]
  | seed e => [s!"Error: {e.context}", "", "Caused by:", s!"    {e.cause}"]
  | addressTaken => ["Error: Address already in use (os error 98)"]

def exitCode : Stop → Nat := fun _ => 1

end Stop

/-- The service as configured and seeded, and its configuration. -/
def startUp (around : Surroundings) (arguments : List String) : Except Stop (Config × Service) :=
  match Config.ofArguments arguments around.databaseUrl with
  | .error e => .error (.config (arguments.head?.getD "") e)
  | .ok config =>
    let service : Service := { settings := config.search }
    let seeded : Except SeedError Service := match config.seedPath with
      | none => .ok service
      | some path => service.seed path (around.file path)
    match seeded with
    | .error e => .error (.seed e)
    | .ok service => if around.taken config.address then .error .addressTaken else .ok (config, service)

end StaffIndex
