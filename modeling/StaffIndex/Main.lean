import StaffIndex.CommandLine.Startup
import StaffIndex.Service.Http
import Std.Http.Server

/-!
# The program

Starts up from the arguments and the environment, then answers requests on its address, one after the other. Before each
of them the queued tasks are carried out.
-/

namespace StaffIndex

/-- The address to listen on. Networks are not told apart. -/
def Net.Address.socket : Net.Address → Std.Net.SocketAddress
  | v4 host port => .v4 ⟨⟨.ofFn fun i => (host.octets.getD i 0).toUInt8⟩, port.toUInt16⟩
  | v6 host port => .v6 ⟨⟨.ofFn fun i => (host.groups.getD i 0).toUInt16⟩, port.toUInt16⟩

/-- The request with this head and this body. -/
def Http.Request.ofHead (head : Std.Http.Request.Head) (body : ByteArray) : Http.Request where
  method := toString head.method
  uri := toString head.uri
  contentType := (head.headers.get? .contentType).map (·.value)
  body := body

/-- The response as it is sent. -/
def Http.Response.send (r : Http.Response) : Std.Async.Async (Std.Http.Response Std.Http.Body.Full) :=
  let status := (Std.Http.Status.ofCode none r.status.toUInt16).getD .internalServerError
  match r.content with
  | .nothing => (Std.Http.Response.withStatus status).bytes .empty
  | content => (Std.Http.Response.withStatus status).json (String.ofList content.written)

/-- The running service, asked by one connection at a time. -/
structure Server where
  service : Std.Mutex Service

instance : Std.Http.Server.Handler Server where
  onRequest server request := do
    let body : ByteArray ← request.body.readAll
    let request := Http.Request.ofHead request.line body
    match ← server.service.atomically (modifyGet fun s => s.settle.serve request) with
    | some response => return (← response.send)
    | none => throw (IO.userError "no response")

/-- Listens on the address until the program is stopped. -/
def Service.listen (service : Service) (address : Net.Address) : Std.Async.Async Unit := do
  let server ← Std.Http.Server.serve address.socket (Server.mk (← Std.Mutex.new service))
  server.waitShutdown

/-- The contents of the file, or why it cannot be read. -/
def readFile (path : String) : IO (Except FileError String) := do
  try
    match String.fromUTF8? (← IO.FS.readBinFile path) with
    | some text => return .ok text
    | none => return .error .notText
  catch
    | .permissionDenied .. => return .error .permissionDenied
    -- A path that goes on after a file fails when it is opened, a directory when it is read.
    | .inappropriateType (some _) .. => return .error .notDirectory
    | .inappropriateType none .. => return .error .isDirectory
    | .invalidArgument .. => return .error .nameTooLong
    | _ => return .error .missing

/-- Says why the program stops. -/
def Stop.report (stop : Stop) : IO UInt32 := do
  for line in stop.lines do
    IO.eprintln line
  return stop.exitCode.toUInt32

end StaffIndex

open StaffIndex in
/-- Runs the program until it is stopped or stops by itself. -/
def main (arguments : List String) : IO UInt32 := do
  let arguments := "workday-search" :: arguments
  let databaseUrl ← IO.getEnv "DATABASE_URL"
  let seed ← match Config.ofArguments arguments databaseUrl with
    | .ok { seedPath := some path, .. } => readFile path
    | _ => pure (.error .missing)
  match startUp { databaseUrl, file := fun _ => seed, taken := fun _ => false } arguments with
  | .error stop => stop.report
  | .ok (config, service) =>
    try
      (service.listen config.address).block
      return 0
    catch
      | .resourceBusy .. => Stop.addressTaken.report
      | e => IO.eprintln s!"Error: {e}"; return 1
