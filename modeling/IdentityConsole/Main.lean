import IdentityConsole.Http.Wire
import IdentityConsole.Launch.Launch
import IdentityConsole.Screen.Terminal
import Std.Async.DNS
import Std.Async.TCP

/-!
# The program

All that reaches outside is here: files, the terminal and connections. What is to be done is decided
by the pure definitions, which are asked again once the answer of the server is known. The terminal
keeps its lines, so keys arrive when a line is sent. Only plain connections are made.
-/

namespace IdentityConsole.Program

/-! ## Files -/

/-- What stands at a path. -/
def readSlot (path : String) : IO FileSlot := do
  match ← (IO.FS.readBinFile path).toBaseIO with
  | .ok bytes => return .file bytes.toList
  | .error (.inappropriateType _ 21 _) => return .directory
  | .error (.inappropriateType ..) => return .blocked .notDirectory
  | .error (.noFileOrDirectory ..) => return .absent
  | .error error => throw error

def parent (path : String) : String :=
  String.ofList ((Text.dropEndWhile (· != '/') path.toList).dropLast)

def writeSlot (path : String) (before after : FileSlot) : IO Unit :=
  match after with
  | .file content =>
    if after = before then return
    else do
      if parent path ≠ "" then IO.FS.createDirAll (parent path)
      IO.FS.writeBinFile path ⟨content.toArray⟩
  | _ => return

def storedSlot (storage : Storage) : FileSlot :=
  match storage.store with
  | .file store => store.slot
  | .memory _ => .absent

/-- Storage over what now stands at its path. -/
def refreshed (storage : Storage) (slot : FileSlot) : Storage :=
  match storage.store with
  | .file store => { storage with store := .file { store with slot } }
  | .memory _ => storage

def logLine (event : Event) : String :=
  let fields := event.fields.map fun field => " " ++ field.1 ++ "=" ++ field.2
  event.level.text ++ " " ++ event.message ++ String.join fields

/-- Events that a person should look into go to the log file. -/
def writeLog (directory : String) (events : List Event) : IO Unit := do
  let lines := (events.filter (·.level ≠ .info)).map logLine
  if !lines.isEmpty then
    let file ← IO.FS.Handle.mk (pathIn directory "cim-console.log") .append
    for line in lines do
      file.putStrLn line

/-! ## Connections -/

/-- Everything that arrives until the other side closes. -/
partial def receive (socket : Std.Async.TCP.Socket.Client) (read : ByteArray) : IO ByteArray := do
  match ← (socket.recv? 65536).block with
  | some bytes => receive socket (read ++ bytes)
  | none => return read

def socketAddress (address : Std.Net.IPAddr) (port : UInt16) : Std.Net.SocketAddress :=
  match address with
  | .v4 address => .v4 ⟨address, port⟩
  | .v6 address => .v6 ⟨address, port⟩

def exchange (sent : Sent) (host port : String) : IO Http.Reply := do
  let addresses ← (Std.Async.DNS.getAddrInfo host port).block
  match addresses[0]?, port.toNat? with
  | some address, some number =>
    let socket ← Std.Async.TCP.Socket.Client.mk
    (socket.connect (socketAddress address number.toUInt16)).block
    (socket.send ⟨(Http.Wire.request sent (host ++ ":" ++ port)).toArray⟩).block
    return Http.Wire.reply (← receive socket .empty).toList
  | _, _ => return .dropped

/-- The reply to a request; without a connection there is none. -/
def transport (sent : Sent) : IO Http.Reply := do
  match Http.Wire.plainHost? sent.address with
  | none => return .dropped
  | some (host, port) =>
    match ← (exchange sent host port).toBaseIO with
    | .ok reply => return reply
    | .error _ => return .dropped

/-- The origin of the base address counts as reachable until a connection shows otherwise. -/
def networkOf (address : String) : Http.Network :=
  ((Http.Address.parse? address).map (·.origin)).toList

/-! ## Commands -/

def environmentDirectory (name fallback : String) : IO String := do
  match ← IO.getEnv name with
  | some directory => return directory
  | none => return pathIn ((← IO.getEnv "HOME").getD ".") fallback

def surroundings : IO Surroundings := do
  let configFile := ConfigFile.inHome (← environmentDirectory "XDG_CONFIG_HOME" ".config") .absent
  let file ← readSlot ".env"
  let found : Surroundings := {
    address := ← IO.getEnv Config.addressVariable
    environmentFile := file.shown?
    configFile := { configFile with slot := ← readSlot configFile.path }
    cacheDirectory := ← environmentDirectory "XDG_CACHE_HOME" ".cache"
    network := [] }
  return { found with network := networkOf (Launch.address found) }

/-- Keeps what a run has left behind and reports how it ended. -/
def conclude (surroundings : Surroundings) (slot : FileSlot) (finish : Finish) : IO UInt32 := do
  let store := FileStore.inDirectory (Launch.storageDirectory surroundings) slot
  writeSlot store.path slot (storedSlot finish.outside.storage)
  writeSlot finish.configFile.path surroundings.configFile.slot finish.configFile.slot
  writeLog (Launch.storageDirectory surroundings) finish.outside.log
  IO.print finish.output
  IO.eprint finish.errors
  return (finish.exit.getD 0).toUInt32

/-- Asks for a name and a password, and answers the request that follows from them. -/
def loginEntry (surroundings : Surroundings) (slot : FileSlot) : IO Entry := do
  IO.eprint (Launch.namePrompt (Launch.config surroundings).1)
  let line ← (← IO.getStdin).getLine
  IO.print "Password: "
  let typed ← (← IO.getStdin).getLine
  let password := String.ofList (Text.dropEndWhile (fun c => c == '\n' || c == '\r') typed.toList)
  let entry : Entry := ⟨line, password, "", .dropped⟩
  match (Launch.run ["--login"] entry surroundings slot).outside.sent.head? with
  | some sent => return { entry with reply := ← transport sent }
  | none => return entry

/-! ## The terminal -/

def terminalSize : IO (Nat × Nat) := do
  let size (name : String) (fallback : Nat) : IO Nat := do
    return ((← IO.getEnv name).bind String.toNat?).getD fallback
  return (← size "COLUMNS" 80, ← size "LINES" 24)

def draw (app : App) : IO Unit := do
  let (width, height) ← terminalSize
  IO.print (Terminal.frame (Screen.draw app width height))
  (← IO.getStdout).flush

/-- Runs a step on storage and configuration as they stand in their files, and writes both back. -/
def onFiles (path : String) (app : App) (step : App → IO (Bool × App)) : IO (Bool × App) := do
  let slot ← readSlot path
  let configSlot ← readSlot app.configFile.path
  let outside := { app.console.outside with
    storage := refreshed app.console.outside.storage slot, log := [], sent := [] }
  let (quits, after) ← step { app with
    console := { app.console with outside }
    configFile := { app.configFile with slot := configSlot } }
  writeSlot path slot (storedSlot after.console.outside.storage)
  writeSlot after.configFile.path configSlot after.configFile.slot
  return (quits, after)

/-- A key is pressed once more when it turns out that a login waits for an answer. -/
def pressKey (key : Key) (app : App) : IO (Bool × App) := do
  let attempt := app.press key .dropped
  match attempt.2.console.outside.sent.find? (·.method = .post) with
  | some sent => return app.press key (← transport sent)
  | none => return attempt

partial def answerPending (app : App) : IO App := do
  match app.console.inFlight.head? with
  | none => return app
  | some pending =>
    let reply ← transport pending.sent
    match app.console.respond? 0 reply with
    | some console => answerPending { app with console }
    | none => return app

def turn (key : Key) (app : App) : IO (Bool × App) := do
  let (quits, app) ← pressKey key app
  if quits then return (true, app)
  let app := (← answerPending app).tick
  return (app.mode = .quitting, app)

def takeAll (directory path : String) (app : App) : List Typed → IO (Bool × App)
  | [] => return (false, app)
  | .interrupt :: _ => return (true, app)
  | .key key :: rest => do
    let (quits, app) ← onFiles path app (turn key)
    writeLog directory app.console.outside.log
    if quits then return (true, app) else takeAll directory path app rest

/-- A line is taken with its end as the key that ends it. -/
def typedLine (line : String) : List Typed :=
  Typed.ofText (String.ofList (line.toList.map fun c => if c = '\n' then '\r' else c))

partial def converse (directory path : String) (app : App) : IO Unit := do
  draw app
  let line ← (← IO.getStdin).getLine
  if line.isEmpty then return
  let (quits, app) ← takeAll directory path app (typedLine line)
  if quits then return else converse directory path app

def interact (surroundings : Surroundings) (slot : FileSlot) : IO UInt32 := do
  let directory := Launch.storageDirectory surroundings
  let path := (FileStore.inDirectory directory slot).path
  let app := Launch.openApp surroundings (Launch.outside surroundings slot)
  writeLog directory app.console.outside.log
  let app := (← answerPending app).tick
  IO.print Terminal.enter
  converse directory path app
  IO.print Terminal.leave
  return 0

def run (arguments : List String) : IO UInt32 := do
  let surroundings ← surroundings
  let directory := Launch.storageDirectory surroundings
  let slot ← readSlot (FileStore.inDirectory directory .absent).path
  match Command.ofArguments arguments, slot.makeDirectory with
  | .console, .ok () =>
    IO.FS.createDirAll directory
    interact surroundings slot
  | .login, .ok () =>
    let entry ← loginEntry surroundings slot
    let finish := Launch.run arguments entry surroundings slot
    let prompt := Launch.namePrompt (Launch.config surroundings).1
    let errors := String.ofList (finish.errors.toList.drop prompt.length)
    conclude surroundings slot { finish with errors }
  | _, _ =>
    conclude surroundings slot (Launch.run arguments ⟨"", "", "", .dropped⟩ surroundings slot)

end IdentityConsole.Program

def main (arguments : List String) : IO UInt32 :=
  IdentityConsole.Program.run arguments
