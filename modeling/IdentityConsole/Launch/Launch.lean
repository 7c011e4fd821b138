import IdentityConsole.Launch.Environment
import IdentityConsole.Launch.Typing
import IdentityConsole.Screen.Screen

/-!
# The command line

Without an argument the console opens in the terminal. With one the program signs in, signs out or
says who is signed in.
-/

namespace IdentityConsole

inductive Command
  | console
  | login
  | logout
  | whoAmI
  | unknown (argument : String)
deriving DecidableEq, Repr

/-- Only the first argument counts. -/
def Command.ofArguments : List String → Command
  | [] => .console
  | "--login" :: _ => .login
  | "--logout" :: _ => .logout
  | "--whoami" :: _ => .whoAmI
  | argument :: _ => .unknown argument

/-- What the program finds when it starts. -/
structure Surroundings where
  address : Option String
  environmentFile : Option String
  configFile : ConfigFile
  cacheDirectory : String
  network : Http.Network

/-- What a person enters: a line, a password, keys. `reply` answers every request. -/
structure Entry where
  line : String
  password : String
  typed : String
  reply : Http.Reply

/-- What the program leaves behind. It has no exit code while it still waits for keys. -/
structure Finish where
  exit : Option Nat
  output : String
  errors : String
  configFile : ConfigFile
  outside : Outside

namespace Launch

def address (surroundings : Surroundings) : String :=
  Config.baseAddress (Environment.lookup Config.addressVariable surroundings.address
    surroundings.environmentFile)

/-- The configuration; one that cannot be read is replaced by the initial one. -/
def config (surroundings : Surroundings) : Config × List Event :=
  match surroundings.configFile.load with
  | .ok config => (config, [])
  | .error error => (.initial, [.configNotLoaded error])

/-- Where the session is stored. -/
def storageDirectory (surroundings : Surroundings) : String :=
  (config surroundings).1.storageDirectory surroundings.cacheDirectory

/-- What is outside once the storage has been opened; `slot` is what stands at its path. -/
def outside (surroundings : Surroundings) (slot : FileSlot) : Outside where
  storage := .reliable (.file (.inDirectory (storageDirectory surroundings) slot))
  network := surroundings.network
  log := (config surroundings).2
  sent := []

def usage : String := "Usage: cim-console [--login | --logout | --whoami]\n"

def unknownArgument (argument : String) (surroundings : Surroundings) (outside : Outside) :
    Finish :=
  ⟨some 2, "", "Unknown argument: " ++ argument ++ "\n" ++ usage, surroundings.configFile,
    outside⟩

def logout (surroundings : Surroundings) (outside : Outside) : Finish :=
  let (session, outside) := Session.initial.restore outside
  let (_, outside) := session.logout outside
  ⟨some 0, "Logged out\n", "", surroundings.configFile, outside⟩

def whoAmI (surroundings : Surroundings) (outside : Outside) : Finish :=
  let (session, outside) := Session.initial.restore outside
  let output :=
    match session.state.user? with
    | some user => (Json.object user.members).laidOut
    | none => "Not logged in"
  ⟨some 0, output ++ "\n", "", surroundings.configFile, outside⟩

/-- The question for a name, with the answer that an empty line stands for. -/
def namePrompt (config : Config) : String :=
  match config.lastUsername.filter (· ≠ "") with
  | some name => "Username [" ++ name ++ "]: "
  | none => "Username: "

/-- The name that a line answers with. -/
def answeredName (config : Config) (line : String) : String :=
  if Text.trim line = "" then config.lastUsername.getD "" else Text.trim line

def rememberName (name : String) (surroundings : Surroundings) (outside : Outside) :
    ConfigFile × Outside :=
  match surroundings.configFile.save { (config surroundings).1 with lastUsername := some name } with
  | .ok configFile => (configFile, outside)
  | .error error => (surroundings.configFile, outside.note (.configNotSaved error))

def login (entry : Entry) (surroundings : Surroundings) (outside : Outside) : Finish :=
  let prompt := namePrompt (config surroundings).1
  let name := answeredName (config surroundings).1 entry.line
  let client := Client.ofAddress (address surroundings)
  match Session.initial.login client name entry.password entry.reply outside with
  | (.ok user, _, outside) =>
    let (configFile, outside) := rememberName name surroundings outside
    ⟨some 0, "Logged in as " ++ user.displayName ++ "\n", prompt, configFile, outside⟩
  | (.error error, _, outside) =>
    ⟨some 1, "", prompt ++ "Error: " ++ error.advice ++ "\n", surroundings.configFile, outside⟩

def openApp (surroundings : Surroundings) (outside : Outside) : App :=
  let outside := outside.note (.starting (address surroundings))
  (App.start (address surroundings) (config surroundings).1 surroundings.configFile
    outside).navigate "/dashboard"

/-- Every request in flight gets the same reply. -/
def answerAll (reply : Http.Reply) : Nat → Console → Console
  | 0, console => console
  | count + 1, console => answerAll reply count ((console.respond? 0 reply).getD console)

/-- One turn of the interactive console: a key, then the results. -/
def turn (key : Key) (reply : Http.Reply) (app : App) : Bool × App :=
  let (quits, app) := app.press key reply
  if quits then (true, app)
  else
    let console := answerAll reply app.console.inFlight.length app.console
    let app := App.tick { app with console }
    (app.mode = .quitting, app)

/-- Takes what is typed until something quits, and says whether anything did. -/
def turns (reply : Http.Reply) (app : App) : List Typed → Bool × App
  | [] => (false, app)
  | .interrupt :: _ => (true, app)
  | .key key :: rest =>
    let (quits, app) := turn key reply app
    if quits then (true, app) else turns reply app rest

def interact (entry : Entry) (surroundings : Surroundings) (outside : Outside) : Finish :=
  let (quits, app) :=
    turns entry.reply (openApp surroundings outside) (Typed.ofText entry.typed)
  let outside := app.console.outside
  ⟨if quits then some 0 else none, "", "", app.configFile,
    if quits then outside.note .stopping else outside⟩

/-- Without a directory for the storage there is nothing to be done. -/
def noDirectory (fault : FileFault) (surroundings : Surroundings) (outside : Outside) : Finish :=
  let message := "Failed to create " ++ storageDirectory surroundings
  ⟨some 1, "", "Error: " ++ message ++ "\n\nCaused by:\n    " ++ fault.message ++ "\n",
    surroundings.configFile, outside⟩

/-- A run of the program; `slot` is what stands at the path of its storage. -/
def run (arguments : List String) (entry : Entry) (surroundings : Surroundings) (slot : FileSlot) :
    Finish :=
  let outside := outside surroundings slot
  match slot.makeDirectory with
  | .error fault => noDirectory fault surroundings outside
  | .ok () =>
    match Command.ofArguments arguments with
    | .console => interact entry surroundings outside
    | .login => login entry surroundings outside
    | .logout => logout surroundings outside
    | .whoAmI => whoAmI surroundings outside
    | .unknown argument => unknownArgument argument surroundings outside

end Launch

end IdentityConsole
