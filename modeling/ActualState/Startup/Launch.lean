import ActualState.Config.Load
import ActualState.Startup.Endpoint
import ActualState.Startup.Environment
import ActualState.Startup.Folder
import ActualState.Store.FileStore

/-!
# Coming up

A listener comes up in three steps, each of which can fail: the settings are loaded, the store is
opened, and the address of the inspection API is taken. Directories that were made for the store
stay even if a later step fails.
-/
namespace ActualState.Startup

/-- The variable that says where the settings are. -/
def configVariable : String := "SYMBION_LISTENER_CONFIG"

/-- Where the settings are if nothing says so. -/
def defaultConfigPath : String := "listener.yaml"

/-- The file that adds to the environment. -/
def envFilePath : String := ".env"

/-- Why a listener does not come up. -/
inductive Failure where
  | config (reason : Config.Refusal)
  | store (reason : StoreError)
  | bind (address : String)
  deriving DecidableEq, Inhabited

/-- What failed, in words. -/
def Failure.context : Failure → String
  | .config _ => "failed to load listener config"
  | .store _ => "failed to open actual state store"
  | .bind address => "failed to bind " ++ address

/-- The environment, with what the file in the working directory adds to it. -/
def environment (f : Folder) (env : Environment) : Environment :=
  match f.lookup envFilePath with
  | .file content => EnvFile.load env (Text.Utf8.decodeLossy content)
  | .absent | .directory => env

/-- The path of the settings. -/
def configPath (env : Environment) : String := (env.get? configVariable).getD defaultConfigPath

/-- The settings in what stands at their path. -/
def configOf (e : Entry) : Except Failure ListenerConfig := (Config.load e).mapError .config

/-- The document in what stands at the path of the store. -/
def documentOf (e : Entry) : Except Failure Document := (FileStore.load e).mapError .store

/-- Whether the address of the settings can be taken. -/
def bindOf (c : ListenerConfig) : Except Failure Unit :=
  if Endpoint.canBind c.http.bind then .ok () else .error (.bind c.http.bind)

/-- Opens the store, in a directory that is made if need be. -/
def openStore (f : Folder) (path : String) : Folder × Except Failure Document :=
  match f.makeParents path with
  | (f, false) => (f, .error (.store .io))
  | (f, true) => (f, documentOf (f.lookup path))

/-- A listener that has come up. -/
structure Launched where
  config : ListenerConfig
  document : Document
  deriving DecidableEq, Inhabited

/-- Takes all three steps. -/
def launch (f : Folder) (env : Environment) : Folder × Except Failure Launched :=
  match configOf (f.lookup (configPath (environment f env))) with
  | .error e => (f, .error e)
  | .ok c =>
    match openStore f c.store.path with
    | (f, .error e) => (f, .error e)
    | (f, .ok d) => (f, (bindOf c).map fun _ => ⟨c, d⟩)

/-- How the program ends: well, unless it did not come up. -/
def exitCode {α : Type} : Except Failure α → UInt32
  | .ok _ => 0
  | .error _ => 1

end ActualState.Startup
