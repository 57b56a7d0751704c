import ExitContract.Config.Decode
import ExitContract.Config.Variable
import ExitContract.Log.Record
import ExitContract.Toml.Reader

/-!
# Loading the configuration

The sources of a configuration, the weakest first: the built-in settings, the files in the usual
places as far as they exist, a file that the user names, and the variables of the environment.

## Main definitions

* `Config.setting` — what a configuration says as a source
* `World.configPaths`, `World.configFiles` — the usual places, and the files found there
* `World.loadConfig` — the configuration, or why there is none
-/

namespace ExitContract

/-- One reason why there is no configuration. -/
inductive ConfigFault
  /-- A file is not TOML. -/
  | malformedFile (shown : String)
  /-- A setting makes no sense. -/
  | mismatch (m : Mismatch)
  deriving DecidableEq, Repr

/-- Why there is no configuration. -/
inductive ConfigError
  /-- The file that the user named is no file. -/
  | missingFile (path : String)
  /-- What the sources say makes no sense. -/
  | invalid (faults : List ConfigFault)
  deriving DecidableEq, Repr

/-- The wording of one reason. -/
def ConfigFault.message : ConfigFault → String
  | .malformedFile shown => "TOML parse error in " ++ shown ++ " TOML file"
  | .mismatch m => m.layered

/-- The first line of the wording of an error. -/
def ConfigError.message : ConfigError → String
  | .missingFile path => "Config file not found: " ++ path
  | .invalid _ => "Invalid procwrap configuration"

/-- The wording of an error with its reason. -/
def ConfigError.fullMessage (e : ConfigError) : String :=
  match e with
  | .invalid (f :: _) => e.message ++ ": " ++ f.message
  | e => e.message

/-- What the settings that every run starts from say. -/
def Defaults.setting (o : Origin) (d : Defaults) : Setting :=
  .table o (Keyed.ofList [("timeout", .scalar o (.unsigned d.timeout.toNat)),
    ("expected_exit_code", .scalar o (.signed d.expectedCode.toInt)),
    ("check_exit_code", .scalar o (.boolean d.checkCode)),
    ("error_message", .scalar o (.text d.errorMessage)),
    ("kill_exit_code", .scalar o (.signed d.killCode.toInt)),
    ("fail_on_timeout", .scalar o (.boolean d.failOnTimeout))])

/-- What the settings for the log say. -/
def LogSettings.setting (o : Origin) (l : LogSettings) : Setting :=
  .table o (Keyed.ofList [("level", .scalar o (.text l.level)),
    ("format", .scalar o (.text l.format.name))])

/-- What a configuration says as a source: it leaves nothing out. -/
def Config.setting (o : Origin) (c : Config) : Setting :=
  .table o (Keyed.ofList [("defaults", c.defaults.setting o), ("logging", c.logging.setting o)])

namespace World

/-- The directory of the user's configuration files: the one that a variable names, if it is absolute,
or the usual one, if the user has a directory. -/
def configDirectory (w : World) : Option Path :=
  let usual := w.home.map fun home => (Path.ofString home).join (Path.ofString ".config")
  match w.environment.get? "XDG_CONFIG_HOME" with
  | none => usual
  | some d => if (Path.ofString d).isAbsolute then some (Path.ofString d) else usual

/-- The usual places of configuration files, the weakest first. -/
def configPaths (w : World) : List Path :=
  let file := Path.ofString "procwrap/config.toml"
  [some ((Path.ofString "/etc").join file), w.configDirectory.map fun d => d.join file,
    w.home.map fun home => (Path.ofString home).join (Path.ofString ".procwrap.toml"),
    some (Path.ofString ".procwrap.toml")].filterMap id

/-- The configuration files that exist in the usual places. -/
def configFiles (w : World) : List Path :=
  w.configPaths.filter fun p => w.files.isFile w.directory p

/-- The name to show for a file: the way to it from the directory of the program, if that is
shorter. -/
def shownName (w : World) (p : Path) : String :=
  let absolute := w.directoryPath.join p
  match absolute.relativeTo w.directoryPath with
  | some r => if r.components.length < absolute.components.length then r.display else absolute.display
  | none => absolute.display

/-- What the text of a file with this name says. -/
def textSetting? (shown text : String) : Option Setting := do
  let entries ← Toml.parse? text
  return .table (.file shown) (← Setting.ofTomlEntries? (.file shown) entries)

/-- What a file says. -/
def fileSetting (w : World) (p : Path) : Except ConfigFault Setting :=
  let shown := w.shownName p
  match w.files.readText w.directory p with
  | .error _ => .error (.malformedFile shown)
  | .ok text =>
    match textSetting? shown text with
    | none => .error (.malformedFile shown)
    | some v => .ok v

/-- The faults that are reported of several: the first and the last. -/
def reported : List ConfigFault → List ConfigFault
  | [] => []
  | [f] => [f]
  | f :: g :: rest => [f, rest.getLastD g]

/-- What files say, later ones on top of earlier ones and all of them on top of the built-in settings;
or why some say nothing. -/
def fileSettings (w : World) (ps : List Path) : Except (List ConfigFault) Setting :=
  let sources := ps.map w.fileSetting
  let faults := sources.filterMap fun s => match s with
    | .error f => some f
    | .ok _ => none
  if faults.isEmpty then
    .ok (sources.foldl (fun acc s => match s with
      | .ok v => acc.overlay v
      | .error _ => acc) (Config.default.setting .builtIn))
  else .error (reported faults)

/-- What files and the variables of the environment amount to. -/
def configOf (w : World) (ps : List Path) : Except ConfigError Config :=
  match w.fileSettings ps with
  | .error faults => .error (.invalid faults)
  | .ok v =>
    match Config.decode .layered (v.overlay w.environment.settings) with
    | .error m => .error (.invalid [.mismatch m])
    | .ok c => .ok c

/-- What the log says about a file that is used. -/
def configNote (p : Path) (ending : String) : Event :=
  .debug .configuration ("Using config file " ++ p.display ++ ending)

/-- The configuration, from the usual places and from a file that the user names. -/
def loadConfig (w : World) (explicit : Option String) : Logged (Except ConfigError Config) :=
  let found := w.configFiles
  let notes := found.map fun p => configNote p ""
  match explicit with
  | none => ⟨notes, w.configOf found⟩
  | some name =>
    let p := Path.ofString name
    if w.files.isFile w.directory p then
      ⟨notes ++ [configNote p " (explicit)"], w.configOf (found ++ [p])⟩
    else ⟨notes, .error (.missingFile p.display)⟩

end World

end ExitContract
