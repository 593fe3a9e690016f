import AgentCanvas.Program.Defaults
import AgentCanvas.Settings.EnvFile
import AgentCanvas.Text.Case

/-!
# Settings

The settings of the service. Each of them is given directly, by a variable of the environment, by
an environment file or by default, the first of these counting. The names of variables may be
written in any case, the last of several spellings counting.

## Key definitions

- `Settings.load`: the settings with what there is to log about them.
- `Settings.corsOrigins`: the origins that the service answers.
- `Settings.defaults`: the generation defaults that the settings ask for.
-/

namespace AgentCanvas

/-- The settings of the service. -/
structure Settings where
  environment : String
  logLevel : String
  corsAllowedOrigins : String
  defaultModel : String
  defaultAgentName : String
  defaultTask : String
  terminationToken : String
  deriving DecidableEq

/-- How much a log entry matters. -/
inductive LogLevel where
  | info
  | warning
  deriving DecidableEq

/-- The name of a level in logs. -/
def LogLevel.name : LogLevel → String
  | info => "INFO"
  | warning => "WARNING"

/-- An entry of a log. -/
structure LogEntry where
  level : LogLevel
  message : String
  deriving DecidableEq

/-- A setting as it can be given: its name, in any case, and the value without which it is left. -/
structure Setting where
  name : String
  default : String

namespace Setting

/-- The name of the stage that the service runs in. -/
def environment : Setting := ⟨"ENVIRONMENT", "dev"⟩

/-- The least level that is logged. -/
def logLevel : Setting := ⟨"LOG_LEVEL", "INFO"⟩

/-- The origins that the service answers, separated by commas. -/
def corsAllowedOrigins : Setting := ⟨"CORS_ALLOWED_ORIGINS", "*"⟩

/-- The model of generated programs. -/
def defaultModel : Setting := ⟨"WORKFLOW_DEFAULT_MODEL", "gpt-4o"⟩

/-- The name of agents without one. -/
def defaultAgentName : Setting := ⟨"default_agent_name", "unnamed_agent"⟩

/-- The task of runners without one. -/
def defaultTask : Setting := ⟨"default_task", "Hello World!"⟩

/-- The token that ends the turns of a team. -/
def terminationToken : Setting := ⟨"termination_token", "TERMINATE"⟩

end Setting

/-- Where settings are given. -/
structure SettingSources where
  /-- Values given directly. -/
  direct : Entries Json
  /-- The variables of the environment. -/
  environment : Entries String
  /-- The text of the environment file. -/
  envFile : String

/-- The value under a name written in any case; of several spellings the last counts. -/
def lastSpelling? {α : Type} (entries : Entries α) (name : String) : Option α :=
  (entries.reverse.find? fun entry => Text.lower entry.1 = Text.lower name).map (·.2)

namespace Settings

/-- The value of a setting. -/
def pick (sources : SettingSources) (setting : Setting) : Checked String :=
  match lastSpelling? sources.direct setting.name with
  | some value => (Checked.text value).under (.key setting.name)
  | none =>
    match lastSpelling? sources.environment setting.name with
    | some value => .valid value
    | none =>
      match lastSpelling? (EnvFile.values sources.environment sources.envFile) setting.name with
      | some (some value) => .valid value
      | _ => .valid setting.default

/-- The settings as they are given. -/
def given (sources : SettingSources) : Checked Settings :=
  ((((((Checked.valid Settings.mk
    |>.also (pick sources .environment))
    |>.also (pick sources .logLevel))
    |>.also (pick sources .corsAllowedOrigins))
    |>.also (pick sources .defaultModel))
    |>.also (pick sources .defaultAgentName))
    |>.also (pick sources .defaultTask))
    |>.also (pick sources .terminationToken)

/-- The stages that are known. -/
def knownEnvironments : List String :=
  ["dev", "development", "qa", "uit", "prod"]

/-- What is logged of a stage that is not known. -/
def environmentLog (environment : String) : List LogEntry :=
  if knownEnvironments.contains (Text.lower environment) then []
  else [⟨.warning, "environment '" ++ environment ++ "' not in [" ++
    ", ".intercalate (knownEnvironments.map fun name => "'" ++ name ++ "'") ++ "]"⟩]

/-- The stage in lower case and the log level in upper case. -/
def normalize (s : Settings) : Settings :=
  { s with environment := Text.lower s.environment, logLevel := Text.upper s.logLevel }

/-- The settings that the sources give, with what is logged about them. -/
def load (sources : SettingSources) : Except Rejection (Settings × List LogEntry) := do
  let s ← (given sources).orReject .settings
  return (s.normalize, environmentLog s.environment)

/-- The settings without anything given. -/
def builtIn : Settings where
  environment := Setting.environment.default
  logLevel := Setting.logLevel.default
  corsAllowedOrigins := Setting.corsAllowedOrigins.default
  defaultModel := Setting.defaultModel.default
  defaultAgentName := Setting.defaultAgentName.default
  defaultTask := Setting.defaultTask.default
  terminationToken := Setting.terminationToken.default

/-- The pieces of a list separated by commas, without the space around them and without blank
pieces. -/
def pieces (list : String) : List String :=
  ((list.toList.splitOn ',').map fun piece => Text.trim (String.ofList piece)).filter (· ≠ "")

/-- The origins that the service answers. A star on its own stands for all of them. -/
def corsOrigins (s : Settings) : List String :=
  let list := Text.trim s.corsAllowedOrigins
  if list = "*" then ["*"] else pieces list

/-- The generation defaults that the settings ask for. -/
def defaults (s : Settings) : Defaults :=
  { Defaults.builtIn with
    model := s.defaultModel
    agentName := s.defaultAgentName
    task := s.defaultTask
    terminationToken := s.terminationToken }

end Settings

end AgentCanvas
