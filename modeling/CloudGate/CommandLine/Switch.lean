/-!
The options of the program and of its commands.
-/

namespace CloudGate.CommandLine

inductive Switch
  | output
  | verbose
  | quiet
  | config
  | noConfig
  | showConfig
  | schema
  | readOnly
  | args
  | confirm
  | dryRun
  | help
  | version
  deriving DecidableEq, Repr

namespace Switch

def name : Switch → String
  | .output => "output"
  | .verbose => "verbose"
  | .quiet => "quiet"
  | .config => "config"
  | .noConfig => "no-config"
  | .showConfig => "show-config"
  | .schema => "schema"
  | .readOnly => "read-only"
  | .args => "args"
  | .confirm => "confirm"
  | .dryRun => "dry-run"
  | .help => "help"
  | .version => "version"

def letter? : Switch → Option Char
  | .output => some 'o'
  | .verbose => some 'v'
  | .quiet => some 'q'
  | .args => some 'a'
  | .help => some 'h'
  | .version => some 'V'
  | _ => none

def takesValue (s : Switch) : Bool := s == .output || s == .config || s == .args

/-- Options that may be given more than once, and count. -/
def isCounted (s : Switch) : Bool := s == .verbose

def describe : Switch → String
  | .output => "Output format: pretty or json"
  | .verbose => "More messages; may be repeated"
  | .quiet => "No progress"
  | .config => "Path of a settings file"
  | .noConfig => "No settings files and no settings from the environment"
  | .showConfig => "Show where settings come from and what they are"
  | .schema => "JSON schemas instead of the table"
  | .readOnly => "Only tools that need no consent"
  | .args => "Arguments as a JSON object"
  | .confirm => "Consent, as the argument confirm"
  | .dryRun => "Show the request and send nothing"
  | .help => "Show help"
  | .version => "Show the version"

end Switch

inductive CommandName
  | tools
  | check
  | call
  deriving DecidableEq, Repr

namespace CommandName

def all : List CommandName := [.tools, .check, .call]

def name : CommandName → String
  | .tools => "tools"
  | .check => "check"
  | .call => "call"

def ofText? (text : String) : Option CommandName := all.find? (·.name == text)

def describe : CommandName → String
  | .tools => "List the tools"
  | .check => "Check a call without sending it"
  | .call => "Check a call and send it"

end CommandName

/-- The word that asks for help on a command. It can stand where a command can. -/
def helpWord : String := "help"

/-- What options belong to: the program, or one of its commands. -/
inductive Scope
  | program
  | command (c : CommandName)
  deriving DecidableEq, Repr

namespace Scope

/-- The options that the program and all its commands have. -/
def shared : List Switch := [.output, .verbose, .quiet, .config, .noConfig, .help]

def switches : Scope → List Switch
  | .program => [.showConfig, .version] ++ shared
  | .command .tools => [.schema, .readOnly] ++ shared
  | .command .check => [.args, .confirm] ++ shared
  | .command .call => [.args, .confirm, .dryRun] ++ shared

/-- Commands about one tool take its name. -/
def takesTool : Scope → Bool
  | .program | .command .tools => false
  | .command .check | .command .call => true

def ofName? (scope : Scope) (name : String) : Option Switch :=
  scope.switches.find? (·.name == name)

def ofLetter? (scope : Scope) (letter : Char) : Option Switch :=
  scope.switches.find? (·.letter? == some letter)

end Scope

end CloudGate.CommandLine
