import DurableCalc.CommandLine.Usage
import DurableCalc.Config
import DurableCalc.Storage.Slot

/-!
# The command line

Arguments are read from left to right: options, then at most one action. The value of an option
that stands in an argument of its own is checked only when the next option is read, or at the end,
so that an unknown argument after it is told first.
-/

namespace DurableCalc

inductive LogFormat
  | text
  | json
  deriving DecidableEq, Repr

def LogFormat.word : LogFormat → String
  | .text => "text"
  | .json => "json"

structure CommandLine where
  config : Option String := none
  state : Option String := none
  logFormat : Option LogFormat := none
  command : Option Action := none
  deriving DecidableEq, Repr

/-- Why the arguments start nothing: they ask for a text, or one of them is wrong. -/
inductive Refusal
  | displayHelp (text : String)
  | displayVersion (text : String)
  | unknownArgument
  | invalidSubcommand
  | invalidValue
  | argumentConflict
  | tooManyValues
  deriving DecidableEq, Repr

namespace Refusal

def name : Refusal → String
  | .displayHelp _ => "DisplayHelp"
  | .displayVersion _ => "DisplayVersion"
  | .unknownArgument => "UnknownArgument"
  | .invalidSubcommand => "InvalidSubcommand"
  | .invalidValue => "InvalidValue"
  | .argumentConflict => "ArgumentConflict"
  | .tooManyValues => "TooManyValues"

def text? : Refusal → Option String
  | .displayHelp text => some text
  | .displayVersion text => some text
  | _ => none

def exitCode (r : Refusal) : Nat :=
  if r.text?.isSome then 0 else 2

end Refusal

inductive ValueOption
  | config
  | state
  | logFormat
  deriving DecidableEq, Repr

def ValueOption.word : ValueOption → String
  | .config => "config"
  | .state => "state"
  | .logFormat => "log-format"

inductive Flag
  | option (o : ValueOption) (value : Option String)
  | help (isLong hasValue : Bool)
  | version (hasValue : Bool)
  | unknown
  deriving DecidableEq, Repr

def Flag.ofLong (body : List Char) : Flag :=
  let word := String.ofList (body.takeWhile (· ≠ '='))
  let value := match body.dropWhile (· ≠ '=') with
    | [] => none
    | _ :: value => some (String.ofList value)
  if word = "help" then .help true value.isSome
  else if word = "version" then .version value.isSome
  else
    match [ValueOption.config, .state, .logFormat].find? fun o => o.word == word with
    | some o => .option o value
    | none => .unknown

/-- The flag that an argument is, if it is one. A dash alone is none. -/
def Flag.of? (arg : String) : Option Flag :=
  match arg.toList with
  | '-' :: '-' :: body => some (.ofLong body)
  | '-' :: 'h' :: _ => some (.help false false)
  | '-' :: 'V' :: _ => some (.version false)
  | '-' :: _ :: _ => some .unknown
  | _ => none

namespace CommandLine

def assign (o : ValueOption) (value : String) (c : CommandLine) : Except Refusal CommandLine :=
  match o with
  | .config =>
    if c.config.isSome then .error .argumentConflict
    else if value.isEmpty then .error .invalidValue
    else .ok { c with config := some value }
  | .state =>
    if c.state.isSome then .error .argumentConflict
    else if value.isEmpty then .error .invalidValue
    else .ok { c with state := some value }
  | .logFormat =>
    if c.logFormat.isSome then .error .argumentConflict
    else
      match [LogFormat.text, .json].find? fun f => f.word == value with
      | none => .error .invalidValue
      | some f => .ok { c with logFormat := some f }

/-- An option that has been read and not been assigned yet, with its value if that was read too. -/
abbrev Pending := Option (ValueOption × Option String)

def settle (pending : Pending) (c : CommandLine) : Except Refusal CommandLine :=
  match pending with
  | none => .ok c
  | some (_, none) => .error .invalidValue
  | some (o, some value) => c.assign o value

def checkRest (a : Action) : List String → Except Refusal Unit
  | [] => .ok ()
  | arg :: rest =>
    if arg = "--" then (if rest.isEmpty then .ok () else .error .unknownArgument)
    else
      match Flag.of? arg with
      | some (.help _ true) => .error .tooManyValues
      | some (.help _ false) => .error (.displayHelp (Usage.ofAction a))
      | _ => .error .unknownArgument

def helpText (words : List String) : Refusal :=
  match words with
  | [] => .displayHelp Usage.full
  | [word] =>
    if word = "help" then .displayHelp Usage.ofHelp
    else
      match Action.all.find? fun a => a.word == word with
      | some a => .displayHelp (Usage.ofAction a)
      | none => .invalidSubcommand
  | _ => .invalidSubcommand

/-- Why a word after `--` is refused: one that would be understood without the dashes is an argument
too many, any other is taken for an action that there is not. -/
def surplus (word : String) : Refusal :=
  if word = "help" || Action.all.any fun a => a.word == word then .unknownArgument
  else .invalidSubcommand

def readFrom (pending : Pending) (c : CommandLine) : List String → Except Refusal CommandLine
  | [] => c.settle pending
  | arg :: rest =>
    let awaited := match pending with
      | some (o, none) => some o
      | _ => none
    if arg = "--" then
      match rest with
      | [] => c.settle pending
      | word :: _ => .error (surplus word)
    else
      match Flag.of? arg with
      | some flag =>
        match flag with
        | .unknown => .error .unknownArgument
        | .help _ true => .error .tooManyValues
        | .version true => .error .tooManyValues
        | .help isLong false => do
          let _ ← c.settle pending
          .error (.displayHelp (if isLong then Usage.full else Usage.brief))
        | .version false => do
          let _ ← c.settle pending
          .error (.displayVersion Usage.version)
        | .option o none => do
          let c ← c.settle pending
          readFrom (some (o, none)) c rest
        | .option o (some value) => do
          let c ← c.settle pending
          let c ← c.assign o value
          readFrom none c rest
      | none =>
        match awaited with
        | some o => readFrom (some (o, some arg)) c rest
        | none =>
          if arg = "help" then .error (helpText rest)
          else
            match Action.all.find? fun a => a.word == arg with
            | none => .error .invalidSubcommand
            | some a => do
              checkRest a rest
              let c ← c.settle pending
              .ok { c with command := some a }

/-- Reads arguments that are texts. Those that are not Unicode, as a path may be, are left out. -/
def read (args : List String) : Except Refusal CommandLine :=
  readFrom none {} args

def action (c : CommandLine) : Action :=
  c.command.getD .run

def format (c : CommandLine) : LogFormat :=
  c.logFormat.getD .text

/-- The configuration in effect: the file's or the default one, with the path that the environment
sets, with the path that the command line sets. -/
def resolve (fileContents : String → Option Bytes) (setting : Option String) (c : CommandLine) :
    Except ConfigError Config :=
  let base : Except ConfigError Config := match c.config with
    | none => .ok {}
    | some path => Config.ofFile (fileContents path)
  match base with
  | .error error => .error error
  | .ok config =>
    let config := config.override setting
    match c.state with
    | none => .ok config
    | some path => .ok { config with statePath := path }

end CommandLine

/-- The slot that an action works on: status and reset are of no use for memory, which a new process
finds empty. -/
def Slot.forAction (a : Action) (config : Config) (fs : FileSystem) : Except ConfigError Slot :=
  match config.storage, a with
  | .file, _ => .ok (.file config.statePath fs)
  | .memory, .run => .ok (.memory [])
  | .memory, a => .error (.needsPersistence a.name)

end DurableCalc
