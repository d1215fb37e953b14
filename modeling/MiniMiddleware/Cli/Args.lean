import MiniMiddleware.Common.CLibrary
import MiniMiddleware.Library.Options

/-!
# The arguments of the command line tool

`mm topic` has three commands.  Behind a command (and behind the topic of
`echo` and `hz`) stand options, each with a value.  Numbers are read with
`strtol`, that skips white space before it looks for a sign.

An argument holds no NUL character, and a `long` that does not fit an `int` is
cut to its low 32 bits.
-/

namespace MiniMiddleware.Cli

open MiniMiddleware.Library

/-- `CliCommandKind`. -/
inductive CliCommandKind where
  | help
  | error
  | topicList
  | topicEcho
  | topicHz
  deriving DecidableEq, Repr

/-- `CliCommand`. -/
structure CliCommand where
  kind : CliCommandKind := .help
  exitCode : Nat := 0
  message : Text := []
  configPath : Text := []
  topic : Text := []
  typeName : Text := []
  waitMs : Int := 1500
  count : Int := 0
  window : Int := 10
  deriving DecidableEq, Repr

/-- `cli_usage`. -/
def cliUsage : Text :=
  ("Usage:\n" ++
    "  mm --help\n" ++
    "  mm topic --help\n" ++
    "  mm topic list [--config PATH] [--wait-ms MS]\n" ++
    "  mm topic echo TOPIC --type TYPE [--config PATH] [--count N]\n" ++
    "  mm topic hz TOPIC --type TYPE [--config PATH] [--window N] [--count N]\n").toList

/-- `help_command`. -/
def helpCommand : CliCommand :=
  { kind := .help, exitCode := 0, message := cliUsage }

/-- `error_command`. -/
def errorCommand (message : Text) : CliCommand :=
  { kind := .error, exitCode := 2, message := message ++ "\n\n".toList ++ cliUsage }

/-! ## Options -/

def configOption : Text := "--config".toList
def typeOption : Text := "--type".toList
def waitMsOption : Text := "--wait-ms".toList
def countOption : Text := "--count".toList
def windowOption : Text := "--window".toList

/-- `INT_MAX`. -/
def intMax : Int := 2 ^ 31 - 1

/-- A conversion to `int`. -/
def castInt (value : Int) : Int :=
  value.bmod (2 ^ 32)

/-- `parse_non_negative_int`. -/
def parseNonNegativeInt (text : Text) : Option Int :=
  if text = [] ∨ text.head? = some '-' then
    none
  else
    let read := strtol text
    if read.outOfRange ∨ read.rest = text ∨ read.rest ≠ [] ∨
        intMax < read.value then
      none
    else
      some (castInt read.value)

/-- `is_option_token`. -/
def isOptionToken (text : Text) : Bool :=
  "--".toList.isPrefixOf text

/-- `is_option_allowed`. -/
def isOptionAllowed (kind : CliCommandKind) (name : Text) : Bool :=
  match kind with
  | .topicList => name = configOption || name = waitMsOption
  | .topicEcho =>
      name = configOption || name = typeOption || name = countOption
  | .topicHz =>
      name = configOption || name = typeOption || name = windowOption ||
        name = countOption
  | _ => false

/-- What `read_option_value` and `read_string_option` say. -/
def valueRequired (name : Text) : CliCommand :=
  errorCommand (name ++ " requires a value".toList)

/-- `read_string_option`. -/
def readStringOption (name value : Text) : Except CliCommand Unit :=
  if isOptionToken value then .error (valueRequired name) else .ok ()

/-- `apply_option`. -/
def applyOption (cmd : CliCommand) (name value : Text) :
    Except CliCommand CliCommand :=
  if !isOptionAllowed cmd.kind name then
    .error (errorCommand ("option not allowed for command: ".toList ++ name))
  else if name = configOption then do
    readStringOption name value
    return { cmd with configPath := value }
  else if name = typeOption then do
    readStringOption name value
    return { cmd with typeName := value }
  else if name = waitMsOption then
    match parseNonNegativeInt value with
    | none =>
        .error (errorCommand "--wait-ms must be a non-negative integer".toList)
    | some parsed => .ok { cmd with waitMs := parsed }
  else if name = countOption then
    match parseNonNegativeInt value with
    | none =>
        .error (errorCommand "--count must be a non-negative integer".toList)
    | some parsed => .ok { cmd with count := parsed }
  else if name = windowOption then
    match parseNonNegativeInt value with
    | none => .error (errorCommand "--window must be an integer >= 2".toList)
    | some parsed =>
        if parsed < 2 then
          .error (errorCommand "--window must be an integer >= 2".toList)
        else
          .ok { cmd with window := parsed }
  else
    .error (errorCommand ("unknown option: ".toList ++ name))

/-- `parse_options`, on the arguments from `start` on.  The error is written
over the command, so it is all that is left of it. -/
def parseOptions : List Text → CliCommand → Except CliCommand CliCommand
  | [], cmd => .ok cmd
  | name :: rest, cmd =>
      if !isOptionToken name then
        .error (errorCommand ("unexpected argument: ".toList ++ name))
      else
        match rest with
        | [] => .error (valueRequired name)
        | value :: more =>
            match applyOption cmd name value with
            | .error error => .error error
            | .ok next => parseOptions more next

/-! ## Commands -/

/-- `mm topic list`. -/
def parseList (arguments : List Text) : CliCommand :=
  match parseOptions arguments { kind := .topicList } with
  | .error error => error
  | .ok cmd => cmd

/-- `mm topic echo` and `mm topic hz`. -/
def parseWithTopic (subcommand : Text) : List Text → CliCommand
  | [] => errorCommand (subcommand ++ " requires a topic".toList)
  | topic :: arguments =>
      if isOptionToken topic then
        errorCommand (subcommand ++ " requires a topic".toList)
      else
        let kind := if subcommand = "echo".toList then .topicEcho else .topicHz
        match parseOptions arguments { kind, topic } with
        | .error error => error
        | .ok cmd =>
            if cmd.typeName = [] then
              errorCommand (subcommand ++ " requires --type".toList)
            else
              cmd

/-- `parse_cli_args` from the third argument on. -/
def parseTopicCommand : List Text → CliCommand
  | [] => errorCommand "missing topic command".toList
  | subcommand :: arguments =>
      if subcommand = "--help".toList ∧ arguments = [] then
        helpCommand
      else if subcommand = "list".toList then
        parseList arguments
      else if subcommand = "echo".toList ∨ subcommand = "hz".toList then
        parseWithTopic subcommand arguments
      else
        errorCommand ("unknown topic command: ".toList ++ subcommand)

/-- `parse_cli_args`. -/
def parseCliArgs : List Text → CliCommand
  | [] => helpCommand
  | [_] => helpCommand
  | _ :: command :: rest =>
      if command = "--help".toList then
        helpCommand
      else if command ≠ "topic".toList then
        errorCommand ("unknown command: ".toList ++ command)
      else
        parseTopicCommand rest

end MiniMiddleware.Cli
