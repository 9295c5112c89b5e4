import WindowActions.ActionList.Json
import WindowActions.Client.Load
import WindowActions.Engine.Basic
import WindowActions.Files
import WindowActions.Pattern.Engine

/-!
# The command line

`check` tells how many entries the program in a file has, `dump` prints its action list as JSON,
and `run` runs a program on the clients of a file and prints their states afterwards. Every
command reads one file, so what it does is a function of its arguments and of the contents of that
file.
-/

namespace WindowActions

inductive Command where
  | check (path : String)
  | dump (path : String)
  | run (clients : String) (target : Option UInt32) (context : FrameContext) (program : String)
deriving DecidableEq, Repr

inductive Outcome where
  | usageError
  | printed (text : String)
  /-- The command has failed with a message. -/
  | failed (message : String)
deriving DecidableEq, Repr

def Outcome.exitCode : Outcome → Nat
  | usageError => 2
  | printed _ => 0
  | failed _ => 1

def Outcome.output : Outcome → String
  | printed text => text
  | _ => ""

def Outcome.errorOutput : Outcome → String
  | usageError =>
    "usage: check [PATH] | dump [PATH] | " ++
      "run --clients FILE [--target N] [--context C] PROGRAM\n"
  | printed _ => ""
  | failed message => "\x1b[31merror\x1b[0m: " ++ message ++ "\n"

/-- Arguments sorted into options with their values and others. -/
structure Arguments where
  options : List (String × String)
  others : List String

namespace Arguments

def withOption (name value : String) (a : Arguments) : Arguments :=
  { a with options := (name, value) :: a.options }

def withOther (arg : String) (a : Arguments) : Arguments := { a with others := arg :: a.others }

/-- Whether an argument looks like an option. A lone hyphen does not. -/
def looksLikeOption (arg : String) : Bool :=
  match arg.toList with
  | '-' :: _ :: _ => true
  | _ => false

/-- Sorts arguments, given the names of the options. An option has its value behind an equals sign
or as the next argument, which must not look like an option. Behind two hyphens nothing is an
option. -/
def sort? (names : List String) : List String → Option Arguments
  | [] => some ⟨[], []⟩
  | "--" :: args => some ⟨[], args⟩
  | arg :: args =>
    if looksLikeOption arg then
      match arg.toList.dropWhile (· != '=') with
      | [] =>
        match args with
        | [] => none
        | value :: args =>
          if arg ∈ names ∧ ¬looksLikeOption value then (sort? names args).map (withOption arg value)
          else none
      | _ :: value =>
        let name := String.ofList (arg.toList.takeWhile (· != '='))
        if name ∈ names then (sort? names args).map (withOption name (String.ofList value))
        else none
    else (sort? names args).map (withOther arg)

/-- The value of an option that is not given twice. -/
def value? (a : Arguments) (name : String) : Option (Option String) :=
  match a.options.filter (·.1 == name) with
  | [] => some none
  | [(_, value)] => some (some value)
  | _ => none

end Arguments

/-- The window that a text names: a number of 32 bits, perhaps with a sign. -/
def windowOf? (s : String) : Option UInt32 :=
  let (negative, digits) := splitSign s.toList
  let value := decimalValue digits
  if digits.isEmpty ∨ !digits.all isAsciiDigit then none
  else if UInt32.size ≤ value ∨ (negative ∧ value ≠ 0) then none
  else some (UInt32.ofNat value)

def pathOf? (s : String) : Option String := if s = "" then none else some s

namespace Command

/-- The program that is read if no path is given, below the directory for configurations. -/
def defaultPath : (configDirectory : Option String) → String
  | some directory => directory ++ "/ossuary/actions.conf"
  | none => "actions.conf"

/-- The path among the arguments of a command that may be given one. -/
def optionalPath? (configDirectory : Option String) (args : List String) : Option String := do
  match (← Arguments.sort? [] args).others with
  | [] => some (defaultPath configDirectory)
  | [path] => pathOf? path
  | _ => none

def ofArguments? (configDirectory : Option String) : List String → Option Command
  | "check" :: args => (optionalPath? configDirectory args).map .check
  | "dump" :: args => (optionalPath? configDirectory args).map .dump
  | "run" :: args => do
    let args ← Arguments.sort? ["--clients", "--target", "--context"] args
    let clients ← (← args.value? "--clients") >>= pathOf?
    let target ←
      match ← args.value? "--target" with
      | none => some none
      | some text => (windowOf? text).map some
    let context ← FrameContext.ofName? ((← args.value? "--context").getD "none")
    match args.others with
    | [program] => some (.run clients target context program)
    | _ => none
  | _ => none

def inputPath : Command → String
  | check path | dump path => path
  | run clients _ _ _ => clients

/-- The states of clients after a program has run on them. A session that the program has begun is
aborted, since there is nobody to give it input. -/
def simulate (clients : ClientStore) (list : ActionList) (trigger : Trigger) : List ClientSpec :=
  let engine := Engine.ofClients ({} : HeadlessSeat) clients
  let (started, engine) := engine.run list trigger
  (if started then engine.cancel else engine).stage.desktop.clients.specs

/-- Runs a program on the clients that a JSON text describes. -/
def runOnClients [PatternEngine] (json : String) (target : Option UInt32) (context : FrameContext)
    (program : String) : Except LoadError (List ClientSpec) :=
  match ClientStore.parse? json with
  | none => .error .json
  | some clients => do
    let list ← Vocabulary.builtin.load program
    let client := (target.bind clients.find?).map (·.ref)
    return simulate clients list { context, client }

/-- What a command prints, given what reading its file has led to. -/
def execute [PatternEngine] (command : Command) (contents : Except ReadError String) :
    Except LoadError String :=
  match command with
  | check path => do
    let list ← Vocabulary.builtin.loadFile path contents
    return path ++ ": " ++ toString list.length ++ " entries\n"
  | dump path => do
    let list ← Vocabulary.builtin.loadFile path contents
    return list.toJson.indented ++ "\n"
  | run path target context program =>
    match contents with
    | .error e => .error (.file path e)
    | .ok json => do
      let specs ← runOnClients json target context program
      return (ClientSpec.listToJson specs).indented ++ "\n"

def outcome [PatternEngine] (command : Command) (contents : Except ReadError String) :
    Outcome :=
  match command.execute contents with
  | .ok text => .printed text
  | .error e => .failed e.message

end Command

end WindowActions
