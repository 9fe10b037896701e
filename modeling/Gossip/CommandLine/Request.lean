import Gossip.CommandLine.Path
import Gossip.Frame.Network

/-! Requests on the command line.

The arguments before the name of an action may raise the level of the log, or ask for the version or
for help. After it come the parameters of the action, in any order, and the level of the log may be
raised there too; then it counts alone. A parameter takes its value after an equals sign or from the
next argument, which must not look like an option; after two dashes nothing is an option. Every
parameter but the items is given at most once.

Arguments are read from left to right, and what is wrong with one is found when it is read: a
request for help counts only if nothing before it is wrong. -/
namespace Gossip

/-- How a transcript is shown. -/
inductive Format where
  | json
  | pretty
  deriving DecidableEq, Repr

def Format.ofName? : String → Option Format
  | "json" => some .json
  | "pretty" => some .pretty
  | _ => none

inductive Action where
  | inspect (path : Path) (pattern : Option String) (network : Network)
  | decode (path : Path) (network : Network) (format : Format)
  | encode (command : String) (items : List String) (network : Network) (output : Path)
  deriving DecidableEq, Repr

namespace CommandLine

/-! ### Actions and their parameters -/

/-- What an action is told by name. -/
inductive Parameter where
  | glob
  | network
  | format
  | command
  | item
  | out
  deriving DecidableEq, Repr

namespace Parameter

def name : Parameter → String
  | .glob => "glob"
  | .network => "network"
  | .format => "format"
  | .command => "command"
  | .item => "item"
  | .out => "out"

/-- May it be given more than once? -/
def isRepeatable (parameter : Parameter) : Bool := parameter = .item

/-- Is the text a value of the parameter? -/
def admits (parameter : Parameter) (value : String) : Bool :=
  match parameter with
  | .network => (Network.ofName? value).isSome
  | .format => (Format.ofName? value).isSome
  | .out => value ≠ ""
  | _ => true

end Parameter

inductive ActionKind where
  | inspect
  | decode
  | encode
  deriving DecidableEq, Repr

namespace ActionKind

def ofName? : String → Option ActionKind
  | "inspect" => some .inspect
  | "decode" => some .decode
  | "encode" => some .encode
  | _ => none

def parameters : ActionKind → List Parameter
  | .inspect => [.glob, .network]
  | .decode => [.network, .format]
  | .encode => [.command, .item, .network, .out]

/-- The parameter with a name, if the action has it. -/
def parameter? (kind : ActionKind) (name : String) : Option Parameter :=
  kind.parameters.find? fun parameter => parameter.name == name

/-- Does the action work on a path? -/
def takesPath (kind : ActionKind) : Bool := kind ≠ .encode

end ActionKind

/-- What help is about. -/
inductive HelpTopic where
  | program
  | action (kind : ActionKind)
  /-- The request for help itself. -/
  | help
  deriving DecidableEq, Repr

/-- What help with a name is about. -/
def HelpTopic.ofName? : String → Option HelpTopic
  | "help" => some .help
  | name => (ActionKind.ofName? name).map .action

end CommandLine

/-! ### Requests and misuse -/

inductive Request where
  | version
  | help (topic : CommandLine.HelpTopic)
  | act (verbosity : Nat) (action : Action)
  deriving DecidableEq, Repr

/-- What is wrong with the arguments. -/
inductive Misuse where
  | unknownArgument (argument : String)
  | missingValue (option : String)
  | unexpectedValue (option : String)
  | invalidValue (what value : String)
  | repeated (option : String)
  | missing (what : String)
  deriving DecidableEq, Repr

def Misuse.message : Misuse → String
  | .unknownArgument argument => "unexpected argument: " ++ argument
  | .missingValue option => "a value is missing for --" ++ option
  | .unexpectedValue option => "--" ++ option ++ " takes no value"
  | .invalidValue what value => "invalid value for " ++ what ++ ": " ++ value
  | .repeated option => "--" ++ option ++ " is given more than once"
  | .missing what => "missing: " ++ what

namespace CommandLine

/-! ### Single arguments -/

/-- What an argument looks like. -/
inductive Word where
  /-- Two dashes alone. -/
  | separator
  /-- Two dashes and a name, and perhaps a value after an equals sign. -/
  | long (name : String) (value : Option String)
  /-- One dash and letters. -/
  | short (letters : List Char)
  | plain (text : String)
  deriving DecidableEq, Repr

def Word.ofText (text : String) : Word :=
  match text.toList with
  | ['-', '-'] => .separator
  | '-' :: '-' :: rest =>
    let name := String.ofList (rest.takeWhile (· ≠ '='))
    match rest.dropWhile (· ≠ '=') with
    | [] => .long name none
    | _ :: value => .long name (some (String.ofList value))
  | '-' :: letter :: letters => .short (letter :: letters)
  | _ => .plain text

/-! ### The arguments of an action -/

/-- What the arguments of an action come to. -/
structure Collected where
  verbosity : Nat := 0
  path : Option String := none
  /-- The parameters and their values, in order. -/
  values : List (Parameter × String) := []
  deriving DecidableEq, Repr

/-- Why the arguments of an action are not collected to the end. -/
inductive Stop where
  | misuse (misuse : Misuse)
  | help
  deriving DecidableEq, Repr

/-- Counts letters that raise the level of the log. -/
def countVerbose (letters : List Char) (count : Nat) : Except Stop Nat :=
  match letters with
  | [] => .ok count
  | 'v' :: rest => countVerbose rest (count + 1)
  | 'h' :: _ => .error .help
  | letter :: _ => .error (.misuse (.unknownArgument ("-" ++ String.singleton letter)))

namespace Collected

/-- Takes the value of a parameter. -/
def give (so : Collected) (parameter : Parameter) (value : String) : Except Stop Collected :=
  if !parameter.isRepeatable && so.values.any (fun entry => entry.1 = parameter) then
    .error (.misuse (.repeated parameter.name))
  else if parameter.admits value then .ok { so with values := so.values ++ [(parameter, value)] }
  else .error (.misuse (.invalidValue parameter.name value))

/-- Takes an argument that is no option: the path of an action that works on one. -/
def place (kind : ActionKind) (so : Collected) (text : String) : Except Stop Collected :=
  if kind.takesPath && so.path.isNone then
    if text = "" then .error (.misuse (.invalidValue "path" text))
    else .ok { so with path := some text }
  else .error (.misuse (.unknownArgument text))

end Collected

/-- Goes through the arguments of an action. -/
def collect (kind : ActionKind) (so : Collected) : List String → Except Stop Collected
  | [] => .ok so
  | argument :: rest =>
    match Word.ofText argument with
    | .separator => rest.foldlM (Collected.place kind) so
    | .plain text => do collect kind (← so.place kind text) rest
    | .short letters => do
      let verbosity ← countVerbose letters so.verbosity
      collect kind { so with verbosity } rest
    | .long "verbose" none => collect kind { so with verbosity := so.verbosity + 1 } rest
    | .long "help" none => .error .help
    | .long name value =>
      match kind.parameter? name, value, rest with
      | none, _, _ =>
        if name = "verbose" ∨ name = "help" then .error (.misuse (.unexpectedValue name))
        else .error (.misuse (.unknownArgument argument))
      | some parameter, some value, rest => do collect kind (← so.give parameter value) rest
      | some parameter, none, [] => .error (.misuse (.missingValue parameter.name))
      | some parameter, none, next :: rest =>
        match Word.ofText next with
        | .plain value => do collect kind (← so.give parameter value) rest
        | _ => .error (.misuse (.missingValue parameter.name))

namespace Collected

/-- All values of a parameter. -/
def all (so : Collected) (parameter : Parameter) : List String :=
  (so.values.filter fun entry => entry.1 = parameter).map Prod.snd

/-- The value of a parameter that is given at most once. -/
def value? (so : Collected) (parameter : Parameter) : Option String := (so.all parameter).head?

def network (so : Collected) : Network :=
  ((so.value? .network).bind Network.ofName?).getD .mainnet

def format (so : Collected) : Format := ((so.value? .format).bind Format.ofName?).getD .json

/-- A part of the request that must be there. -/
def require (what : String) (part : Option String) : Except Misuse String :=
  match part with
  | some part => .ok part
  | none => .error (.missing what)

/-- The action that was asked for. -/
def action (so : Collected) : ActionKind → Except Misuse Action
  | .inspect => do return .inspect (← require "path" so.path) (so.value? .glob) so.network
  | .decode => do return .decode (← require "path" so.path) so.network so.format
  | .encode => do
    let command ← require "--command" (so.value? .command)
    let output ← require "--out" (so.value? .out)
    return .encode command (so.all .item) so.network output

end Collected

/-! ### All arguments -/

/-- Reads the arguments after the name of an action. -/
def requestFor (verbosity : Nat) (kind : ActionKind) (arguments : List String) :
    Except Misuse Request :=
  match collect kind {} arguments with
  | .error .help => .ok (.help (.action kind))
  | .error (.misuse misuse) => .error misuse
  | .ok so => do
    let action ← so.action kind
    return .act (if so.verbosity = 0 then verbosity else so.verbosity) action

/-- Reads what help is asked for: help as a whole, or on one action or on help itself. -/
def helpFor : List String → Except Misuse Request
  | [] => .ok (.help .program)
  | name :: rest =>
    match HelpTopic.ofName? name, rest with
    | none, _ => .error (.unknownArgument name)
    | some topic, [] => .ok (.help topic)
    | some _, extra :: _ => .error (.unknownArgument extra)

/-- What letters before the name of an action ask for. -/
def readLetters (letters : List Char) (count : Nat) : Except Misuse (Request ⊕ Nat) :=
  match letters with
  | [] => .ok (.inr count)
  | 'v' :: rest => readLetters rest (count + 1)
  | 'h' :: _ => .ok (.inl (.help .program))
  | 'V' :: _ => .ok (.inl .version)
  | letter :: _ => .error (.unknownArgument ("-" ++ String.singleton letter))

/-- Reads the arguments, of which those before raised the level of the log so far. -/
def readFrom (verbosity : Nat) : List String → Except Misuse Request
  | [] => .error (.missing "action")
  | argument :: rest =>
    match Word.ofText argument with
    | .plain "help" => helpFor rest
    | .plain name =>
      match ActionKind.ofName? name with
      | some kind => requestFor verbosity kind rest
      | none => .error (.unknownArgument name)
    | .short letters =>
      match readLetters letters verbosity with
      | .error misuse => .error misuse
      | .ok (.inl request) => .ok request
      | .ok (.inr verbosity) => readFrom verbosity rest
    | .long "verbose" none => readFrom (verbosity + 1) rest
    | .long "help" none => .ok (.help .program)
    | .long "version" none => .ok .version
    | _ => .error (.unknownArgument argument)

/-- Reads the arguments. -/
def read (arguments : List String) : Except Misuse Request := readFrom 0 arguments

end CommandLine
end Gossip
