import GrantKeeper.Config

/-! The command line. Options may stand at the program, at a group of commands or at a command;
the innermost one counts, and at one place an option stands once. A value may not look like an
option unless it is tied on with an equals sign. After a double dash all that follows are
operands. -/
namespace GrantKeeper

inductive Command
  /-- Logs a user in through a device. -/
  | login (scopes : List String) (allowRefresh : Bool)
  | activate
  | whoAmI
  | logout
  | token
  | get (path : String)
deriving DecidableEq, Repr

structure Invocation where
  configPath : Option String := none
  overrides : Overrides := {}
  command : Command
deriving DecidableEq, Repr

namespace CommandLine

inductive Request
  | run (invocation : Invocation)
  | help
  | version
  /-- It makes no sense. -/
  | misuse
deriving DecidableEq, Repr

/-- A place in the command line: the program, a group of commands, or a command. -/
inductive Place
  | program
  | oauth2
  | login
  | activate
  | whoAmI
  | logout
  | token
  | get
deriving DecidableEq, Repr

namespace Place

def next? (place : Place) (word : String) : Option Place :=
  match place, word with
  | program, "oauth2" => some oauth2
  | program, "get" => some get
  | oauth2, "login" => some login
  | oauth2, "activate" => some activate
  | oauth2, "whoami" => some whoAmI
  | oauth2, "logout" => some logout
  | oauth2, "token" => some token
  | _, _ => none

def isGroup (place : Place) : Bool := place = program || place = oauth2

def valued (place : Place) : List String :=
  ["config", "issuer-endpoint", "client-id", "audience", "key-file", "web-service-url"] ++
    if place = login then ["scope"] else []

def flags (place : Place) : List String :=
  "log-json" :: if place = login then ["no-refresh"] else []

def capacity (place : Place) : Nat := if place = get then 1 else 0

end Place

structure Given where
  name : String
  value : String := ""
deriving DecidableEq, Repr

structure Progress where
  place : Place := .program
  /-- The options at this place. -/
  here : List Given := []
  /-- The options at the places before, the nearest first. -/
  before : List Given := []
  operands : List String := []
deriving DecidableEq, Repr

namespace Progress

def enter (p : Progress) (place : Place) : Progress := ⟨place, [], p.here ++ p.before, []⟩

/-- Takes in an option; only scopes may come again at one place. -/
def give? (p : Progress) (option : Given) : Option Progress :=
  if option.name != "scope" && p.here.any (·.name == option.name) then none
  else some { p with here := p.here ++ [option] }

def operand? (p : Progress) (operand : String) : Option Progress :=
  if p.operands.length < p.place.capacity then some { p with operands := p.operands ++ [operand] }
  else none

/-- The value of an option at the innermost place where it stands. -/
def value? (p : Progress) (name : String) : Option String :=
  ((p.here ++ p.before).find? (·.name == name)).map (·.value)

def command? (p : Progress) : Option Command :=
  match p.place, p.operands with
  | .login, _ =>
    some (.login ((p.here.filter (·.name == "scope")).map (·.value))
      (!p.here.any (·.name == "no-refresh")))
  | .activate, _ => some .activate
  | .whoAmI, _ => some .whoAmI
  | .logout, _ => some .logout
  | .token, _ => some .token
  | .get, [path] => some (.get path)
  | .get, _ | .program, _ | .oauth2, _ => none

/-- What a command line that ends here asks for. -/
def finish (p : Progress) : Request :=
  match p.command? with
  | none => .misuse
  | some command =>
    .run ⟨p.value? "config", ⟨p.value? "issuer-endpoint", p.value? "client-id", p.value? "audience",
      p.value? "key-file", p.value? "web-service-url"⟩, command⟩

end Progress

inductive Form
  | word
  | doubleDash
  /-- A name behind two dashes, perhaps with a value tied on. -/
  | long (name : String) (value : Option String)
  /-- A letter behind one dash. -/
  | short (letter : Char)
deriving DecidableEq, Repr

def Form.of (argument : String) : Form :=
  match argument.toList with
  | ['-', '-'] => .doubleDash
  | '-' :: '-' :: rest =>
    let name := rest.takeWhile (· != '=')
    .long (String.ofList name)
      (if name.length < rest.length then some (String.ofList (rest.drop (name.length + 1))) else none)
  | '-' :: letter :: _ => .short letter
  | _ => .word

/-- Whether the words behind a request for help name a command. -/
def isHelpTopic : Place → List String → Bool
  | _, [] => true
  | place, word :: rest =>
    match place.next? word with
    | some inner => isHelpTopic inner rest
    | none => place.isGroup && word == "help" && rest.isEmpty

def readOperands (p : Progress) (arguments : List String) : Request :=
  match arguments.foldlM Progress.operand? p with
  | some p => p.finish
  | none => .misuse

def short (place : Place) (letter : Char) : Request :=
  if letter = 'h' then .help
  else if letter = 'V' && place = .program then .version
  else .misuse

def readFrom (p : Progress) : List String → Request
  | [] => p.finish
  | argument :: rest =>
    match Form.of argument with
    | .doubleDash => readOperands p rest
    | .short letter => short p.place letter
    | .long "help" none => .help
    | .long "version" none => if p.place = .program then .version else .misuse
    | .long name (some value) =>
      if p.place.valued.contains name then
        match p.give? ⟨name, value⟩ with
        | some p => readFrom p rest
        | none => .misuse
      else .misuse
    | .long name none =>
      if p.place.flags.contains name then
        match p.give? ⟨name, ""⟩ with
        | some p => readFrom p rest
        | none => .misuse
      else if p.place.valued.contains name then
        match rest with
        | [] => .misuse
        | value :: rest =>
          if Form.of value = .word then
            match p.give? ⟨name, value⟩ with
            | some p => readFrom p rest
            | none => .misuse
          else .misuse
      else .misuse
    | .word =>
      match p.place.next? argument with
      | some inner => readFrom (p.enter inner) rest
      | none =>
        if p.place.isGroup && argument == "help" then
          if isHelpTopic p.place rest then .help else .misuse
        else
          match p.operand? argument with
          | some p => readFrom p rest
          | none => .misuse

def read (arguments : List String) : Request := readFrom {} arguments

def version : String := "pulsarctl 0.1.0\n"

def usage : String :=
  "Usage: pulsarctl [OPTIONS] <COMMAND>\n\nCommands:\n" ++
  "  oauth2 login      Log in interactively with a device code\n" ++
  "  oauth2 activate   Log in with a service account key file\n" ++
  "  oauth2 whoami     Show the identity stored for the audience\n" ++
  "  oauth2 logout     Remove all stored credentials\n" ++
  "  oauth2 token      Print a valid access token for the audience\n" ++
  "  get <PATH>        Get an admin path and print the response\n\nOptions:\n" ++
  "      --config <CONFIG>\n      --log-json\n      --issuer-endpoint <ISSUER_ENDPOINT>\n" ++
  "      --client-id <CLIENT_ID>\n      --audience <AUDIENCE>\n      --key-file <KEY_FILE>\n" ++
  "      --web-service-url <WEB_SERVICE_URL>\n      --scope <SCOPES>   (oauth2 login)\n" ++
  "      --no-refresh       (oauth2 login)\n  -h, --help\n  -V, --version\n"

end CommandLine
end GrantKeeper
