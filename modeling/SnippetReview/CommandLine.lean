import SnippetReview.SocketAddress

namespace SnippetReview.CommandLine

inductive Command where
  | serve
  | lsp
  deriving DecidableEq, Repr

inductive Setting where
  | bind
  | config
  | logLevel
  deriving DecidableEq, Repr

abbrev Level := Option Command

inductive Fault where
  | unknownArgument
  | unknownCommand
  | missingValue (s : Setting)
  | emptyValue (s : Setting)
  | notAnAddress
  | repeated (s : Setting)
  | needlessValue
  deriving DecidableEq, Repr

def Fault.message : Fault → String
  | unknownArgument => "unexpected argument"
  | unknownCommand => "unrecognized subcommand"
  | missingValue _ => "a value is required"
  | emptyValue _ => "a value cannot be empty"
  | notAnAddress => "invalid socket address"
  | repeated _ => "an argument cannot be used multiple times"
  | needlessValue => "unexpected value"

inductive Page where
  | overview
  | command (c : Command)
  | help
  deriving DecidableEq, Repr

inductive Stop where
  | help (page : Page)
  | version
  | fault (f : Fault)
  deriving DecidableEq, Repr

structure Values where
  bind : Option SocketAddress := none
  config : Option Text := none
  logLevel : Option Text := none
  deriving DecidableEq, Repr

structure Invocation where
  command : Option Command
  bind : Option SocketAddress
  config : Option Text
  logLevel : Text
  deriving DecidableEq, Repr

/-! ### Names -/

def Command.name : Command → Text
  | serve => "serve".toList
  | lsp => "lsp".toList

def command? (name : Text) : Option Command :=
  [Command.serve, .lsp].find? fun c => c.name == name

def helpName : Text :=
  "help".toList

def isCommandWord (word : Text) : Bool :=
  word == helpName || (command? word).isSome

def Setting.name : Setting → Text
  | bind => "bind".toList
  | config => "config".toList
  | logLevel => "log-level".toList

def settings : Level → List Setting
  | some .serve => [.bind, .config, .logLevel]
  | _ => [.config, .logLevel]

def setting? (level : Level) (name : Text) : Option Setting :=
  (settings level).find? fun s => s.name == name

/-! ### Values -/

namespace Values

def has (v : Values) : Setting → Bool
  | .bind => v.bind.isSome
  | .config => v.config.isSome
  | .logLevel => v.logLevel.isSome

def set (v : Values) (s : Setting) (text : Text) : Except Fault Values :=
  if v.has s then .error (.repeated s)
  else
    match s with
    | .bind =>
      match SocketAddress.read? text with
      | some address => .ok { v with bind := some address }
      | none => .error .notAnAddress
    | .config =>
      if text.isEmpty then .error (.emptyValue .config) else .ok { v with config := some text }
    | .logLevel => .ok { v with logLevel := some text }

end Values

def invocation (command : Option Command) (above below : Values) : Invocation where
  command := command
  bind := below.bind
  config := below.config.or above.config
  logLevel := (below.logLevel.or above.logLevel).getD "info".toList

/-! ### Arguments -/

inductive Argument where
  /-- The two dashes after which nothing is an option. -/
  | divider
  | long (name : Text) (value : Option Text)
  | short (letters : Text)
  | plain (word : Text)
  deriving DecidableEq, Repr

def splitValue (text : Text) : Text × Option Text :=
  let name := text.takeWhile (· != '=')
  match text.drop name.length with
  | _ :: value => (name, some value)
  | [] => (name, none)

def Argument.ofText : Text → Argument
  | ['-', '-'] => divider
  | '-' :: '-' :: text =>
    let (name, value) := splitValue text
    long name value
  | ['-'] => plain ['-']
  | '-' :: letters => short letters
  | word => plain word

structure Reading where
  values : Values := {}
  pending : Option (Setting × Option Text) := none
  /-- The divider has been read. -/
  divided : Bool := false

namespace Reading

def isWaiting (r : Reading) : Bool :=
  match r.pending with
  | some (_, none) => true
  | _ => false

def settle (r : Reading) : Except Stop Reading :=
  match r.pending with
  | none => .ok r
  | some (s, none) => .error (.fault (.missingValue s))
  | some (s, some text) =>
    match r.values.set s text with
    | .ok values => .ok { r with values := values, pending := none }
    | .error f => .error (.fault f)

def finish (r : Reading) : Except Stop Values :=
  r.settle.map Reading.values

def stop {α : Type} (r : Reading) (s : Stop) : Except Stop α :=
  match r.settle with
  | .ok _ => .error s
  | .error e => .error e

def helpPage (level : Level) : Stop :=
  .help (level.elim .overview .command)

def strayFault (r : Reading) (level : Level) (word : Text) : Fault :=
  if level.isSome || (r.divided && isCommandWord word) then .unknownArgument else .unknownCommand

def flag? (level : Level) (name : Text) : Option Stop :=
  if name == "help".toList then some (helpPage level)
  else if name == "version".toList && level.isNone then some .version
  else none

def letter? (level : Level) (letter : Char) : Option Stop :=
  if letter == 'h' then some (helpPage level)
  else if letter == 'V' && level.isNone then some .version
  else none

def readLong (r : Reading) (level : Level) (name : Text) (value : Option Text) :
    Except Stop Reading :=
  match setting? level name, flag? level name, value with
  | some s, _, none => r.settle.map fun r => { r with pending := some (s, none) }
  | some s, _, some text =>
    r.settle.bind fun r => { r with pending := some (s, some text) }.settle
  | none, some s, none => r.stop s
  | none, some _, some _ => .error (.fault .needlessValue)
  | none, none, _ => .error (.fault .unknownArgument)

def readShort (r : Reading) (level : Level) (letters : Text) : Except Stop Reading :=
  match letters.head?.bind (letter? level) with
  | some s => r.stop s
  | none => .error (.fault .unknownArgument)

def readWord (r : Reading) (level : Level) (word : Text) : Except Stop Reading :=
  match r.pending with
  | some (s, none) => .ok { r with pending := some (s, some word) }
  | _ => .error (.fault (r.strayFault level word))

def read (level : Level) (r : Reading) (text : Text) : Except Stop Reading :=
  if r.divided then .error (.fault (r.strayFault level text))
  else
    match Argument.ofText text with
    | .divider => .ok { r with divided := true }
    | .long name value => r.readLong level name value
    | .short letters => r.readShort level letters
    | .plain word => r.readWord level word

def startsCommand (r : Reading) (word : Text) : Bool :=
  !r.divided && !r.isWaiting && isCommandWord word

end Reading

def helpFor : List Text → Stop
  | [] => .help .overview
  | [word] =>
    match command? word with
    | some c => .help (.command c)
    | none => if word == helpName then .help .help else .fault .unknownCommand
  | _ => .fault .unknownCommand

def readAfter (c : Command) (args : List Text) : Except Stop Values := do
  (← args.foldlM (Reading.read (some c)) {}).finish

/-- Reads arguments up to a command and those after it. What stands in front of the command is
settled last. -/
def readFrom (r : Reading) : List Text → Except Stop Invocation
  | [] => do return invocation none (← r.finish) {}
  | arg :: args =>
    if r.startsCommand arg then
      match command? arg with
      | none => .error (helpFor args)
      | some c => do
        let below ← readAfter c args
        return invocation (some c) (← r.finish) below
    else do readFrom (← r.read none arg) args

def read (args : List Text) : Except Stop Invocation :=
  readFrom {} args

/-! ### Pages -/

def settingLine : Setting → String
  | .bind => "      --bind <BIND>            Address to listen on (e.g. 127.0.0.1:3000)\n"
  | .config => "      --config <CONFIG>        Config file " ++
      "(default: <config dir>/snippet-checker/config.toml)\n"
  | .logLevel => "      --log-level <LOG_LEVEL>  Log level " ++
      "(trace, debug, info, warn, error) [default: info]\n"

def optionLines (level : Level) : String :=
  "Options:\n" ++ String.join ((settings level).map settingLine) ++
    "  -h, --help                   Print help\n"

def Command.purpose : Command → String
  | serve => "Serve the validation API over HTTP"
  | lsp => "Run as a language server over stdio"

def helpPurpose : String :=
  "Print this message or the help of the given subcommand(s)"

def Page.string : Page → String
  | overview =>
    "Heuristic diagnostics and corrections for short code snippets\n\n" ++
    "Usage: snippet-checker [OPTIONS] [COMMAND]\n\n" ++
    "Commands:\n" ++
    "  serve  " ++ Command.serve.purpose ++ "\n" ++
    "  lsp    " ++ Command.lsp.purpose ++ "\n" ++
    "  help   " ++ helpPurpose ++ "\n\n" ++
    optionLines none ++
    "  -V, --version                Print version\n"
  | command c =>
    c.purpose ++ "\n\nUsage: snippet-checker " ++ String.ofList c.name ++ " [OPTIONS]\n\n" ++
      optionLines (some c)
  | help =>
    helpPurpose ++ "\n\nUsage: snippet-checker help [COMMAND]...\n\n" ++
      "Arguments:\n  [COMMAND]...  Print help for the subcommand(s)\n"

def Page.text (page : Page) : Text :=
  page.string.toList

def versionText : Text :=
  "snippet-checker 0.1.0\n".toList

end SnippetReview.CommandLine
