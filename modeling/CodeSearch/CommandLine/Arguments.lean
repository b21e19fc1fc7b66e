import CodeSearch.CommandLine.Subcommand

/-!
# Command line arguments

`parse` reads the arguments of the program.  They stand on two levels: options may come before the
subcommand and after it, each at most once a level, and those after it win.  The environment may name
the configuration file as well; it is looked at for every level without such an option, and what it
names is used if neither level names a file.

Arguments are judged from left to right, so a plea for help is heard only if nothing before it is
refused.
-/

namespace CodeSearch.CommandLine

/-- Why arguments do not lead to a run. -/
inductive Refusal where
  /-- They break the rules of the command line. -/
  | usage
  /-- They ask for help, on a subcommand or on the program. -/
  | help (topic : Option Subcommand)
  deriving DecidableEq, Repr

/-- The options of one level. -/
structure Options where
  /-- The directory to search. -/
  root : Option String := none
  /-- The configuration file. -/
  config : Option String := none
  /-- Output is JSON. -/
  json : Bool := false
  deriving DecidableEq, Repr

/-- What an argument looks like. -/
inductive Token where
  /-- Two dashes: only words follow. -/
  | separator
  /-- A long option, with what stands behind an equals sign. -/
  | long (name : String) (value : Option String)
  /-- Short options: at least one letter. -/
  | short (first : Char) (others : List Char)
  /-- Anything else, a single dash included. -/
  | word (text : String)

/-- What an argument looks like. -/
def Token.ofArgument (argument : String) : Token :=
  match argument.toList with
  | ['-', '-'] => .separator
  | '-' :: '-' :: rest =>
    match rest.span (· ≠ '=') with
    | (name, []) => .long (String.ofList name) none
    | (name, _ :: value) => .long (String.ofList name) (some (String.ofList value))
  | '-' :: first :: others => .short first others
  | _ => .word argument

namespace Options

/-- Gives an option its value, which must not be empty; no option is given twice. -/
def set (options : Options) (name value : String) : Except Refusal Options :=
  if value = "" then .error .usage
  else if name = "root" ∧ options.root.isNone then .ok { options with root := some value }
  else if name = "config" ∧ options.config.isNone then .ok { options with config := some value }
  else .error .usage

/-- Reads options up to the first word or separator.  The value of an option may be the next
argument, if that is a word. -/
def read (topic : Option Subcommand) (options : Options) :
    List String → Except Refusal (Options × List String)
  | [] => .ok (options, [])
  | argument :: rest =>
    match Token.ofArgument argument with
    | .separator | .word _ => .ok (options, argument :: rest)
    | .short first _ => .error (if first = 'h' then .help topic else .usage)
    | .long "help" none => .error (.help topic)
    | .long "json" none =>
      if options.json then .error .usage else read topic { options with json := true } rest
    | .long name (some value) => do read topic (← options.set name value) rest
    | .long name none =>
      match rest with
      | [] => .error .usage
      | value :: rest =>
        match Token.ofArgument value with
        | .word value => do read topic (← options.set name value) rest
        | _ => .error .usage

/-- The options of two levels together: what is given on the inner level wins. -/
def merge (outer inner : Options) : Options :=
  ⟨inner.root <|> outer.root, inner.config <|> outer.config, inner.json || outer.json⟩

end Options

/-- What the program is to do. -/
inductive Command where
  /-- Runs a request. -/
  | query (request : Request)
  /-- Runs the request that a text is. -/
  | call (text : String)
  /-- Lists the tools. -/
  | tools

/-- A whole command line. -/
structure Invocation where
  /-- The options of both levels. -/
  options : Options
  /-- What is to be done. -/
  command : Command

/-- A number of days as an argument: decimal digits, perhaps behind a plus, for less than `2 ^ 64`. -/
def days? (text : String) : Option UInt64 :=
  let digits : List Char := match text.toList with
    | '+' :: digits => digits
    | digits => digits
  let value : Nat := digits.foldl (fun n c => n * 10 + (c.toNat - 48)) 0
  if digits ≠ [] ∧ digits.all Char.isDigit ∧ value < UInt64.size then some (UInt64.ofNat value) else none

/-- The number of days if none is given. -/
def defaultDays : UInt64 := 7

/-- An argument of some kind as it stands on the command line; a number may be left out. -/
def argumentOf? : (kind : ArgumentKind) → Option String → Option kind.Value
  | .text, word => word
  | .number, none => some defaultDays
  | .number, some word => days? word

/-- The command of a subcommand and the word behind it. -/
def commandOf? : Subcommand → Option String → Option Command
  | .query tool, word => (argumentOf? tool.kind word).map fun argument => .query ⟨tool, argument⟩
  | .call, word => word.map .call
  | .tools, none => some .tools
  | .tools, some _ => none

/-- A word is taken at once if the subcommand can do with it. -/
def commandWith (subcommand : Subcommand) (word : Option String) : Except Refusal Command :=
  match commandOf? subcommand word with
  | some command => .ok command
  | none => .error .usage

/-- Reads what follows a subcommand: options and at most one word. -/
def readSubcommand (subcommand : Subcommand) (arguments : List String) :
    Except Refusal (Options × Command) := do
  let (options, rest) ← Options.read (some subcommand) {} arguments
  match rest with
  | [] => .ok (options, ← commandWith subcommand none)
  | ["--"] => .ok (options, ← commandWith subcommand none)
  | ["--", word] => .ok (options, ← commandWith subcommand (some word))
  | "--" :: _ => .error .usage
  | word :: rest =>
    let command ← commandWith subcommand (some word)
    let (options, rest) ← Options.read (some subcommand) options rest
    if rest = [] ∨ rest = ["--"] then .ok (options, command) else .error .usage

/-- What a plea for help is about. -/
def helpTopic : List String → Refusal
  | [] | "help" :: _ => .help none
  | [name] =>
    match Subcommand.ofName? name with
    | some subcommand => .help (some subcommand)
    | none => .usage
  | _ => .usage

/-- Reads the arguments of the program, `config` being the configuration file that the environment
names. -/
def parse (config : Option String) (arguments : List String) : Except Refusal Invocation := do
  let (outer, rest) ← Options.read none {} arguments
  match rest with
  | [] => .error .usage
  | name :: rest =>
    if name = "help" then .error (helpTopic rest)
    else match Subcommand.ofName? name with
      | none => .error .usage
      | some subcommand =>
        let (inner, command) ← readSubcommand subcommand rest
        let options := outer.merge inner
        if config = some "" ∧ (outer.config.isNone ∨ inner.config.isNone) then .error .usage
        else .ok ⟨{ options with config := options.config <|> config }, command⟩

end CodeSearch.CommandLine
