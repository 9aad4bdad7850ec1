/-! # Requests

The arguments of the command line ask for help, for the version, or for a drawing of the rules
in some files.  Options may stand before and behind the patterns of files; two hyphens end
them. -/

namespace RuleAtlas.Command

inductive Sink where
  | standardOutput
  | file (path : String)
  deriving DecidableEq, Repr, Inhabited

/-- The sink of this name; a hyphen names the standard output. -/
def Sink.ofName (name : String) : Sink := if name = "-" then .standardOutput else .file name

structure Options where
  patterns : List String
  sink : Sink
  deriving DecidableEq, Repr, Inhabited

inductive Request where
  | help
  | version
  | draw (options : Options)
  deriving DecidableEq, Repr, Inhabited

/-! ## Arguments -/

inductive Argument where
  | pattern
  | output (value : Option String)
  | help
  | version
  | endOfOptions
  | unknown
  deriving DecidableEq, Repr, Inhabited

namespace Argument

/-- What an option with a long name says; behind an equals sign stands its value. -/
def ofLongName (text : List Char) : Argument :=
  let value :=
    match text.dropWhile (· != '=') with
    | [] => none
    | _ :: value => some (String.ofList value)
  match String.ofList (text.takeWhile (· != '=')), value with
  | "output", value => .output value
  | "help", none => .help
  | "version", none => .version
  | _, _ => .unknown

/-- What an option with a short name says; its value may follow at once. -/
def ofShortName (name : Char) (attached : List Char) : Argument :=
  match name, attached with
  | 'h', _ => .help
  | 'V', _ => .version
  | 'o', [] => .output none
  | 'o', '=' :: value => .output (some (String.ofList value))
  | 'o', value => .output (some (String.ofList value))
  | _, _ => .unknown

/-- What an argument says; a single hyphen is no option. -/
def ofText (text : String) : Argument :=
  match text.toList with
  | ['-', '-'] => .endOfOptions
  | '-' :: '-' :: longName => ofLongName longName
  | '-' :: name :: attached => ofShortName name attached
  | _ => .pattern

end Argument

/-! ## Requests -/

namespace Request

/-- The request for a drawing; there have to be patterns. -/
def ofParts (patterns : List String) (sink : Option Sink) : Option Request :=
  if patterns.isEmpty then none else some (.draw ⟨patterns, sink.getD .standardOutput⟩)

/-- The request of the arguments behind some that gave patterns and perhaps a sink; a second
sink is refused. -/
def read (patterns : List String) (sink : Option Sink) : List String → Option Request
  | [] => ofParts patterns sink
  | argument :: rest =>
    match Argument.ofText argument with
    | .pattern => read (patterns ++ [argument]) sink rest
    | .output (some value) =>
      if sink.isSome then none else read patterns (some (.ofName value)) rest
    | .output none =>
      match rest with
      | [] => none
      | value :: others =>
        if sink.isSome || Argument.ofText value ≠ .pattern then none
        else read patterns (some (.ofName value)) others
    | .help => some .help
    | .version => some .version
    | .endOfOptions => ofParts (patterns ++ rest) sink
    | .unknown => none

def ofArguments? (arguments : List String) : Option Request := read [] none arguments

end Request

/-! ## Texts -/

def versionText : String := "promgraph 0.1.0\n"

def usageText : String := "Usage: promgraph [OPTIONS] <RULE_FILES>...\n"

def helpText : String :=
  "promgraph: draw the dependency graph of Prometheus rules\n\n" ++ usageText ++
"
Arguments:
  <RULE_FILES>...  Rule files to read; glob patterns are expanded

Options:
  -o, --output <FILE>  Output file ('-' for stdout) [default: -]
  -h, --help           Print help
  -V, --version        Print version
"

def refusalText : String :=
  "error: invalid arguments\n\n" ++ usageText ++ "\nFor more information, try '--help'.\n"

end RuleAtlas.Command
