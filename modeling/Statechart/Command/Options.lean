namespace Statechart

inductive Command where
  | generate
  | check
  | merge
deriving DecidableEq, Repr

-- A request as the command line makes it. `input` is the path to read, or `-`.
structure Options where
  command : Command := .generate
  input : Option String := none
  pretty : Bool := false
  verbose : Bool := false
  color : Option String := none
  font : Option String := none
  config : Option String := none
  out : Option String := none
deriving DecidableEq, Repr

-- The settings that take the word behind them as their value.
inductive Setting where
  | color
  | font
  | config
  | out
deriving DecidableEq, Repr

-- What a word of a command line is where a flag may stand.
inductive Word where
  | command (command : Command)
  | pretty
  | verbose
  | setting (setting : Setting)
  | separator
  | path (path : String)
  | unknown
deriving DecidableEq, Repr

-- The words with a meaning of their own; a lone dash is a path.
def Word.known : List (String × Word) :=
  [("generate", .command .generate), ("check", .command .check), ("merge", .command .merge),
    ("--pretty", .pretty), ("--verbose", .verbose), ("-v", .verbose), ("--color", .setting .color),
    ("--font", .setting .font), ("--config", .setting .config), ("--out", .setting .out), ("--", .separator),
    ("-", .path "-")]

def Word.ofText (text : String) : Word :=
  match known.lookup text with
  | some word => word
  | none => if text.toList.head? = some '-' then .unknown else .path text

namespace Options

def apply (o : Options) (setting : Setting) (value : String) : Options :=
  match setting with
  | .color => { o with color := some value }
  | .font => { o with font := some value }
  | .config => { o with config := some value }
  | .out => { o with out := some value }

-- There is at most one path.
def withInput? (o : Options) (path : String) : Option Options :=
  if o.input.isSome then none else some { o with input := some path }

-- Reads words one after another into options. Behind the separator any one word is a path.
def readWords (o : Options) : List String → Option Options
  | [] => some o
  | word :: rest => match Word.ofText word with
      | .command command => readWords { o with command } rest
      | .pretty => readWords { o with pretty := true } rest
      | .verbose => readWords { o with verbose := true } rest
      | .setting setting => match rest with
          | [] => none
          | value :: rest => readWords (o.apply setting value) rest
      | .separator => match rest with
          | [] => some o
          | [path] => o.withInput? path
          | _ => none
      | .path path => match o.withInput? path with
          | some o => readWords o rest
          | none => none
      | .unknown => none

-- A merge needs a directory, which cannot come in from outside.
def isComplete (o : Options) : Bool :=
  o.command != .merge || (o.input.isSome && o.input != some "-")

-- The options that a command line asks for; none when it has to be told how it is used.
def parse (words : List String) : Option Options :=
  (readWords {} words).filter isComplete

end Options

-- How the command line is used.
def usage : String :=
  "blockstm-cli\n" ++
  "\n" ++
  "USAGE:\n" ++
  "blockstm-cli [generate] [--color <c>] [--font <family>] [--config <path>] [--out <path>] [-v] " ++
    "[<path>|-]\n" ++
  "blockstm-cli check [--pretty] [-v] [<path>|-]\n" ++
  "blockstm-cli merge [--pretty] [-v] <dir>\n" ++
  "\n" ++
  "NOTES:\n" ++
  "- If <path> is omitted or '-', input is read from stdin.\n" ++
  "- generate prints PlantUML text to stdout by default; use --out to write a file.\n" ++
  "- --config reads a JSON object merged over the defaults; --color and --font win over it.\n" ++
  "- check prints the model's health flags and the notice it would produce as JSON.\n" ++
  "- merge combines the single JSON document in each subdirectory of <dir> into one object.\n" ++
  "- Diagnostics go to stderr; RUST_LOG overrides the level chosen by -v.\n"

end Statechart
