/-! # Options

What the words of a command line ask for. An option is given by a letter after one dash or by a name
after two; letters can be joined after one dash, names can be cut short as long as they are not
ambiguous, and a value follows in the same word or in the next. There are no arguments besides
options. -/

namespace MiniLisp.CommandLine

/-- What can be asked for. -/
inductive Flag where
  | help
  | input
  | output
  | debug
  | version
  deriving Repr, DecidableEq

namespace Flag

/-- All options. -/
def all : List Flag := [.help, .input, .output, .debug, .version]

/-- The name after two dashes. -/
def name : Flag → String
  | .help => "help"
  | .input => "input"
  | .output => "output"
  | .debug => "debug"
  | .version => "version"

/-- The letter after one dash. -/
def letter? : Flag → Option Char
  | .help => some 'h'
  | .input => some 'i'
  | .output => some 'o'
  | .debug => some 'd'
  | .version => none

/-- Whether the option has a value. -/
def hasValue : Flag → Bool
  | .input | .output => true
  | .help | .debug | .version => false

/-- The option with a given letter. -/
def ofLetter? (c : Char) : Option Flag := all.find? fun f => f.letter? = some c

/-- The option with a given name. -/
def ofName? (name : List Char) : Option Flag := all.find? fun f => f.name.toList = name

/-- The options whose names begin as given. -/
def beginningWith (start : List Char) : List Flag :=
  all.filter fun f => start.isPrefixOf f.name.toList

end Flag

/-- A request, with its value if it has one. -/
structure Request where
  flag : Flag
  value : String := ""
  deriving Repr, DecidableEq

/-- The request for an option with the value that stands in the same word. Two dashes there stand
    for an empty value. -/
def Request.withValue (flag : Flag) (value : List Char) : Request :=
  ⟨flag, if value = ['-', '-'] then "" else String.ofList value⟩

/-- What one word asks for. -/
structure Requests where
  /-- The requests that are complete. -/
  complete : List Request := []
  /-- The option whose value must be the next word. -/
  open? : Option Flag := none
  deriving Repr, DecidableEq

/-- The words of a command line by what they are. -/
inductive Word where
  /-- No option. -/
  | plain (text : String)
  /-- Two dashes, after which no word is an option. -/
  | separator
  /-- Something like an option that is none. -/
  | unknown
  /-- One option or more, or `none` if they are misused. -/
  | options (requests : Option Requests)
  deriving Repr, DecidableEq

namespace Word

/-- The requests of an option with nothing after it in its word. -/
def alone (flag : Flag) : Requests :=
  if flag.hasValue then { open? := some flag } else { complete := [⟨flag, ""⟩] }

/-- The requests of an option by name, with the value after an equals sign if there is one. -/
def byName (flag : Flag) : Option (List Char) → Option Requests
  | none => some (alone flag)
  | some value => if flag.hasValue then some { complete := [.withValue flag value] } else none

/-- The requests of an option by letter, with the characters after the letter. They are the value of
    an option that has one, and else more letters. -/
def byLetter (flag : Flag) : List Char → Option Requests
  | [] => some (alone flag)
  | c :: cs =>
    if flag.hasValue then some { complete := [.withValue flag (c :: cs)] }
    else
      (Flag.ofLetter? c).bind fun next =>
        (byLetter next cs).map fun rs => { rs with complete := ⟨flag, ""⟩ :: rs.complete }

/-- The requests of a word by its first letter and the characters after that. An equals sign after
    the first letter is skipped; there must be something to skip it for, unless the option has a
    value, which may be empty. -/
def byLetters (flag : Flag) : List Char → Option Requests
  | '=' :: cs => if cs.isEmpty then byName flag (some []) else byLetter flag cs
  | cs => byLetter flag cs

/-- Whether a text is one decimal digit or more. -/
def isDigits (isDigit : Char → Bool) (cs : List Char) : Bool := !cs.isEmpty && cs.all isDigit

/-- Whether the characters after a dash make a negative number of it: digits, or digits after a
    point with or without digits before it. A newline may follow. -/
def isNumber (isDigit : Char → Bool) (cs : List Char) : Bool :=
  let cs := if cs.getLast? = some '\n' then cs.dropLast else cs
  isDigits isDigit cs ||
    (match cs.dropWhile isDigit with
      | '.' :: ds => isDigits isDigit ds
      | _ => false)

/-- A word that begins with a dash and is no option. Negative numbers and words with spaces are
    taken for plain words. -/
def notOption (isDigit : Char → Bool) (text : String) (cs : List Char) : Word :=
  if isNumber isDigit cs || cs.contains ' ' then .plain text else .unknown

/-- A word that begins with two dashes, given the characters after them. A name that is cut short
    must not be ambiguous. -/
def ofLong? (isDigit : Char → Bool) (text : String) (cs : List Char) : Option Word :=
  let name := cs.takeWhile (· ≠ '=')
  let value := if name.length < cs.length then some (cs.drop (name.length + 1)) else none
  match Flag.ofName? name with
  | some flag => some (.options (byName flag value))
  | none =>
    match Flag.beginningWith name with
    | [] => some (notOption isDigit text ('-' :: cs))
    | [flag] => some (.options (byName flag value))
    | _ => none

/-- What a word is, or `none` if it is an ambiguous option. -/
def of? (isDigit : Char → Bool) (text : String) : Option Word :=
  match text.toList with
  | '-' :: '-' :: cs => if cs.isEmpty then some .separator else ofLong? isDigit text cs
  | '-' :: c :: cs =>
    match Flag.ofLetter? c with
    | some flag => some (.options (byLetters flag cs))
    | none => some (notOption isDigit text (c :: cs))
  | _ => some (.plain text)

/-- What the words of a command line are, or `none` if one is an ambiguous option. -/
def all? (isDigit : Char → Bool) : List String → Option (List Word)
  | [] => some []
  | text :: texts => do
    match ← of? isDigit text with
    | .separator => some (.separator :: texts.map .plain)
    | word => (word :: ·) <$> all? isDigit texts

end Word

/-- What the program is to do. -/
structure Options where
  input : String := ""
  output : String := ""
  debug : Bool := false
  deriving Repr, DecidableEq

/-- The end of a program before it has begun. -/
structure Exit where
  status : Nat
  stdout : String := ""
  deriving Repr, DecidableEq

namespace Options

/-- What `--version` prints. -/
def versionText : String := "lispreter 0.1.0\n"

/-- What `--help` prints. -/
def helpText : String :=
  "usage: lispreter [-h] [-i INPUT_FILE] [-o OUTPUT_FILE] [-d] [--version]\n\n" ++
  "A small Lisp interpreter\n\n" ++
  "options:\n" ++
  "  -h, --help            show this help message and exit\n" ++
  "  -i INPUT_FILE, --input INPUT_FILE\n" ++
  "                        read the program from FILE (default: stdin)\n" ++
  "  -o OUTPUT_FILE, --output OUTPUT_FILE\n" ++
  "                        write results to FILE (default: stdout)\n" ++
  "  -d, --debug           print error details and stack traces\n" ++
  "  --version             show program's version number and exit\n"

/-- The end of a program whose command line is wrong. -/
def misuse : Exit := { status := 2 }

/-- Fulfils a request. -/
def fulfil (opts : Options) (r : Request) : Except Exit Options :=
  match r.flag with
  | .help => .error { status := 0, stdout := helpText }
  | .version => .error { status := 0, stdout := versionText }
  | .debug => .ok { opts with debug := true }
  | .input => .ok { opts with input := r.value }
  | .output => .ok { opts with output := r.value }

/-- Fulfils requests in order. Words that are no options are noted, and make the command line wrong
    at its end. -/
def fulfilAll (extras : Bool) (opts : Options) : List Word → Except Exit Options
  | [] => if extras then .error misuse else .ok opts
  | .plain _ :: words => fulfilAll true opts words
  | .separator :: words => fulfilAll true opts words
  | .unknown :: words => fulfilAll true opts words
  | .options none :: _ => .error misuse
  | .options (some rs) :: words =>
    match rs.open? with
    | none =>
      match rs.complete.foldlM fulfil opts with
      | .error exit => .error exit
      | .ok opts => fulfilAll extras opts words
    | some flag =>
      match words with
      | .plain value :: words =>
        match (rs.complete ++ [Request.mk flag value]).foldlM fulfil opts with
        | .error exit => .error exit
        | .ok opts => fulfilAll extras opts words
      | _ => .error misuse

/-- What a command line asks for. -/
def parse (isDigit : Char → Bool) (debugDefault : Bool) (args : List String) :
    Except Exit Options :=
  match Word.all? isDigit args with
  | none => .error misuse
  | some words => fulfilAll false { debug := debugDefault } words

end Options

end MiniLisp.CommandLine
