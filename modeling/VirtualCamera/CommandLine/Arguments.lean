import VirtualCamera.Format
import VirtualCamera.Text.Digits

/-!
# Arguments of the command line

A command is a word, followed by options.  Every option takes one value and may
be given once.  The value follows as an argument of its own, which must not
begin with a hyphen (a single hyphen is a value), or is attached: after an
equals sign, or directly after the letter of a short option.  A double hyphen
ends the options.  Everything else is a mistake of usage.
-/

namespace VirtualCamera.CommandLine

/-- An option: its long name, and the letter of its short form if it has
one. -/
structure Flag where
  name : String
  letter : Option Char
  deriving DecidableEq, Repr

/-- How an argument reads as the beginning of an option. -/
inductive Reading where
  /-- the option with its value attached -/
  | attached (flag : Flag) (value : String)
  /-- the option; its value is the next argument -/
  | pending (flag : Flag)
  deriving DecidableEq, Repr

/-- The characters before the first equals sign, and those after it if there
is one. -/
def splitAtEquals (text : List Char) : List Char × Option (List Char) :=
  match text.dropWhile (· != '=') with
  | [] => (text, none)
  | _ :: value => (text.takeWhile (· != '='), some value)

/-- Reads an argument as the beginning of one of several options. -/
def Reading.ofArgument? (flags : List Flag) (argument : String) : Option Reading :=
  match argument.toList with
  | '-' :: '-' :: text => do
    let (name, value) := splitAtEquals text
    let flag ← flags.find? fun f => f.name.toList == name
    match value with
    | some value => return .attached flag (String.ofList value)
    | none => return .pending flag
  | '-' :: letter :: rest => do
    let flag ← flags.find? fun f => f.letter == some letter
    match rest with
    | [] => return .pending flag
    | '=' :: value => return .attached flag (String.ofList value)
    | value => return .attached flag (String.ofList value)
  | _ => none

/-- Whether an argument can be the value of the option before it. -/
def isValue (argument : String) : Bool :=
  match argument.toList with
  | ['-'] => true
  | '-' :: _ => false
  | _ => true

/-- The options that were given, with their values. -/
abbrev Options := List (Flag × String)

def readOptions? (flags : List Flag) : List String → Option Options
  | [] => some []
  | ["--"] => some []
  | [argument] =>
    match Reading.ofArgument? flags argument with
    | some (.attached flag value) => some [(flag, value)]
    | _ => none
  | argument :: next :: rest =>
    match Reading.ofArgument? flags argument with
    | some (.attached flag value) => ((flag, value) :: ·) <$> readOptions? flags (next :: rest)
    | some (.pending flag) =>
      if isValue next then ((flag, next) :: ·) <$> readOptions? flags rest else none
    | none => none

namespace Options

def areDistinct (options : Options) : Bool :=
  (options.map (·.1)).Nodup

def value? (options : Options) (name : String) : Option String :=
  (options.find? fun o => o.1.name == name).map (·.2)

end Options

/-! ## Values -/

def ofDigits? (digits : List Char) : Option Nat :=
  if Text.isDigits digits then some (Text.ofDigits digits) else none

/-- A 32-bit word: decimal digits after an optional sign. -/
def word? (text : String) : Option UInt32 := do
  let n ← match text.toList with
    | '+' :: digits => ofDigits? digits
    | '-' :: digits => (ofDigits? digits).filter (· = 0)
    | digits => ofDigits? digits
  if n < UInt32.size then some n.toUInt32 else none

/-- The path of a file, which is not empty. -/
def path? (text : String) : Option String :=
  if text.isEmpty then none else some text

/-- Reads an optional value; a value that cannot be read is a mistake. -/
def optional? {α : Type} (read : String → Option α) : Option String → Option (Option α)
  | none => some none
  | some text => (read text).map some

/-! ## Commands -/

/-- What the program is asked to do. -/
inductive Command where
  /-- capture frames from the simulated sensor -/
  | run (frames : UInt32) (config characteristics : Option String)
  /-- show the default settings of the templates -/
  | templates (characteristics : Option String)
  /-- show the layout of a buffer -/
  | geometry (format : PixelFormat) (width height : UInt32) (dataspace : Dataspace)
      (bufferSize : UInt32)
  /-- explain the usage -/
  | help
  /-- show the version -/
  | version
  deriving DecidableEq, Repr

namespace Command

def runFlags : List Flag :=
  [⟨"frames", some 'f'⟩, ⟨"config", some 'c'⟩, ⟨"characteristics", none⟩]

def templatesFlags : List Flag :=
  [⟨"characteristics", none⟩]

def geometryFlags : List Flag :=
  [⟨"format", some 'f'⟩, ⟨"width", some 'w'⟩, ⟨"height", some 'H'⟩, ⟨"dataspace", some 'd'⟩,
    ⟨"buffer-size", some 'b'⟩]

/-- The options of a command, each given once at most. -/
def options? (flags : List Flag) (arguments : List String) : Option Options :=
  (readOptions? flags arguments).filter Options.areDistinct

def runOf? (arguments : List String) : Option Command := do
  let o ← options? runFlags arguments
  let frames ← optional? word? (o.value? "frames")
  let config ← optional? path? (o.value? "config")
  let characteristics ← optional? path? (o.value? "characteristics")
  return .run (frames.getD 30) config characteristics

def templatesOf? (arguments : List String) : Option Command := do
  let o ← options? templatesFlags arguments
  return .templates (← optional? path? (o.value? "characteristics"))

def geometryOf? (arguments : List String) : Option Command := do
  let o ← options? geometryFlags arguments
  let format ← (PixelFormat.ofName (← o.value? "format")).toOption
  let width ← word? (← o.value? "width")
  let height ← word? (← o.value? "height")
  let dataspace ← optional? (fun t => (Dataspace.ofName t).toOption) (o.value? "dataspace")
  let bufferSize ← optional? word? (o.value? "buffer-size")
  return .geometry format width height (dataspace.getD .unknown) (bufferSize.getD 0)

/-- Whether the arguments ask for help before anything else. -/
def asksForHelp (arguments : List String) : Bool :=
  match arguments with
  | first :: _ => first == "-h" || first == "--help"
  | [] => false

def words : List String :=
  ["run", "templates", "geometry", "help"]

/-- Reads what help is asked for: one command, or none in particular. -/
def helpOf? : List String → Option Command
  | [] => some .help
  | [word] => if words.contains word then some .help else none
  | _ => none

/-- The command that arguments stand for; none if they are a mistake. -/
def ofArguments? : List String → Option Command
  | [] => none
  | word :: rest =>
    if asksForHelp (word :: rest) then some .help
    else if word == "-V" || word == "--version" then some .version
    else
      match word with
      | "run" => if asksForHelp rest then some .help else runOf? rest
      | "templates" => if asksForHelp rest then some .help else templatesOf? rest
      | "geometry" => if asksForHelp rest then some .help else geometryOf? rest
      | "help" => helpOf? rest
      | _ => none

end Command

end VirtualCamera.CommandLine
