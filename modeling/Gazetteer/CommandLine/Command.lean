/-!
# Commands

What the program is asked to do, read from its arguments. A command has one operand and options, in
any order. The value of an option follows it or is attached to it; behind `--` there are operands
only. No option is given twice, and paths are not empty. A call for help counts as soon as it is
read, and so does everything that is wrong.
-/

namespace Gazetteer

inductive Command where
  /-- List the layers of a vault that a query matches. -/
  | scan (vault : String) (query config : Option String) (json : Bool)
  /-- List the relations between the markers of a vault. -/
  | edges (vault : String) (config : Option String)
  /-- Show how a query is understood. -/
  | checkQuery (query : String)
  deriving DecidableEq, Repr

namespace Command

/-- Why no command is carried out. -/
inductive Stop where
  | help
  | version
  /-- The arguments make no sense. -/
  | misuse
  deriving DecidableEq, Repr

/-- What an option is followed by. -/
inductive OptionKind where
  /-- Nothing. -/
  | switch
  /-- A text. -/
  | text
  /-- A path, which is not empty. -/
  | path
  deriving DecidableEq, Repr

structure OptionForm where
  name : String
  letter : Option Char
  kind : OptionKind
  deriving DecidableEq, Repr

/-- What a command can be given. -/
structure Form where
  options : List OptionForm
  operand : OptionKind

/-- What a command was given. -/
structure Given where
  operand : Option String := none
  /-- The options with their values, by their names. -/
  options : List (String × String) := []
  deriving DecidableEq, Repr

/-- Whether a value can be given to an option or as an operand. -/
def OptionKind.accepts : OptionKind → String → Bool
  | .path, value => value != ""
  | _, _ => true

/-- Whether a word is an option, or ends the options. -/
def isOption (word : String) : Bool :=
  match word.toList with
  | '-' :: _ :: _ => true
  | _ => false

namespace Given

def give (g : Given) (o : OptionForm) (value : String) : Except Stop Given :=
  if (g.options.lookup o.name).isSome || !o.kind.accepts value then .error .misuse
  else .ok { g with options := (o.name, value) :: g.options }

def giveOperand (form : Form) (g : Given) (word : String) : Except Stop Given :=
  if g.operand.isSome || !form.operand.accepts word then .error .misuse
  else .ok { g with operand := some word }

end Given

/-- A text up to the first equals sign, and what is behind the sign. -/
def splitAttached (cs : List Char) : String × Option String :=
  match cs.dropWhile (· != '=') with
  | [] => (String.ofList cs, none)
  | _ :: value => (String.ofList (cs.takeWhile (· != '=')), some (String.ofList value))

/-- What an option means: nothing else is needed, or its value is still to come. -/
def readOption (form : Form) (g : Given) (word : List Char) :
    Except Stop (Given × Option OptionForm) :=
  match word with
  | '-' :: '-' :: body =>
    let (name, value) := splitAttached body
    if name = "help" && value.isNone then .error .help
    else
      match form.options.find? fun o => o.name == name, value with
      | some o, some value =>
        if o.kind = .switch then .error .misuse else do return (← g.give o value, none)
      | some o, none =>
        if o.kind = .switch then do return (← g.give o "", none) else .ok (g, some o)
      | none, _ => .error .misuse
  | _ :: 'h' :: _ => .error .help
  | _ :: letter :: rest =>
    match form.options.find? fun o => o.letter == some letter, rest with
    | some o, [] => .ok (g, some o)
    | some o, '=' :: value => do return (← g.give o (String.ofList value), none)
    | some o, value => do return (← g.give o (String.ofList value), none)
    | none, _ => .error .misuse
  | _ => .error .misuse

/-- Read the words of a command, where the value of an option may be still to come. -/
def readWords (form : Form) (pending : Option OptionForm) (g : Given) :
    List String → Except Stop Given
  | [] => if pending.isSome then .error .misuse else .ok g
  | word :: words =>
    match pending with
    | some o =>
      if isOption word then .error .misuse
      else do readWords form none (← g.give o word) words
    | none =>
      if word = "--" then words.foldlM (Given.giveOperand form) g
      else if isOption word then do
        let (g, pending) ← readOption form g word.toList
        readWords form pending g words
      else do readWords form none (← g.giveOperand form word) words

/-- What can be given to the command that lists layers. -/
def scanForm : Form where
  options := [⟨"query", some 'q', .text⟩, ⟨"config", some 'c', .path⟩, ⟨"json", none, .switch⟩]
  operand := .path

/-- What can be given to the command that lists relations. -/
def edgesForm : Form where
  options := [⟨"config", some 'c', .path⟩]
  operand := .path

/-- What can be given to the command that shows a query. -/
def checkQueryForm : Form where
  options := []
  operand := .text

def readForm (form : Form) (command : Given → String → Command) (words : List String) :
    Except Stop Command := do
  let g ← readWords form none {} words
  match g.operand with
  | some operand => return command g operand
  | none => throw .misuse

/-- What a call for help about some topic comes to. -/
def helpOn : List String → Stop
  | [] | ["scan"] | ["edges"] | ["check-query"] | ["help"] => .help
  | _ => .misuse

def read : List String → Except Stop Command
  | "scan" :: words =>
    readForm scanForm (fun g vault => .scan vault (g.options.lookup "query")
      (g.options.lookup "config") (g.options.lookup "json").isSome) words
  | "edges" :: words =>
    readForm edgesForm (fun g vault => .edges vault (g.options.lookup "config")) words
  | "check-query" :: words => readForm checkQueryForm (fun _ query => .checkQuery query) words
  | "help" :: words => .error (helpOn words)
  | "--help" :: _ => .error .help
  | "--version" :: _ => .error .version
  | word :: _ =>
    match word.toList with
    | '-' :: 'h' :: _ => .error .help
    | '-' :: 'V' :: _ => .error .version
    | _ => .error .misuse
  | [] => .error .misuse

end Command

end Gazetteer
