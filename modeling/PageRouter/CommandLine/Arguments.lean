/-!
# Command-line arguments

A command takes options, each with one value, and a fixed number of further words.  An option may be given
once, by its letter or by its name; its value stands behind it or is attached to it.  Behind two dashes every
argument is a word.  Asking for help ends the reading, unless something was wrong before.
-/

set_option autoImplicit false

namespace PageRouter.CommandLine

/-- An option with a value. -/
structure Flag where
  letter : Char
  name : String
  /-- Whether the value may be empty. -/
  allowsEmpty : Bool
deriving DecidableEq, Repr

/-- What a command takes. -/
structure Shape where
  flags : List Flag
  /-- How many words have to be given. -/
  words : Nat
deriving DecidableEq, Repr

/-- What was given to a command: values of options by their names, and words. -/
structure Arguments where
  values : List (String × String)
  words : List String
deriving DecidableEq, Repr

/-- What became of reading arguments. -/
inductive Reading where
  | ready (arguments : Arguments)
  /-- Help was asked for. -/
  | help
  | misuse
deriving DecidableEq, Repr

namespace Arguments

/-- Nothing was given yet. -/
def empty : Arguments := ⟨[], []⟩

/-- The value of an option. -/
def value? (a : Arguments) (name : String) : Option String :=
  (a.values.find? fun v => v.1 == name).map (·.2)

/-- Add the value of an option, if it may have that value and has none yet. -/
def addValue? (a : Arguments) (flag : Flag) (value : String) : Option Arguments :=
  if (value.isEmpty && !flag.allowsEmpty) || (a.value? flag.name).isSome then none
  else some { a with values := a.values ++ [(flag.name, value)] }

/-- Add a word, if there is room for it. -/
def addWord? (a : Arguments) (shape : Shape) (word : String) : Option Arguments :=
  if a.words.length < shape.words then some { a with words := a.words ++ [word] } else none

/-- Whether an argument can be the value of the option in front of it. -/
def isValue (arg : String) : Bool :=
  match arg.toList with
  | '-' :: _ :: _ => false
  | _ => true

end Arguments

/-- What an argument is. -/
inductive Argument where
  | word (text : String)
  | dashes
  | help
  /-- An option, with its value if that is attached. -/
  | flag (flag : Flag) (attached : Option String)
  | unknown
deriving DecidableEq, Repr

/-- Cut a text at its first equals sign. -/
def cutAtEquals (cs : List Char) : String × Option String :=
  let rest := cs.dropWhile (· != '=')
  (String.ofList (cs.takeWhile (· != '=')),
    if rest.isEmpty then none else some (String.ofList (rest.drop 1)))

/-- The value attached to a letter, with or without an equals sign. -/
def attachedValue : List Char → Option String
  | [] => none
  | '=' :: cs => some (String.ofList cs)
  | cs => some (String.ofList cs)

/-- Tell what an argument is. -/
def Argument.ofText (shape : Shape) (arg : String) : Argument :=
  match arg.toList with
  | ['-', '-'] => .dashes
  | '-' :: '-' :: cs =>
    let (name, attached) := cutAtEquals cs
    if name = "help" then (if attached.isNone then .help else .unknown)
    else
      match shape.flags.find? fun f => f.name == name with
      | some f => .flag f attached
      | none => .unknown
  | '-' :: c :: cs =>
    if c = 'h' then .help
    else
      match shape.flags.find? fun f => f.letter == c with
      | some f => .flag f (attachedValue cs)
      | none => .unknown
  | _ => .word arg

/-- Go on with arguments, unless something was wrong with them. -/
def continueWith (a? : Option Arguments) (next : Arguments → Reading) : Reading :=
  a?.elim .misuse next

/-- The arguments of a command, when there are no more. -/
def finish (shape : Shape) (a : Arguments) : Reading :=
  if a.words.length = shape.words then .ready a else .misuse

/-- Read arguments behind those read so far. -/
def readFrom (shape : Shape) (a : Arguments) : List String → Reading
  | [] => finish shape a
  | arg :: rest =>
    match Argument.ofText shape arg with
    | .word w => continueWith (a.addWord? shape w) (readFrom shape · rest)
    | .dashes => continueWith (rest.foldlM (fun a w => a.addWord? shape w) a) (finish shape)
    | .help => .help
    | .unknown => .misuse
    | .flag f (some value) => continueWith (a.addValue? f value) (readFrom shape · rest)
    | .flag f none =>
      match rest with
      | value :: rest =>
        if Arguments.isValue value then continueWith (a.addValue? f value) (readFrom shape · rest)
        else .misuse
      | [] => .misuse

/-- Read the arguments of a command. -/
def read (shape : Shape) (args : List String) : Reading := readFrom shape .empty args

end PageRouter.CommandLine
