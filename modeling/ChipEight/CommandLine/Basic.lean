/-!
Command lines. An argument that starts with a hyphen names an option or a flag, unless it is a
lone hyphen; any other argument is the value of the option before it or an operand. A value may be
attached to its option with `=`. After `--` every argument is an operand.

Arguments are read from the left and the first error wins. An option is settled, which checks its
value, when the next known option, flag or operand comes or the line ends.
-/

namespace ChipEight

/-- Why a command line is not accepted, or what it asks for instead. -/
inductive UsageError where
  | help
  | version
  | unknownArgument
  | missingValue
  | notAllowed
  | malformedValue
  | tooManyValues
  | usedTwice
  | missingArgument
  deriving DecidableEq

namespace CommandLine

/-- An option or an operand: how its value changes the settings. -/
structure Parameter (α : Type) where
  name : String
  assign : String → α → Except UsageError α

/-- The options that take a value, and the operands in their order. -/
structure Grammar (α : Type) where
  options : List (Parameter α)
  operands : List (Parameter α)

/-- The progress of reading. -/
structure Reading (α : Type) where
  settings : α
  /-- The names that are settled. -/
  given : List String := []
  /-- The parameter that is not settled yet, with its value if it came. -/
  pending : Option (Parameter α × Option String) := none
  /-- The operands still to come. -/
  operands : List (Parameter α)
  /-- Whether `--` was seen. -/
  operandsOnly : Bool := false

variable {α : Type}

/-- Settles a parameter. -/
def settle (r : Reading α) (p : Parameter α) : Option String → Except UsageError (Reading α)
  | none => .error .missingValue
  | some value =>
    if p.name ∈ r.given then .error .usedTwice
    else do
      let settings ← p.assign value r.settings
      return { r with settings := settings, given := p.name :: r.given }

/-- Settles the pending parameter. -/
def flush (r : Reading α) : Except UsageError (Reading α) :=
  match r.pending with
  | none => .ok r
  | some (p, value) => settle { r with pending := none } p value

/-- Reads an operand. -/
def readOperand (r : Reading α) (argument : String) : Except UsageError (Reading α) :=
  match r.operands with
  | [] => .error .unknownArgument
  | p :: rest => do
    let r ← flush r
    return { r with operands := rest, pending := some (p, some argument) }

/-- Reads the value of the option before it, or an operand. -/
def readPlain (r : Reading α) (argument : String) : Except UsageError (Reading α) :=
  match r.pending with
  | some (p, none) => .ok { r with pending := some (p, some argument) }
  | _ => readOperand r argument

/-- What a long flag asks for. -/
def longFlag? (name : String) : Option UsageError :=
  if name = "help" then some .help else if name = "version" then some .version else none

/-- What a short flag asks for. -/
def shortFlag? (c : Char) : Option UsageError :=
  if c = 'h' then some .help else if c = 'V' then some .version else none

/-- Reads an argument that starts with two hyphens: a name and perhaps an attached value. -/
def readLong (g : Grammar α) (r : Reading α) (name : String) (value : Option String) :
    Except UsageError (Reading α) :=
  match g.options.find? (·.name = name), longFlag? name, value with
  | some p, _, none => do return { ← flush r with pending := some (p, none) }
  | some p, _, some value => do settle (← flush r) p (some value)
  | none, some flag, none => do
    let _ ← flush r
    throw flag
  | none, some _, some _ => .error .tooManyValues
  | none, none, _ => .error .unknownArgument

/-- Splits at the first `=`. -/
def splitValue (body : List Char) : String × Option String :=
  (String.ofList (body.takeWhile (· ≠ '=')),
    (body.dropWhile (· ≠ '=')).tail?.map String.ofList)

/-- Reads an argument. -/
def read (g : Grammar α) (r : Reading α) (argument : String) : Except UsageError (Reading α) :=
  if r.operandsOnly then readOperand r argument
  else
    match argument.toList with
    | ['-', '-'] => .ok { r with operandsOnly := true }
    | '-' :: '-' :: body => readLong g r (splitValue body).1 (splitValue body).2
    | '-' :: c :: _ =>
      match shortFlag? c with
      | some flag => do
        let _ ← flush r
        throw flag
      | none => .error .unknownArgument
    | _ => readPlain r argument

/-- Reads a command line without the program's name. -/
def parse (g : Grammar α) (start : α) (arguments : List String) : Except UsageError α := do
  let r ← arguments.foldlM (read g) { settings := start, operands := g.operands }
  return (← flush r).settings

end CommandLine

end ChipEight
