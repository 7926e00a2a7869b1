import SpecLink.Text.Basic

/-!
# Arguments of a command

Arguments are options, written with two hyphens and a name or with one hyphen and letters, and
positional arguments. An option's value follows it, after an equals sign or as the next argument;
after a letter it may follow at once. A double hyphen ends the options. Asking for help ends the
reading.
-/
namespace SpecLink

/-- Why arguments are not carried out. -/
inductive UsageFault where
  | malformed
  /-- The user asks for help. -/
  | help
  deriving DecidableEq, Repr

structure OptionShape where
  name : String
  letter : Option Char := none
  takesValue : Bool := true
  repeatable : Bool := false
  deriving DecidableEq, Repr

/-- Arguments as read: the values of options in order, the options given without a value, and the
positional arguments. -/
structure Arguments where
  values : List (String × String) := []
  flags : List String := []
  positionals : List String := []
  deriving DecidableEq, Repr

namespace Arguments

def valuesOf (a : Arguments) (name : String) : List String :=
  (a.values.filter fun v => v.1 == name).map Prod.snd

def value? (a : Arguments) (name : String) : Option String := (a.valuesOf name).head?

def has (a : Arguments) (name : String) : Bool := a.flags.contains name

def addFlag (a : Arguments) (name : String) : Except UsageFault Arguments :=
  if a.has name then .error .malformed else .ok { a with flags := a.flags ++ [name] }

def addValue (a : Arguments) (o : OptionShape) (value : String) : Except UsageFault Arguments :=
  if !o.repeatable && (a.value? o.name).isSome then .error .malformed
  else .ok { a with values := a.values ++ [(o.name, value)] }

def addPositional (a : Arguments) (most : Nat) (value : String) : Except UsageFault Arguments :=
  if a.positionals.length < most then .ok { a with positionals := a.positionals ++ [value] }
  else .error .malformed

/-- The arguments read so far, and the option whose value comes next. -/
structure Reading where
  done : Arguments := {}
  waiting : Option OptionShape := none
  onlyPositionals : Bool := false

/-- Reads letters that stand together; the first that takes a value has the rest for one. -/
def readLetters (options : List OptionShape) (done : Arguments) :
    List Char → Except UsageFault Reading
  | [] => .ok { done }
  | c :: rest =>
    if c == 'h' then .error .help
    else
      match options.find? fun o => o.letter == some c with
      | none => .error .malformed
      | some o =>
        if !o.takesValue then do readLetters options (← done.addFlag o.name) rest
        else
          match rest with
          | [] => .ok { done, waiting := some o }
          | '=' :: value => do return { done := ← done.addValue o (String.ofList value) }
          | value => do return { done := ← done.addValue o (String.ofList value) }

/-- Reads what follows a double hyphen. -/
def readName (options : List OptionShape) (done : Arguments) (written : String) :
    Except UsageFault Reading := do
  let (name, value) := match Text.cutAt? '=' written with
    | some (name, value) => (name, some value)
    | none => (written, none)
  if name == "help" then throw (if value.isSome then .malformed else .help)
  match options.find? fun o => o.name == name with
  | none => throw .malformed
  | some o =>
    match o.takesValue, value with
    | true, some value => return { done := ← done.addValue o value }
    | true, none => return { done, waiting := some o }
    | false, some _ => throw .malformed
    | false, none => return { done := ← done.addFlag o.name }

/-- What an argument is by its first characters. -/
inductive Shape where
  | endOfOptions
  | named (written : String)
  | lettered (letters : List Char)
  | plain
  deriving DecidableEq, Repr

/-- A single hyphen is an ordinary argument. -/
def shapeOf (arg : String) : Shape :=
  match arg.toList with
  | ['-', '-'] => .endOfOptions
  | '-' :: '-' :: written => .named (String.ofList written)
  | ['-'] => .plain
  | '-' :: letters => .lettered letters
  | _ => .plain

/-- Reads one more argument. An option cannot stand where a value is due. -/
def Reading.step (options : List OptionShape) (most : Nat) (r : Reading) (arg : String) :
    Except UsageFault Reading :=
  if r.onlyPositionals then do return { r with done := ← r.done.addPositional most arg }
  else
    match r.waiting, shapeOf arg with
    | some o, .plain => do return { done := ← r.done.addValue o arg }
    | some _, _ => .error .malformed
    | none, .endOfOptions => .ok { r with onlyPositionals := true }
    | none, .named written => readName options r.done written
    | none, .lettered letters => readLetters options r.done letters
    | none, .plain => do return { r with done := ← r.done.addPositional most arg }

/-- Reads arguments with at most the given number of positional ones. -/
def read (options : List OptionShape) (most : Nat) (args : List String) :
    Except UsageFault Arguments := do
  let r ← args.foldlM (Reading.step options most) {}
  if r.waiting.isSome then throw .malformed else return r.done

end Arguments

end SpecLink
