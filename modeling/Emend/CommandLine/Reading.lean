import Emend.CommandLine.Fault
import Emend.CommandLine.Likeness
import Emend.Path

/-!
# Reading command lines

Words are read from left to right.  A word that names a command hands the rest over to
that command; what a command has been given is checked after that.  A value is taken in
when the next argument comes or the words end, so that of two faults in a command line
an unknown word is found before an unfit value that stands right before it.
-/

namespace Emend.CommandLine

/-- What one command has been given. -/
structure Values where
  config : Option Path
  extensions : List String
  root : Option Path
  init : Bool
  force : Bool
  dryRun : Bool
  deriving DecidableEq

def Values.none : Values := ⟨.none, [], .none, false, false, false⟩

/-- What a program can do when it has not been asked for help. -/
inductive Task where
  | patch
  | showConfig
  | validateConfig
  deriving DecidableEq

def Command.task? : Command → Option Task
  | patch => some .patch
  | config => none
  | showConfig => some .showConfig
  | validateConfig => some .validateConfig

/-- What a whole command line asks for. -/
structure Invocation where
  task : Task
  values : Values
  deriving DecidableEq

/-- An argument that waits for its value, or whose value has not been taken in. -/
structure Pending where
  slot : Slot
  value : Option Bytes

/-- What the words read so far have given to one command. -/
structure Level where
  values : Values
  pending : Option Pending

namespace Values

/-- Takes in a value, or finds that there is none. -/
def take (values : Values) (slot : Slot) (value : Option Bytes) : Except UsageFault Values :=
  match slot, value with
  | slot, .none => .error (.missingValue slot)
  | .config, some path =>
    if values.config.isSome then .error (.repeatedArgument (.slot .config))
    else if path = [] then .error (.missingValue .config)
    else .ok { values with config := some path }
  | .root, some path =>
    if path = [] then .error (.missingValue .root) else .ok { values with root := some path }
  | .extension, some bytes =>
    match Utf8.decode bytes with
    | .ok text => .ok { values with extensions := values.extensions ++ [text] }
    | .error _ => .error .notText

def turnOn (values : Values) (command : Command) (switch : Switch) : Except Stop Values :=
  let repeated : Except Stop Values := .error (.fault (.repeatedArgument (.switch switch)))
  match switch with
  | .init => if values.init then repeated else .ok { values with init := true }
  | .force => if values.force then repeated else .ok { values with force := true }
  | .dryRun => if values.dryRun then repeated else .ok { values with dryRun := true }
  | .help => .error (.help command.page)
  | .version => .error .version

/-- Fills in what another command has been given.  Of options known to both, what the
inner command has been given counts. -/
def under (inner outer : Values) : Values :=
  { outer with
    config := inner.config.or outer.config
    extensions := if inner.extensions = [] then outer.extensions else inner.extensions }

end Values

namespace Level

def start : Level := ⟨.none, none⟩

/-- Whether the next word is a value, whatever it says, unless it is an option. -/
def isAwaiting (level : Level) : Bool :=
  level.pending.any (·.value.isNone)

/-- Takes in the value that is pending. -/
def settle (level : Level) : Except Stop Values :=
  match level.pending with
  | none => .ok level.values
  | some pending => (level.values.take pending.slot pending.value).mapError .fault

/-- Starts an argument whose value, if any, is taken in later. -/
def await (level : Level) (slot : Slot) (value : Option Bytes) : Except Stop Level := do
  return ⟨← level.settle, some ⟨slot, value⟩⟩

/-- Takes in a value that is attached to its option. -/
def attach (level : Level) (slot : Slot) (value : Bytes) : Except Stop Level := do
  let values ← level.settle
  return ⟨← (values.take slot (some value)).mapError .fault, none⟩

def turnOn (level : Level) (command : Command) (switch : Switch) : Except Stop Level := do
  let values ← level.settle
  return ⟨← values.turnOn command switch, none⟩

/-- Whether a root has been given. -/
def hasRoot (level : Level) : Bool :=
  level.values.root.isSome || level.pending.any (·.slot = .root)

end Level

def dash : UInt8 := 0x2D

def equalsSign : UInt8 := 0x3D

def refuse {α : Type} (fault : UsageFault) : Except Stop α := .error (.fault fault)

/-- Reads an option by its name, after the two dashes. -/
def readNamed (command : Command) (level : Level) (body : Bytes) : Except Stop Level :=
  let name := body.takeWhile (· ≠ equalsSign)
  let value :=
    match body.dropWhile (· ≠ equalsSign) with
    | [] => none
    | _ :: value => some value
  let argument? := (Utf8.decode name).toOption.bind command.named?
  match argument?, value with
  | none, _ => refuse (.unexpectedArgument ("--" ++ Utf8.lossy name))
  | some (.switch switch), none => level.turnOn command switch
  | some (.switch switch), some value => refuse (.unexpectedValue (Utf8.lossy value) switch)
  | some (.slot slot), none => level.await slot none
  | some (.slot slot), some value => level.attach slot value

/-- The first character of a byte string, or all of it if that is none. -/
def firstSign (bytes : Bytes) : String :=
  match Utf8.pieces bytes with
  | .char c :: _ => c.toString
  | _ => Utf8.lossy bytes

/-- Reads options by their letters, after one dash.  What follows the letter of an
option with a value is the value. -/
def readLettered (command : Command) (level : Level) : Bytes → Except Stop Level
  | [] => .ok level
  | b :: rest =>
    match if b < 0x80 then command.lettered? (Char.ofNat b.toNat) else none with
    | none => refuse (.unexpectedArgument ("-" ++ firstSign (b :: rest)))
    | some (.switch switch) => do readLettered command (← level.turnOn command switch) rest
    | some (.slot slot) =>
      if rest = [] then level.await slot none
      else level.attach slot (if rest.head? = some equalsSign then rest.drop 1 else rest)

/-- Reads a word that is neither an option nor the value of one. -/
def readPlain (command : Command) (level : Level) (plain : Bool) (word : Bytes) :
    Except Stop Level :=
  if command.takesRoot && !level.hasRoot then level.await .root (some word)
  else
    let text := Utf8.lossy word
    let isCommand := (Utf8.decode word).toOption.any (· ∈ command.words)
    if plain && isCommand then refuse (.unexpectedArgument text)
    else if command.words.any (isLike text) || (command.leadsOn && !command.takesRoot) then
      refuse (.unknownCommand text)
    else refuse (.unexpectedArgument text)

/-- Reads a word that may be an option. -/
def readWord (command : Command) (level : Level) (word : Bytes) : Except Stop Level :=
  match word with
  | first :: second :: rest =>
    if first = dash then
      if second = dash then readNamed command level rest
      else readLettered command level (second :: rest)
    else readOther
  | _ => readOther
where
  readOther : Except Stop Level :=
    match level.pending with
    | some ⟨slot, none⟩ => .ok { level with pending := some ⟨slot, some word⟩ }
    | _ => readPlain command level false word

/-- Finds the page that the words after `help` ask for. -/
def readHelp (command : Command) : List Bytes → Stop
  | [] => .help command.page
  | word :: rest =>
    let text := Utf8.lossy word
    let name? := (Utf8.decode word).toOption
    match name?.bind command.child? with
    | some child => readHelp child rest
    | none =>
      if command.leadsOn && name? = some "help" then
        match rest with
        | [] => .help command.helpPage
        | next :: _ => .fault (.unknownCommand (Utf8.lossy next))
      else .fault (.unknownCommand text)

/-- Checks what a command has been given when its words end, after the command that
they have led to. -/
def Level.finish (command : Command) (level : Level) (inner : Option Invocation) :
    Except Stop Invocation := do
  let values ← level.settle
  let invocation ←
    match inner, command.task? with
    | some inner, _ => pure { inner with values := inner.values.under values }
    | none, some task => pure ⟨task, values⟩
    | none, none =>
      if values = .none then .error (.helpUnasked command.page) else refuse .missingCommand
  if values.force && !values.init then refuse .forceWithoutInit
  return invocation

/-- Reads the words given to a command.  After two dashes alone, every word is
plain. -/
def readWords (command : Command) (level : Level) (plain : Bool) :
    List Bytes → Except Stop Invocation
  | [] => level.finish command none
  | word :: rest =>
    let name? := if plain || level.isAwaiting then none else (Utf8.decode word).toOption
    match name?.bind command.child? with
    | some child => do
      level.finish command (some (← readWords child .start false rest))
    | none =>
      if command.leadsOn && name? = some "help" then .error (readHelp command rest)
      else if plain then do
        readWords command (← readPlain command level true word) true rest
      else if word = [dash, dash] then readWords command level true rest
      else do readWords command (← readWord command level word) false rest

/-- Reads a command line. -/
def Invocation.ofWords (words : List Bytes) : Except Stop Invocation :=
  readWords .patch .start false words

end Emend.CommandLine
