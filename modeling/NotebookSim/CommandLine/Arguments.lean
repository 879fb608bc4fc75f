import NotebookSim.CommandLine
/-!
Argument lists read as commands. A command has levels, each with options of its own beside the
shared ones; the shared ones may be given at any level, and the innermost counts. The value of an
option is looked at when the next argument of its level is complete, so an error further right in
a deeper level is told first.
-/
namespace NotebookSim.CommandLine

inductive Level where
  | root
  | run
  | config
  | configValidate
  | configShow
  | instanceTypes
  deriving DecidableEq, Repr

/-- What takes a value: an option, or the place of the script. -/
inductive Slot where
  | config
  | logLevel
  | output
  | account
  | region
  | part
  | script
  deriving DecidableEq, Repr

/-- What takes no value. -/
inductive Switch where
  | failFast
  | metrics
  | help
  | version
  deriving DecidableEq, Repr

inductive Keyword where
  | slot (s : Slot)
  | switch (s : Switch)
  deriving DecidableEq, Repr

namespace Level

/-- The commands of a level by name. -/
def commands : Level → List (String × Level)
  | root => [("run", run), ("config", config), ("instance-types", instanceTypes)]
  | config => [("validate", configValidate), ("show", configShow)]
  | _ => []

/-- A level with commands has one more that tells about them. -/
def helpCommand : String := "help"

def isCommand (level : Level) (name : String) : Bool :=
  (level.commands.lookup name).isSome || (!level.commands.isEmpty && name == helpCommand)

def shared : List (String × Keyword) :=
  [("config", .slot .config), ("log-level", .slot .logLevel), ("output", .slot .output),
    ("help", .switch .help)]

/-- The long options of a level. -/
def options : Level → List (String × Keyword)
  | root => ("version", .switch .version) :: shared
  | run =>
    [("account", .slot .account), ("region", .slot .region), ("fail-fast", .switch .failFast),
      ("metrics", .switch .metrics)] ++ shared
  | configShow => ("section", .slot .part) :: shared
  | _ => shared

/-- The options of one letter. -/
def letters : Level → List (Char × Keyword)
  | root => [('c', .slot .config), ('h', .switch .help), ('V', .switch .version)]
  | _ => [('c', .slot .config), ('h', .switch .help)]

end Level

/-- What a level has been given so far. A slot is pending until the next argument is complete;
it has no value yet when its value is to follow. -/
structure Draft where
  values : List (Slot × String)
  switches : List Switch
  pending : Option (Slot × Option String)
  deriving DecidableEq, Repr

namespace Draft

def empty : Draft := ⟨[], [], none⟩

/-- Whether a slot can hold a value: paths are not empty, and formats are known. -/
def accepts (value : String) : Slot → Bool
  | .config => !value.isEmpty
  | .script => !value.isEmpty
  | .output => (OutputFormat.ofName? value).isSome
  | _ => true

/-- Fills a slot, which must be free. -/
def fill (d : Draft) (slot : Slot) (value : String) : Except UsageError Draft :=
  if (d.values.lookup slot).isSome then .error .repeated
  else if accepts value slot then .ok { d with values := (slot, value) :: d.values }
  else .error .invalidValue

/-- Fills the pending slot. -/
def settle (d : Draft) : Except UsageError Draft :=
  match d.pending with
  | none => .ok d
  | some (_, none) => .error .invalidValue
  | some (slot, some value) => { d with pending := none }.fill slot value

/-- Notes an option whose value follows. -/
def await (d : Draft) (slot : Slot) : Except UsageError Draft := do
  let d ← d.settle
  return { d with pending := some (slot, none) }

/-- Fills a slot with a value given in the same argument. -/
def attach (d : Draft) (slot : Slot) (value : String) : Except UsageError Draft := do
  let d ← d.settle
  d.fill slot value

def raise (d : Draft) (switch : Switch) : Except UsageError Draft := do
  let d ← d.settle
  match switch with
  | .help => throw .help
  | .version => throw .version
  | switch =>
    if d.switches.contains switch then throw .repeated
    return { d with switches := switch :: d.switches }

/-- The slot whose value is to follow. -/
def awaited? (d : Draft) : Option Slot :=
  match d.pending with
  | some (slot, none) => some slot
  | _ => none

/-- An option of one word, with the value after its equals sign if it has one. -/
def long (d : Draft) (level : Level) (name : String) (value : Option String) :
    Except UsageError Draft :=
  match level.options.lookup name, value with
  | some (.slot slot), some v => d.attach slot v
  | some (.slot slot), none => d.await slot
  | some (.switch _), some _ => .error .unneededValue
  | some (.switch switch), none => d.raise switch
  | none, _ => .error .unknownArgument

/-- Options of one letter each. What follows a letter that takes a value is the value; an equals
sign before it is dropped. -/
def short (d : Draft) (level : Level) : List Char → Except UsageError Draft
  | [] => .ok d
  | c :: cs =>
    match level.letters.lookup c with
    | none => .error .unknownArgument
    | some (.switch switch) => do
      let d ← d.raise switch
      d.short level cs
    | some (.slot slot) =>
      match cs with
      | [] => d.await slot
      | '=' :: value => d.attach slot (String.ofList value)
      | value => d.attach slot (String.ofList value)

/-- An argument that is neither an option nor the value of one. After a double dash the name of
a command is refused as such. -/
def positional (d : Draft) (level : Level) (trailing : Bool) (arg : String) :
    Except UsageError Draft :=
  if level = .run ∧ d.values.lookup .script = none ∧ d.pending.map (·.1) ≠ some .script then do
    let d ← d.settle
    return { d with pending := some (.script, some arg) }
  else if level.commands.isEmpty ∨ (trailing ∧ level.isCommand arg) then
    .error .unknownArgument
  else .error .unknownCommand

end Draft

/-- The part of an argument before its first equals sign, and the part after it. -/
def splitAtEquals : List Char → List Char × Option (List Char)
  | [] => ([], none)
  | '=' :: cs => ([], some cs)
  | c :: cs =>
    let (name, value) := splitAtEquals cs
    (c :: name, value)

/-- Takes in an argument before any double dash. -/
def Draft.take (d : Draft) (level : Level) (arg : String) : Except UsageError Draft :=
  match arg.toList with
  | '-' :: '-' :: cs =>
    let (name, value) := splitAtEquals cs
    d.long level (String.ofList name) (value.map String.ofList)
  | '-' :: c :: cs => d.short level (c :: cs)
  | _ =>
    match d.awaited? with
    | some slot => .ok { d with pending := some (slot, some arg) }
    | none => d.positional level false arg

/-- Help about a command of a level, named by its path. -/
def helpOn (level : Level) : List String → UsageError
  | [] => .help
  | name :: path =>
    match level.commands.lookup name with
    | some next => helpOn next path
    | none => if level.isCommand name ∧ path.isEmpty then .help else .unknownCommand

/-- The shared options that some level was given. -/
structure Shared where
  config : Option String
  logLevel : Option String
  output : Option String
  deriving DecidableEq, Repr

def Draft.shared (d : Draft) : Shared :=
  ⟨d.values.lookup .config, d.values.lookup .logLevel, d.values.lookup .output⟩

/-- The options of an inner level, and of the outer one where it has none. -/
def Shared.within (inner outer : Shared) : Shared :=
  ⟨inner.config <|> outer.config, inner.logLevel <|> outer.logLevel, inner.output <|> outer.output⟩

/-- The command of a level that ends the argument list. -/
def Draft.command (d : Draft) (level : Level) : Except UsageError Command :=
  match level with
  | .run =>
    match d.values.lookup .script with
    | none => .error .missingArgument
    | some script =>
      .ok (.run ⟨script, d.values.lookup .account, d.values.lookup .region,
        d.switches.contains .failFast, d.switches.contains .metrics⟩)
  | .configValidate => .ok .validateConfig
  | .configShow => .ok (.showConfig (d.values.lookup .part))
  | .instanceTypes => .ok .instanceTypes
  | .root | .config =>
    if d.values.isEmpty ∧ d.switches.isEmpty then .error .noArguments else .error .noCommand

/-- Reads the arguments of a level and of the levels below it. -/
def readLevel (level : Level) (trailing : Bool) (d : Draft) :
    List String → Except UsageError (Command × Shared)
  | [] => do
    let d ← d.settle
    return (← d.command level, d.shared)
  | arg :: args =>
    if trailing then do
      let d ← d.positional level true arg
      readLevel level true d args
    else if d.awaited?.isNone ∧ level.isCommand arg then
      match level.commands.lookup arg with
      | none => .error (helpOn level args)
      | some next => do
        let (command, inner) ← readLevel next false .empty args
        let d ← d.settle
        return (command, inner.within d.shared)
    else if arg = "--" then readLevel level true d args
    else do
      let d ← d.take level arg
      readLevel level false d args

/-- The configuration file that is read when no other is named. -/
def defaultConfigPath : String := "sagesim.toml"

/-- The command that an argument list gives. -/
def parse (args : List String) : Except UsageError Invocation := do
  let (command, shared) ← readLevel .root false .empty args
  return {
    command
    configPath := shared.config.getD defaultConfigPath
    logLevel := shared.logLevel
    output := (shared.output.bind OutputFormat.ofName?).getD .text }

end NotebookSim.CommandLine
