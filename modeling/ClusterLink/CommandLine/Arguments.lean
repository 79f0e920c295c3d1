/-!
# Arguments

The command line: commands in three levels, each with options of its own and two options that every
level takes. An option takes its value from the same word or from the next one; a value from the
next word is looked at only when the word after it is read. The first fault ends the reading.
-/

namespace ClusterLink.CommandLine

inductive UsageFault where
  | unknownArgument
  | invalidSubcommand
  | invalidValue
  | argumentConflict
  | tooManyValues
  | missingSubcommand
  | helpOnMissingArgument
  | help
  | version
deriving DecidableEq, Repr

/-- The exit code of a program that does not start; asking for help or the version is no error. -/
def UsageFault.exitCode : UsageFault → Nat
  | help => 0
  | version => 0
  | _ => 2

/-- A command, or a group of commands. -/
inductive Level where
  | top
  | config
  | validate
  | display
  | options
deriving DecidableEq, Repr

def Level.child? : Level → String → Option Level
  | top, "config" => some config
  | top, "options" => some options
  | config, "validate" => some validate
  | config, "show" => some display
  | _, _ => none

def Level.isGroup : Level → Bool
  | top => true
  | config => true
  | _ => false

inductive Switch where
  | configPath
  | logLevel
  | output
  | part
  | tlsOnly
  | help
  | version
deriving DecidableEq, Repr

namespace Switch

def takesValue : Switch → Bool
  | configPath => true
  | logLevel => true
  | output => true
  | part => true
  | _ => false

def ofLong? (level : Level) (name : List Char) : Option Switch :=
  if name = "log-level".toList then some logLevel
  else if name = "output".toList then some output
  else if name = "help".toList then some help
  else if name = "config".toList ∧ level = .top then some configPath
  else if name = "version".toList ∧ level = .top then some version
  else if name = "section".toList ∧ level = .display then some part
  else if name = "tls-only".toList ∧ level = .options then some tlsOnly
  else none

def ofLetter? (level : Level) (letter : Char) : Option Switch :=
  if letter = 'h' then some help
  else if letter = 'c' ∧ level = .top then some configPath
  else if letter = 'V' ∧ level = .top then some version
  else none

def allows : Switch → String → Bool
  | configPath, value => !value.isEmpty
  | output, value => ["text", "json"].contains value
  | part, value => ["target", "tls", "auth", "all"].contains value
  | _, _ => true

end Switch

/-- The options that are read at one level, each with its value. -/
abbrev Given := List (Switch × String)

/-- What is read at a level so far. -/
structure Progress where
  given : Given := []
  pending : Option (Switch × Option String) := none
  onlyValues : Bool := false
deriving Repr

namespace Progress

def accept (progress : Progress) (switch : Switch) (value : String) :
    Except UsageFault Progress :=
  if (progress.given.lookup switch).isSome then .error .argumentConflict
  else if !switch.allows value then .error .invalidValue
  else .ok { progress with given := progress.given ++ [(switch, value)] }

/-- Settles the option that is still waiting for its value. -/
def settle (progress : Progress) : Except UsageFault Progress :=
  match progress.pending with
  | none => .ok progress
  | some (_, none) => .error .invalidValue
  | some (switch, some value) => { progress with pending := none }.accept switch value

def meet (progress : Progress) (switch : Switch) (attached : Option String) :
    Except UsageFault Progress :=
  match switch.takesValue, attached with
  | true, some value => do (← progress.settle).accept switch value
  | true, none => do
      let progress ← progress.settle
      .ok { progress with pending := some (switch, none) }
  | false, some _ => .error .tooManyValues
  | false, none => do
      let progress ← progress.settle
      match switch with
      | .help => .error .help
      | .version => .error .version
      | _ => progress.accept switch "true"

end Progress

inductive Word where
  | escape
  | long (name : List Char) (value : Option String)
  | short (letter : Char) (rest : List Char)
  | plain
deriving Repr

def Word.ofText (text : String) : Word :=
  match text.toList with
  | ['-', '-'] => .escape
  | '-' :: '-' :: body =>
      match body.span (· != '=') with
      | (name, _ :: value) => .long name (some (String.ofList value))
      | (name, []) => .long name none
  | '-' :: letter :: rest => .short letter rest
  | _ => .plain

/-- The value in the same word as a letter, without the equals sign in front of it. -/
def attachedValue : List Char → Option String
  | [] => none
  | '=' :: value => some (String.ofList value)
  | value => some (String.ofList value)

def helpOn : Level → List String → UsageFault
  | _, [] => .help
  | level, name :: rest =>
      match level.child? name with
      | some child => helpOn child rest
      | none =>
          if name = "help" ∧ level.isGroup ∧ rest.isEmpty then .help else .invalidSubcommand

def strayWord (level : Level) (progress : Progress) (word : String) : UsageFault :=
  let isCommand := (level.child? word).isSome || (level.isGroup && word == "help")
  if progress.onlyValues && isCommand then .unknownArgument
  else if level.isGroup then .invalidSubcommand
  else .unknownArgument

/-- The end of a level that is not left for a command in it. -/
def finish (level : Level) (progress : Progress) : Except UsageFault (Level × List Given) := do
  let progress ← progress.settle
  if !level.isGroup then .ok (level, [progress.given])
  else if progress.given.isEmpty then .error .helpOnMissingArgument
  else .error .missingSubcommand

def Progress.awaitsValue (progress : Progress) : Bool :=
  match progress.pending with
  | some (_, none) => true
  | _ => false

def Progress.supply (progress : Progress) (word : String) : Progress :=
  { progress with pending := progress.pending.map fun pending => (pending.1, some word) }

/--
Reads the words from a level on: the command that they name, and the options of each level, the
outermost first.
-/
def readLevel (level : Level) (progress : Progress) :
    List String → Except UsageFault (Level × List Given)
  | [] => finish level progress
  | word :: rest =>
      if progress.onlyValues then .error (strayWord level progress word)
      else if !progress.awaitsValue && level.isGroup && word == "help" then
        .error (helpOn level rest)
      else
        match (if progress.awaitsValue then none else level.child? word) with
        | some child => do
            let (command, inner) ← readLevel child {} rest
            let progress ← progress.settle
            .ok (command, progress.given :: inner)
        | none =>
            match Word.ofText word with
            | .escape => readLevel level { progress with onlyValues := true } rest
            | .long name value =>
                match Switch.ofLong? level name with
                | none => .error .unknownArgument
                | some switch => do readLevel level (← progress.meet switch value) rest
            | .short letter tail =>
                match Switch.ofLetter? level letter with
                | none => .error .unknownArgument
                | some switch =>
                    let attached := if switch.takesValue then attachedValue tail else none
                    do readLevel level (← progress.meet switch attached) rest
            | .plain =>
                if progress.awaitsValue then readLevel level (progress.supply word) rest
                else .error (strayWord level progress word)

/-! ## What is asked for -/

inductive Part where
  | target
  | tls
  | auth
  | all
deriving DecidableEq, Repr

def Part.name : Part → String
  | target => "target"
  | tls => "tls"
  | auth => "auth"
  | all => "all"

/-- The part of a name; an unknown name stands for everything. -/
def Part.ofName (name : String) : Part :=
  if name = "target" then .target
  else if name = "tls" then .tls
  else if name = "auth" then .auth
  else .all

inductive OutputFormat where
  | text
  | json
deriving DecidableEq, Repr

inductive Command where
  | validate
  | display (part : Part)
  | options (tlsOnly : Bool)
deriving DecidableEq, Repr

structure Arguments where
  config : String
  logLevel : Option String
  output : OutputFormat
  command : Command
deriving DecidableEq, Repr

/-- The value of an option; of several levels that give it the innermost one counts. -/
def innermost (switch : Switch) (levels : List Given) : Option String :=
  levels.reverse.findSome? fun given => given.lookup switch

def Arguments.ofLevels (command : Level) (levels : List Given) : Arguments where
  config := (innermost .configPath levels).getD "elastic-integration.toml"
  logLevel := innermost .logLevel levels
  output := if innermost .output levels = some "json" then .json else .text
  command :=
    match command with
    | .display => .display (Part.ofName ((innermost .part levels).getD "all"))
    | .options => .options (innermost .tlsOnly levels).isSome
    | _ => .validate

def Arguments.read (words : List String) : Except UsageFault Arguments := do
  let (command, levels) ← readLevel .top {} words
  .ok (.ofLevels command levels)

end ClusterLink.CommandLine
