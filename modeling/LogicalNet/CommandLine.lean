import LogicalNet.Client.Groups
import LogicalNet.Document.Format
import LogicalNet.Policy.Preset
import LogicalNet.Store.Database

/-!
# The command line

Four commands: `translate` prints what a security group compiles to, `presets`
lists the presets, `apply` stores a security group in the database and `delete`
removes one from it.  Options stand in front of the command, each at most once; the
one that asks for the version is a command of its own, and nothing behind it counts.

An invocation is a value, and so are its outcome and the files it reads; only what
is printed and the code it ends with leave the program.  A simulated database is
none that a command may write to, as the simulation ends with the program.
-/

namespace LogicalNet
namespace CommandLine

inductive Command where
  | compile (file : String)
  | presets
  | apply (file : String)
  | delete (group : String)
  | version
  deriving DecidableEq

structure Invocation where
  verbosity : Option String
  config : Option String
  command : Command
  deriving DecidableEq

/-! ## Arguments -/

/-- Whether the word is an option and not a value; a lone dash is a value. -/
def isOption (word : String) : Bool :=
  match word.toList with
  | '-' :: _ :: _ => true
  | _ => false

/-- The words of a command behind its name, where two dashes end the options. -/
def values? : List String → Option (List String)
  | [] => some []
  | "--" :: rest => some rest
  | word :: rest => if isOption word then none else (values? rest).map (word :: ·)

def readCommand? (name : String) (words : List String) : Option Command :=
  match name, values? words with
  | "translate", some [file] => if file.isEmpty then none else some (.compile file)
  | "presets", some [] => some .presets
  | "apply", some [file] => if file.isEmpty then none else some (.apply file)
  | "delete", some [group] => some (.delete group)
  | _, _ => none

/-- Which option a word is, with its value if that is attached. -/
inductive OptionWord where
  | verbosity (value : Option String)
  | config (value : Option String)
  | version

/-- The value attached to a short option, behind an equals sign or without one. -/
def attached : List Char → Option String
  | [] => none
  | '=' :: rest => some (String.ofList rest)
  | rest => some (String.ofList rest)

def readOption? (word : String) : Option OptionWord :=
  match word.toList with
  | '-' :: '-' :: rest =>
      let parts := match Text.cutFirst? '=' rest with
        | some (name, value) => (String.ofList name, some (String.ofList value))
        | none => (String.ofList rest, none)
      match parts with
      | ("verbosity", value) => some (.verbosity value)
      | ("config", value) => some (.config value)
      | ("version", none) => some .version
      | _ => none
  | '-' :: 'v' :: rest => some (.verbosity (attached rest))
  | '-' :: 'V' :: _ => some .version
  | _ => none

/-- The value of an option, attached to it or in the next word, and the words behind it. -/
def takeValue? (value : Option String) (rest : List String) : Option (String × List String) :=
  match value, rest with
  | some v, rest => some (v, rest)
  | none, word :: rest => if isOption word then none else some (word, rest)
  | none, [] => none

/-- An invocation without its command. -/
structure Options where
  verbosity : Option String := none
  config : Option String := none

def setVerbosity? (o : Options) (value : String) : Option Options :=
  if o.verbosity.isSome then none else some { o with verbosity := some value }

/-- The path of a file is not empty. -/
def setConfig? (o : Options) (value : String) : Option Options :=
  if o.config.isSome || value.isEmpty then none else some { o with config := some value }

/-- Reads the options in front of the command, as many words as the fuel allows. -/
def readWords? : Nat → Options → List String → Option Invocation
  | 0, _, _ => none
  | _ + 1, _, [] => none
  | fuel + 1, o, word :: rest =>
      if isOption word then
        match readOption? word with
        | none => none
        | some (.verbosity value) => do
            let taken ← takeValue? value rest
            readWords? fuel (← setVerbosity? o taken.1) taken.2
        | some (.config value) => do
            let taken ← takeValue? value rest
            readWords? fuel (← setConfig? o taken.1) taken.2
        | some .version => some ⟨o.verbosity, o.config, .version⟩
      else
        (readCommand? word rest).map fun c => ⟨o.verbosity, o.config, c⟩

/-- The invocation that the words make up; `none` for words that make up none. -/
def read? (words : List String) : Option Invocation :=
  readWords? (words.length + 1) {} words

/-! ## Files -/

def Command.file? : Command → Option String
  | compile file => some file
  | presets => none
  | apply file => some file
  | delete _ => none
  | version => none

/-- Whether the command works on the database. -/
def Command.needsDatabase : Command → Bool
  | compile _ => false
  | presets => false
  | apply _ => true
  | delete _ => true
  | version => false

def Invocation.configPath (i : Invocation) : String :=
  i.config.getD Settings.defaultPath

/-- The files that the invocation may read. -/
def Invocation.files (i : Invocation) : List String :=
  i.command.file?.toList ++ (if i.command.needsDatabase then [i.configPath] else [])

/-- The contents of files by their paths. -/
abbrev Files := String → Option String

section Load

variable {α : Type} [Codec α]

def loadFile (files : Files) (role : Document.FileRole) (path : String) :
    Except Document.LoadError α :=
  match files path with
  | none => .error (.missing role)
  | some text => Document.load role (.ofPath path) text

end Load

/-- A file that is asked for has to be there, the usual one may be missing. -/
def loadSettings (files : Files) (i : Invocation) : Except Document.LoadError Settings :=
  match i.config with
  | some path => loadFile files .settings path
  | none =>
      if (files Settings.defaultPath).isSome then loadFile files .settings Settings.defaultPath
      else .ok {}

/-! ## Running -/

/-- The name of the program and its version. -/
def versionText : String :=
  "quantumnet-schemas 1.0"

/-- Why a command fails. -/
inductive Failure where
  | load (cause : Document.LoadError)
  | rule (cause : RuleError)
  | store (cause : StoreError)
  | notConnected
  | simulated (address : String)

def Failure.message : Failure → String
  | load cause => cause.message
  | rule cause => cause.message
  | store cause => cause.message
  | notConnected => "Northbound client is not connected"
  | simulated address => "Northbound database at " ++ address ++ " is unreachable"

structure Outcome where
  code : UInt8
  output : String
  deriving DecidableEq

section Run

variable {ω ι : Type} [Link ω] [IdSource ι]

/-- The store of the settings, if it is a database in connection. -/
def openDatabase (settings : Settings) (link : ω) : Except Failure (Layer (Database ω)) :=
  match Database.ofSettings settings link with
  | .error e => .error (.store e)
  | .ok s =>
      if !Store.isConnected s then .error .notConnected
      else if Store.kind s = .inMemory then .error (.simulated settings.address)
      else .ok s

/-- Performs a call on the database of the settings. -/
def onDatabase {α : Type} (files : Files) (link : ω) (ids : ι) (i : Invocation)
    (call : Plan (Transaction α)) : Except Failure String := do
  let settings ← (loadSettings files i).mapError .load
  let store ← openDatabase settings link
  let _ ← (call.perform store ids).1.mapError .store
  return ""

/-- What the command prints. -/
def output (files : Files) (link : ω) (ids : ι) (i : Invocation) : Except Failure String := do
  match i.command with
  | .compile file =>
      let group : SecurityGroup ← (loadFile files .securityGroup file).mapError .load
      let compiled ← (group.compile ids).1.mapError .rule
      return (encode compiled).indented ++ "\n"
  | .presets => return (encode Preset.all).yaml
  | .apply file =>
      let group : SecurityGroup ← (loadFile files .securityGroup file).mapError .load
      onDatabase files link ids i (Client.createGroup group)
  | .delete group => onDatabase files link ids i (Client.deleteGroup group)
  | .version => return versionText ++ "\n"

def run (files : Files) (link : ω) (ids : ι) (i : Invocation) : Outcome :=
  match output files link ids i with
  | .ok text => ⟨0, text⟩
  | .error _ => ⟨1, ""⟩

/-- The outcome for the words of a command line; words that make up no invocation end with the code
two. -/
def runWords (files : Files) (link : ω) (ids : ι) (words : List String) : Outcome :=
  match read? words with
  | none => ⟨2, ""⟩
  | some i => run files link ids i

end Run
end CommandLine
end LogicalNet
