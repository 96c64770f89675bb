import StationBench.CommandLine.Options
/-!
# Reading a command line

The arguments of a command line are read from left to right into a list of events: that an option
occurs, that it is given a value, or that a file is named. An option and its value may be
written `--seed 1`, `--seed=1`, `-s 1`, `-s1` or `-s=1`; the values of `--only` go on up to the next
argument that starts with a dash; after `--` there are only files. Then environment variables add
their values, which count for options without one and have to be right even for others, and what was
given is checked (`Options.ofArguments`).
-/
namespace StationBench

/-- The options that a command line may have. -/
inductive OptionName
  | settings
  | logging
  | logFile
  | seed
  | continueOnFailure
  | realtime
  | report
  | only
deriving DecidableEq, Repr

namespace OptionName

def all : List OptionName :=
  [settings, logging, logFile, seed, continueOnFailure, realtime, report, only]

/-- The name after two dashes. -/
def long : OptionName → String
  | .settings => "settings"
  | .logging => "logging"
  | .logFile => "log-output-file"
  | .seed => "seed"
  | .continueOnFailure => "continue-on-failure"
  | .realtime => "realtime"
  | .report => "report"
  | .only => "only"

/-- The letter after one dash, for an option that has one. -/
def letter? : OptionName → Option Char
  | .settings => some 'c'
  | .logging => some 'L'
  | .logFile => some 'O'
  | .seed => some 's'
  | .continueOnFailure => none
  | .realtime => none
  | .report => some 'r'
  | .only => some 't'

def takesValue : OptionName → Bool
  | .continueOnFailure | .realtime => false
  | _ => true

/-- Whether an option may occur more than once and have several values at a time. -/
def isRepeatable : OptionName → Bool
  | .only => true
  | _ => false

/-- The environment variable that stands in for an option without a value. -/
def fallback? : OptionName → Option String
  | .settings => some "STACKCHECK_SETTINGS"
  | .logging => some "LOG_LEVEL"
  | .logFile => some "LOG_OUTPUT_FILE"
  | _ => none

end OptionName

/-- Why a command line leads no further. -/
inductive ArgumentFault
  | unknownArgument
  | missingRequiredArgument
  | emptyValue
  /-- A value is none of the possible ones. -/
  | invalidValue
  /-- A value cannot be read. -/
  | valueValidation
  | unexpectedMultipleUsage
  /-- Help was asked for. -/
  | helpDisplayed
  /-- The version was asked for. -/
  | versionDisplayed
deriving DecidableEq, Repr

namespace ArgumentFault

def name : ArgumentFault → String
  | .unknownArgument => "UnknownArgument"
  | .missingRequiredArgument => "MissingRequiredArgument"
  | .emptyValue => "EmptyValue"
  | .invalidValue => "InvalidValue"
  | .valueValidation => "ValueValidation"
  | .unexpectedMultipleUsage => "UnexpectedMultipleUsage"
  | .helpDisplayed => "HelpDisplayed"
  | .versionDisplayed => "VersionDisplayed"

/-- Asking for help or the version is no mistake. -/
def exitCode : ArgumentFault → Nat
  | .helpDisplayed | .versionDisplayed => 0
  | _ => 1

end ArgumentFault

/-! ## Events -/

inductive ArgumentEvent
  | occurs (option : OptionName)
  | value (option : OptionName) (text : String)
  | file (name : String)
deriving DecidableEq, Repr

/-- A command line as far as it was read. -/
structure ArgumentState where
  events : List ArgumentEvent := []
  /-- The option that the next argument may be a value of. -/
  awaiting : Option OptionName := none
  /-- Whether only files follow. -/
  filesOnly : Bool := false
deriving DecidableEq, Repr

namespace ArgumentState

def add (s : ArgumentState) (e : ArgumentEvent) : ArgumentState :=
  { s with events := s.events ++ [e] }

/-- The option occurs, with the value that is written in the same argument, if any. An attached
value loses the equals signs in front of it. -/
def occurrence (s : ArgumentState) (o : OptionName) (attached : Option (List Char))
    (afterEquals : Bool) : ArgumentState :=
  match attached with
  | none => { s.add (.occurs o) with awaiting := some o }
  | some cs =>
    let value := String.ofList (cs.dropWhile (· = '='))
    let closed := afterEquals || cs.head? = some '=' || !o.isRepeatable
    { (s.add (.value o value)).add (.occurs o) with awaiting := if closed then none else some o }

def switch (s : ArgumentState) (o : OptionName) : ArgumentState :=
  { s.add (.occurs o) with awaiting := none }

/-- An argument after two dashes. -/
def long (s : ArgumentState) (cs : List Char) : Except ArgumentFault ArgumentState :=
  let bare := cs.dropWhile (· = '-')
  let name := String.ofList (bare.takeWhile (· ≠ '='))
  let attached := match bare.dropWhile (· ≠ '=') with
    | [] => none
    | _ :: value => some value
  match OptionName.all.find? (·.long = name) with
  | some o =>
    .ok (if o.takesValue then s.occurrence o attached attached.isSome else s.switch o)
  | none =>
    if name = "help" then .error .helpDisplayed
    else if name = "version" then .error .versionDisplayed
    else .error .unknownArgument

/-- Letters after one dash. An option takes the rest of the argument as its value. -/
def short (s : ArgumentState) : List Char → Except ArgumentFault ArgumentState
  | [] => .ok s
  | c :: rest =>
    match OptionName.all.find? (·.letter? = some c) with
    | some o => .ok (s.occurrence o (if rest.isEmpty then none else some rest) false)
    | none =>
      if c = 'h' then .error .helpDisplayed
      else if c = 'V' then .error .versionDisplayed
      else .error .unknownArgument

def hasFile (s : ArgumentState) : Bool :=
  s.events.any fun
    | .file _ => true
    | _ => false

/-- A file is named; there can be only one. -/
def file (s : ArgumentState) (name : String) : Except ArgumentFault ArgumentState :=
  if s.hasFile then .error .unknownArgument else .ok (s.add (.file name))

/-- Reads one argument. -/
def next (s : ArgumentState) (argument : String) : Except ArgumentFault ArgumentState :=
  if s.filesOnly then s.file argument
  else match argument.toList with
    | ['-', '-'] => .ok { s with filesOnly := true }
    | '-' :: '-' :: rest => s.long rest
    | '-' :: c :: rest => s.short (c :: rest)
    | _ =>
      match s.awaiting with
      | some o =>
        .ok { s.add (.value o argument) with awaiting := if o.isRepeatable then some o else none }
      | none => s.file argument

end ArgumentState

/-! ## What was given -/

/-- What a command line and its environment give. -/
structure Supplied where
  events : List ArgumentEvent
  environment : List (String × String)
deriving DecidableEq, Repr

namespace Supplied

def file? (g : Supplied) : Option String :=
  g.events.findSome? fun
    | .file name => some name
    | _ => none

/-- How often an option occurs. -/
def count (g : Supplied) (o : OptionName) : Nat := g.events.count (.occurs o)

def occurs (g : Supplied) (o : OptionName) : Bool := g.count o ≠ 0

/-- The values of an option: those on the command line, and then that of the environment. -/
def values (g : Supplied) (o : OptionName) : List String :=
  let written := g.events.filterMap fun
    | .value o' text => if o' = o then some text else none
    | _ => none
  written ++ (o.fallback?.bind (List.lookup · g.environment)).toList

/-- The value of an option that is asked for one: the first. -/
def value? (g : Supplied) (o : OptionName) : Option String := (g.values o).head?

def readSeed (text : String) : Option UInt64 := Decimal.readUnsigned text.toList

/-- The fault of one value of an option. -/
def valueFault? (o : OptionName) (text : String) : Option ArgumentFault :=
  match o with
  | .logging => if (LogLevel.ofName? text).isNone then some .invalidValue else none
  | .seed => if (readSeed text).isNone then some .valueValidation else none
  | _ => none

/-- What is wrong with an option. -/
def fault? (g : Supplied) (o : OptionName) : Option ArgumentFault :=
  if o.takesValue && g.occurs o && (g.values o).isEmpty then some .emptyValue
  else ((g.values o).findSome? (valueFault? o)).or
    (if 1 < g.count o && !o.isRepeatable then some .unexpectedMultipleUsage else none)

/-- The options, all of which are in order. -/
def options (g : Supplied) (file : String) : Options where
  file := file
  settings := g.value? .settings
  logging := (g.value? .logging).bind LogLevel.ofName?
  logFile := g.value? .logFile
  seed := (g.value? .seed).bind readSeed
  continueOnFailure := g.occurs .continueOnFailure
  realtime := g.occurs .realtime
  report := g.value? .report
  only := g.values .only

end Supplied

/-- Reads a command line, given the environment variables. -/
def Options.ofArguments (arguments : List String) (environment : List (String × String)) :
    Except ArgumentFault Options := do
  let s ← arguments.foldlM ArgumentState.next {}
  let g : Supplied := { events := s.events, environment }
  match g.file? with
  | none => .error .missingRequiredArgument
  | some file =>
    if s.awaiting.any fun o => (g.values o).isEmpty then .error .emptyValue
    else match OptionName.all.findSome? g.fault? with
      | some fault => .error fault
      | none => .ok (g.options file)

end StationBench
