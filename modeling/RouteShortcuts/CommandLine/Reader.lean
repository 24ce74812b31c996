/-
  RouteShortcuts.CommandLine.Reader — what a list of arguments asks for.

  Arguments are read from the front. An argument that takes a value waits for it until the next one is
  read, and is settled only then: its value is judged, and whether it was given before. What asks for
  help or for the version stops the reading, and so does the first fault.
-/

import RouteShortcuts.CommandLine.Fault
import RouteShortcuts.Manifest
import RouteShortcuts.Text.Similarity

namespace RouteShortcuts.CommandLine

open RouteShortcuts.Text

/-- What both kinds of scan are told. -/
structure ScanArguments where
  root : Option String := none
  routeFiles : List String := []
  functionName : Option String := none
  defaultIcon : Option String := none
  denyWarnings : Bool := false
  verbose : Bool := false
  deriving DecidableEq, Repr

inductive Invocation where
  | none
  | scan (arguments : ScanArguments)
  | generate (arguments : ScanArguments) (format : ManifestFormat) (output : Option String)
  | init
  | serve
  deriving DecidableEq, Repr

inductive Stop where
  | help (long : Bool) (level : Level)
  | version
  | fault (f : Fault) (level : Level) (used : List Argument)
  deriving DecidableEq, Repr

/-- The arguments that were settled, each with its values, and the one that waits. -/
structure Given where
  settled : List (Argument × List String) := []
  waiting : Option (Argument × List String) := none

namespace Given

/-- The arguments that were settled, in their order. -/
def used (g : Given) : List Argument := g.settled.map (·.1)

def has (g : Given) (a : Argument) : Bool := g.used.contains a

def values (g : Given) (a : Argument) : List String :=
  (g.settled.filter (·.1 == a)).flatMap (·.2)

def value? (g : Given) (a : Argument) : Option String := (g.values a).getLast?

/-- Adds an argument, or values to one that is there. -/
def add (g : Given) (a : Argument) (values : List String) : Given :=
  if g.has a then
    { g with settled := g.settled.map fun s => if s.1 == a then (s.1, s.2 ++ values) else s }
  else { g with settled := g.settled ++ [(a, values)] }

def remove (g : Given) (a : Argument) : Given :=
  { g with settled := g.settled.filter (·.1 != a) }

def judge (a : Argument) (v : String) : Option Fault :=
  if a.isPath ∧ v = "" then some (.missingValue a)
  else if a.choices.isEmpty ∨ (a.choices.map (·.1)).contains v then none
  else if v = "" then some (.missingValue a)
  else some (.invalidValue a v (similarWords v (a.choices.map (·.1))).getLast?)

/-- Settles an argument with its values. With a fault comes what is left settled. -/
def settle (g : Given) (a : Argument) (vs : List String) : Given × Option Fault :=
  if a.takesValue ∧ vs.isEmpty then (g, some (.missingValue a))
  else if g.has a ∧ !a.mayRepeat then (g.remove a, some (.repeated a))
  else (g.add a vs, vs.findSome? (judge a))

/-- Settles the argument that waits. -/
def settleWaiting (g : Given) : Given × Option Fault :=
  match g.waiting with
  | none => (g, none)
  | some (a, vs) => ({ g with waiting := none } : Given).settle a vs

end Given

/-! ## One argument -/

/-- Reading at one level: what was given there, or a stop. -/
abbrev Reading := Except Stop Given

/-- Stops with a fault that usage goes with, without naming arguments. -/
def refuse (l : Level) (f : Fault) : Reading := .error (.fault f l [])

/-- Settles what waits, then takes an argument with its values. -/
def take (l : Level) (g : Given) (long : Bool) (a : Argument) (vs : List String) : Reading :=
  match g.settleWaiting with
  | (_, some f) => refuse l f
  | (g, none) =>
    if a = .help then .error (.help long l)
    else if a = .version then .error .version
    else
      match g.settle a vs with
      | (_, some f) => refuse l f
      | (g, none) => .ok g

/-- Settles what waits, then lets an argument wait for its value. -/
def await (l : Level) (g : Given) (a : Argument) : Reading :=
  match g.settleWaiting with
  | (_, some f) => refuse l f
  | (g, none) => .ok { g with waiting := some (a, []) }

/-- An argument of a command that is named later on and has one like this, the nearest command
first. -/
def ofLaterCommand (long : String) (later : List String) : Option (Command × String) :=
  later.findSome? fun word => do
    let c ← Command.ofName? word
    return (c, ← (similarWords long (Level.longs (some c))).getLast?)

/-- Refuses a long name that is not known. -/
def refuseLong (l : Level) (g : Given) (long : String) (later : List String) : Reading :=
  let g := g.settleWaiting.1
  match (similarWords long (Level.longs l)).getLast?.bind (Level.ofLong? l) with
  | some a => .error (.fault (.unknownArgument ("--" ++ long) (some a)) l (g.add a []).used)
  | none =>
    match if l.isNone then ofLaterCommand long later else none with
    | some (c, similar) => .error (.fault (.misplacedArgument ("--" ++ long) c similar) l g.used)
    | none => .error (.fault (.unknownArgument ("--" ++ long) none) l g.used)

/-- Reads `--long` or `--long=value`. -/
def readLong (l : Level) (g : Given) (long : String) (value : Option String) (later : List String) :
    Reading :=
  match Level.ofLong? l long with
  | none => refuseLong l g long later
  | some a =>
    if a.takesValue then
      match value with
      | some v => take l g true a [v]
      | none => await l g a
    else
      match value with
      | some v => .error (.fault (.valueNotTaken a v) l (g.settleWaiting.1.add a []).used)
      | none => take l g true a []

/-- Reads the short names after a dash; a value may follow the last one. -/
def readShorts (l : Level) (g : Given) : List Char → Reading
  | [] => .ok g
  | c :: rest =>
    match Level.ofShort? l c with
    | none => refuse l (.unknownArgument ("-" ++ String.singleton c) none)
    | some a =>
      if a.takesValue then
        match rest with
        | [] => await l g a
        | '=' :: v => take l g false a [String.ofList v]
        | v => take l g false a [String.ofList v]
      else
        match take l g false a [] with
        | .ok g => readShorts l g rest
        | .error stop => .error stop

/-- Refuses a word that is neither an argument nor a value. -/
def refuseWord (l : Level) (afterDashes : Bool) (word : String) : Reading :=
  match l with
  | some _ => refuse l (.unknownArgument word none)
  | none =>
    if afterDashes ∧ (Command.ofName? word).isSome then refuse l (.commandAfterDashes word)
    else refuse l (.unknownCommand word (similarWords word (Command.all.map Command.name)))

/-! ## All arguments -/

/-- The name and the value of a word after its two dashes. -/
def splitLong (word : List Char) : String × Option String :=
  let long := word.takeWhile (· != '=')
  match word.drop long.length with
  | [] => (String.ofList long, none)
  | _ :: v => (String.ofList long, some (String.ofList v))

/-- Settles what waits at the end. -/
def finish (l : Level) (g : Given) : Reading :=
  match g.settleWaiting with
  | (_, some f) => refuse l f
  | (g, none) => .ok g

def readWord (l : Level) (g : Given) (word : String) (later : List String) : Reading :=
  match word.toList with
  | '-' :: '-' :: rest =>
    let (long, value) := splitLong rest
    readLong l g long value later
  | '-' :: c :: rest => readShorts l g (c :: rest)
  | _ =>
    match g.waiting with
    | some (a, []) => .ok { g with waiting := some (a, [word]) }
    | _ => refuseWord l false word

def readArguments (c : Command) (g : Given) : List String → Reading
  | [] => finish (some c) g
  | "--" :: rest =>
    match rest with
    | [] => finish (some c) g
    | word :: _ => refuseWord (some c) true word
  | word :: rest =>
    match readWord (some c) g word rest with
    | .ok g => readArguments c g rest
    | .error stop => .error stop

/-- Whose help is asked for by the words after `help`. -/
def helpTarget (l : Level) : List String → Stop
  | [] => .help true l
  | word :: rest =>
    match l, Command.ofName? word with
    | none, some c => helpTarget (some c) rest
    | _, _ => .fault (.unknownCommand word []) l []

namespace Given

def scanArguments (g : Given) : ScanArguments where
  root := g.value? .root
  routeFiles := g.values .routeFiles
  functionName := g.value? .functionName
  defaultIcon := g.value? .defaultIcon
  denyWarnings := g.has .denyWarnings
  verbose := g.has .verbose

def format (g : Given) : ManifestFormat :=
  if g.value? .format = some "module" then .module else .json

/-- What a command with these arguments asks for. -/
def invocation (g : Given) : Command → Invocation
  | .scan => .scan g.scanArguments
  | .generate => .generate g.scanArguments g.format (g.value? .output)
  | .init => .init
  | .serve => .serve
  | .help => .none

end Given

/-- Reads the words before a command, then the command and its arguments. -/
def readProgram : List String → Except Stop Invocation
  | [] => .ok .none
  | "--" :: rest =>
    match rest with
    | [] => .ok .none
    | word :: _ => (refuseWord none true word).map fun _ => .none
  | word :: rest =>
    match Command.ofName? word with
    | some .help => .error (helpTarget none rest)
    | some c => (readArguments c {} rest).map fun g => g.invocation c
    | none =>
      match readWord none {} word rest with
      | .ok _ => readProgram rest
      | .error stop => .error stop

def Invocation.ofArguments (args : List String) : Except Stop Invocation := readProgram args

/-- What is printed when reading stops. -/
def Stop.report : Stop → Styled
  | .help long l => CommandLine.help long l
  | .version => CommandLine.version
  | .fault f l used => f.report l used

end RouteShortcuts.CommandLine
