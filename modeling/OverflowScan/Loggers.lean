import OverflowScan.Log

set_option autoImplicit false

namespace OverflowScan

/-- A line of the log: a record in full, or its message alone. -/
inductive LogLine where
  | full (record : Record)
  | bare (message : String)
  deriving DecidableEq, Repr

def LogLine.render (clock : String) : LogLine → String
  | .full record => record.render clock
  | .bare message => message ++ "\n"

/-- What a logger has of its own. Without a level it takes the one of the next logger above it. -/
structure Node where
  level : Option Level
  handlers : Nat
  propagates : Bool
  deriving DecidableEq, Repr

namespace Node

def fresh : Node := ⟨none, 0, true⟩

def root : Node := ⟨some .warning, 0, true⟩

def ofBase (logger : Logger) : Node := ⟨some logger.level, logger.handlers, logger.propagates⟩

/-- The level that counts for the first of several loggers, each followed by those above it. -/
def effectiveLevel : List Node → Level
  | [] => .warning
  | node :: above => node.level.getD (effectiveLevel above)

def handlersReached : List Node → Nat
  | [] => 0
  | node :: above => node.handlers + if node.propagates then handlersReached above else 0

/-- What is written for a record that its logger lets through. A record that meets no handler is
written by a last resort, which shows nothing below a warning. -/
def deliver (nodes : List Node) (record : Record) : List LogLine :=
  if handlersReached nodes = 0 then
    if Level.warning.rank ≤ record.level.rank then [.bare record.message] else []
  else List.replicate (handlersReached nodes) (.full record)

end Node

/-- All loggers: the base logger, the full names of those that were asked for, and what they have
answered when they were asked about records of a level. The answers stand until a level is set. -/
structure Loggers where
  base : Logger
  names : List String
  answers : List ((String × Level) × Bool)
  deriving DecidableEq, Repr

namespace Loggers

def unconfigured : Loggers := ⟨.unconfigured, [], []⟩

/-- The loggers above one, the nearest first, all by their reversed names. A logger is above if it
is known by what stands in front of a dot. A dot that leads to none hides another one right in front
of it. -/
def above (known : List Char → Bool) : List Char → List (List Char)
  | '.' :: c :: rest =>
    if known (c :: rest) then (c :: rest) :: above known (c :: rest) else above known rest
  | _ :: rest => above known rest
  | [] => []

def nameOf (reversed : List Char) : String := String.ofList reversed.reverse

def isKnown (loggers : Loggers) (reversed : List Char) : Bool :=
  nameOf reversed ∈ Logger.baseName :: loggers.names

def chain (loggers : Loggers) (name : String) : List String :=
  name :: (above loggers.isKnown name.toList.reverse).map nameOf

def nodeOf (loggers : Loggers) (name : String) : Node :=
  if name = Logger.baseName then .ofBase loggers.base else .fresh

def lineage (loggers : Loggers) (name : String) : List Node :=
  (loggers.chain name).map loggers.nodeOf ++ [.root]

/-- Whether a logger lets records of a level through, as it has answered before or else by its
level. -/
def answer (loggers : Loggers) (name : String) (level : Level) : Bool :=
  (loggers.answers.lookup (name, level)).getD
    ((Node.effectiveLevel (loggers.lineage name)).rank ≤ level.rank)

/-- The first use gives the base logger its handler and its level. -/
def acquire (environment : Option String) (loggers : Loggers) : Loggers :=
  if loggers.base.handlers = 0 then ⟨loggers.base.acquire environment, loggers.names, []⟩
  else loggers

def get (environment : Option String) (loggers : Loggers) (name : Option String) : Loggers :=
  let acquired := loggers.acquire environment
  { acquired with names := acquired.names.insert (Logger.fullName name) }

def setVerbosity (environment : Option String) (loggers : Loggers) (verbosity : Int) : Loggers :=
  if verbosity ≤ 0 then loggers
  else { loggers with base := loggers.base.setVerbosity environment verbosity, answers := [] }

def log (loggers : Loggers) (record : Record) : Loggers × List LogLine :=
  let answer := loggers.answer record.logger record.level
  ({ loggers with answers := ((record.logger, record.level), answer) :: loggers.answers },
    if answer then Node.deliver (loggers.lineage record.logger) record else [])

inductive Use where
  | verbosity (n : Int)
  | get (name : Option String)
  | log (name : Option String) (level : Level) (message : String)
  deriving DecidableEq, Repr

def use (environment : Option String) (loggers : Loggers) : Use → Loggers × List LogLine
  | .verbosity n => (loggers.setVerbosity environment n, [])
  | .get name => (loggers.get environment name, [])
  | .log name level message =>
    (loggers.get environment name).log ⟨level, Logger.fullName name, message⟩

end Loggers

end OverflowScan
