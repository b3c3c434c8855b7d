set_option autoImplicit false

namespace OverflowScan

inductive Level where
  | debug
  | info
  | warning
  | error
  | critical
  deriving DecidableEq, Repr

namespace Level

def all : List Level := [.debug, .info, .warning, .error, .critical]

def rank : Level → Nat
  | .debug => 0
  | .info => 1
  | .warning => 2
  | .error => 3
  | .critical => 4

def name : Level → String
  | .debug => "DEBUG"
  | .info => "INFO"
  | .warning => "WARNING"
  | .error => "ERROR"
  | .critical => "CRITICAL"

def ofName? (name : String) : Option Level :=
  all.find? fun level => level.name == name

end Level

structure Record where
  level : Level
  logger : String
  message : String
  deriving DecidableEq, Repr

def Record.render (clock : String) (record : Record) : String :=
  clock ++ " " ++ record.level.name ++ " [" ++ record.logger ++ "] " ++ record.message ++ "\n"

/-- The base logger: its level, the number of handlers that write its records, and whether records
also go to the loggers above it. -/
structure Logger where
  level : Level
  handlers : Nat
  propagates : Bool
  deriving DecidableEq, Repr

namespace Logger

def baseName : String := "bufscan"

/-- The full name of a logger; without a name, or with an empty one, it is the base logger. -/
def fullName : Option String → String
  | none => baseName
  | some name => if name = "" then baseName else baseName ++ "." ++ name

def unconfigured : Logger := ⟨.warning, 0, true⟩

/-- The capital of a letter, as far as the names of levels need it: besides the ASCII letters only
the dotless i has a capital that occurs in one of them. -/
def capital (c : Char) : Char :=
  if c = '\u0131' then 'I' else c.toUpper

/-- The level that an environment asks for: the one it names in any case, or else `warning`. -/
def environmentLevel (environment : Option String) : Level :=
  (Level.ofName? ((environment.getD "").map capital)).getD .warning

def acquire (environment : Option String) (logger : Logger) : Logger :=
  if logger.handlers = 0 then ⟨environmentLevel environment, logger.handlers + 1, false⟩
  else logger

/-- The logger after a verbosity is asked for: 1 stands for `info`, more for `debug`, and anything
else changes nothing. -/
def setVerbosity (environment : Option String) (logger : Logger) (verbosity : Int) : Logger :=
  if verbosity ≤ 0 then logger
  else
    { logger.acquire environment with
      level := if verbosity = 1 then .info else .debug }

def admits (logger : Logger) (level : Level) : Bool :=
  logger.level.rank ≤ level.rank

def emit (logger : Logger) (record : Record) : List Record :=
  if logger.admits record.level then List.replicate logger.handlers record else []

def emitAll (logger : Logger) (records : List Record) : List Record :=
  records.flatMap logger.emit

end Logger

end OverflowScan
