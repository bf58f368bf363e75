/-!
# Log records

A record has a level, the name of the logger that it was written with, and a
message. Levels are ordered; what listens to a logger takes the records from some
level on.
-/

namespace NameLint.Log

inductive Level where
  | debug
  | info
  | warning
  | error
  deriving DecidableEq, Repr, Inhabited

namespace Level

def rank : Level → Nat
  | .debug => 0
  | .info => 1
  | .warning => 2
  | .error => 3

def word : Level → String
  | .debug => "DEBUG"
  | .info => "INFO"
  | .warning => "WARNING"
  | .error => "ERROR"

def verb : Level → String
  | .debug => "debug"
  | .info => "info"
  | .warning => "warning"
  | .error => "error"

end Level

structure Record where
  level : Level
  logger : String
  message : String
  deriving DecidableEq, Repr, Inhabited

def fullName (logger : String) : String :=
  "camellint." ++ logger

end NameLint.Log
