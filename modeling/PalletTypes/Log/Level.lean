import PalletTypes.Text

/-!
# Levels of log records

There are five levels.  They are told apart by their names and compared by
their severity, which grows in steps of ten.
-/

namespace PalletTypes.Log

/-- How much a record matters. -/
inductive Level where
  | debug
  | info
  | warning
  | error
  | critical
deriving DecidableEq, Repr

namespace Level

def severity : Level → Nat
  | .debug => 10
  | .info => 20
  | .warning => 30
  | .error => 40
  | .critical => 50

def name : Level → Text
  | .debug => "DEBUG"
  | .info => "INFO"
  | .warning => "WARNING"
  | .error => "ERROR"
  | .critical => "CRITICAL"

/-- All levels, the least severe first. -/
def all : List Level := [.debug, .info, .warning, .error, .critical]

def ofName? (name : Text) : Option Level :=
  all.find? fun level => level.name = name

@[simp] theorem ofName?_name (level : Level) :
    ofName? level.name = some level := by
  cases level <;> decide

instance : LE Level := ⟨fun left right => left.severity ≤ right.severity⟩

instance (left right : Level) : Decidable (left ≤ right) :=
  inferInstanceAs (Decidable (left.severity ≤ right.severity))

end Level

end PalletTypes.Log
