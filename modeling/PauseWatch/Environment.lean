import PauseWatch.Text.Utf8
import PauseWatch.Text.Blank

/-!
# Environment variables

Values are bytes and need not be text. A name that could not be a variable's names nothing.
-/

namespace PauseWatch

/-- The variables of a process and their values. -/
structure Environment where
  /-- The variables, with the one that counts first if a name occurs twice. -/
  vars : List (String × List UInt8)
  deriving DecidableEq, Repr, Inhabited

namespace Environment

/-- No variables at all. -/
def empty : Environment := ⟨[]⟩

/-- Whether a text can name a variable: it is not empty and holds neither an equals sign nor the
character zero. -/
def isName (name : String) : Bool :=
  !name.isEmpty && name.toList.all fun c => c != '=' && c != '\x00'

/-- The value of a variable. -/
def get? (env : Environment) (name : String) : Option (List UInt8) :=
  if isName name then env.vars.lookup name else none

/-- The value of a variable that is set to well-formed text. -/
def text? (env : Environment) (name : String) : Option String :=
  (env.get? name).bind Text.Utf8.decode?

/-- The words of a variable's value, none if it is unset or no text. -/
def words (env : Environment) (name : String) : List String :=
  (env.text? name).elim [] Text.words

/-- The environment in which one variable has a new value. -/
def set (env : Environment) (name : String) (value : List UInt8) : Environment :=
  ⟨(name, value) :: env.vars.filter (·.1 != name)⟩

end Environment

end PauseWatch
