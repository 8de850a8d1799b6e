import Warrant.Uuid.Reader
import Warrant.Value.Text

/-!
# Identifiers in requests

Identifiers come in addresses and in bodies, where they may be any JSON value.
A value is read as an identifier from its text in words; null is none.
-/

namespace Warrant.Value

/-- The identifier that a value spells. -/
def identifier? (v : Value) : Option Uuid :=
  if v.isNull then none else Uuid.read? v.display

end Warrant.Value
