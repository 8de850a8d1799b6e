/-!
# Faults

A fault is a failure that no one has answered yet: a value of the wrong kind, a
missing member, a database that does not respond. Where a caller is told about
a failure in words it is a refusal, not a fault; a fault has a kind and no
text, since its details are for the log alone.
-/

namespace Warrant

/-- Why an evaluation stopped. -/
inductive Fault where
  /-- A value of a kind that the operation does not take. -/
  | wrongKind
  /-- A value without the attribute that was asked for. -/
  | noAttribute
  /-- A value outside the range of those known. -/
  | unknownValue
  /-- A mapping without the key that was asked for. -/
  | missingKey
  /-- A text that is not written as JSON. -/
  | malformedText
  /-- A text with more arrays and objects inside one another than can be read. -/
  | tooDeep
  /-- Octets that are not text in the encoding they seem to have. -/
  | malformedOctets
  /-- A number or a time beyond what can be represented. -/
  | outOfRange
  /-- A search in which nothing was found. -/
  | nothingFound
  /-- A condition outside the grammar of conditions. -/
  | malformedCondition
  /-- An attribute whose reading fails. -/
  | attributeFailed
  /-- The database. -/
  | database
  deriving DecidableEq, Repr, Inhabited

end Warrant
