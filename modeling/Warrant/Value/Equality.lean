import Warrant.Value.Basic

/-!
# Equality of values

Plain equality looks through the kinds of numbers: a truth value is the number
zero or one, and a whole number equals a double of the same value, exactly.
Sequences of one kind are equal item by item and mappings entry by entry in
any order. An object is itself alone, unless its class lets it pass for an
identifier; then it equals the identifier and whatever else passes for it.
-/

namespace Warrant.Value

/-- A number, with the truth values as zero and one. -/
inductive Numeric where
  | whole (n : Int)
  | double (d : Number.Double)
  deriving DecidableEq

/-- The number that a value is. -/
def numeric? : Value → Option Numeric
  | bool b => some (.whole (if b then 1 else 0))
  | int n => some (.whole n)
  | double d => some (.double d)
  | _ => none

/-- Equality of numbers, never rounding. -/
def Numeric.equal : Numeric → Numeric → Bool
  | .whole m, .whole n => m == n
  | .whole m, .double d => d.equalsInt m
  | .double d, .whole n => d.equalsInt n
  | .double d, .double e => d.equal e

/-- The identifier that a value is, or that it passes for. -/
def identity? : Value → Option Uuid
  | uuid id => some id
  | object _ _ _ _ guise => guise.sameAs
  | _ => none

/-- Whether a value is an identifier or passes for it. -/
def equalIdentity (id : Option Uuid) (v : Value) : Bool := id.isSome && v.identity? == id

mutual

/-- Plain equality. -/
def equal : Value → Value → Bool
  | null, null => true
  | bool b, v => equalNumeric (.whole (if b then 1 else 0)) v
  | int n, v => equalNumeric (.whole n) v
  | double d, v => equalNumeric (.double d) v
  | text s, text t => s == t
  | bytes a, bytes b => a == b
  | uuid a, v => equalIdentity (some a) v
  | object _ _ _ _ guise, v => equalIdentity guise.sameAs v
  | list as, list bs => equalItems as bs
  | tuple as, tuple bs => equalItems as bs
  | map as, map bs => as.length == bs.length && equalEntries as bs
  | unresolved, unresolved => true
  | entity k as, entity l bs => k == l && equalEntries as bs
  | resource s a, resource t b => equal s t && equal a b
  | _, _ => false

/-- Equality of sequences: as many items, and equal ones. -/
def equalItems : List Value → List Value → Bool
  | [], [] => true
  | a :: as, b :: bs => equal a b && equalItems as bs
  | _, _ => false

/-- Whether each entry has an equal value at its key on the other side. -/
def equalEntries : List (String × Value) → List (String × Value) → Bool
  | [], _ => true
  | (k, a) :: rest, bs =>
      match find? k bs with
      | some b => equal a b && equalEntries rest bs
      | none => false

/-- Whether a value is a number equal to a given one. -/
def equalNumeric (n : Numeric) (v : Value) : Bool :=
  match v.numeric? with
  | some m => n.equal m
  | none => false

end

/-- Whether a value equals one of the items. -/
def isAmong (v : Value) (items : List Value) : Bool := items.any (equal · v)

end Warrant.Value
