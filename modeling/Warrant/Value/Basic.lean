import Warrant.Fault
import Warrant.Number.Double
import Warrant.Uuid.Basic

/-!
# Values

Conditions are written by administrators, attributes come from directories and
request bodies from anyone, so what a rule compares is not known beforehand.
A value is one of the JSON kinds, or one of the few others that a resource or
an account may hold: identifiers, octets, tuples, objects with attributes,
entities, and the value of a path that leads nowhere.

Mappings keep their order, since messages and diagnostics show it. An object
may refuse to have an attribute read; that is a fault, and different from not
having it. And its class may let it pass for something else, in words or when
it is compared with an identifier.
-/

namespace Warrant

/-- The stored things that appear as values. -/
inductive EntityKind where
  | account
  | role
  | permission
  deriving DecidableEq, Repr, Inhabited

/-- What the class of an object lets it pass for: the words in which it is written, where it has
words of its own, and the identifier that it equals, if there is one. -/
structure Guise where
  words : Option String := none
  sameAs : Option Uuid := none
  deriving DecidableEq, Inhabited

/-- A value that conditions and attributes may have. -/
inductive Value where
  | null
  | bool (b : Bool)
  | int (n : Int)
  | double (d : Number.Double)
  | text (s : String)
  | bytes (octets : List UInt8)
  | uuid (id : Uuid)
  | list (items : List Value)
  | tuple (items : List Value)
  | map (entries : List (String × Value))
  /-- The value of a path that could not be walked to its end. -/
  | unresolved
  /-- An object: the name of its class, the subject that the class declares, its attributes, the
  names whose reading fails, and what it passes for. -/
  | object (className : String) (declared : Option Value) (attributes : List (String × Value))
      (failing : List String) (guise : Guise := {})
  /-- A stored thing, seen through its fields. -/
  | entity (kind : EntityKind) (fields : List (String × Value))
  /-- A resource: what kind of subject it is, and its attributes. -/
  | resource (subject attributes : Value)
  deriving Inhabited

namespace Value

/-! ## Mappings -/

/-- The value at a key. -/
def find? (key : String) : List (String × Value) → Option Value
  | [] => none
  | (k, v) :: rest => if k = key then some v else find? key rest

/-- The entries with a key set to a value: in place if the key is there, else at the end. -/
def put (key : String) (value : Value) : List (String × Value) → List (String × Value)
  | [] => [(key, value)]
  | (k, v) :: rest => if k = key then (k, value) :: rest else (k, v) :: put key value rest

/-- Entries in the order in which their keys first come, each with the last value given. -/
def collect (entries : List (String × Value)) : List (String × Value) :=
  entries.foldl (fun done entry => put entry.1 entry.2 done) []

/-- The value just put is found. -/
theorem find?_put_self (key : String) (v : Value) (entries : List (String × Value)) :
    find? key (put key v entries) = some v := by
  induction entries with
  | nil => simp [put, find?]
  | cons entry rest ih =>
      obtain ⟨k, w⟩ := entry
      by_cases h : k = key
      · simp [put, find?, h]
      · simp [put, find?, h, ih]

/-- Putting a value leaves the other keys alone. -/
theorem find?_put_of_ne {key other : String} (h : other ≠ key) (v : Value)
    (entries : List (String × Value)) :
    find? other (put key v entries) = find? other entries := by
  induction entries with
  | nil => simp [put, find?, Ne.symm h]
  | cons entry rest ih =>
      obtain ⟨k, w⟩ := entry
      by_cases hk : k = key
      · subst hk
        simp [put, find?, Ne.symm h]
      · by_cases ho : k = other
        · subst ho
          simp [put, find?, hk]
        · simp [put, find?, hk, ho, ih]

/-- The entries of a mapping. -/
def entries? : Value → Option (List (String × Value))
  | map es => some es
  | _ => none

/-- The member of a mapping at a key, and null where there is none. -/
def member (v : Value) (key : String) : Value :=
  match v with
  | map es => (find? key es).getD null
  | _ => null

/-! ## Kinds -/

/-- Whether the path to this value led nowhere. -/
def isUnresolved : Value → Bool
  | unresolved => true
  | _ => false

/-- Whether this is null. -/
def isNull : Value → Bool
  | null => true
  | _ => false

/-- The text, if the value is one. -/
def text? : Value → Option String
  | text s => some s
  | _ => none

/-- Whether the value is a text. -/
def isText (v : Value) : Bool := v.text?.isSome

/-- Whether a condition counts as given: null, false, zero, what is empty and what is unresolved
do not. -/
def isTruthy : Value → Bool
  | null => false
  | bool b => b
  | int n => n != 0
  | double d => !d.isZero
  | text s => s != ""
  | bytes octets => !octets.isEmpty
  | uuid _ => true
  | list items => !items.isEmpty
  | tuple items => !items.isEmpty
  | map es => !es.isEmpty
  | unresolved => false
  | object .. => true
  | entity .. => true
  | resource .. => true

/-- Whether a value can be a member of a set: what can change cannot, nor what holds such a
value. -/
def isHashable : Value → Bool
  | list _ => false
  | map _ => false
  | entity .. => false
  | tuple items => hashableItems items
  | resource subject attributes => subject.isHashable && attributes.isHashable
  | _ => true
where
  /-- Whether each of the values can be a member of a set. -/
  hashableItems : List Value → Bool
    | [] => true
    | v :: rest => v.isHashable && hashableItems rest

/-- What a value yields when it is gone through one by one: the characters of a text, the numbers
of octets, the items of a sequence, the keys of a mapping. -/
def items? : Value → Option (List Value)
  | text s => some (s.toList.map fun c => text (String.singleton c))
  | bytes octets => some (octets.map fun b => int b.toNat)
  | list items => some items
  | tuple items => some items
  | map es => some (es.map fun entry => text entry.1)
  | _ => none

/-- What a value yields one by one, or a fault if it yields nothing. -/
def items (v : Value) : Except Fault (List Value) :=
  match v.items? with
  | some vs => .ok vs
  | none => .error .wrongKind

/-- An optional value as a value. -/
def ofOption {α : Type} (f : α → Value) : Option α → Value
  | some a => f a
  | none => null

/-- A list of texts as a value. -/
def ofTexts (texts : List String) : Value := list (texts.map text)

end Value

end Warrant
