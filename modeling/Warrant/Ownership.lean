import Warrant.Ability
import Warrant.Failure

/-!
# Ownership

A resource belongs to the account whose id stands at the owner path of its
attributes, as an identifier, as text, or inside something with an id. The
owner may do anything with it. Others may if the operation lets them and their
rules allow the action on this very resource.

Identifiers are compared as values and in words. Where the class of an object
does not say how it is written, its words are those of its place in memory, and
then it is not the same in words as anything else, nor is what it stands in.
-/

namespace Warrant

/-- Where the owner stands, and whether rules may let others in. Without a path, or with an empty
one, the owner stands where it usually does. -/
structure OwnershipRequirement where
  ownerPath : Option String := none
  allowsOverride : Bool := true
  deriving Inhabited

namespace Value

mutual

/-- Whether there is an object in a value. -/
def holdsObject : Value → Bool
  | object .. => true
  | list items => anyHoldsObject items
  | tuple items => anyHoldsObject items
  | map es => anyEntryHoldsObject es
  | entity _ fields => anyEntryHoldsObject fields
  | resource subject attributes => subject.holdsObject || attributes.holdsObject
  | _ => false

/-- Whether there is an object in one of the values. -/
def anyHoldsObject : List Value → Bool
  | [] => false
  | v :: rest => v.holdsObject || anyHoldsObject rest

/-- Whether there is an object in the value of one of the entries. -/
def anyEntryHoldsObject : List (String × Value) → Bool
  | [] => false
  | (_, v) :: rest => v.holdsObject || anyEntryHoldsObject rest

end

/-- The words of a value, unless a place in memory is among them. Inside other values an object is
always shown by its place. -/
def words? : Value → Option String
  | object _ _ _ _ guise => guise.words
  | v => if v.holdsObject then none else some v.display

/-- Whether two values are the same in words. -/
def sameWords (v w : Value) : Bool := v.words?.isSome && v.words? == w.words?

end Value

namespace Ownership

/-- Whether two values name the same account. -/
def sameId (owner userId : Value) : Bool := owner.equal userId || owner.sameWords userId

/-- Whether what stands at the owner path is the account with a given id. -/
def isOwner (owner userId : Value) : Except Fault Bool :=
  if owner.isUnresolved then .ok false
  else if sameId owner userId then .ok true
  else
    match owner.walk "id" with
    | .error e => .error e
    | .ok ownerId => .ok (!ownerId.isUnresolved && ownerId.sameWords userId)

/-- The owner path that a requirement asks for. -/
def path (defaultPath : String) (r : OwnershipRequirement) : String :=
  match r.ownerPath with
  | some p => if p = "" then defaultPath else p
  | none => defaultPath

/-- The resource to decide on: a plain one is taken as a resource of the given subject. -/
def target (resource : Value) (subject : Option Subject) : Value :=
  match resource, subject with
  | .resource .., _ => resource
  | _, none => resource
  | _, some s => .resource (.text s.name) resource

/-- What stands at the owner path of a resource. -/
def owner (defaultPath : String) (target : Value) (r : OwnershipRequirement) : Except Fault Value :=
  target.attributes.walk (path defaultPath r)

/-- Whether the rules of an account allow a verb on a resource. -/
def isOverridden (rules : RuleSource) (user : Account) (target : Value) (method : String) : Bool :=
  rules.permits user (.text (Action.ofMethod method).name) target .null

/-- Lets an account at a resource, or refuses it. -/
def check (rules : RuleSource) (defaultPath : String) (user : Account) (resource : Value)
    (r : OwnershipRequirement) (method : String) (subject : Option Subject) :
    Except Failure Unit :=
  if resource.isNull then .error (.refused .resourceMissing)
  else
    let target := target resource subject
    match (do isOwner (← owner defaultPath target r) user.id) with
    | .error e => .error (.broke e)
    | .ok true => .ok ()
    | .ok false =>
        if !r.allowsOverride then .error (.refused .notOwner)
        else if isOverridden rules user target method then .ok ()
        else .error (.refused .notOwnerNorPermitted)

end Ownership

end Warrant
