import Warrant.Path
import Warrant.Template

/-!
# Resolving conditions

Before a rule is tried for a user, the templates in its conditions are replaced
by the user's attributes. Resolving rebuilds the tree: keys and order stay,
sequences become lists, leaves that are no templates stay as they are. If
reading an attribute fails, the conditions stay as they were written; the
templates in them then stand for themselves and the rule is left with texts
that no attribute is expected to equal.
-/

namespace Warrant.Conditions

/-- The value at a template's path. A path that leads nowhere is reported with the user's id, so
a user whose id cannot be read fails here. -/
def resolvePath (user : Value) (path : String) : Except Fault Value :=
  match user.walk (Template.fromUser path) with
  | .error e => .error e
  | .ok .unresolved =>
      match user.lookup "id" with
      | .error e => .error e
      | .ok _ => .ok .unresolved
  | .ok v => .ok v

mutual

/-- Replaces the templates in a tree. -/
def resolveValue (user : Value) : Value → Except Fault Value
  | .text s =>
      match Template.path? s with
      | some path => resolvePath user path
      | none => .ok (.text s)
  | .map es => (resolveEntries user es).map .map
  | .list items => (resolveItems user items).map .list
  | .tuple items => (resolveItems user items).map .list
  | .bytes octets => .ok (.list (octets.map fun b => .int b.toNat))
  | v => .ok v

/-- Replaces the templates in each item. -/
def resolveItems (user : Value) : List Value → Except Fault (List Value)
  | [] => .ok []
  | v :: rest =>
      match resolveValue user v with
      | .error e => .error e
      | .ok w => (resolveItems user rest).map (w :: ·)

/-- Replaces the templates in the value of each entry. -/
def resolveEntries (user : Value) : List (String × Value) → Except Fault (List (String × Value))
  | [] => .ok []
  | (k, v) :: rest =>
      match resolveValue user v with
      | .error e => .error e
      | .ok w => (resolveEntries user rest).map ((k, w) :: ·)

end

/-- The conditions for a user: resolved, or as they were if an attribute cannot be read. -/
def resolve (user conditions : Value) : Value :=
  match resolveValue user conditions with
  | .ok v => v
  | .error _ => conditions

/-- Whether resolving builds something new out of a value: a tree, or the value of a template. -/
def isComposite : Value → Bool
  | .text s => (Template.path? s).isSome
  | .map _ => true
  | .list _ => true
  | .tuple _ => true
  | .bytes _ => true
  | _ => false

/-- Whether the conditions come back as they were given, not rebuilt. -/
def isKept (user conditions : Value) : Bool :=
  match resolveValue user conditions with
  | .ok _ => !isComposite conditions
  | .error _ => true

/-! ## Diagnostics -/

/-- Adds what is not there yet. -/
def addNew (found : List String) : List String → List String
  | [] => found
  | p :: rest => addNew (if found.contains p then found else found ++ [p]) rest

mutual

/-- The template paths in a tree that were not found before, each once, in order. -/
def collect : Value → List String → List String
  | .text s, found => addNew found (Template.paths s)
  | .map es, found => collectEntries es found
  | .list items, found => collectItems items found
  | .tuple items, found => collectItems items found
  | _, found => found

/-- The template paths in the items. -/
def collectItems : List Value → List String → List String
  | [], found => found
  | v :: rest, found => collectItems rest (collect v found)

/-- The template paths in the values of the entries. -/
def collectEntries : List (String × Value) → List String → List String
  | [], found => found
  | (_, v) :: rest, found => collectEntries rest (collect v found)

end

/-- The template paths in the conditions, each once, in the order in which they first come. -/
def templatePaths (conditions : Value) : List String := collect conditions []

/-- Whether there is a template anywhere in the conditions. -/
def hasTemplates (conditions : Value) : Bool := !(templatePaths conditions).isEmpty

/-- The paths among the given ones that lead nowhere from the user. -/
def missingAmong (user : Value) : List String → Except Fault (List String)
  | [] => .ok []
  | path :: rest =>
      match user.walk (Template.fromUser path) with
      | .error e => .error e
      | .ok v =>
          (missingAmong user rest).map fun more => if v.isUnresolved then path :: more else more

/-- The template paths in the conditions that lead nowhere from the user. -/
def missing (user conditions : Value) : Except Fault (List String) :=
  missingAmong user (templatePaths conditions)

/-! ## Conditions made for a user -/

/-- Conditions that hold for what belongs to the user's company, and null without a company. -/
def ofCompany (user : Value) : Except Fault Value :=
  match user.walk "companyId" with
  | .error e => .error e
  | .ok .unresolved => .ok .null
  | .ok v => .ok (.map [("companyId", v)])

/-- Conditions that hold for what belongs to the user. The id must be an attribute; a key of a
mapping does not count. -/
def ofOwner (user : Value) (field : String) : Except Fault Value :=
  match user with
  | .map _ => .error .noAttribute
  | user =>
      match user.attribute? "id" with
      | .error e => .error e
      | .ok none => .error .noAttribute
      | .ok (some id) => .ok (.map [(field, id)])

end Warrant.Conditions
