import Warrant.Fault
import Warrant.Refusal

/-!
# Notices

A notice is a refusal made up from loose parts: a kind and whatever values its
wording is about. It is how other programs raise the same refusals with values
of their own. A notice keeps the values it was made from, under names, so that
a caller can look at them and not only at the text.
-/

namespace Warrant

/-- A refusal in words, with the values that it is about. -/
structure Notice where
  kind : RefusalKind
  message : String
  details : List (String × Value)

namespace Notice

/-- The text of a kind that has no wording of its own. -/
def plainMessage : List Value → String
  | [] => ""
  | [v] => v.display
  | vs => (Value.tuple vs).literal

/-- The notice of a change that could not be carried out. -/
def failed (kind : RefusalKind) (operation target : Value) : Notice :=
  ⟨kind, failedMessage operation target, [("operation", operation), ("target_id", target)]⟩

/-- The notice of something that does not exist. -/
def notFound (entity identifier : Value) : Notice :=
  ⟨.notFound, notFoundMessage entity identifier, [("entity", entity), ("identifier", identifier)]⟩

/-- The notice of a kind about the given values. A kind with a wording takes as many values as its
wording has places, and other numbers of values are a fault. -/
def of (kind : RefusalKind) (values : List Value) : Except Fault Notice :=
  match kind, values with
  | .notFound, [entity] => .ok (notFound entity .null)
  | .notFound, [entity, identifier] => .ok (notFound entity identifier)
  | .notFound, _ => .error .wrongKind
  | .mutation, [operation, target] => .ok (failed .mutation operation target)
  | .mutation, _ => .error .wrongKind
  | .roleMutation, [operation, target] => .ok (failed .roleMutation operation target)
  | .roleMutation, _ => .error .wrongKind
  | .addPermission, [role] =>
      .ok (failed .addPermission (.text "adding permission to role") role)
  | .addPermission, _ => .error .wrongKind
  | .removePermission, [role, permission] =>
      .ok (failed .removePermission (.text "removing permission from role")
        (.text (permissionPath role permission)))
  | .removePermission, _ => .error .wrongKind
  | .updatePermission, [permission] =>
      .ok (failed .updatePermission (.text "updating permission") permission)
  | .updatePermission, _ => .error .wrongKind
  | .accountRole, [account] =>
      .ok (failed .accountRole (.text "reassigning role of account") account)
  | .accountRole, _ => .error .wrongKind
  | kind, values => .ok ⟨kind, plainMessage values, []⟩

/-- The text that is answered. -/
def shown (n : Notice) : String := n.kind.shown n.message

end Notice

end Warrant
