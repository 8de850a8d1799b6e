import Warrant.Http.Request
import Warrant.Store

/-!
# Who sends a request

A request may carry a token of the identity provider. The provider says whether
it is good and who it belongs to, and the account that is known by that name is
the acting user. Without a token, with one that is not good, or without such an
account, nobody acts.
-/

namespace Warrant.Http

/-- What the identity provider says about a token; nothing if it fails. -/
abbrev Introspection := String → Option Value

namespace Identity

/-- What stands before a token. -/
def scheme : List Char := "Bearer ".toList

/-- The token that a request carries. -/
def token? (r : Request) : Option String :=
  ((r.header? "authorization").bind fun h => Text.dropLead? scheme h.toList).map String.ofList

/-- The name that a good token belongs to. -/
def holder? : Value → Except Fault (Option Value)
  | .map es =>
      let v := Value.map es
      let holder := v.member "sub"
      .ok (if (v.member "active").isTruthy && holder.isTruthy then some holder else none)
  | _ => .error .noAttribute

/-- The account that sends a request. -/
def authenticate (introspection : Option Introspection) (r : Request) : Work (Option Account) :=
  match token? r, introspection with
  | some token, some ask =>
      match ask token with
      | none => return none
      | some answer => do
          match ← Work.ofFault (holder? answer) with
          | none => return none
          | some name => Work.transact (Store.accountKnownAs name)
  | _, _ => return none

end Identity

end Warrant.Http
