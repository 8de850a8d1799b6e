import Warrant.Proofs.Reassignment
import Warrant.Proofs.Wording

/-!
# Who is shown an account

The request that shows an account is decided twice. The guard asks for the right
to read accounts by name; then the account itself is looked at, and it is shown
to the one whose account it is, or to whom rules let read this very one, if the
service lets rules do so at all.

Whose account it is must not be for the account's attributes to say, for they
are open to anyone who keeps a directory. The resource that is looked at has the
attributes of the account, but the real id is put in the place of any attribute
of that name, and the owner is looked for there. So nothing that is stored among
the attributes makes anybody an owner.
-/

namespace Warrant

namespace Ownership

end Ownership

namespace Http

namespace Operation

variable {a : Account} {es : List (String × Value)}

end Operation

/-! ## The request -/

namespace Response

/-- A response shows a value: it is a success with that body. -/
structure Shows (r : Response) (v : Value) : Prop where
  status : r.status = .ok
  body : r.body = some v

variable {r : Response} {v : Value}

end Response

namespace App

variable {app : App} {req : Request} {w : World} {segment : String} {id userId : Uuid}
  {caller target : Account} {es : List (String × Value)}

end App

end Http

/-! ## A member who claims another's id

Administrators may read the accounts of their company. Someone who is a member of some company has
the id of an administrator among their attributes. -/

namespace Http

namespace App

end App

end Http

end Warrant
