/-!
# Calls from other sites

A browser tells which site a call comes from and takes the answer only if that
site is allowed to have it. A star among the allowed origins lets every site
in; otherwise the origin must be one of those listed, letter by letter.
-/

namespace Warrant.Http.Cors

/-- The origin to allow for a call, if any. -/
def allowedOrigin? (origins : List String) (origin : Option String) : Option String :=
  if origins.contains "*" then some "*"
  else
    match origin with
    | some o => if o != "" && origins.contains o then some o else none
    | none => none

/-- The headers that let a call through. -/
def headers (origins : List String) (origin : Option String) : List (String × String) :=
  match allowedOrigin? origins origin with
  | none => []
  | some allowed =>
      [("access-control-allow-origin", allowed),
       ("vary", "Origin"),
       ("access-control-allow-methods", "GET, POST, PUT, PATCH, DELETE, OPTIONS"),
       ("access-control-allow-headers", "Authorization, Content-Type"),
       ("access-control-max-age", "86400")]

end Warrant.Http.Cors
