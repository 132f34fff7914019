import CloudGate.Json.Basic
import CloudGate.Net.Status
import CloudGate.Net.Url
import CloudGate.Request.Route

/-!
Requests to the provider and what comes back. A transport answers each request, and knows how many
came before it.
-/

namespace CloudGate.Gateway

/-- The name under which requests are sent. -/
def userAgent : String := "cloudops/0.1.0"

/-- The form in which bodies are sent. -/
def contentType : String := "application/json"

structure WebRequest where
  method : Request.Method
  url : Net.Url
  token : String
  body : Option Json

namespace WebRequest

def authorization (r : WebRequest) : String := "Bearer " ++ r.token

end WebRequest

inductive WebAnswer
  | response (status : Nat) (body : String)
  | dropped
  | late
  deriving DecidableEq, Repr

/-- The text of a response, without a byte order mark at its start. -/
def bodyText (status : Nat) (body : String) : String :=
  if Net.Status.isBodiless status then ""
  else
    match body.toList with
    | '\ufeff' :: rest => String.ofList rest
    | _ => body

abbrev Transport := Nat → WebRequest → WebAnswer

/-- Headers hold no control characters but the tab. -/
def isHeaderChar (c : Char) : Bool := c == '\t' || (0x20 ≤ c.toNat && c.toNat != 0x7F)

end CloudGate.Gateway
