/-!
Arguments whose values are kept out of messages, logs and the audit trail.
-/

namespace CloudGate.Text

def secretNames : List String := ["root_pass", "secret_key", "token", "password"]

def isSecretName (name : String) : Bool := secretNames.contains name

/-- Shows only whether a secret is empty. -/
def mask (secret : String) : String := if secret.isEmpty then "" else "********"

end CloudGate.Text
