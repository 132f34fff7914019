import CloudGate.Rule.Violation
import CloudGate.Text.Blank
import CloudGate.Text.Split

/-!
Rules for names in the domain name system. A name is a sequence of labels with dots between them; a
label is made of ASCII letters, digits and hyphens and neither starts nor ends with a hyphen.
-/

namespace CloudGate.Rule

def maxDnsNameLength : Nat := 253

/-- The name of the zone itself. -/
def apex : String := "@"

def isDnsLabel (label : List Char) : Bool :=
  match label.head?, label.getLast? with
  | some first, some last =>
    first.isAlphanum && last.isAlphanum && label.all fun c => c.isAlphanum || c == '-'
  | _, _ => false

/-- The length of a name is left to the rules. -/
def isDnsName (name : String) : Bool :=
  !name.isEmpty && (Text.splitBy '.' name.toList).all isDnsLabel

/-- A record name may be empty, which like `@` means the zone itself. -/
def recordName (name : String) : Verdict :=
  let length := name.utf8ByteSize
  if maxDnsNameLength < length then
    .fail .tooLong ("record name is " ++ toString length ++
      " characters long; it must be at most " ++ toString maxDnsNameLength ++ " characters")
  else
    .require (name.isEmpty || name == apex || isDnsName name) .invalidFormat
      ("got '" ++ name ++ "': record name must be '@' or dot-separated labels of letters, " ++
        "digits and interior hyphens")

def hostnameTarget (target : String) : Verdict :=
  .require (target == apex || (target.utf8ByteSize ≤ maxDnsNameLength && isDnsName target))
    .invalidFormat
    ("got '" ++ target ++ "': target must be '@' or a hostname of dot-separated labels")

/-- The name of a zone, such as `example.com`. -/
def domainName (domain : String) : Verdict :=
  let length := domain.utf8ByteSize
  if domain.isEmpty then .error (.required "domain")
  else if maxDnsNameLength < length then
    .fail .tooLong ("domain is " ++ toString length ++ " characters long; it must be at most " ++
      toString maxDnsNameLength ++ " characters")
  else
    .require (isDnsName domain && domain.toList.contains '.') .invalidFormat
      ("got '" ++ domain ++ "': domain must be a fully qualified name such as 'example.com'")

/-- Whether a text is a local part, `@` and the name of a zone. -/
def isSoaEmail (email : String) : Bool :=
  match Text.splitFirst? '@' email.toList with
  | none => false
  | some (user, host) =>
    !user.isEmpty && !user.any Text.isBlank && !host.contains '@' &&
      (domainName (String.ofList host)).isPass

/-- The contact address of a master zone. -/
def soaEmail (email : String) : Verdict :=
  if email.isEmpty then .error (.required "soa_email")
  else
    .require (isSoaEmail email) .invalidFormat
      ("got '" ++ email ++ "': soa_email must be an address like 'admin@example.com'")

end CloudGate.Rule
