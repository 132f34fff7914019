import CloudGate.Rule.Violation
import CloudGate.Text.Blank
import CloudGate.Text.Choice
import CloudGate.Text.Shorten
import CloudGate.Text.Split

/-!
Rules for SSH public keys, root passwords and access keys.
-/

namespace CloudGate.Rule

def sshKeyTypes : List String :=
  ["ssh-rsa", "ssh-ed25519", "ecdsa-sha2-nistp256", "ecdsa-sha2-nistp384", "ecdsa-sha2-nistp521",
   "ssh-dss"]

def sshKeyMinLength : Nat := 80

def sshKeyMaxLength : Nat := 16000

def passwordMinLength : Nat := 12

def passwordMaxLength : Nat := 128

def accessKeyLabelMaxLength : Nat := 50

def accessKeyPermissions : List String := ["read_only", "read_write"]

/-- Whether the key begins with a known type and a space. -/
def hasKnownKeyType (key : String) : Bool :=
  sshKeyTypes.any fun type => (Text.afterPrefix? (type.toList ++ [' ']) key.toList).isSome

/-- A public key on one line: type, space, and the rest. Blanks around it do not count. -/
def sshPublicKey (text : String) : Verdict :=
  let key := Text.trim text
  let length := key.length
  if key.isEmpty then .error (.required "ssh_key")
  else if !hasKnownKeyType key then
    .fail .invalidFormat ("got '" ++ Text.shorten key 40 ++ "': ssh_key must start with one of " ++
      Text.describeChoice sshKeyTypes ++ " followed by a space")
  else
    .require (sshKeyMinLength ≤ length && length ≤ sshKeyMaxLength) .invalidLength
      ("ssh_key is " ++ toString length ++ " characters long; it must be between " ++
        toString sshKeyMinLength ++ " and " ++ toString sshKeyMaxLength ++ " characters")

/-- The character classes that a password lacks. -/
def missingClasses (password : List Char) : List String :=
  (if password.any Text.isUppercase then [] else ["an uppercase letter"]) ++
  (if password.any Text.isLowercase then [] else ["a lowercase letter"]) ++
  (if password.any Char.isDigit then [] else ["a digit"])

/-- An empty password stands for none. No message shows a password. -/
def rootPassword (password : String) : Verdict :=
  let length := password.length
  let missing := missingClasses password.toList
  if password.isEmpty then .pass
  else if length < passwordMinLength then
    .fail .tooShort ("root_pass is " ++ toString length ++
      " characters long; it must be at least " ++ toString passwordMinLength ++ " characters")
  else if passwordMaxLength < length then
    .fail .tooLong ("root_pass is " ++ toString length ++
      " characters long; it must be at most " ++ toString passwordMaxLength ++ " characters")
  else
    .require missing.isEmpty .missingCharacterClass
      ("root_pass must contain at least one uppercase letter, one lowercase letter and one " ++
        "digit (missing " ++ ", ".intercalate missing ++ ")")

def accessKeyLabel (label : String) : Verdict :=
  let length := label.length
  if label.isEmpty then .error (.required "label")
  else
    .require (length ≤ accessKeyLabelMaxLength) .tooLong
      ("label is " ++ toString length ++ " characters long; access key labels must be at most " ++
        toString accessKeyLabelMaxLength ++ " characters")

def accessKeyPermission (permission : String) : Verdict :=
  .require (accessKeyPermissions.contains permission) .invalidEnumValue
    ("got '" ++ permission ++ "': permissions must be " ++
      Text.describeChoice accessKeyPermissions)

end CloudGate.Rule
