import CloudGate.Rule.Violation
import CloudGate.Text.Choice

/-!
Rules for object storage: bucket labels, access control and presigned addresses. A bucket label is
part of a host name, so it is a lowercase label of the domain name system.
-/

namespace CloudGate.Rule

def bucketLabelMinLength : Nat := 3

def bucketLabelMaxLength : Nat := 63

def bucketAcls : List String :=
  ["private", "public-read", "authenticated-read", "public-read-write"]

def presignedMethods : List String := ["GET", "PUT"]

/-- Bounds of the lifetime of a presigned address in seconds, up to seven days. -/
def presignedExpiryMin : Int := 1

def presignedExpiryMax : Int := 604800

/-- Lowercase letters, digits and the hyphen. -/
def isSlugChar (c : Char) : Bool := c.isLower || c.isDigit || c == '-'

def touchesHyphen (cs : List Char) : Bool := cs.head? == some '-' || cs.getLast? == some '-'

def bucketLabel (label : String) : Verdict :=
  let length := label.length
  if label.isEmpty then .error (.required "bucket label")
  else if length < bucketLabelMinLength then
    .fail .tooShort ("got '" ++ label ++ "': bucket label must be at least " ++
      toString bucketLabelMinLength ++ " characters")
  else if bucketLabelMaxLength < length then
    .fail .tooLong ("bucket label is " ++ toString length ++
      " characters long; it must be at most " ++ toString bucketLabelMaxLength ++ " characters")
  else
    match label.toList.find? fun c => !isSlugChar c with
    | some bad =>
      .fail .invalidCharacters ("got '" ++ label ++ "': bucket label may only contain lowercase " ++
        "letters, digits and hyphens (found '" ++ toString bad ++ "')")
    | none =>
      .require (!touchesHyphen label.toList) .invalidBoundary
        ("got '" ++ label ++ "': bucket label must start and end with a letter or digit")

def bucketAcl (acl : String) : Verdict :=
  .require (bucketAcls.contains acl) .invalidEnumValue
    ("got '" ++ acl ++ "': acl must be " ++ Text.describeChoice bucketAcls)

/-- The method may be written in any case. -/
def presignedMethod (method : String) : Verdict :=
  .require (Text.pick? method presignedMethods).isSome .invalidEnumValue
    ("got '" ++ method ++ "': method must be " ++ Text.describeChoice presignedMethods)

def presignedExpiry (seconds : Int) : Verdict :=
  .require (presignedExpiryMin ≤ seconds && seconds ≤ presignedExpiryMax) .outOfRange
    ("got " ++ toString seconds ++ ": expires_in must be between " ++ toString presignedExpiryMin ++
      " and " ++ toString presignedExpiryMax ++ " seconds (7 days)")

end CloudGate.Rule
