import CloudGate.Rule.ObjectStorage

/-!
Rules for resources of any sort: labels, regions, identifiers, volume sizes and firewall policies.
-/

namespace CloudGate.Rule

/-- Bounds of the size of a volume in gigabytes. -/
def volumeSizeMin : Int := 10

def volumeSizeMax : Int := 10240

def firewallPolicies : List String := ["ACCEPT", "DROP"]

def resourceLabelMinLength : Nat := 3

def resourceLabelMaxLength : Nat := 64

def regionMaxLength : Nat := 32

def volumeSize (gigabytes : Int) : Verdict :=
  if gigabytes < volumeSizeMin then
    .fail .tooSmall
      ("got " ++ toString gigabytes ++ ": size must be at least " ++ toString volumeSizeMin ++
        " GB")
  else
    .require (gigabytes ≤ volumeSizeMax) .tooLarge
      ("got " ++ toString gigabytes ++ ": size must be at most " ++ toString volumeSizeMax ++ " GB")

/-- The policy may be written in any case. -/
def firewallPolicy (policy : String) : Verdict :=
  .require (Text.pick? policy firewallPolicies).isSome .invalidEnumValue
    ("got '" ++ policy ++ "': policy must be " ++ Text.describeChoice firewallPolicies)

def isLabelChar (c : Char) : Bool := c.isAlphanum || c == '-' || c == '_' || c == '.'

/-- Labels of instances, volumes, firewalls, load balancers and private networks. -/
def resourceLabel (label : String) : Verdict :=
  let length := label.length
  if label.isEmpty then .error (.required "label")
  else if length < resourceLabelMinLength then
    .fail .tooShort ("got '" ++ label ++ "': label must be at least " ++
      toString resourceLabelMinLength ++ " characters")
  else if resourceLabelMaxLength < length then
    .fail .tooLong ("label is " ++ toString length ++ " characters long; it must be at most " ++
      toString resourceLabelMaxLength ++ " characters")
  else
    match label.toList.find? fun c => !isLabelChar c with
    | some bad =>
      .fail .invalidCharacters ("got '" ++ label ++ "': label may only contain letters, digits, " ++
        "'-', '_' and '.' (found '" ++ toString bad ++ "')")
    | none =>
      .require (label.toList.head?.any Char.isAlphanum) .invalidBoundary
        ("got '" ++ label ++ "': label must start with a letter or digit")

/-- The name of a region or of a storage cluster, such as `us-east`. It becomes a segment of an
address. -/
def region (field value : String) : Verdict :=
  let length := value.length
  if value.isEmpty then .error (.required field)
  else if regionMaxLength < length then
    .fail .tooLong (field ++ " is " ++ toString length ++ " characters long; it must be at most " ++
      toString regionMaxLength ++ " characters")
  else
    match value.toList.find? fun c => !isSlugChar c with
    | some bad =>
      .fail .invalidCharacters ("got '" ++ value ++ "': " ++ field ++ " may only contain " ++
        "lowercase letters, digits and hyphens (found '" ++ toString bad ++ "')")
    | none =>
      .require (!touchesHyphen value.toList) .invalidBoundary
        ("got '" ++ value ++ "': " ++ field ++ " must start and end with a letter or digit")

def resourceId (field : String) (id : Int) : Verdict :=
  .require (0 < id) .outOfRange
    ("got " ++ toString id ++ ": " ++ field ++ " must be a positive integer")

end CloudGate.Rule
