import CloudGate.Operation.Argument
import CloudGate.Operation.Grant

/-!
Argument rules of the operations on buckets, access keys and presigned addresses.
-/

namespace CloudGate.Operation

/-- Every grant is judged alone, once the list as a whole can be read. -/
def bucketAccess : ArgumentRule := fun call =>
  match Grant.ofCall call with
  | .error v => .error v
  | .ok grants => .each Grant.check grants

def createBucket : ArgumentRules where
  operation := "create_bucket"
  rules := [textual "label" Rule.bucketLabel, region "cluster", optionalText "acl" Rule.bucketAcl]

def updateBucketAcl : ArgumentRules where
  operation := "update_bucket_acl"
  rules := [region "cluster", textual "label" Rule.bucketLabel, textual "acl" Rule.bucketAcl]

def deleteBucket : ArgumentRules where
  operation := "delete_bucket"
  rules := [region "cluster", textual "label" Rule.bucketLabel]

def createAccessKey : ArgumentRules where
  operation := "create_access_key"
  rules := [textual "label" Rule.accessKeyLabel, bucketAccess]

def deleteAccessKey : ArgumentRules where
  operation := "delete_access_key"
  rules := [identifier "access_key_id"]

def createPresignedUrl : ArgumentRules where
  operation := "create_presigned_url"
  rules := [region "cluster", textual "label" Rule.bucketLabel, notBlank "name",
    optionalText "method" Rule.presignedMethod, optionalInteger "expires_in" Rule.presignedExpiry]

end CloudGate.Operation
