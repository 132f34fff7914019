import CloudGate.Catalog.Parameter
import CloudGate.Operation.ObjectStorage

/-!
Tools for buckets, access keys and presigned addresses.
-/

namespace CloudGate.Catalog

def aclDescription : String := "private, public-read, authenticated-read or public-read-write"

def cluster : Parameter :=
  required "cluster"
    "Object storage cluster or region: lowercase letters, digits and '-' (e.g. us-east-1)"

def bucket : Parameter := required "label" "Bucket name"

def bucketTools : List Tool :=
  [listing "list_buckets" "List object storage buckets" [byLabel, ("cluster", .exact)],
   tool "create_bucket" "Create an object storage bucket"
     [required "label"
        ("Bucket name: 3-63 lowercase letters, digits or '-', starting and ending with a letter " ++
          "or digit"),
      cluster,
      optional "acl" aclDescription]
     [.billable] Operation.createBucket,
   tool "update_bucket_acl" "Change who can read or write a bucket"
     [cluster, bucket, required "acl" aclDescription]
     [.configurationChange] Operation.updateBucketAcl,
   tool "delete_bucket" "Delete a bucket" [cluster, bucket] [.irreversible] Operation.deleteBucket]

def accessKeyTools : List Tool :=
  [listing "list_access_keys" "List object storage access keys" [byLabel],
   tool "create_access_key"
     "Create an object storage access key. The secret_key is returned once and never again."
     [required "label" "Key label, at most 50 characters",
      withType
        (optional "bucket_access"
          ("Limit the key to these buckets: [\x7bbucket_name, region, permissions: " ++
            "read_only|read_write\x7d]"))
        "array"]
     [.billable, .secretExposure] Operation.createAccessKey,
   tool "delete_access_key" "Revoke an object storage access key"
     [identifier "access_key_id" "ID of the access key"]
     [.irreversible] Operation.deleteAccessKey]

def presignedTools : List Tool :=
  [tool "create_presigned_url" "Create a time-limited URL to download or upload one object"
     [cluster, bucket,
      required "name" "Object key",
      optional "method" "GET (default) or PUT",
      withType (optional "expires_in" "Lifetime in seconds (1-604800)") "integer"]
     [] Operation.createPresignedUrl]

end CloudGate.Catalog
