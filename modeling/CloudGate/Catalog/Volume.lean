import CloudGate.Catalog.Parameter
import CloudGate.Operation.Compute

/-!
Tools for block storage volumes.
-/

namespace CloudGate.Catalog

def volumeTools : List Tool :=
  [listing "list_volumes" "List block storage volumes" [byLabel, byRegion],
   tool "create_volume" "Create a block storage volume"
     [required "label" "Volume label, 3-64 characters",
      withType (required "size" "Size in GB (10-10240)") "integer",
      optional "region" "Region for an unattached volume",
      withType (optional "linode_id" "Instance to attach the new volume to") "integer"]
     [.billable] Operation.createVolume,
   tool "resize_volume" "Grow a volume. Volumes cannot shrink."
     [identifier "volume_id" "ID of the volume",
      withType (required "size" "New size in GB (10-10240)") "integer"]
     [.billable] Operation.resizeVolume,
   tool "attach_volume" "Attach a volume to a compute instance"
     [identifier "volume_id" "ID of the volume", identifier "instance_id" "ID of the instance"]
     [.configurationChange] Operation.attachVolume,
   tool "detach_volume" "Detach a volume from its instance"
     [identifier "volume_id" "ID of the volume"]
     [.configurationChange] Operation.detachVolume,
   tool "delete_volume" "Delete a volume and the data on it"
     [identifier "volume_id" "ID of the volume to delete"]
     [.irreversible] Operation.deleteVolume]

end CloudGate.Catalog
