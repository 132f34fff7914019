import CloudGate.Catalog.Parameter
import CloudGate.Operation.Compute

/-!
Tools for compute instances and SSH keys.
-/

namespace CloudGate.Catalog

def instanceTools : List Tool :=
  [listing "list_instances" "List compute instances on the account"
     [byLabel, byRegion, ("status", .exact)],
   tool "get_instance" "Get one compute instance by ID"
     [identifier "instance_id" "ID of the instance"]
     [] Operation.getInstance,
   tool "create_instance"
     "Create a compute instance. The instance is billed from the moment it exists."
     [required "region" "Region to create the instance in (e.g. us-east)",
      required "type" "Instance plan (e.g. g6-nanode-1)",
      optional "label" "Display label, 3-64 characters",
      optional "image" "Image to deploy (e.g. linode/debian12)",
      optional "root_pass"
        ("Root password: 12-128 characters with at least one uppercase letter, one lowercase " ++
          "letter and one digit"),
      withType (optional "authorized_keys" "SSH public keys installed for root") "array"]
     [.billable] Operation.createInstance,
   tool "delete_instance" "Delete a compute instance and all of its disks"
     [identifier "instance_id" "ID of the instance to delete"]
     [.irreversible] Operation.deleteInstance,
   tool "reboot_instance" "Reboot a running compute instance"
     [identifier "instance_id" "ID of the instance to reboot"]
     [.configurationChange] Operation.rebootInstance,
   tool "shutdown_instance" "Power off a compute instance"
     [identifier "instance_id" "ID of the instance to power off"]
     [.configurationChange] Operation.shutdownInstance,
   tool "resize_instance" "Move a compute instance to another plan. The instance is rebooted."
     [identifier "instance_id" "ID of the instance to resize", required "type" "Target plan"]
     [.billable, .configurationChange] Operation.resizeInstance]

def sshKeyTools : List Tool :=
  [listing "list_ssh_keys" "List SSH keys on the profile" [byLabel],
   tool "create_ssh_key" "Add an SSH public key to the profile"
     [required "label" "Name for the key",
      required "ssh_key" "Public key in OpenSSH format (e.g. ssh-ed25519 AAAA... user@host)"]
     [.configurationChange] Operation.createSshKey,
   tool "delete_ssh_key" "Remove an SSH key from the profile"
     [identifier "ssh_key_id" "ID of the SSH key"]
     [.irreversible] Operation.deleteSshKey]

end CloudGate.Catalog
