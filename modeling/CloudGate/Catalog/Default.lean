import CloudGate.Catalog.Compute
import CloudGate.Catalog.Dns
import CloudGate.Catalog.Network
import CloudGate.Catalog.ObjectStorage
import CloudGate.Catalog.Volume
import CloudGate.Tool.Registry

/-!
The catalog: every tool of the program, under its name and under the names of the provider's
products.
-/

namespace CloudGate.Catalog

def tools : List Tool :=
  instanceTools ++ sshKeyTools ++ volumeTools ++ dnsTools ++ firewallTools ++ loadBalancerTools ++
    vpcTools ++ bucketTools ++ accessKeyTools ++ presignedTools

def aliases : List (String × String) :=
  [("list_nodebalancers", "list_load_balancers"),
   ("create_nodebalancer", "create_load_balancer"),
   ("delete_nodebalancer", "delete_load_balancer"),
   ("list_object_storage_keys", "list_access_keys"),
   ("create_object_storage_key", "create_access_key")]

def registry : Registry := (Registry.empty.registerAll tools).addAliases aliases

/-- The tools that need no consent, without aliases. -/
def readOnlyRegistry : Registry := Registry.empty.registerAll registry.readOnly

end CloudGate.Catalog
