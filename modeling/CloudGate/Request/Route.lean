/-!
The routes of the provider's interface: for every operation a method, a path with places for
arguments, and what happens to the arguments that go into the body.
-/

namespace CloudGate.Request

inductive Method
  | get
  | post
  | put
  | delete
  deriving DecidableEq, Repr

def Method.name : Method → String
  | .get => "GET"
  | .post => "POST"
  | .put => "PUT"
  | .delete => "DELETE"

def Method.hasBody : Method → Bool
  | .post | .put => true
  | .get | .delete => false

/-- One segment of a path: fixed, or the value of an argument. -/
inductive Segment
  | literal (text : String)
  | argument (name : String)
  deriving DecidableEq, Repr

/-- Arguments that go into the body inside an object of their own. -/
structure Nesting where
  object : String
  arguments : List String

structure Route where
  method : Method
  path : List Segment
  renames : List (String × String) := []
  nesting : Option Nesting := none

def Segment.template : Segment → String
  | .literal text => "/" ++ text
  | .argument name => "/\x7b" ++ name ++ "\x7d"

def Route.template (r : Route) : String := String.join (r.path.map (·.template))

/-! ## The routes of the provider -/

def instances : List Segment := [.literal "linode", .literal "instances"]

def oneInstance : List Segment := instances ++ [.argument "instance_id"]

def sshKeys : List Segment := [.literal "profile", .literal "sshkeys"]

def volumes : List Segment := [.literal "volumes"]

def oneVolume : List Segment := volumes ++ [.argument "volume_id"]

def domains : List Segment := [.literal "domains"]

def oneDomain : List Segment := domains ++ [.argument "domain_id"]

def records : List Segment := oneDomain ++ [.literal "records"]

def oneRecord : List Segment := records ++ [.argument "record_id"]

def firewalls : List Segment := [.literal "networking", .literal "firewalls"]

def oneFirewall : List Segment := firewalls ++ [.argument "firewall_id"]

def loadBalancers : List Segment := [.literal "nodebalancers"]

def vpcs : List Segment := [.literal "vpcs"]

def buckets : List Segment := [.literal "object-storage", .literal "buckets"]

def oneBucket : List Segment := buckets ++ [.argument "cluster", .argument "label"]

def accessKeys : List Segment := [.literal "object-storage", .literal "keys"]

def firewallRules : Nesting :=
  { object := "rules", arguments := ["inbound_policy", "outbound_policy"] }

def routes : List (String × Route) :=
  [("list_instances", { method := .get, path := instances }),
   ("get_instance", { method := .get, path := oneInstance }),
   ("create_instance", { method := .post, path := instances }),
   ("delete_instance", { method := .delete, path := oneInstance }),
   ("reboot_instance", { method := .post, path := oneInstance ++ [.literal "reboot"] }),
   ("shutdown_instance", { method := .post, path := oneInstance ++ [.literal "shutdown"] }),
   ("resize_instance", { method := .post, path := oneInstance ++ [.literal "resize"] }),
   ("list_ssh_keys", { method := .get, path := sshKeys }),
   ("create_ssh_key", { method := .post, path := sshKeys }),
   ("delete_ssh_key", { method := .delete, path := sshKeys ++ [.argument "ssh_key_id"] }),
   ("list_volumes", { method := .get, path := volumes }),
   ("create_volume", { method := .post, path := volumes }),
   ("resize_volume", { method := .post, path := oneVolume ++ [.literal "resize"] }),
   ("attach_volume",
    { method := .post
      path := oneVolume ++ [.literal "attach"]
      renames := [("instance_id", "linode_id")] }),
   ("detach_volume", { method := .post, path := oneVolume ++ [.literal "detach"] }),
   ("delete_volume", { method := .delete, path := oneVolume }),
   ("list_domains", { method := .get, path := domains }),
   ("create_domain", { method := .post, path := domains }),
   ("delete_domain", { method := .delete, path := oneDomain }),
   ("list_domain_records", { method := .get, path := records }),
   ("create_domain_record", { method := .post, path := records }),
   ("update_domain_record", { method := .put, path := oneRecord }),
   ("delete_domain_record", { method := .delete, path := oneRecord }),
   ("list_firewalls", { method := .get, path := firewalls }),
   ("create_firewall",
    { method := .post, path := firewalls, nesting := some firewallRules }),
   ("update_firewall",
    { method := .put, path := oneFirewall, nesting := some firewallRules }),
   ("delete_firewall", { method := .delete, path := oneFirewall }),
   ("list_load_balancers", { method := .get, path := loadBalancers }),
   ("create_load_balancer", { method := .post, path := loadBalancers }),
   ("delete_load_balancer",
    { method := .delete, path := loadBalancers ++ [.argument "load_balancer_id"] }),
   ("list_vpcs", { method := .get, path := vpcs }),
   ("create_vpc", { method := .post, path := vpcs }),
   ("delete_vpc", { method := .delete, path := vpcs ++ [.argument "vpc_id"] }),
   ("list_buckets", { method := .get, path := buckets }),
   ("create_bucket", { method := .post, path := buckets }),
   ("update_bucket_acl", { method := .post, path := oneBucket ++ [.literal "access"] }),
   ("delete_bucket", { method := .delete, path := oneBucket }),
   ("list_access_keys", { method := .get, path := accessKeys }),
   ("create_access_key", { method := .post, path := accessKeys }),
   ("delete_access_key", { method := .delete, path := accessKeys ++ [.argument "access_key_id"] }),
   ("create_presigned_url", { method := .post, path := oneBucket ++ [.literal "object-url"] })]

def routeOf? (operation : String) : Option Route :=
  (routes.find? (·.1 == operation)).map (·.2)

end CloudGate.Request
