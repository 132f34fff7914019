import CloudGate.Operation.Argument
import CloudGate.Rule.Credential

/-!
Argument rules of the operations on instances, SSH keys and volumes.
-/

namespace CloudGate.Operation

/-- Each key is judged alone. An element that is no text counts as an empty key. -/
def authorizedKeys : ArgumentRule := fun call =>
  match call.get? "authorized_keys" with
  | none | some .null => .pass
  | some (.arr keys) => .each (fun key => Rule.sshPublicKey (key.str?.getD "")) keys
  | some v =>
    .fail .invalidFormat ("got " ++ v.render ++ ": authorized_keys must be an array of strings")

def createInstance : ArgumentRules where
  operation := "create_instance"
  rules := [optionalText "label" Rule.resourceLabel, region "region", notBlank "type",
    textual "root_pass" Rule.rootPassword, authorizedKeys]

def getInstance : ArgumentRules where
  operation := "get_instance"
  rules := [identifier "instance_id"]

def deleteInstance : ArgumentRules where
  operation := "delete_instance"
  rules := [identifier "instance_id"]

def rebootInstance : ArgumentRules where
  operation := "reboot_instance"
  rules := [identifier "instance_id"]

def shutdownInstance : ArgumentRules where
  operation := "shutdown_instance"
  rules := [identifier "instance_id"]

def resizeInstance : ArgumentRules where
  operation := "resize_instance"
  rules := [identifier "instance_id", notBlank "type"]

def createSshKey : ArgumentRules where
  operation := "create_ssh_key"
  rules := [notBlank "label", textual "ssh_key" Rule.sshPublicKey]

def deleteSshKey : ArgumentRules where
  operation := "delete_ssh_key"
  rules := [identifier "ssh_key_id"]

def createVolume : ArgumentRules where
  operation := "create_volume"
  rules := [textual "label" Rule.resourceLabel, integer "size" Rule.volumeSize]

def resizeVolume : ArgumentRules where
  operation := "resize_volume"
  rules := [identifier "volume_id", integer "size" Rule.volumeSize]

def attachVolume : ArgumentRules where
  operation := "attach_volume"
  rules := [identifier "volume_id", identifier "instance_id"]

def detachVolume : ArgumentRules where
  operation := "detach_volume"
  rules := [identifier "volume_id"]

def deleteVolume : ArgumentRules where
  operation := "delete_volume"
  rules := [identifier "volume_id"]

end CloudGate.Operation
