import InstanceLink.Config.Basic
import InstanceLink.Tls.SocketFactory

/-!
# Factories from pool properties

A connection pool hands the properties of a configuration back and gets a factory
on the shared executor and admin client. The shared parts are asked for before the
name is read; a key is generated only for a name that can be read.
-/

namespace InstanceLink

/-- The shared parts a factory asks for, in the order it does. -/
inductive SharedPart where
  | executor
  | adminClient
  | keyPair
  deriving DecidableEq, Repr

namespace SocketFactory

/-- The wording for properties that name no instance. -/
def requiredMessage : String := Config.instanceProperty ++ " property is required"

/-- The name of the instance in some properties, with the parts asked for. -/
def ofProperties (properties : List (String × String)) :
    List SharedPart × Except Fault InstanceName :=
  match (properties.lookup Config.instanceProperty).filter fun s => !s.isEmpty with
  | none => ([], .error (.rule requiredMessage))
  | some s =>
    match InstanceName.read s with
    | .ok name => ([.executor, .adminClient, .keyPair], .ok name)
    | .error cause => ([.executor, .adminClient], .error (.instanceName cause))

/-- The kind of address a factory from properties uses. -/
def defaultAddressKind : AddressKind := .privateIp

end SocketFactory

end InstanceLink
