/-
The endpoints of a manifest as what they claim of their independence, and as what correlating them looks at.
-/
import IcttSentinel.Config.Manifest
import IcttSentinel.RpcQuorum.Independence

namespace IcttSentinel.RpcQuorum

open IcttSentinel.Config

def endpointClaim (e : Endpoint) : IndependenceClaim where
  trustDomain := e.trustDomain.val
  providerGroup := e.providerGroup.val

def correlationInput (hostnameOf : Endpoint → Option String) (e : Endpoint) : EndpointCorrelationInput where
  endpointId := e.id.val
  trustDomain := e.trustDomain.val
  secretRef := e.secretRef
  hostname := hostnameOf e

end IcttSentinel.RpcQuorum
