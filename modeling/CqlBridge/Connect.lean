import CqlBridge.Settings.Basic
import CqlBridge.Settings.Attach
import CqlBridge.Tls.Identity

/-!
# `CqlBridge.Connect` — what connecting to a cluster meets before the network

Connecting first needs contact points: with none, the settings are refused. With TLS on, the
TLS context is built next from the connection's material: the CA certificate, when given, must
read as a certificate, and a client certificate with a client key must read and belong together
(a certificate or a key alone is left out of the context). Then the nodes are dialled. No node
answers here, so connecting always ends in one of these three faults; the last names the nodes,
joined by commas.
-/

namespace CqlBridge

/-- Whether the TLS library accepts the material. -/
def TlsBundle.accepted (t : TlsBundle) : Bool :=
  let caReads := match t.ca with
    | some ca => (Tls.Certificate.ofPem? ca).isSome
    | none => true
  let identityReads := match t.cert, t.key with
    | some cert, some key => Tls.identityMatches cert key
    | _, _ => true
  caReads && identityReads

/-- The fault that connecting with these settings ends in. -/
def Settings.connectFault (s : Settings) : Fault :=
  let nodes := s.knownNodes
  if nodes.isEmpty then .configuration .noContactPoints
  else if s.tlsEnabled && !s.material.accepted then .connection .tlsSetup
  else .connection (.unreachable (",".intercalate nodes))

/-- The fault that attaching with an attach string ends in: the string does not read, or
connecting with its settings fails. -/
def Settings.attachFault (conn : String) : Fault :=
  match Settings.ofAttach conn with
  | .error e => .configuration e
  | .ok s => s.connectFault

end CqlBridge
