import CqlBridge.Codec.Hex
import CqlBridge.Codec.Base64

/-!
# `CqlBridge.Fault` — why an operation fails, and how the failure is worded

Six kinds of failure: bad configuration, a connection that cannot be made or is gone, schema
discovery that cannot answer, a statement the store rejects, an operation the bridge does not
support, and something that is not there. Each kind words its message with a fixed prefix:
`Configuration error: …`, `Connection error: …`, `Discovery error: …`,
`Query execution failed: … (query: …)`, `Operation not supported: …` and `Not found: …`.

Configuration failures are causes of their own (`ConfigFault`), since the settings reader
decides exactly when each arises.
-/

namespace CqlBridge

/-- Why settings or names are refused. -/
inductive ConfigFault where
  /-- A port that is not a 16-bit number, with its key and value as given. -/
  | badPort (key value : String)
  /-- A consistency level name that is not known, upper-cased. -/
  | unknownConsistency (upper : String)
  /-- A value that is not hex. -/
  | badHex (key : String) (e : Codec.HexError)
  /-- A value that is not base64. -/
  | badBase64 (key : String) (e : Codec.Base64Error)
  /-- Decoded bytes that are not UTF-8 text. -/
  | notText (key : String)
  | emptyKeyspace
  /-- A table name without a keyspace part and a table part. -/
  | badTableName (qualified : String)
  | noContactPoints
  | emptyCatalogName
  | duplicateCatalog (name : String)
  deriving Repr, DecidableEq

/-- The words of a configuration failure. -/
def ConfigFault.message : ConfigFault → String
  | .badPort k v => k ++ " must be an integer port, got '" ++ v ++ "'"
  | .unknownConsistency u => "unknown consistency level '" ++ u ++ "'"
  | .badHex k e => k ++ " is not valid hex: " ++ e.message
  | .badBase64 k e => k ++ " is not valid base64: " ++ e.message
  | .notText k => k ++ " does not decode to PEM text"
  | .emptyKeyspace => "keyspace name must not be empty"
  | .badTableName q => "table name must be of the form keyspace.table, got '" ++ q ++ "'"
  | .noContactPoints => "no contact points configured"
  | .emptyCatalogName => "catalog name must not be empty"
  | .duplicateCatalog n => "a catalog named " ++ n ++ " is already attached"

/-- Why a connection cannot be used. -/
inductive ConnectFault where
  /-- The session behind a weak handle is gone. -/
  | detached
  /-- TLS material that the TLS library refuses; its own words are not part of the answer. -/
  | tlsSetup
  /-- No node answers; the nodes tried, joined by commas. -/
  | unreachable (nodes : String)
  deriving Repr, DecidableEq

/-- The words of a connection failure. -/
def ConnectFault.message : ConnectFault → String
  | .detached => "catalog session has been detached"
  | .tlsSetup => "TLS setup failed: <openssl error>"
  | .unreachable n => "failed to connect to " ++ n ++ ": <driver error>"

/-- Why an operation fails. -/
inductive Fault where
  | configuration (c : ConfigFault)
  | connection (c : ConnectFault)
  | discovery (detail : String)
  /-- The store rejected a statement. -/
  | queryFailed (query message : String)
  | unsupported (what : String)
  | notFound (what : String)
  deriving Repr, DecidableEq

namespace Fault

/-- The words of a failure. -/
def message : Fault → String
  | .configuration c => "Configuration error: " ++ c.message
  | .connection c => "Connection error: " ++ c.message
  | .discovery d => "Discovery error: " ++ d
  | .queryFailed q m => "Query execution failed: " ++ m ++ " (query: " ++ q ++ ")"
  | .unsupported w => "Operation not supported: " ++ w
  | .notFound w => "Not found: " ++ w

/-- Discovery failures and missing things are what schema discovery may answer with. -/
def isDiscovery : Fault → Bool
  | .discovery _ | .notFound _ => true
  | _ => false

end Fault

/-- Why a request ends without an answer: a fault the caller sees, or a crash that ends the
whole program, as when a reader is asked to cut text between bounds that cross. -/
inductive Stop where
  | fault (f : Fault)
  | crash
  deriving Repr, DecidableEq

end CqlBridge
