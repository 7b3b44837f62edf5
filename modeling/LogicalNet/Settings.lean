import LogicalNet.Document.Codec

/-!
# Settings

How the database is reached, how long is waited for it, and what is done when it
does not answer.  Every setting has a default.
-/

namespace LogicalNet

/-- The files with the certificates of a client. -/
structure TlsFiles where
  caCert : String
  clientCert : String
  clientKey : String
  deriving DecidableEq

structure Settings where
  address : String := "tcp:127.0.0.1:6641"
  tls : Option TlsFiles := none
  /-- Seconds. -/
  connectTimeout : UInt64 := 10
  /-- Seconds between two attempts. -/
  reconnectInterval : UInt64 := 5
  reconnectAttempts : UInt32 := 10
  cacheEnabled : Bool := true
  /-- Seconds. -/
  cacheLifetime : UInt64 := 30
  /-- Whether a simulation stands in for a database that cannot be reached. -/
  fallBack : Bool := true
  /-- The command line tool of the database. -/
  tool : String := "ovn-nbctl"
  deriving DecidableEq

/-- Where the settings are kept when nothing else is said. -/
def Settings.defaultPath : String :=
  "/var/lib/quantumnet/config/northbound.yaml"

/-! ## As documents -/

instance : Codec TlsFiles where
  encode t := .record [
    ("ca_cert", encode t.caCert),
    ("client_cert", encode t.clientCert),
    ("client_key", encode t.clientKey)]
  decode? d := do
    let f ← d.fields? ["ca_cert", "client_cert", "client_key"]
    return {
      caCert := ← f.required? "ca_cert"
      clientCert := ← f.required? "client_cert"
      clientKey := ← f.required? "client_key" }

instance : Codec Settings where
  encode s := .record [
    ("address", encode s.address),
    ("tls", encode s.tls),
    ("connect_timeout_secs", encode s.connectTimeout),
    ("reconnect_interval_secs", encode s.reconnectInterval),
    ("max_reconnect_attempts", encode s.reconnectAttempts),
    ("enable_cache", encode s.cacheEnabled),
    ("cache_ttl_secs", encode s.cacheLifetime),
    ("use_mock_on_failure", encode s.fallBack),
    ("nbctl_path", encode s.tool)]
  decode? d := do
    let f ← d.fields? ["address", "tls", "connect_timeout_secs", "reconnect_interval_secs",
      "max_reconnect_attempts", "enable_cache", "cache_ttl_secs", "use_mock_on_failure",
      "nbctl_path"]
    let usual : Settings := {}
    return {
      address := ← f.withDefault? "address" usual.address
      tls := ← f.withDefault? "tls" usual.tls
      connectTimeout := ← f.withDefault? "connect_timeout_secs" usual.connectTimeout
      reconnectInterval := ← f.withDefault? "reconnect_interval_secs" usual.reconnectInterval
      reconnectAttempts := ← f.withDefault? "max_reconnect_attempts" usual.reconnectAttempts
      cacheEnabled := ← f.withDefault? "enable_cache" usual.cacheEnabled
      cacheLifetime := ← f.withDefault? "cache_ttl_secs" usual.cacheLifetime
      fallBack := ← f.withDefault? "use_mock_on_failure" usual.fallBack
      tool := ← f.withDefault? "nbctl_path" usual.tool }

end LogicalNet
