import LogicalNet.Fault

/-!
# Addresses of the database

Where the database listens: at a port of a host, in the clear or encrypted, or at a
path.  The host of an IPv6 address may stand in brackets.
-/

namespace LogicalNet

inductive Remote where
  | tcp (host : String) (port : UInt16)
  | ssl (host : String) (port : UInt16)
  | path (path : String)
  deriving DecidableEq

namespace Remote

def dropBrackets (host : List Char) : List Char :=
  ((host.dropWhile (· == '[')).reverse.dropWhile (· == ']')).reverse

/-- Host and port with a colon between them. -/
def readHostPort (s : List Char) : Except ConnectionFault (String × UInt16) :=
  match Text.cutLast? ':' s with
  | none => .error .noPort
  | some (host, port) =>
      let host := dropBrackets host
      if host.isEmpty then
        .error .noHost
      else
        match Text.readBelow? 10 (2 ^ 16) port with
        | some n => .ok (String.ofList host, n.toUInt16)
        | none => .error .badPort

def ofChars (s : List Char) : Except ConnectionFault Remote :=
  if s.isEmpty then
    .error .noAddress
  else
    match Text.cutFirst? ':' s with
    | none => .error .noScheme
    | some (scheme, rest) =>
        match String.ofList scheme with
        | "tcp" => (readHostPort rest).map fun p => tcp p.1 p.2
        | "ssl" => (readHostPort rest).map fun p => ssl p.1 p.2
        | "unix" => if rest.isEmpty then .error .unsupported else .ok (path (String.ofList rest))
        | _ => .error .unsupported

/-- The remote of an address; blanks around the address do not count. -/
def ofText (s : String) : Except StoreError Remote :=
  match ofChars (Text.trimChars s.toList) with
  | .ok r => .ok r
  | .error e => .error (.connection s e)

end Remote
end LogicalNet
