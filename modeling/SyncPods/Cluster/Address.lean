/-!
# Addresses of a cluster's collections

The address that pods of a namespace are created at. The name of the namespace stands in it as it
is, so it may end the path early, or be no part of an address at all.
-/

namespace SyncPods.Cluster

/-- A character that a path may hold: no control, no blank, no bracket and no grave accent. -/
def isPathChar (c : Char) : Bool :=
  0x21 ≤ c.toNat && c ∉ ['#', '<', '>', '?', '`']

/-- A character that the part behind the path may hold. -/
def isQueryChar (c : Char) : Bool :=
  0x21 ≤ c.toNat && c ∉ ['"', '#', '<', '>']

def maxAddressLength : Nat := 65534

/-- The part of an address that is sent. -/
structure Address where
  path : String
  query : Option String
deriving DecidableEq, Repr

namespace Address

def text (a : Address) : String :=
  match a.query with
  | some query => a.path ++ "?" ++ query
  | none => a.path

/-- The address that a text is; none if it holds what no address does. What stands behind a hash
mark is not sent. -/
def ofText? (text : String) : Option Address :=
  let sent := text.toList.takeWhile (· != '#')
  let path := sent.takeWhile (· != '?')
  let query := (sent.dropWhile (· != '?')).drop 1
  if maxAddressLength < text.utf8ByteSize then none
  else if path.all isPathChar && query.all isQueryChar then
    some ⟨String.ofList path, if '?' ∈ sent then some (String.ofList query) else none⟩
  else none

/-- The address that the pods of a namespace are created at. -/
def pods? (namespaceName : String) : Option Address :=
  ofText? ("/api/v1/namespaces/" ++ namespaceName ++ "/pods?")

end Address

end SyncPods.Cluster
