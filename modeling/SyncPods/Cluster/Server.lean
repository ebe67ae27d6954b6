import SyncPods.Cluster.Submission

/-!
# A server of pods

A server keeps the pods that it was asked to create, by path and name. Replies may be laid out
beforehand; they are given one after the other, whatever is asked, and nothing is kept with them.
-/

namespace SyncPods.Cluster

open Json

structure Server where
  /-- The path and the name of each pod. -/
  pods : List (String × String)
  /-- The replies laid out, the next one first. -/
  replies : List Reply

namespace Server

def empty : Server := ⟨[], []⟩

def conflict (name : String) : Reply :=
  let status : Value := .object [("kind", .string "Status"), ("apiVersion", .string "v1"),
    ("metadata", .object []), ("status", .string "Failure"),
    ("message", .string s!"pods {Text.quoted name} already exists"),
    ("reason", .string "AlreadyExists"), ("code", .ofInt conflictCode)]
  .answer conflictCode status.compact.toUTF8

def created (pod : Pod) : Reply := .answer 201 pod.json.compact.toUTF8

/-- The reply to a request, and the server after it. -/
def create (request : CreateRequest) (server : Server) : Reply × Server :=
  match server.replies with
  | reply :: rest => (reply, { server with replies := rest })
  | [] =>
    let name := request.pod.metadata.name.getD ""
    let key := (request.address.path, name)
    if key ∈ server.pods then (conflict name, server)
    else (created request.pod, { server with pods := server.pods ++ [key] })

end Server

/-- What a cluster has seen, with the server that replies. -/
structure Session where
  server : Server
  requests : List CreateRequest

/-- A cluster whose server replies and that remembers the requests. -/
def Session.reply (request : CreateRequest) : StateM Session Reply := fun session =>
  let (reply, server) := session.server.create request
  (reply, ⟨server, session.requests ++ [request]⟩)

end SyncPods.Cluster
