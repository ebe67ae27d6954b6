import SyncPods.Json.Record

/-!
# What a cluster says of a failed request

A cluster answers a request that it refuses with a status. An answer that holds none is made into
one.
-/

namespace SyncPods.Cluster

open Json

def reasonPhrase : Nat → String
  | 400 => "Bad Request"
  | 401 => "Unauthorized"
  | 402 => "Payment Required"
  | 403 => "Forbidden"
  | 404 => "Not Found"
  | 405 => "Method Not Allowed"
  | 406 => "Not Acceptable"
  | 407 => "Proxy Authentication Required"
  | 408 => "Request Timeout"
  | 409 => "Conflict"
  | 410 => "Gone"
  | 411 => "Length Required"
  | 412 => "Precondition Failed"
  | 413 => "Payload Too Large"
  | 414 => "URI Too Long"
  | 415 => "Unsupported Media Type"
  | 416 => "Range Not Satisfiable"
  | 417 => "Expectation Failed"
  | 418 => "I'm a teapot"
  | 421 => "Misdirected Request"
  | 422 => "Unprocessable Entity"
  | 423 => "Locked"
  | 424 => "Failed Dependency"
  | 425 => "Too Early"
  | 426 => "Upgrade Required"
  | 428 => "Precondition Required"
  | 429 => "Too Many Requests"
  | 431 => "Request Header Fields Too Large"
  | 451 => "Unavailable For Legal Reasons"
  | 500 => "Internal Server Error"
  | 501 => "Not Implemented"
  | 502 => "Bad Gateway"
  | 503 => "Service Unavailable"
  | 504 => "Gateway Timeout"
  | 505 => "HTTP Version Not Supported"
  | 506 => "Variant Also Negotiates"
  | 507 => "Insufficient Storage"
  | 508 => "Loop Detected"
  | 510 => "Not Extended"
  | 511 => "Network Authentication Required"
  | _ => "<unknown status code>"

/-- The status of a request that was refused. -/
structure Status where
  status : String
  message : String
  reason : String
  code : Nat
deriving DecidableEq, Repr

namespace Status

/-- A number of sixteen bits. -/
def readCode : Reader Nat := fun node => do
  return (← Node.wholeNumber "u16" 0 (Nat.pow 2 16 - 1) node).toNat

def read : Reader Status :=
  Node.record "ErrorResponse" <|
    Status.mk <$> Shape.required "status" Node.text <*> Shape.withDefault "message" Node.text "" <*>
      Shape.withDefault "reason" Node.text "" <*> Shape.required "code" readCode

/-- The status made of an answer that holds none. -/
def ofAnswer (code : Nat) (body : String) : Status where
  status := s!"{code} {reasonPhrase code}"
  message := Text.quoted body
  reason := "Failed to parse error data"
  code := code

def inAnswer (code : Nat) (body : String) : Status :=
  match readText read body with
  | .ok status => status
  | .error _ => ofAnswer code body

def shown (s : Status) : String := s!"{s.message}: {s.reason}"

end Status

end SyncPods.Cluster
