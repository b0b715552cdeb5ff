import CppMMO.Auth.AuthController

/-! The auth server's end of an HTTP exchange. The texts on the wire are made and read by
JSON libraries that are not part of the repository: they are a parameter. -/

set_option autoImplicit false

namespace CppMMO.Auth

open CppMMO.Lib

/-- The JSON libraries of the game server (`dump`, and `parse` with the text of its
exception) and of the auth server, and the framework's own bodies. -/
structure Codec where
  dump : Json → List UInt8
  parse : List UInt8 → Except String Json
  serialize : Json → List UInt8
  deserialize : List UInt8 → Option Json
  problemDetails : Nat → List UInt8

inductive Method where
  | get | post | delete
deriving DecidableEq

structure HttpRequest where
  method : Method
  target : String
  contentType : String
  body : List UInt8
deriving DecidableEq

/-- A response that was never read has the status of a default-constructed one. -/
structure HttpResponse where
  statusCode : Nat := 200
  reason : String := ""
  body : List UInt8 := []
deriving DecidableEq

def reasonPhrase : Nat → String
  | 200 => "OK"
  | 400 => "Bad Request"
  | 401 => "Unauthorized"
  | 404 => "Not Found"
  | 405 => "Method Not Allowed"
  | 409 => "Conflict"
  | 413 => "Payload Too Large"
  | 415 => "Unsupported Media Type"
  | 500 => "Internal Server Error"
  | _ => ""

/-- The route of `AuthController.Verify`. Routes are matched without regard to case. -/
def verifyRoute : String := "/api/Auth/verify"

/-- How the game server's request comes to its action. -/
def receive (codec : Codec) (request : HttpRequest) : Request :=
  if !DotNet.sameIgnoringCase request.target verifyRoute then .rejected 404
  else if request.method ≠ .post then .rejected 405
  else if request.contentType ≠ "application/json" then .rejected 415
  else
    match (codec.deserialize request.body).bind VerifyRequestDto.ofJson with
    | some bound => .verify bound
    | none => .rejected 400

def send (codec : Codec) : Response → HttpResponse
  | .result result =>
      { statusCode := result.statusCode, reason := reasonPhrase result.statusCode
        body := codec.serialize result.value.toJson }
  | .problem statusCode =>
      { statusCode, reason := reasonPhrase statusCode, body := codec.problemDetails statusCode }

end CppMMO.Auth
