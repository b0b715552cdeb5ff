import CppMMO.Auth.Http
import CppMMO.Server

/-! `AuthService::HttpRequestSession`: one request to the auth server and what is made of its
response. The position and health fields of the response are read by nobody and left out. -/

set_option autoImplicit false

namespace CppMMO.Game.Services.HttpRequestSession

open CppMMO.Lib CppMMO.Auth CppMMO.Protocol

variable (codec : Codec)

/-- The object lists its keys in order. -/
def requestBody (sessionTicket : String) (playerId : PlayerId) : Json :=
  .object [("PlayerId", .integer playerId.toNat), ("SessionTicket", .string sessionTicket)]

/-- `dump` throws for a ticket that is not UTF-8, and the login is dropped with its job. -/
def run (sessionTicket : Bytes) (playerId : PlayerId) : Option HttpRequest :=
  (decodeUtf8 sessionTicket).map fun sessionTicket =>
    { method := .post, target := "/api/auth/verify", contentType := "application/json"
      body := codec.dump (requestBody sessionTicket playerId) }

/-- The step of the exchange that reports an error. -/
inductive Failure where
  | resolve | connect | write | read
deriving DecidableEq

def Failure.errorCode : Failure → Int
  | resolve => -1
  | connect => -2
  | write => -4
  | read => -5

def Failure.errorMessage : Failure → String
  | resolve => "AuthServer DNS resolution failed: "
  | connect => "AuthServer connection failed: "
  | write => "AuthServer request write failed: "
  | read => "AuthServer response read failed: "

def Failure.response (failure : Failure) (message : String) : VerifyTicketResponse :=
  { success := false, errorCode := failure.errorCode, errorMessage := failure.errorMessage ++ message }

/-- A parsed response with status 200. -/
def readVerdict (json : Json) : VerifyTicketResponse :=
  match (json.field? "success").bind Json.asBool? with
  | none =>
      { success := false, errorCode := -6
        errorMessage := "Invalid JSON response from AuthServer: Missing 'success' field." }
  | some true =>
      let playerInfo := (json.field? "playerInfo").bind Json.asObject?
      { success := true
        playerId := ((playerInfo.bind (·.field? "playerId")).bind Json.asUnsigned?).getD 0
        username := ((playerInfo.bind (·.field? "name")).bind Json.asString?).getD "" }
  | some false =>
      { success := false
        errorCode := ((json.field? "errorCode").bind Json.asInt?).getD 0
        errorMessage := ((json.field? "errorMessage").bind Json.asString?).getD "" }

/-- The detail that an error response carries, if its body can be parsed. -/
def errorDetail (body : Bytes) : String :=
  match codec.parse body with
  | .error _ => ""
  | .ok json => (((json.field? "message").bind Json.asString?).map (" - " ++ ·)).getD ""

/-- No value is read before its type is checked, so the handler for other exceptions
(code -8) is never reached. -/
def onRead (response : HttpResponse) : VerifyTicketResponse :=
  if response.statusCode = 200 then
    match codec.parse response.body with
    | .error what =>
        { success := false, errorCode := -7
          errorMessage := "Failed to parse AuthServer JSON response: " ++ what }
    | .ok json => readVerdict json
  else
    { success := false, errorCode := response.statusCode
      errorMessage := "AuthServer returned HTTP error: " ++ toString response.statusCode ++ " " ++
        response.reason ++ errorDetail codec response.body }

end CppMMO.Game.Services.HttpRequestSession
