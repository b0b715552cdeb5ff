import CppMMO.Game.Services.AuthService

/-! The game server and the auth server with its stores, as they run side by side: a login
that a job worker takes up is posted to the auth server, which serves it among the requests
of anybody else, and its response comes back as the answer to the login. -/

set_option autoImplicit false

namespace CppMMO

open CppMMO.Lib CppMMO.Protocol CppMMO.Game CppMMO.Game.Services CppMMO.Utils

/-- A `C_Login` on its way, and the place of its request at the auth server. -/
structure Exchange where
  session : SessionId
  sessionTicket : Bytes
  playerId : PlayerId
  commandId : Int
  request : Nat
deriving DecidableEq

structure Deployment where
  server : Server
  auth : Auth.Pool := { state := {} }
  exchanges : List Exchange := []

namespace Deployment

/-- The game server's own steps, those of the auth server, and how an exchange ends: with
a response, with the connection closed before one was read, or with an error. -/
inductive Label where
  | game (label : Server.Label)
  | auth (label : Auth.Label)
  | respond (exchange : Exchange)
  | endOfStream (exchange : Exchange)
  | fail (exchange : Exchange) (failure : HttpRequestSession.Failure) (message : String)

variable (platform : Auth.Platform) (codec : Auth.Codec)

/-- The login that a step of the game server hands to `AuthService`. -/
def login? (server : Server) : Server.Label → Option (SessionId × Bytes × PlayerId × Int)
  | .processJob job endpointKnown =>
      match handleJob job (server.sessions job.session).playerId endpointKnown with
      | some (.verifySessionTicket sessionTicket playerId commandId) =>
          some (job.session, sessionTicket, playerId, commandId)
      | _ => none
  | _ => none

/-- The request is posted to the auth server, if it can be written. -/
def post (deployment : Deployment) :
    Option (SessionId × Bytes × PlayerId × Int) → Deployment
  | none => deployment
  | some (session, sessionTicket, playerId, commandId) =>
      match HttpRequestSession.run codec sessionTicket playerId with
      | none => deployment
      | some request =>
          { deployment with
            auth := (Auth.service platform).start deployment.auth (Auth.receive codec request)
            exchanges :=
              { session, sessionTicket, playerId, commandId
                request := deployment.auth.threads.length } :: deployment.exchanges }

def response? (deployment : Deployment) (exchange : Exchange) : Option Auth.Response :=
  deployment.auth.threads[exchange.request]?.bind (·.rest.result?)

/-- The callback of the exchange runs with what became of it. -/
def answer (deployment : Deployment) (exchange : Exchange) (response : VerifyTicketResponse) :
    Option Deployment :=
  if exchange ∈ deployment.exchanges then
    (deployment.server.step (.verifySessionTicket exchange.session exchange.playerId
      exchange.commandId response)).map fun server =>
        { deployment with server, exchanges := deployment.exchanges.erase exchange }
  else none

def step (deployment : Deployment) : Label → Option Deployment
  | .game (.verifySessionTicket _ _ _ _) => none
  | .game label =>
      (deployment.server.step label).map fun server =>
        post platform codec { deployment with server } (login? deployment.server label)
  | .auth label => ((Auth.service platform).step deployment.auth label).map ({ deployment with auth := · })
  | .respond exchange =>
      (deployment.response? exchange).bind fun response =>
        deployment.answer exchange (HttpRequestSession.onRead codec (Auth.send codec response))
  | .endOfStream exchange => deployment.answer exchange (HttpRequestSession.onRead codec {})
  | .fail exchange failure message => deployment.answer exchange (failure.response message)

def create? (config : Managers.GameConfig) : Option Deployment :=
  (Server.create? config).map fun server => { server }

abbrev Runs (start : Deployment) (labels : List Label) (finish : Deployment) : Prop :=
  Run (Taken (step platform codec)) start labels finish

end Deployment

end CppMMO
