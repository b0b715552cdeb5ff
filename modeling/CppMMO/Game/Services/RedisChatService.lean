import CppMMO.Game.Managers.ChatManager
import CppMMO.Lib.SharedLog

/-! `RedisChatService` and the chat registry of `ChatManager`, in every server on one Redis.

What Redis hands to a subscriber is a parameter: each `consume` brings its message with it. Any
other client may publish on the channel as well. A message is broadcast under the mutex of the
registry, so no session comes or goes meanwhile. -/

set_option autoImplicit false

namespace CppMMO.Game.Services

open CppMMO.Lib CppMMO.Protocol CppMMO.Game CppMMO.Game.Managers

abbrev ServerId := Nat

/-- What the subscribe thread does next. -/
inductive SubscribeThread where
  | notStarted
  | testRunning
  | consume
  | finished
deriving DecidableEq

/-- How far the call of `Disconnect` is that found the service running. -/
inductive DisconnectCall where
  | notCalled
  | join
  | returned
deriving DecidableEq

structure ChatServer where
  redis : Bool := false
  running : Bool := false
  subscribeThread : SubscribeThread := .notStarted
  disconnecting : DisconnectCall := .notCalled
  connectedSessions : List SessionId := []
  sent : List (SessionId × ServerPacket) := []

structure ChatCluster where
  servers : ServerId → ChatServer := fun _ => {}

namespace ChatCluster

/-- `Initialize` connects and subscribes, unless Redis or the subscriber connection is not to
be had. `accepted` tells whether Redis took a message. A reply that `consume` reads, to the
subscription say, is no message. -/
inductive Label where
  | connect (server : ServerId) (redis subscriber : Bool)
  | publish (server : ServerId) (playerId : PlayerId) (chatMessage : Bytes) (accepted : Bool)
  | publishElsewhere (message : Bytes)
  | testRunning (server : ServerId)
  | consumeReply (server : ServerId)
  | consume (server : ServerId) (message : Bytes)
  | consumeThrows (server : ServerId)
  | onSessionConnected (server : ServerId) (session : SessionId)
  | onSessionDisconnected (server : ServerId) (session : SessionId)
  | disconnect (server : ServerId)
  | join (server : ServerId)
deriving DecidableEq

/-- What one server does on its own. -/
def stepServer (chatServer : ChatServer) : Label → Option ChatServer
  | .connect _ redis subscriber =>
      if chatServer.redis then none
      else if redis && subscriber then
        some { chatServer with redis, running := true, subscribeThread := .testRunning }
      else some { chatServer with redis }
  | .publish _ _ _ accepted => if accepted && !chatServer.redis then none else some chatServer
  | .publishElsewhere _ => some chatServer
  | .testRunning _ =>
      if chatServer.subscribeThread = .testRunning then
        some { chatServer with
          subscribeThread := if chatServer.running then .consume else .finished }
      else none
  | .consumeReply _ =>
      if chatServer.subscribeThread = .consume then
        some { chatServer with subscribeThread := .testRunning }
      else none
  | .consume _ message =>
      if chatServer.subscribeThread = .consume then
        some { chatServer with
          subscribeThread := .testRunning
          sent := chatServer.sent ++
            handleRedisChatMessage chatServer.connectedSessions message }
      else none
  | .consumeThrows _ =>
      if chatServer.subscribeThread = .consume then
        some { chatServer with subscribeThread := .finished }
      else none
  | .onSessionConnected _ session =>
      some { chatServer with connectedSessions := chatServer.connectedSessions.insert session }
  | .onSessionDisconnected _ session =>
      some { chatServer with
        connectedSessions := chatServer.connectedSessions.filter (· ≠ session) }
  | .disconnect _ =>
      some (if chatServer.running then { chatServer with running := false, disconnecting := .join }
        else chatServer)
  | .join _ =>
      if chatServer.disconnecting = .join ∧ chatServer.subscribeThread = .finished then
        some { chatServer with disconnecting := .returned }
      else none

/-- The server that takes the step; another client of Redis is none of them. -/
def Label.server? : Label → Option ServerId
  | .connect server _ _ | .publish server _ _ _ | .testRunning server | .consumeReply server
  | .consume server _ | .consumeThrows server | .onSessionConnected server _
  | .onSessionDisconnected server _ | .disconnect server | .join server => some server
  | .publishElsewhere _ => none

def step (cluster : ChatCluster) (label : Label) : Option ChatCluster :=
  match label.server? with
  | none => some cluster
  | some server =>
      (stepServer (cluster.servers server) label).map fun chatServer =>
        { servers := Function.update cluster.servers server chatServer }

abbrev Runs (start : ChatCluster) (labels : List Label) (finish : ChatCluster) : Prop :=
  Run (Taken step) start labels finish

/-- The chat packets that were put on the write queue of a session. -/
def received (cluster : ChatCluster) (server : ServerId) (session : SessionId) :
    List ServerPacket :=
  ((cluster.servers server).sent.filter (·.1 = session)).map (·.2)

/-- The channel as the steps show it: what is published on it, what is handed to each server, and
when a server subscribes. -/
def chatChannel : SharedLog Label ServerId Bytes where
  written?
    | .publish _ playerId chatMessage accepted =>
        if accepted then some (messageWithPlayer playerId chatMessage) else none
    | .publishElsewhere message => some message
    | _ => none
  given?
    | .consume server message => some (server, message)
    | _ => none
  joins?
    | .connect server redis subscriber => if redis && subscriber then some server else none
    | _ => none

end ChatCluster

end CppMMO.Game.Services
