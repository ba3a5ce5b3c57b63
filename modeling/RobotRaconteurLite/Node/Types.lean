import RobotRaconteurLite.Connection
import RobotRaconteurLite.Message.Tree
import RobotRaconteurLite.Strings
import Mathlib.Logic.Function.Basic

/-!
# The node and its events (`node.h`)

A node has connections, services, clients and pending requests, each kept by the
application and known here by a number. A list of the C is the list of the
numbers of its members, without its head.

A function pointer is a mark that the handler is there. What the application
does when one is called is not up to the library, so the answers of the coming
calls lie in the node, and what an observer sees, the handlers that were called
and the messages that were queued, is written down beside them.
-/

namespace RobotRaconteurLite

/-! ## Message entry types and error codes -/

def MESSAGEENTRYTYPE_STREAMOP : UInt16 := 1
def MESSAGEENTRYTYPE_STREAMOPRET : UInt16 := 2
def MESSAGEENTRYTYPE_GETSERVICEDESC : UInt16 := 101
def MESSAGEENTRYTYPE_OBJECTTYPENAME : UInt16 := 103
def MESSAGEENTRYTYPE_OBJECTTYPENAMERET : UInt16 := 104
def MESSAGEENTRYTYPE_CONNECTCLIENT : UInt16 := 107
def MESSAGEENTRYTYPE_CONNECTCLIENTRET : UInt16 := 108
def MESSAGEENTRYTYPE_DISCONNECTCLIENT : UInt16 := 109
def MESSAGEENTRYTYPE_CONNECTIONTEST : UInt16 := 111
def MESSAGEENTRYTYPE_CONNECTIONTESTRET : UInt16 := 112
def MESSAGEENTRYTYPE_GETNODEINFO : UInt16 := 113
def MESSAGEENTRYTYPE_CLIENTKEEPALIVEREQ : UInt16 := 1105
def MESSAGEENTRYTYPE_SERVICEPATHRELEASEDREQ : UInt16 := 1109

def MESSAGEERRORTYPE_PROTOCOLERROR : UInt16 := 2
def MESSAGEERRORTYPE_SERVICENOTFOUND : UInt16 := 3
def MESSAGEERRORTYPE_OBJECTNOTFOUND : UInt16 := 4
def MESSAGEERRORTYPE_INVALIDOPERATION : UInt16 := 17

/-! ## Events -/

/-- `enum robotraconteurlite_event_type`. -/
inductive EventType
  | noop
  | connectionConnected
  | connectionClosed
  | connectionError
  | messageReceived
  | messageSendComplete
  | nextCycle
  | connectionHeartbeatTimeout
  | connectionTimeout
  | connectionClientSocketConnected
  deriving DecidableEq, Repr

/-- `enum robotraconteurlite_node_client_handshake_state`. -/
inductive HandshakeState
  | init
  | connected
  | createconnectionSent
  | createconnectionCompleted
  | objecttypeSent
  | objecttypeCompleted
  | connectclientSent
  | connectclientCompleted
  | completed
  | error
  | invalidObjectType
  deriving DecidableEq, Repr

/-- The events of a service that go to its `client_event` handler. -/
inductive ServiceEventType
  | clientConnected
  | clientDisconnected
  deriving DecidableEq, Repr

section

variable [SizeT]

/-- What `struct robotraconteurlite_node_receive_messageentry_data` hands out. -/
structure ReceivedMessage where
  receivedMessageHeader : MessageConstHeader
  receivedMessageEntryHeader : MessageEntryConstHeader
  entryReader : MessageEntryReader

def ReceivedMessage.zero : ReceivedMessage where
  receivedMessageHeader := MessageHeaderOf.zero (.constant [])
  receivedMessageEntryHeader := MessageEntryHeaderOf.zero (.constant [])
  entryReader := ⟨⟨[], modulus_pos⟩, 0, 0, 0, 0, 0, 0⟩

/-- `struct robotraconteurlite_event`. The connection of an event without one is not
looked at. -/
structure Event where
  eventType : EventType
  connection : Nat
  eventTime : Int64
  receivedMessage : ReceivedMessage
  eventErrorCode : Result Unit

/-! ## Services -/

/-- `struct robotraconteurlite_node_service_object`, with whether it has a
`message_received` handler. -/
structure ServiceObjectRecord where
  servicePath : ConstString
  qualifiedType : ConstString
  implementedQualifiedTypes : ConstString
  messageReceived : Bool
  deriving DecidableEq, Repr

/-- `struct robotraconteurlite_node_service`, with its objects in the order of their list, the
root among them once it was set, and whether it has a `client_event` handler. -/
structure ServiceRecord where
  serviceName : ConstString
  serviceObjects : List ServiceObjectRecord
  rootServiceObject : Option ServiceObjectRecord
  clientEvent : Bool
  deriving DecidableEq, Repr

/-- `struct robotraconteurlite_node_service_definition`. -/
structure ServiceDefinition where
  qualifiedName : ConstString
  serviceDefinition : ConstString
  deriving DecidableEq, Repr

/-! ## Clients and requests -/

/-- `struct robotraconteurlite_node_client`, what the events use of it, with the handlers it
has. -/
structure ClientRecord where
  clientConnection : Nat
  handshakeState : HandshakeState
  handshakeRequestId : UInt32
  expectedRootObjectType : ConstString
  connected : Bool
  disconnected : Bool
  requestCompleted : Bool
  messageReceived : Bool
  deriving DecidableEq, Repr

/-- `struct robotraconteurlite_node_request`, with the handlers it has. -/
structure NodeRequest where
  connection : Nat
  localEndpoint : UInt32
  requestId : UInt32
  timeoutTimespec : Int64
  requestStatus : Result Unit
  requestCompleted : Bool
  requestError : Bool

end

/-! ## The node -/

/-- A call of a handler, with what it is told. -/
inductive HandlerCall
  | connectionEvent (connection : Nat) (eventType : EventType)
  | sendComplete (connection : Nat)
  | clientEvent (connection service : Nat) (eventType : ServiceEventType)
  | serviceMessageReceived (connection service : Nat)
  | connected (client : Nat)
  | disconnected (client : Nat)
  | clientRequestCompleted (client request : Nat)
  | clientMessageReceived (client : Nat)
  | requestCompleted (request : Nat)
  | requestError (request : Nat)
  deriving DecidableEq, Repr

section

variable [SizeT]

/-- What the node did that others see: it called a handler, or it queued a message on a
connection. -/
inductive Effect
  | call (handler : HandlerCall)
  | queued (connection : Nat) (header : MessageEntryConstHeader)
  deriving DecidableEq

/-- What the application may do in a handler: close a connection, or send a message. -/
inductive AppCall
  | close (connection : Nat)
  | send (connection : Nat) (header : MessageEntryConstHeader) (elements : List ElementTree)

/-- What a handler does and returns. -/
structure HandlerAnswer where
  status : Result Unit
  calls : List AppCall

/-- `struct robotraconteurlite_node`, with the objects its pointers reach. The cursor is the
part of the list of connections that the cycle has not come to. The head of the list of
connections is either a list head of its own or the first connection. -/
structure Node where
  connections : List Nat
  headIsConnection : Bool
  connectionsNext : List Nat
  connection : Nat → Connection
  nodeid : NodeId
  nodename : ConstString
  nodename_len : nodename.len ≤ MESSAGE_STR_MAX_SIZE
  eventsServiced : Nat
  servicesHead : Option (List Nat)
  service : Nat → ServiceRecord
  serviceDefsHead : Option (List ServiceDefinition)
  requestsHead : Option (List Nat)
  request : Nat → NodeRequest
  client : Nat → ClientRecord
  connectionEvent : Bool
  sendComplete : Bool
  answers : List HandlerAnswer
  effects : List Effect

theorem constant_len_le (data : List UInt8) :
    (ConstString.constant data).len ≤ MESSAGE_STR_MAX_SIZE :=
  List.length_take_le 128 data

def ServiceRecord.zero : ServiceRecord := ⟨.constant [], [], none, false⟩

def ClientRecord.zero : ClientRecord := ⟨0, .init, 0, .constant [], false, false, false, false⟩

def NodeRequest.zero : NodeRequest := ⟨0, 0, 0, 0, .ok (), false, false⟩

namespace Node

/-- `robotraconteurlite_node_init`, with the connections that are in the list already. The
objects that are in none of its lists yet are zeros. -/
def init (nodeid : NodeId) (nodename : List UInt8) (connections : List Nat)
    (connection : Nat → Connection) : Node where
  connections := connections
  headIsConnection := false
  connectionsNext := connections
  connection := connection
  nodeid := nodeid
  nodename := .constant nodename
  nodename_len := constant_len_le nodename
  eventsServiced := 0
  servicesHead := none
  service := fun _ => .zero
  serviceDefsHead := none
  requestsHead := none
  request := fun _ => .zero
  client := fun _ => .zero
  connectionEvent := false
  sendComplete := false
  answers := []
  effects := []

/-- A change of one connection. -/
def setConnection (node : Node) (i : Nat) (c : Connection) : Node :=
  { node with connection := Function.update node.connection i c }

/-- A function of a connection, called on one of the node's. -/
def onConnection {α : Type} (node : Node) (i : Nat) (f : Connection → α × Connection) : α × Node :=
  ((f (node.connection i)).1, node.setConnection i (f (node.connection i)).2)

def modifyConnection (node : Node) (i : Nat) (f : Connection → Connection) : Node :=
  node.setConnection i (f (node.connection i))

def setClient (node : Node) (i : Nat) (client : ClientRecord) : Node :=
  { node with client := Function.update node.client i client }

def setHandshakeState (node : Node) (i : Nat) (handshakeState : HandshakeState) : Node :=
  node.setClient i { node.client i with handshakeState := handshakeState }

def setRequest (node : Node) (i : Nat) (request : NodeRequest) : Node :=
  { node with request := Function.update node.request i request }

def addEffect (node : Node) (effect : Effect) : Node :=
  { node with effects := node.effects ++ [effect] }

end Node

end

end RobotRaconteurLite
