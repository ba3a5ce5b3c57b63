import RobotRaconteurLite.Node.Run

/-!
# Sending requests (`node.c`)

A client begins a request, writes its elements and sends it. The record of the
request takes the number that the message got, and joins the list of the node
when the message was queued, so that the response finds it. The handlers of the
request are put in between, because beginning a request clears them.
-/

namespace RobotRaconteurLite

section

variable [SizeT]

/-- The record of a request that is begun on connection `i` under a number. -/
def NodeRequest.begun (request : NodeRequest) (c : Connection) (i : Nat) (requestId : UInt32) :
    NodeRequest :=
  { request with
    timeoutTimespec := 0
    requestCompleted := false
    requestError := false
    connection := i
    requestId := requestId
    localEndpoint := c.localEndpoint
    requestStatus := .error .inProgress }

/-- `robotraconteurlite_client_begin_request`, for a client on connection `i`. A path that is not
given is the service that the connection is to. -/
def clientBeginRequest (node : Node) (i : Nat) (entryType : UInt16)
    (membername servicepath : Option ConstString) (request : Option Nat) :
    Result SendMessageentryData × Node :=
  let c := node.connection i
  let requestId := c.lastRequestId + 1
  let node := node.setConnection i { c with lastRequestId := requestId }
  let header : MessageEntryConstHeader := { MessageEntryHeaderOf.zero (.constant []) with
    entryType := entryType
    requestId := requestId
    servicePath := servicepath.getD (.constant c.remoteServiceName)
    memberName := membername.getD (.constant []) }
  let node :=
    match request with
    | none => node
    | some r => node.setRequest r ((node.request r).begun c i requestId)
  nodeBeginSendMessageentry node i header

/-- `robotraconteurlite_node_request_set_ops`. -/
def nodeRequestSetOps (request : NodeRequest) (requestCompleted requestError : Bool) : NodeRequest :=
  { request with requestCompleted, requestError }

/-- `robotraconteurlite_node_request_list_append`. -/
def Node.appendRequest (node : Node) (r : Nat) : Node :=
  { node with requestsHead := node.requestsHead.map (· ++ [r]) }

/-- `robotraconteurlite_client_send_request`. -/
def clientSendRequest (node : Node) (i : Nat) (sendData : SendMessageentryData)
    (request : Option Nat) : Result Unit × Node :=
  match nodeEndSendMessageentry node i sendData, request with
  | (.ok (), node), some r => (.ok (), node.appendRequest r)
  | out, _ => out

/-- `robotraconteurlite_client_send_empty_request`. -/
def clientSendEmptyRequest (node : Node) (i : Nat) (entryType : UInt16)
    (membername servicepath : Option ConstString) (request : Option Nat) : Result Unit × Node :=
  match clientBeginRequest node i entryType membername servicepath request with
  | (.error e, node) => (.error e, node)
  | (.ok sendData, node) => clientSendRequest node i sendData request

/-- What a received message says of the request with a number, and `otherwise` when it is not about
it. -/
def requestOutcome (event : Event) (requestId : UInt32) (otherwise : Status) : Result Unit :=
  if event.eventType ≠ .messageReceived then .error .unhandledEvent
  else if event.requestHeader.requestId = requestId then
    if event.requestHeader.error ≠ 0 then .error .requestRemoteError else .ok ()
  else .error otherwise

/-- `robotraconteurlite_client_end_request`. -/
def clientEndRequest (sendData : SendMessageentryData) (event : Event) : Result Unit :=
  requestOutcome event sendData.messageEntryHeader.requestId .unhandledEvent

/-- `robotraconteurlite_client_end_request2`. -/
def clientEndRequest2 (request : NodeRequest) (event : Event) : Result Unit :=
  requestOutcome event request.requestId .protocol

end

end RobotRaconteurLite
