import RobotRaconteurLite.Node.Handshake

/-!
# Running events (`node.c`)

`run_next_event2` takes the next event of a node and sees that it is dealt with:
by the node itself, by a service, by a client or by the application. An event
that nobody consumed comes again.
-/

namespace RobotRaconteurLite

/-- `RobotRaconteur.ProtocolError`. -/
def PROTOCOL_ERROR : List UInt8 :=
  [0x52, 0x6f, 0x62, 0x6f, 0x74, 0x52, 0x61, 0x63, 0x6f, 0x6e, 0x74, 0x65, 0x75, 0x72, 0x2e, 0x50,
   0x72, 0x6f, 0x74, 0x6f, 0x63, 0x6f, 0x6c, 0x45, 0x72, 0x72, 0x6f, 0x72]

/-- `Service connection not established`. -/
def PROTOCOL_ERROR_MESSAGE : List UInt8 :=
  [0x53, 0x65, 0x72, 0x76, 0x69, 0x63, 0x65, 0x20, 0x63, 0x6f, 0x6e, 0x6e, 0x65, 0x63, 0x74, 0x69,
   0x6f, 0x6e, 0x20, 0x6e, 0x6f, 0x74, 0x20, 0x65, 0x73, 0x74, 0x61, 0x62, 0x6c, 0x69, 0x73, 0x68,
   0x65, 0x64]

section

variable [SizeT]

/-! ## Pending requests -/

/-- `robotraconteurlite_node_request_list_remove`. -/
def Node.removeRequest (node : Node) (r : Nat) : Node :=
  { node with requestsHead := node.requestsHead.map (·.erase r) }

def Node.setRequestStatus (node : Node) (r : Nat) (status : Result Unit) : Node :=
  node.setRequest r { node.request r with requestStatus := status }

/-- Whether a request is the one a response is for. The head of the list has no connection, and
so is never found. -/
def NodeRequest.matches (request : NodeRequest) (c : Connection) (event : Event) : Bool :=
  request.requestId == event.requestHeader.requestId &&
    request.localEndpoint == c.localEndpoint && request.connection == event.connection

/-- The end of `dispatch_response_message`, once the request is found. -/
def dispatchToRequest (node : Node) (event : Event) (r : Nat) : Result Unit × Node :=
  let node := node.setRequestStatus r (.ok ())
  if (node.request r).requestCompleted then
    match nodeCallHandler (node.removeRequest r) (.requestCompleted r) with
    | (.error .retry, node) => (.error .retry, node)
    | (_, node) => (.error .consumed, node.consumed event)
  else
    match (node.connection event.connection).client with
    | none => (.ok (), node.removeRequest r)
    | some client =>
        if (node.client client).requestCompleted then
          match nodeCallHandler node (.clientRequestCompleted client r) with
          | (.error .retry, node) => (.error .retry, node)
          | (_, node) => (.error .consumed, (node.consumed event).removeRequest r)
        else (.ok (), node.removeRequest r)

/-- `robotraconteurlite_node_dispatch_response_message`. -/
def nodeDispatchResponseMessage (node : Node) (event : Event) : Result Unit × Node :=
  if event.eventType ≠ .messageReceived then (.error .internalError, node)
  else
    match node.requestsHead with
    | none => (.ok (), node)
    | some requests =>
        match requests.find? fun r =>
            (node.request r).matches (node.connection event.connection) event with
        | none => (.ok (), node)
        | some r => dispatchToRequest node event r

/-- Whether `process_control` takes a request out of the list. -/
def NodeRequest.expired (request : NodeRequest) (now : Int64) : Bool :=
  request.timeoutTimespec ≠ 0 && now > request.timeoutTimespec

/-- The loop of `requests_process_control`. The links of a request that was removed are null, so
the loop ends there. -/
def requestsProcessControlLoop (node : Node) (now : Int64) : List Nat → Node
  | [] => node
  | r :: rest =>
      if (node.request r).expired now then
        let node := (node.removeRequest r).setRequestStatus r (.error .timeout)
        nodeNotify node (node.request r).requestError (.requestError r)
      else requestsProcessControlLoop node now rest

/-- `robotraconteurlite_node_requests_process_control`, which cannot fail. -/
def nodeRequestsProcessControl (node : Node) (now : Int64) : Node :=
  match node.requestsHead with
  | none => node
  | some requests => requestsProcessControlLoop node now requests

/-- `robotraconteurlite_clock_timeout_from_now`, with what reading the clock answers. -/
def clockTimeoutFromNow (now : Result Int64) (timeoutUs : Int32) : Result Int64 :=
  now.map fun now => now + timeoutUs.toInt64

/-- `robotraconteurlite_node_request_set_timeout`. The product is one of 32 bits. -/
def nodeRequestSetTimeout (request : NodeRequest) (now : Result Int64) (timeoutMs : Int32) :
    Result Unit × NodeRequest :=
  match clockTimeoutFromNow now (timeoutMs * 1000) with
  | .error e => (.error e, request)
  | .ok timeoutOut => (.ok (), { request with timeoutTimespec := timeoutOut })

/-! ## Clients -/

/-- `robotraconteurlite_client_send_heartbeat`. The request id is cleared only after it was
written. -/
def clientSendHeartbeat (node : Node) (i : Nat) : Result Unit × Node :=
  let (header, node) :=
    node.onConnection i fun c => clientRequestHeader c MESSAGEENTRYTYPE_CONNECTIONTEST []
  match nodeBeginSendMessageentry node i header with
  | (.error e, node) => (.error e, node)
  | (.ok sendData, node) => nodeEndSendMessageentry node i sendData

/-- `robotraconteurlite_node_run_next_event__consume_event`. -/
def runConsumeEvent (node : Node) (event : Event) (returnedRv : Result Unit) :
    Result Unit × Node :=
  match returnedRv with
  | .error .retry => (.ok (), node)
  | .error e => (.error e, node.consumed event)
  | .ok () => node.consumeEvent event

/-- `robotraconteurlite_node_run_next_event__client_handshake`. -/
def runClientHandshake (node : Node) (event : Event) : Result Unit × Node :=
  let c := node.connection event.connection
  if c.checkState STATUS_FLAGS_CLIENT_ESTABLISHED then (.ok (), node)
  else
    match c.client with
    | none => (.error .undefined, node)
    | some client =>
        match clientHandshake node client event with
        | (.ok (), node) =>
            (.error .consumed, nodeNotify node (node.client client).connected (.connected client))
        | (.error .retry, node) => (.error .consumed, node)
        | (.error e, node) => (.error e, node)

/-- The message handler of a client. -/
def runClientMessage (node : Node) (event : Event) (client : Nat) : Result Unit × Node :=
  if (node.client client).messageReceived then
    match nodeCallHandler node (.clientMessageReceived client) with
    | (.error .retry, node) => (.error .retry, node)
    | (_, node) => (.error .consumed, node.consumed event)
  else (.ok (), node)

/-- `robotraconteurlite_node_run_next_event__client`. -/
def runClient (node : Node) (event : Event) : Result Unit × Node :=
  match runClientHandshake node event with
  | (.error e, node) => (.error e, node)
  | (.ok (), node) =>
      match (node.connection event.connection).client with
      | none => (.ok (), node)
      | some client =>
          match nodeDispatchResponseMessage node event with
          | (.error .consumed, node) => (.ok (), node)
          | (.error e, node) => (.error e, node)
          | (.ok (), node) => runClientMessage node event client

/-- `robotraconteurlite_node_run_next_event__client_connection_event`. -/
def runClientConnectionEvent (node : Node) (event : Event) : Node :=
  let i := event.connection
  match event.eventType with
  | .connectionClientSocketConnected => (runClientHandshake node event).2
  | .connectionClosed =>
      if (node.connection i).checkState STATUS_FLAGS_CLOSE_NOTIFIED then node
      else
        let node := node.modifyConnection i (·.setState STATUS_FLAGS_CLOSE_NOTIFIED)
        match (node.connection i).client with
        | none => node
        | some client => nodeNotify node (node.client client).disconnected (.disconnected client)
  | _ => node

/-! ## Services -/

/-- A service is told of a client, where it has a handler for that. -/
def notifyService (node : Node) (i : Nat) (service : Option Nat) (eventType : ServiceEventType) :
    Node :=
  match service with
  | none => node
  | some s => nodeNotify node (node.service s).clientEvent (.clientEvent i s eventType)

/-- The message handler of a service object. -/
def runServiceMessage (node : Node) (event : Event) (service : Nat)
    (serviceObject : ServiceObjectRecord) : Result Unit × Node :=
  match nodeDispatchResponseMessage node event with
  | (.error .consumed, node) => (.ok (), node)
  | (.error e, node) => (.error e, node)
  | (.ok (), node) =>
      if serviceObject.messageReceived then
        let (rv, node) := nodeCallHandler node (.serviceMessageReceived event.connection service)
        runConsumeEvent node event rv
      else (.error .notImplemented, node.consumed event)

/-- The end of `run_next_event__service`: a message for an object of the service. -/
def runServiceObject (node : Node) (event : Event) (service : Option Nat) : Result Unit × Node :=
  let i := event.connection
  let c := node.connection i
  if ¬ c.checkState STATUS_FLAGS_CLIENT_ESTABLISHED ∨ c.service = none then
    -- not connected
    connectionSendMessageentryErrorResponse (node.consumed event) i event.requestHeader
      MESSAGEERRORTYPE_PROTOCOLERROR PROTOCOL_ERROR PROTOCOL_ERROR_MESSAGE
  else
    match service with
    | none => (.error .undefined, node)
    | some s =>
        match findServiceObjectForPath (node.service s).serviceObjects
            event.requestHeader.servicePath with
        | none => replyObjectNotFound (node.consumed event) event
        | some serviceObject => runServiceMessage node event s serviceObject

/-- The messages that the special requests passed on. -/
def runServiceRequest (node : Node) (event : Event) (service : Option Nat) : Result Unit × Node :=
  let entryType := event.requestHeader.entryType
  if entryType = MESSAGEENTRYTYPE_GETSERVICEDESC then
    specialRequestServiceDefinition (node.consumed event) event
  else if entryType = MESSAGEENTRYTYPE_OBJECTTYPENAME then
    specialRequestObjectTypeName2 (node.consumed event) event
  else if entryType = MESSAGEENTRYTYPE_CLIENTKEEPALIVEREQ then
    match nodeSendMessageentryEmptyResponse node event.connection event.requestHeader with
    | (.error .retry, node) => (.error .retry, node)
    | (rv, node) => (rv, node.consumed event)
  else if entryType = MESSAGEENTRYTYPE_SERVICEPATHRELEASEDREQ then (.ok (), node.consumed event)
  else runServiceObject node event service

/-- `robotraconteurlite_node_run_next_event__service`. A client that connected is told to the
service it has now, one that left to the service it had. -/
def runService (node : Node) (event : Event) : Result Unit × Node :=
  let i := event.connection
  let s := (node.connection i).service
  match nodeEventSpecialRequest node event with
  | (.error .retry, node) => (.ok (), node)
  | (.error .consumed, node) =>
      if event.requestHeader.entryType = MESSAGEENTRYTYPE_CONNECTCLIENT then
        (.ok (), notifyService node i (node.connection i).service .clientConnected)
      else if event.requestHeader.entryType = MESSAGEENTRYTYPE_DISCONNECTCLIENT then
        (.ok (), notifyService node i s .clientDisconnected)
      else (.ok (), node)
  | (.error e, node) => (.error e, node)
  | (.ok (), node) => runServiceRequest node event s

/-- What `service_connection_error` does to a pending request. -/
def NodeRequest.failWith (request : NodeRequest) (c : Connection) (event : Event) (now : Int64) :
    NodeRequest :=
  if request.matches c event then { request with timeoutTimespec := now - 1 } else request

/-- `robotraconteurlite_node_run_next_event__service_connection_error`. The requests fail by
their timeout. -/
def runServiceConnectionError (node : Node) (event : Event) (now : Int64) : Node :=
  let i := event.connection
  let c := node.connection i
  if c.checkState STATUS_FLAGS_CLIENT_ESTABLISHED then
    let node := node.modifyConnection i fun c =>
      { c.clearState STATUS_FLAGS_CLIENT_ESTABLISHED with service := none }
    let node : Node := { node with
      request := fun r =>
        if r ∈ node.requestsHead.getD [] then (node.request r).failWith c event now
        else node.request r }
    notifyService node i c.service .clientDisconnected
  else node

/-! ## Events -/

/-- The node's own handler of an event, or consumption where there is none. -/
def runNodeHandler (node : Node) (event : Event) (there : Bool) (handler : HandlerCall) :
    Result Unit × Node :=
  if there then
    let (rv, node) := nodeCallHandler node handler
    runConsumeEvent node event rv
  else node.consumeEvent event

/-- The case of a received message. -/
def runMessageReceived (node : Node) (event : Event) : Result Unit × Node :=
  match if connectionIsServer (node.connection event.connection) then runService node event
    else runClient node event with
  | (.error .retry, node) => (.error .retry, node)
  | (.error .consumed, node) => (.ok (), node)
  | (.error e, node) => (.error e, node.modifyConnection event.connection connectionClose)
  | (.ok (), node) => node.consumeEvent event

/-- The switch of `run_next_event2` over the type of the event. -/
def nodeRunEvent (node : Node) (event : Event) (now : Int64) : Result Unit × Node :=
  let i := event.connection
  let isServer := connectionIsServer (node.connection i)
  match event.eventType with
  | .noop | .nextCycle =>
      -- run requests timeouts
      (nodeRequestsProcessControl node now).consumeEvent event
  | .connectionError | .connectionTimeout =>
      -- report to service or client
      let node := node.modifyConnection i connectionClose
      let node :=
        if isServer then runServiceConnectionError node event now
        else runClientConnectionEvent node event
      runNodeHandler node event node.connectionEvent (.connectionEvent i event.eventType)
  | .connectionConnected | .connectionClientSocketConnected | .connectionClosed =>
      let node := if isServer then node else runClientConnectionEvent node event
      runNodeHandler node event node.connectionEvent (.connectionEvent i event.eventType)
  | .connectionHeartbeatTimeout =>
      -- send a connection test packet
      (clientSendHeartbeat node i).2.consumeEvent event
  | .messageSendComplete =>
      runNodeHandler node event node.sendComplete (.sendComplete i)
  | .messageReceived => runMessageReceived node event

/-- `robotraconteurlite_node_run_next_event2`. -/
def nodeRunNextEvent2 (node : Node) (now : Int64) : Result Unit × Node :=
  nodeRunEvent (node.nextEvent now).2 (node.nextEvent now).1 now

end

end RobotRaconteurLite
