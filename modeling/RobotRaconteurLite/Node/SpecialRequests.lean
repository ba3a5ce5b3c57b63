import RobotRaconteurLite.Node.Events

/-!
# Special requests (`node.c`)

The requests that the node answers itself: those that set up a connection and
those that ask what a service is. A status of `CONSUMED` says that the event was
dealt with, and `SUCCESS` that it is for the next one to look at.

An assertion that fails ends the program, and what a build without assertions
does there is modelled.
-/

namespace RobotRaconteurLite

/-- `RobotRaconteur.ServiceNotFound`. -/
def SERVICE_NOT_FOUND : List UInt8 :=
  [0x52, 0x6f, 0x62, 0x6f, 0x74, 0x52, 0x61, 0x63, 0x6f, 0x6e, 0x74, 0x65, 0x75, 0x72, 0x2e, 0x53,
   0x65, 0x72, 0x76, 0x69, 0x63, 0x65, 0x4e, 0x6f, 0x74, 0x46, 0x6f, 0x75, 0x6e, 0x64]

/-- `Service not found`. -/
def SERVICE_NOT_FOUND_MESSAGE : List UInt8 :=
  [0x53, 0x65, 0x72, 0x76, 0x69, 0x63, 0x65, 0x20, 0x6e, 0x6f, 0x74, 0x20, 0x66, 0x6f, 0x75, 0x6e,
   0x64]

/-- `RobotRaconteur.InvalidOperation`. -/
def INVALID_OPERATION : List UInt8 :=
  [0x52, 0x6f, 0x62, 0x6f, 0x74, 0x52, 0x61, 0x63, 0x6f, 0x6e, 0x74, 0x65, 0x75, 0x72, 0x2e, 0x49,
   0x6e, 0x76, 0x61, 0x6c, 0x69, 0x64, 0x4f, 0x70, 0x65, 0x72, 0x61, 0x74, 0x69, 0x6f, 0x6e]

/-- `Invalid operation`. -/
def INVALID_OPERATION_MESSAGE : List UInt8 :=
  [0x49, 0x6e, 0x76, 0x61, 0x6c, 0x69, 0x64, 0x20, 0x6f, 0x70, 0x65, 0x72, 0x61, 0x74, 0x69, 0x6f,
   0x6e]

/-- `RobotRaconteur.ObjectNotFound`. -/
def OBJECT_NOT_FOUND : List UInt8 :=
  [0x52, 0x6f, 0x62, 0x6f, 0x74, 0x52, 0x61, 0x63, 0x6f, 0x6e, 0x74, 0x65, 0x75, 0x72, 0x2e, 0x4f,
   0x62, 0x6a, 0x65, 0x63, 0x74, 0x4e, 0x6f, 0x74, 0x46, 0x6f, 0x75, 0x6e, 0x64]

/-- `Object not found`. -/
def OBJECT_NOT_FOUND_MESSAGE : List UInt8 :=
  [0x4f, 0x62, 0x6a, 0x65, 0x63, 0x74, 0x20, 0x6e, 0x6f, 0x74, 0x20, 0x66, 0x6f, 0x75, 0x6e, 0x64]

/-- `servicedef`. -/
def SERVICEDEF : List UInt8 :=
  [0x73, 0x65, 0x72, 0x76, 0x69, 0x63, 0x65, 0x64, 0x65, 0x66]

/-- `attributes`. -/
def ATTRIBUTES : List UInt8 :=
  [0x61, 0x74, 0x74, 0x72, 0x69, 0x62, 0x75, 0x74, 0x65, 0x73]

/-- `servicetype`. -/
def SERVICETYPE_LOWER : List UInt8 :=
  [0x73, 0x65, 0x72, 0x76, 0x69, 0x63, 0x65, 0x74, 0x79, 0x70, 0x65]

/-- `ServiceType`. -/
def SERVICETYPE : List UInt8 :=
  [0x53, 0x65, 0x72, 0x76, 0x69, 0x63, 0x65, 0x54, 0x79, 0x70, 0x65]

/-- `objecttype`. -/
def OBJECTTYPE : List UInt8 :=
  [0x6f, 0x62, 0x6a, 0x65, 0x63, 0x74, 0x74, 0x79, 0x70, 0x65]

/-- `objectimplements`. -/
def OBJECTIMPLEMENTS : List UInt8 :=
  [0x6f, 0x62, 0x6a, 0x65, 0x63, 0x74, 0x69, 0x6d, 0x70, 0x6c, 0x65, 0x6d, 0x65, 0x6e, 0x74, 0x73]

section

variable [SizeT]

def Event.requestHeader (event : Event) : MessageEntryConstHeader :=
  event.receivedMessage.receivedMessageEntryHeader

/-! ## Setting up a connection -/

/-- The event is consumed, whatever that answers. -/
def Node.consumed (node : Node) (event : Event) : Node := (node.consumeEvent event).2

/-- `robotraconteurlite_node_event_special_request_handle_error`. -/
def specialRequestHandleError (node : Node) (event : Event) (err : Status) : Result Unit × Node :=
  if err = .retry then (.error .retry, node)
  else (.error .consumed, (node.modifyConnection event.connection connectionError).consumed event)

/-- `robotraconteurlite_node_event_special_request_service_definition_reply_service_not_found`. -/
def replyServiceNotFound (node : Node) (event : Event) : Result Unit × Node :=
  connectionSendMessageentryErrorResponse node event.connection event.requestHeader
    MESSAGEERRORTYPE_SERVICENOTFOUND SERVICE_NOT_FOUND SERVICE_NOT_FOUND_MESSAGE

/-- An endpoint is chosen when the first message needs one. -/
def connectionChooseLocalEndpoint (c : Connection) : Connection :=
  if c.localEndpoint = 0 then
    { c with localEndpoint := c.randPlan.headD 0, randPlan := c.randPlan.tail }
  else c

/-- The address of the connection is left out of version 4 headers from here on. -/
def connectionReduceHeader4 (c : Connection) : Connection :=
  if flagsCheck c.configFlags CONFIG_FLAGS_ENABLE_REDUCED_HEADER4 then
    { c with messageFlagsInvMask := MESSAGE_FLAGS_ROUTING_INFO ||| MESSAGE_FLAGS_ENDPOINT_INFO }
  else c

/-- The response to `STREAMOP`: the capabilities that were found in the request, if any. -/
def streamopRespond (node : Node) (event : Event) (capsFlags : BitVec 32) : Result Unit × Node :=
  let i := event.connection
  if capsFlags = 0 then nodeSendMessageentryEmptyResponse node i event.requestHeader
  else
    match nodeBeginSendMessageentryResponse node i event.requestHeader with
    | (.error e, node) => (.error e, node)
    | (.ok sendData, node) =>
        match nodeWriteElements node i sendData (nodeTransportPopulateCapabilities capsFlags) with
        | (.error _, node) => (.error .internalError, node)
        | (.ok sendData, node) => nodeEndSendMessageentry node i sendData

/-- The case of `STREAMOP`, for `CreateConnection` on a server that is not established. -/
def specialRequestStreamop (node : Node) (event : Event) : Result Unit × Node :=
  let i := event.connection
  let node := node.modifyConnection i fun c =>
    { c with remoteNodeid := event.receivedMessage.receivedMessageHeader.senderNodeid }
  let capsFlags :=
    if event.requestHeader.elementCount > 0 then
      nodeTransportParseCapabilities event.receivedMessage.entryReader
    else 0
  let node :=
    if flagsCheck capsFlags CONNECTION_PARSE_CAPABILITY_MESSAGE4 then
      node.modifyConnection i (·.setState STATUS_FLAGS_SEND_MESSAGE4)
    else node
  match streamopRespond node event capsFlags with
  | (.error e, node) => specialRequestHandleError node event e
  | (.ok (), node) =>
      (.error .consumed,
        (node.modifyConnection i (·.setState STATUS_FLAGS_ESTABLISHED)).consumed event)

/-- The service a client connects to by its name. -/
def nodeFindConnectedService (node : Node) (services : List Nat) (servicePath : ConstString) :
    Option Nat :=
  services.find? fun s => stringCmp servicePath.data (node.service s).serviceName.data == 0

/-- The case of `CONNECTCLIENT`, once the service is known. -/
def specialRequestConnectclient2 (node : Node) (event : Event) (connectedService : Option Nat) :
    Result Unit × Node :=
  let i := event.connection
  let node := node.modifyConnection i fun c =>
    { connectionChooseLocalEndpoint c with
      remoteEndpoint := event.receivedMessage.receivedMessageHeader.senderEndpoint }
  match nodeSendMessageentryEmptyResponse node i event.requestHeader with
  | (.error e, node) => specialRequestHandleError node event e
  | (.ok (), node) =>
      let node := node.modifyConnection i fun c =>
        connectionReduceHeader4
          { c.setState STATUS_FLAGS_CLIENT_ESTABLISHED with service := connectedService }
      (.error .consumed, node.consumed event)

/-- The case of `CONNECTCLIENT`. -/
def specialRequestConnectclient (node : Node) (event : Event) : Result Unit × Node :=
  match node.servicesHead with
  | none => specialRequestConnectclient2 node event none
  | some services =>
      match nodeFindConnectedService node services event.requestHeader.servicePath with
      | some s => specialRequestConnectclient2 node event (some s)
      | none =>
          match replyServiceNotFound node event with
          | (.error e, node) => specialRequestHandleError node event e
          | (.ok (), node) => (.error .consumed, node.consumed event)

/-- The empty response to a request that needs no more than that. -/
def specialRequestEmpty (node : Node) (event : Event) : Result Unit × Node :=
  match nodeSendMessageentryEmptyResponse node event.connection event.requestHeader with
  | (.error e, node) => specialRequestHandleError node event e
  | (.ok (), node) => (.error .consumed, node.consumed event)

/-- What is left: a request is answered with an error, and anything else is passed on. -/
def specialRequestDefault (node : Node) (event : Event) : Result Unit × Node :=
  if event.requestHeader.entryType % 2 = 1 then
    match connectionSendMessageentryErrorResponse node event.connection event.requestHeader
        MESSAGEERRORTYPE_INVALIDOPERATION INVALID_OPERATION INVALID_OPERATION_MESSAGE with
    | (.error .retry, node) => (.error .retry, node)
    | (_, node) => (.error .consumed, node.consumed event)
  else (.ok (), node)

/-- The case of `DISCONNECTCLIENT`. -/
def specialRequestDisconnectclient (node : Node) (event : Event) : Result Unit × Node :=
  let i := event.connection
  let node := node.modifyConnection i fun c =>
    { c.clearState STATUS_FLAGS_CLIENT_ESTABLISHED with service := none }
  if ¬ connectionIsServer (node.connection i) then specialRequestDefault (node.consumed event) event
  else specialRequestEmpty node event

/-- The case of `CONNECTIONTEST` and of `GETNODEINFO`. -/
def specialRequestConnectiontest (node : Node) (event : Event) : Result Unit × Node :=
  if ¬ connectionIsServer (node.connection event.connection) then
    specialRequestDefault (node.consumed event) event
  else specialRequestEmpty node event

/-- The case of `STREAMOPRET`, for `CreateConnection` on a client that is not established. -/
def specialRequestStreamopret (node : Node) (event : Event) : Result Unit × Node :=
  let capsFlags := nodeTransportParseCapabilities event.receivedMessage.entryReader
  (.ok (), node.modifyConnection event.connection fun c =>
    let c := { c with remoteNodeid := event.receivedMessage.receivedMessageHeader.senderNodeid }
    let c := c.setState STATUS_FLAGS_ESTABLISHED
    if flagsCheck capsFlags CONNECTION_PARSE_CAPABILITY_MESSAGE4 then
      connectionReduceHeader4 (c.setState STATUS_FLAGS_SEND_MESSAGE4)
    else c)

/-- The case of `CONNECTCLIENTRET`, on a client that is not established with a service. -/
def specialRequestConnectclientret (node : Node) (event : Event) : Result Unit × Node :=
  (.ok (), node.modifyConnection event.connection fun c =>
    { c with
      remoteEndpoint := event.receivedMessage.receivedMessageHeader.senderEndpoint }.setState
        STATUS_FLAGS_CLIENT_ESTABLISHED)

/-- Whether the member is `CreateConnection` and the connection has no node at the other end
yet. -/
def createsConnection (node : Node) (event : Event) : Bool :=
  stringCmp event.requestHeader.memberName.data CREATE_CONNECTION == 0 &&
    !(node.connection event.connection).checkState STATUS_FLAGS_ESTABLISHED

/-- `robotraconteurlite_node_event_special_request`. -/
def nodeEventSpecialRequest (node : Node) (event : Event) : Result Unit × Node :=
  let entryType := event.requestHeader.entryType
  let isServer := connectionIsServer (node.connection event.connection)
  if entryType > 500 then (.ok (), node)
  else
    match event.eventErrorCode with
    | .error _ =>
        (.error .consumed, (node.modifyConnection event.connection connectionError).consumed event)
    | .ok () =>
        if entryType = MESSAGEENTRYTYPE_STREAMOP then
          if createsConnection node event && isServer then specialRequestStreamop node event
          else specialRequestDefault node event
        else if entryType = MESSAGEENTRYTYPE_GETSERVICEDESC ∨
            entryType = MESSAGEENTRYTYPE_OBJECTTYPENAME then (.ok (), node)
        else if entryType = MESSAGEENTRYTYPE_CONNECTCLIENT then
          specialRequestConnectclient node event
        else if entryType = MESSAGEENTRYTYPE_DISCONNECTCLIENT then
          specialRequestDisconnectclient node event
        else if entryType = MESSAGEENTRYTYPE_CONNECTIONTEST ∨
            entryType = MESSAGEENTRYTYPE_GETNODEINFO then specialRequestConnectiontest node event
        else if entryType = MESSAGEENTRYTYPE_STREAMOPRET then
          if createsConnection node event && !isServer then specialRequestStreamopret node event
          else specialRequestDefault node event
        else if entryType = MESSAGEENTRYTYPE_CONNECTCLIENTRET then
          if !isServer &&
              !(node.connection event.connection).checkState STATUS_FLAGS_CLIENT_ESTABLISHED then
            specialRequestConnectclientret node event
          else specialRequestDefault node event
        else if entryType = MESSAGEENTRYTYPE_CONNECTIONTESTRET then
          (.error .consumed, node.consumed event)
        else specialRequestDefault node event

/-! ## What a service is -/

/-- `robotraconteurlite_node_find_service_for_path`: the first segment of the path names the
service. -/
def nodeFindServiceForPath (node : Node) (services : List Nat) (servicePath : ConstString) :
    Option Nat :=
  match servicePath.data with
  | [] => none
  | b :: rest =>
      let servicePathPrefix := b :: rest.takeWhile (· ≠ 46)
      services.find? fun s =>
        stringHash (node.service s).serviceName.data == stringHash servicePathPrefix &&
          stringCmp (node.service s).serviceName.data servicePathPrefix == 0

/-- `robotraconteurlite_node_find_service_object_for_path`, among the objects of a service. -/
def findServiceObjectForPath (serviceObjects : List ServiceObjectRecord)
    (servicePath : ConstString) : Option ServiceObjectRecord :=
  if servicePath.len = 0 then none
  else
    serviceObjects.find? fun c =>
      stringHash c.servicePath.data == stringHash servicePath.data &&
        stringCmp c.servicePath.data servicePath.data == 0

/-- `robotraconteurlite_node_find_service_definition`. -/
def findServiceDefinition (serviceDefs : List ServiceDefinition) (qualifiedName : List UInt8) :
    Option ServiceDefinition :=
  if qualifiedName.length = 0 then none
  else
    serviceDefs.find? fun c =>
      stringHash c.qualifiedName.data == stringHash qualifiedName &&
        stringCmp c.qualifiedName.data qualifiedName == 0

/-- The loop of `split_qualified_type`, from index `i` downwards: the service type, up to the
last period. -/
def splitServiceTypeLoop (qualifiedType : List UInt8) : Nat → Option (List UInt8)
  | 0 => none
  | i + 1 =>
      if qualifiedType.getD (i + 1) 0 = 46 then some (qualifiedType.take (i + 1))
      else splitServiceTypeLoop qualifiedType i

/-- `robotraconteurlite_node_find_service_definition_for_entry`. -/
def findServiceDefinitionForEntry (serviceDefs : List ServiceDefinition)
    (qualifiedType : List UInt8) : Option ServiceDefinition :=
  (splitServiceTypeLoop qualifiedType (qualifiedType.length - 2)).bind
    (findServiceDefinition serviceDefs)

/-- A response to the endpoint the request came from, even before a client is connected. -/
def nodeSendResponseToSender (node : Node) (event : Event) (elements : List ElementTree) :
    Result Unit × Node :=
  let i := event.connection
  let oldRemoteEndpoint := (node.connection i).remoteEndpoint
  let node := node.modifyConnection i fun c =>
    { c with remoteEndpoint := event.receivedMessage.receivedMessageHeader.senderEndpoint }
  let (rv, node) := nodeBeginSendMessageentryResponse node i event.requestHeader
  let node := node.modifyConnection i fun c => { c with remoteEndpoint := oldRemoteEndpoint }
  match rv with
  | .error e => (.error e, node)
  | .ok sendData =>
      match nodeWriteElements node i sendData elements with
      | (.error e, node) => (.error e, node)
      | (.ok sendData, node) => nodeEndSendMessageentry node i sendData

/-- `robotraconteurlite_node_event_special_request_service_definition_reply_service_def`. -/
def replyServiceDef (node : Node) (event : Event) (serviceDef : ConstString) :
    Result Unit × Node :=
  nodeSendResponseToSender node event
    [stringElement SERVICEDEF serviceDef,
      .nested { MessageElementHeaderOf.zero (.constant []) with
        elementType := DATATYPE_MAP_STRING, elementName := .constant ATTRIBUTES } []]

/-- The definition for the root object of the service that the path is in. It is not looked whether
the service has one. -/
def replyServiceDefForPath (node : Node) (event : Event) (services : List Nat)
    (serviceDefs : List ServiceDefinition) : Result Unit × Node :=
  match nodeFindServiceForPath node services event.requestHeader.servicePath with
  | none => replyServiceNotFound node event
  | some srv =>
      match (node.service srv).rootServiceObject with
      | none => (.error .undefined, node)
      | some rootServiceObject =>
          match findServiceDefinitionForEntry serviceDefs rootServiceObject.qualifiedType.data with
          | none => replyServiceNotFound node event
          | some serviceDef => replyServiceDef node event serviceDef.serviceDefinition

/-- `robotraconteurlite_node_event_special_request_service_definition`. Both spellings of the
element are looked for, and what the first look finds is not used. -/
def specialRequestServiceDefinition (node : Node) (event : Event) : Result Unit × Node :=
  match node.servicesHead, node.serviceDefsHead with
  | some services, some serviceDefs =>
      let entryReader := event.receivedMessage.entryReader
      match messageEntryReaderFindElement entryReader (.constant SERVICETYPE_LOWER),
          messageEntryReaderFindElement entryReader (.constant SERVICETYPE) with
      | .error e1, found =>
          if e1 ≠ .messageElementNotFound then replyServiceNotFound node event
          else replyByServicetype services serviceDefs found
      | .ok _, found => replyByServicetype services serviceDefs found
  | _, _ => (.error .undefined, node)
where
  replyByServicetype (services : List Nat) (serviceDefs : List ServiceDefinition) :
      Result MessageElementReader → Result Unit × Node
    | .error e =>
        if e ≠ .messageElementNotFound then replyServiceNotFound node event
        else replyServiceDefForPath node event services serviceDefs
    | .ok elementReader =>
        match messageElementReaderReadDataString elementReader MESSAGE_STR_MAX_SIZE with
        | .error _ => replyServiceNotFound node event
        | .ok servicetype =>
            match findServiceDefinition serviceDefs servicetype with
            | none => replyServiceNotFound node event
            | some serviceDef => replyServiceDef node event serviceDef.serviceDefinition

/-- The elements of the response to `OBJECTTYPENAME`. The implemented types are numbered. -/
def objectTypeElements (serviceObject : ServiceObjectRecord) : List ElementTree :=
  let implemented := serviceObject.implementedQualifiedTypes
  stringElement OBJECTTYPE serviceObject.qualifiedType ::
    if implemented.len > 0 then
      [.nested { MessageElementHeaderOf.zero (.constant []) with
          elementName := .constant OBJECTIMPLEMENTS, elementType := DATATYPE_LIST }
        ((listSegments implemented.data).mapIdx fun listI o =>
          stringElement ((Nat.toDigits 10 listI).map fun digit => digit.toNat.toUInt8)
            (implemented.part o))]
    else []

/-- The `ObjectNotFound` error response. -/
def replyObjectNotFound (node : Node) (event : Event) : Result Unit × Node :=
  connectionSendMessageentryErrorResponse node event.connection event.requestHeader
    MESSAGEERRORTYPE_OBJECTNOTFOUND OBJECT_NOT_FOUND OBJECT_NOT_FOUND_MESSAGE

/-- `robotraconteurlite_node_event_special_request_object_type_name`. -/
def specialRequestObjectTypeName (node : Node) (event : Event)
    (serviceObjects : List ServiceObjectRecord) : Result Unit × Node :=
  match findServiceObjectForPath serviceObjects event.requestHeader.servicePath with
  | some serviceObject => nodeSendResponseToSender node event (objectTypeElements serviceObject)
  | none => replyObjectNotFound node event

/-- `robotraconteurlite_node_event_special_request_object_type_name2`. -/
def specialRequestObjectTypeName2 (node : Node) (event : Event) : Result Unit × Node :=
  match node.servicesHead with
  | none => (.error .undefined, node)
  | some services =>
      match nodeFindServiceForPath node services event.requestHeader.servicePath with
      | some obj => specialRequestObjectTypeName node event (node.service obj).serviceObjects
      | none => replyObjectNotFound node event

end

end RobotRaconteurLite
