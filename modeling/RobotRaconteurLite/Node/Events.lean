import RobotRaconteurLite.Node.Messages

/-!
# The events of a node (`node.c`)

In every cycle the node asks each connection of its list in turn what it has to
report, and reports one event at a time. An event stays pending until it is
consumed, which is a flag of the connection.
-/

namespace RobotRaconteurLite

section

variable [SizeT]

/-! ## Events -/

/-- The event of a type that a connection reports, with nothing received. -/
def eventOf (eventType : EventType) (i : Nat) (now : Int64) : Event where
  eventType := eventType
  connection := i
  eventTime := now
  receivedMessage := .zero
  eventErrorCode := .ok ()

/-- What a connection that is not idle reports, without the heartbeat: the first that applies. -/
def connectionPendingEvent (c : Connection) : Option EventType :=
  if connectionIsClosedEvent c then some .connectionClosed
  else if connectionIsError c then some .connectionError
  else if connectionIsConnectedEvent c then some .connectionConnected
  else if connectionIsMessageSentEvent c then some .messageSendComplete
  else if connectionIsMessageReceivedEvent c then some .messageReceived
  else if connectionIsClientSocketConnectedEvent c then some .connectionClientSocketConnected
  else none

/-- The event itself. A received message is read when it is reported. -/
def connectionEventOf (c : Connection) (eventType : EventType) (i : Nat) (now : Int64) : Event :=
  match eventType with
  | .messageReceived =>
      { eventOf .messageReceived i now with
        receivedMessage := (nodeReceiveMessageentry c).1
        eventErrorCode := (nodeReceiveMessageentry c).2 }
  | eventType => eventOf eventType i now

/-- The heartbeat of a connection that reports nothing else: its timeout, and the connection with
the time of the next check. -/
def connectionHeartbeat (c : Connection) (now : Int64) : Option EventType × Connection :=
  if c.heartbeatNextCheckUs < now then
    let c := { c with heartbeatNextCheckUs := now + c.heartbeatPeriodMs.toInt64 * 1000 }
    match connectionIsHeartbeatTimeout c now with
    | 0 => (none, c)
    | 1 => (some .connectionHeartbeatTimeout, c)
    | _ => (some .connectionTimeout, c)
  else (none, c)

/-- The loop of `next_event`, at a cursor: the event, the connections and the new cursor. -/
def Node.nextEventLoop (connection : Nat → Connection) (now : Int64) :
    List Nat → Option Event × (Nat → Connection) × List Nat
  | [] => (none, connection, [])
  | i :: rest =>
      if connectionIsIdle (connection i) then Node.nextEventLoop connection now rest
      else
        match connectionPendingEvent (connection i) with
        | some eventType => (some (connectionEventOf (connection i) eventType i now), connection, rest)
        | none =>
            let (timeout, c) := connectionHeartbeat (connection i) now
            let connection := Function.update connection i c
            match timeout with
            | some eventType => (some (eventOf eventType i now), connection, rest)
            | none => Node.nextEventLoop connection now rest

/-- `robotraconteurlite_node_next_event`, which cannot fail. -/
def Node.nextEvent (node : Node) (now : Int64) : Event × Node :=
  match Node.nextEventLoop node.connection now node.connectionsNext with
  | (none, connection, rest) =>
      (eventOf .nextCycle 0 now, { node with connection, connectionsNext := rest })
  | (some event, connection, rest) =>
      (event, { node with
        connection, connectionsNext := rest, eventsServiced := node.eventsServiced + 1 })

/-- `robotraconteurlite_node_consume_event`. An error and a timeout cannot be consumed. -/
def Node.consumeEvent (node : Node) (event : Event) : Result Unit × Node :=
  let consume (f : Connection → Connection) : Result Unit × Node :=
    (.ok (), node.modifyConnection event.connection f)
  match event.eventType with
  | .nextCycle =>
      (.ok (), { node with
        connectionsNext := if node.headIsConnection then node.connections.tail else node.connections
        eventsServiced := 0 })
  | .connectionClosed => consume connectionConsumeClosed
  | .connectionConnected => consume connectionConsumeConnected
  | .messageReceived => consume connectionConsumeMessageReceived
  | .messageSendComplete => consume connectionConsumeMessageSent
  | .connectionClientSocketConnected => consume connectionConsumeClientSocketConnectedEvent
  | .connectionError | .connectionHeartbeatTimeout | .connectionTimeout => (.ok (), node)
  | .noop => (.error .invalidOperation, node)

/-! ## Handlers -/

/-- A call that the application makes in a handler, or between events. -/
def nodeAppCall (node : Node) : AppCall → Node
  | .close i => node.modifyConnection i connectionClose
  | .send i header elements => (nodeSendMessageentry node i header elements).2

/-- A handler is called: it is given the next of the answers, or does nothing and returns
success when there are no more. -/
def nodeCallHandler (node : Node) (handler : HandlerCall) : Result Unit × Node :=
  let node := node.addEffect (.call handler)
  match node.answers with
  | [] => (.ok (), node)
  | answer :: answers => (answer.status, answer.calls.foldl nodeAppCall { node with answers })

/-- A handler that returns nothing, where it is there. -/
def nodeNotify (node : Node) (there : Bool) (handler : HandlerCall) : Node :=
  if there then (nodeCallHandler node handler).2 else node

end

end RobotRaconteurLite
