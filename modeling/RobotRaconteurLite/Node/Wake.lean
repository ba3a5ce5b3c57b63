import RobotRaconteurLite.Node.Events

/-!
# When a node has to wake (`node.c`, `connection.c`)

Between two cycles the application may sleep. `next_wake` asks each connection
and each request in turn, and every one of them may bring the time to wake
forward. A connection that has something to do at once sets it to now.
-/

namespace RobotRaconteurLite

/-- `ROBOTRACONTEURLITE_NODE_DEFAULT_SLEEP_TIME`. -/
def NODE_DEFAULT_SLEEP_TIME : Int64 := 5000

section

variable [SizeT]

/-- `robotraconteurlite_connection_next_wake`, which cannot fail. -/
def connectionNextWake (c : Connection) (now nextWake : Int64) : Int64 :=
  if c.checkState STATUS_FLAGS_IDLE then nextWake
  else if c.checkState (STATUS_FLAGS_CLOSE_REQUESTED ||| STATUS_FLAGS_ERROR) then now
  else if c.checkState STATUS_FLAGS_MESSAGE_SENT then now
  else if c.checkState STATUS_FLAGS_MESSAGE_RECEIVED then now
  else if c.heartbeatNextCheckUs > 0 ∧ (now > c.heartbeatNextCheckUs ∨
      (c.heartbeatNextCheckUs = 0 ∧ c.heartbeatPeriodMs > 0)) then now
  else
    let nextWake :=
      if c.heartbeatNextCheckUs > 0 ∧ c.heartbeatNextCheckUs < nextWake then c.heartbeatNextCheckUs
      else nextWake
    if c.transportNextWake > 0 ∧ c.transportNextWake < nextWake then c.transportNextWake
    else nextWake

/-- What a request makes of the time to wake. -/
def NodeRequest.nextWake (request : NodeRequest) (nextWake : Int64) : Int64 :=
  if request.timeoutTimespec ≠ 0 ∧ request.timeoutTimespec < nextWake then request.timeoutTimespec
  else nextWake

/-- `robotraconteurlite_node_next_wake`, which cannot fail. -/
def Node.nextWake (node : Node) (now wakeTime : Int64) : Int64 :=
  let wakeTime := if wakeTime = 0 then now + NODE_DEFAULT_SLEEP_TIME else wakeTime
  let wakeTime := node.connections.foldl
    (fun wakeTime i => connectionNextWake (node.connection i) now wakeTime) wakeTime
  match node.requestsHead with
  | none => wakeTime
  | some requests =>
      requests.foldl (fun wakeTime r => (node.request r).nextWake wakeTime) wakeTime

/-- The events of one connection, as `events_pending` counts them. -/
def connectionEventsPending (c : Connection) : Nat :=
  if connectionIsIdle c then 0
  else (connectionIsClosedEvent c).toNat + (connectionIsError c).toNat +
    (connectionIsConnectedEvent c).toNat + (connectionIsMessageSentEvent c).toNat +
    (connectionIsMessageReceivedEvent c).toNat + (connectionIsClientSocketConnectedEvent c).toNat

/-- `robotraconteurlite_node_events_pending`. -/
def Node.eventsPending (node : Node) : Nat :=
  (node.connections.map fun i => connectionEventsPending (node.connection i)).sum

end

end RobotRaconteurLite
