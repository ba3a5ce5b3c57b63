import RobotRaconteurLite.Node.Run

/-!
# The loops over events (`node.c`)

The application lets a node work through its events in cycles. A cycle takes one
event after the other until the node says that it came round, or until it was
given as many as it may take. When the work on an event fails the application is
told, and may send and close as in a handler.

The events that were taken are handed back with the node, for an observer.
-/

namespace RobotRaconteurLite

section

variable [SizeT]

/-- The call of `event_error_returned`, where the application has one: what it does when it is given
the event with the status in it. -/
def nodeEventErrorReturned (eventErrorReturned : Option (Event → List AppCall)) (node : Node)
    (event : Event) (eventRv : Result Unit) : Node :=
  match eventRv, eventErrorReturned with
  | .error e, some calls => (calls { event with eventErrorCode := .error e }).foldl nodeAppCall node
  | _, _ => node

/-- One round of the loop: the event, and the node that dealt with it. -/
def nodeRunCycleRound (eventErrorReturned : Option (Event → List AppCall)) (now : Int64)
    (node : Node) : Event × Node :=
  let event := (node.nextEvent now).1
  let (eventRv, node) := nodeRunNextEvent2 node now
  (event, nodeEventErrorReturned eventErrorReturned node event eventRv)

/-- The loop of `run_next_event_cycle`, with so many rounds left after this one. -/
def nodeRunNextEventCycleLoop (eventErrorReturned : Option (Event → List AppCall)) (now : Int64) :
    Nat → Node → List Event × Node
  | left, node =>
      let (event, node) := nodeRunCycleRound eventErrorReturned now node
      if event.eventType = .nextCycle then ([event], node)
      else
        match left with
        | 0 => ([event], node)
        | left + 1 =>
            let (events, node) := nodeRunNextEventCycleLoop eventErrorReturned now left node
            (event :: events, node)

/-- `robotraconteurlite_node_run_next_event_cycle`, which cannot fail. The first round is made in any
case. -/
def nodeRunNextEventCycle (eventErrorReturned : Option (Event → List AppCall)) (node : Node)
    (now : Int64) (maxEvents : Nat) : List Event × Node :=
  nodeRunNextEventCycleLoop eventErrorReturned now (maxEvents - 1) node

end

end RobotRaconteurLite
