import RobotRaconteurLite.Base
import RobotRaconteurLite.Lib.LinkedList

/-!
# The connection list of a node

Connections and acceptors are objects of one list, whose links lie in the
objects. A node knows the first and the last object of its list and a cursor,
the connection whose events it asks for next. The list can also be changed
behind the node's back, by the functions that know only its head.

What a connection has to report is a matter of its state, so a call for the next
event is given which connections report one. A call that does not return, because
the links it follows do not end, or that follows a null pointer has no result.
-/

namespace RobotRaconteurLite

open LinkedList

/-- An object of a connection list, by its type. -/
inductive ConnectionObjectRef
  | listHead (n : Nat)
  | connection (n : Nat)
  | acceptor (n : Nat)
  deriving DecidableEq, Repr

/-- Whether `connection_cast` succeeds. -/
def ConnectionObjectRef.isConnection : ConnectionObjectRef → Bool
  | .connection _ => true
  | _ => false

/-- The node's part of the list, with the links of all objects. -/
structure NodeConnections where
  connectionsHead : Option ConnectionObjectRef
  connectionsTail : Option ConnectionObjectRef
  connectionsNext : Option ConnectionObjectRef
  links : Links ConnectionObjectRef

/-! ## `connection.c` -/

def connectionFirst (fuel : Nat) (links : Links ConnectionObjectRef)
    (obj : Option ConnectionObjectRef) : Option (Option ConnectionObjectRef) :=
  walkFind links.next ConnectionObjectRef.isConnection fuel obj

def connectionNext (fuel : Nat) (links : Links ConnectionObjectRef) :
    Option ConnectionObjectRef → Option (Option ConnectionObjectRef)
  | none => some none
  | some obj => walkFind links.next ConnectionObjectRef.isConnection fuel (links.next obj)

def connectionListAppend (fuel : Nat) (links : Links ConnectionObjectRef)
    (connectionsHead value : ConnectionObjectRef) : Option (Links ConnectionObjectRef) :=
  (walkLast links.next fuel connectionsHead).map fun c =>
    (links.setNext c (some value)).setPrev value (some c)

def connectionListRemove (links : Links ConnectionObjectRef) (value : ConnectionObjectRef) :
    Links ConnectionObjectRef :=
  ((links.unlink value).setNext value none).setPrev value none

/-- The links of a constructed connection, in the list if there is one. -/
def connectionConstructLinks (fuel : Nat) (links : Links ConnectionObjectRef)
    (connection : ConnectionObjectRef) (connectionsHead : Option ConnectionObjectRef) :
    Option (Links ConnectionObjectRef) :=
  let links := (links.setNext connection none).setPrev connection none
  match connectionsHead with
  | none => some links
  | some head => connectionListAppend fuel links head connection

/-! ## `node.c` -/

def nodeInit (fuel : Nat) (links : Links ConnectionObjectRef)
    (connectionsHead : Option ConnectionObjectRef) : Option NodeConnections :=
  match connectionsHead with
  | none => some { connectionsHead, connectionsTail := none, connectionsNext := none, links }
  | some head =>
      match walkLast links.next fuel head, connectionFirst fuel links connectionsHead with
      | some c, some first =>
          some { connectionsHead, connectionsTail := some c, connectionsNext := first, links }
      | _, _ => none

def nodeAddConnection (node : NodeConnections) (connection : ConnectionObjectRef) :
    Option NodeConnections :=
  match node.connectionsHead with
  | some _ =>
      -- A tail that is missing is written through all the same.
      node.connectionsTail.map fun tail =>
        { node with
          links := (node.links.setNext tail (some connection)).setPrev connection (some tail)
          connectionsTail := some connection }
  | none =>
      some { node with
        connectionsHead := some connection
        connectionsTail := some connection
        connectionsNext := some connection }

def nodeRemoveConnection (node : NodeConnections) (connection : ConnectionObjectRef) :
    NodeConnections :=
  { node with
    links := node.links.unlink connection
    connectionsHead :=
      if node.links.prev connection = none then node.links.next connection else node.connectionsHead
    connectionsTail :=
      if node.links.next connection = none then node.links.prev connection else node.connectionsTail }

/-- What `next_event` returns: the connection that reports an event, or `none` for the end
of a cycle. -/
abbrev NodeEvent := Option ConnectionObjectRef

/-- The loop of `next_event`, at a connection: the event and the new cursor. -/
def nodeNextEventLoop (links : Links ConnectionObjectRef) (reports : ConnectionObjectRef → Bool) :
    Nat → ConnectionObjectRef → Option (NodeEvent × Option ConnectionObjectRef)
  | 0, _ => none
  | fuel + 1, c =>
      match connectionNext fuel links (some c) with
      | none => none
      | some next =>
          if reports c then some (some c, next)
          else
            match next with
            | none => some (none, none)
            | some c' => nodeNextEventLoop links reports fuel c'

def nodeNextEvent (fuel : Nat) (node : NodeConnections) (reports : ConnectionObjectRef → Bool) :
    Option (NodeEvent × NodeConnections) :=
  match node.connectionsNext with
  | none => some (none, node)
  | some c =>
      (nodeNextEventLoop node.links reports fuel c).map fun (event, next) =>
        (event, { node with connectionsNext := next })

/-- An event of a connection is consumed by the connection alone. -/
def nodeConsumeEvent (fuel : Nat) (node : NodeConnections) : NodeEvent → Option NodeConnections
  | none => (connectionNext fuel node.links node.connectionsHead).map fun next =>
      { node with connectionsNext := next }
  | some _ => some node

end RobotRaconteurLite
