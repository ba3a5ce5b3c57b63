import RobotRaconteurLite.Connection
import RobotRaconteurLite.NodeConnections

/-!
# Acceptors (`connection.c`)

An acceptor hands each socket it accepts to an idle connection of the list it is
in. Before the program waits, the acceptor asks to be woken by new sockets if
there is such a connection. The connections are looked for along the links, and
the flags that make one idle lie in the connections.
-/

namespace RobotRaconteurLite

def SOCKET_FLAGS_WANT_RECEIVE : BitVec 16 := 0x2

/-- `struct robotraconteurlite_connection_acceptor`. -/
structure ConnectionAcceptor where
  sock : Socket

/-- The links of a list, and `connection_state` of the connections in it. -/
structure ConnectionStates where
  links : LinkedList.Links ConnectionObjectRef
  connectionState : ConnectionObjectRef → BitVec 32

def ConnectionStates.isIdle (s : ConnectionStates) (c : ConnectionObjectRef) : Bool :=
  flagsCheck (s.connectionState c) STATUS_FLAGS_IDLE

/-- The loop of `connection_find_idle`. -/
def connectionFindIdleLinkedLoop (s : ConnectionStates) :
    Nat → Option ConnectionObjectRef → Option (Option ConnectionObjectRef)
  | _, none => some none
  | 0, some _ => none
  | fuel + 1, some c =>
      if s.isIdle c then some (some c)
      else (connectionNext fuel s.links (some c)).bind (connectionFindIdleLinkedLoop s fuel)

/-- `robotraconteurlite_connection_find_idle` along the links. -/
def connectionFindIdleLinked (fuel : Nat) (s : ConnectionStates)
    (connectionsHead : Option ConnectionObjectRef) : Option (Option ConnectionObjectRef) :=
  (connectionFirst fuel s.links connectionsHead).bind (connectionFindIdleLinkedLoop s fuel)

/-- The loop of `connection_acceptor_impl_prepare_wait`. -/
def connectionAcceptorImplPrepareWaitLoop (s : ConnectionStates) (acceptor : ConnectionAcceptor) :
    Nat → Option ConnectionObjectRef → Option ConnectionAcceptor
  | _, none => some acceptor
  | 0, some _ => none
  | fuel + 1, some c =>
      if s.isIdle c then
        some { acceptor with sock := { acceptor.sock with
          flags := flagsSet acceptor.sock.flags SOCKET_FLAGS_WANT_RECEIVE } }
      else
        -- The search goes on behind the next object and not behind this one.
        (connectionNext fuel s.links (s.links.next c)).bind
          (connectionAcceptorImplPrepareWaitLoop s acceptor fuel)

/-- `robotraconteurlite_connection_acceptor_impl_prepare_wait`. -/
def connectionAcceptorImplPrepareWait (fuel : Nat) (s : ConnectionStates)
    (acceptor : ConnectionAcceptor) (connectionHead : Option ConnectionObjectRef) :
    Option ConnectionAcceptor :=
  (connectionFirst fuel s.links connectionHead).bind fun c =>
    connectionAcceptorImplPrepareWaitLoop s { acceptor with sock := { acceptor.sock with
      flags := flagsClear acceptor.sock.flags SOCKET_FLAGS_WANT_RECEIVE } } fuel c

end RobotRaconteurLite
