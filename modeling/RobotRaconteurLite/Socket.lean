import RobotRaconteurLite.Base
import RobotRaconteurLite.Lib.Splice

/-!
# Nonblocking sockets (`tcp_transport_posix.c`)

A socket is the bytes the peer has sent and the program has not received yet,
and what the coming system calls will do. What they do is not up to the program,
so it is data: a plan with one entry for each `recv`, `send` or `poll`. A plan
that has run out means the call would block.

A `recv` that is ready answers at least one byte and at most as many as were
asked for. The bytes a socket has sent are kept, in order, so that what reaches
the peer can be spoken about.
-/

namespace RobotRaconteurLite

open Splice

/-- What one call of `recv` or of `send` does. `ready n` moves up to `n + 1`
bytes, `closed` answers zero. -/
inductive IoOutcome
  | ready (n : Nat)
  | wouldBlock
  | closed
  | failed
  deriving DecidableEq, Repr

/-- What one call of `poll` for a connection in progress does. -/
inductive PollOutcome
  | failed
  | timeout
  | writable
  | error
  | other
  deriving DecidableEq, Repr

def SOCKET_FLAGS_ACTIVE : BitVec 16 := 0x1
def SOCKET_FLAGS_RECEIVE_WOULD_BLOCK : BitVec 16 := 0x8
def SOCKET_FLAGS_SEND_WOULD_BLOCK : BitVec 16 := 0x10

/-- `struct robotraconteurlite_connection_socket`, with the world behind the
handle. `closed` lists the handles that `close` was called on for it. -/
structure Socket where
  flags : BitVec 16
  inbox : List UInt8
  recvPlan : List IoOutcome
  sendPlan : List IoOutcome
  pollPlan : List PollOutcome
  sent : List UInt8
  sock : Nat := 0
  closed : List Nat := []
  deriving DecidableEq, Repr

/-- What `robotraconteurlite_tcp_socket_recv_nonblocking` leaves behind. -/
structure RecvRun where
  status : Result Unit
  sock : Socket
  buffer : List UInt8
  pos : Nat

/-- The loop of `robotraconteurlite_tcp_socket_recv_nonblocking`. -/
def tcpSocketRecvLoop (pos1 len : Nat) (sock : Socket) :
    List IoOutcome → List UInt8 → List UInt8 → Nat → RecvRun
  | plan, inbox, buffer, pos =>
      let sock := { sock with inbox := inbox, recvPlan := plan }
      let blocked := { sock with
        flags := flagsSet sock.flags SOCKET_FLAGS_RECEIVE_WOULD_BLOCK }
      if ¬ pos - pos1 < len then ⟨.ok (), sock, buffer, pos⟩
      else
        match plan with
        | [] => ⟨.ok (), blocked, buffer, pos⟩
        | outcome :: plan =>
            let sock := { sock with recvPlan := plan }
            let blocked := { blocked with recvPlan := plan }
            match outcome with
            | .ready n =>
                let bytes := inbox.take (min (n + 1) (len - (pos - pos1)))
                if bytes = [] then ⟨.ok (), blocked, buffer, pos⟩
                else tcpSocketRecvLoop pos1 len sock plan (inbox.drop bytes.length)
                  (overwrite buffer pos bytes) (pos + bytes.length)
            | .wouldBlock => ⟨.ok (), blocked, buffer, pos⟩
            | .failed => ⟨.error .connectionError, sock, buffer, pos⟩
            | .closed =>
                if pos = pos1 then ⟨.error .connectionError, sock, buffer, pos⟩
                else ⟨.ok (), sock, buffer, pos⟩

/-- `robotraconteurlite_tcp_socket_recv_nonblocking`. -/
def tcpSocketRecvNonblocking (sock : Socket) (buffer : List UInt8) (pos len : Nat) :
    RecvRun :=
  let sock := { sock with
    flags := flagsClear sock.flags SOCKET_FLAGS_RECEIVE_WOULD_BLOCK }
  tcpSocketRecvLoop pos len sock sock.recvPlan sock.inbox buffer pos

/-- What `robotraconteurlite_tcp_socket_send_nonblocking` leaves behind. -/
structure SendRun where
  status : Result Unit
  sock : Socket
  pos : Nat

/-- The loop of `robotraconteurlite_tcp_socket_send_nonblocking`. -/
def tcpSocketSendLoop (buffer : List UInt8) (pos1 len : Nat) (sock : Socket) :
    List IoOutcome → List UInt8 → Nat → SendRun
  | plan, sent, pos =>
      let sock := { sock with sent := sent, sendPlan := plan }
      let blocked := { sock with
        flags := flagsSet sock.flags SOCKET_FLAGS_SEND_WOULD_BLOCK }
      if ¬ pos - pos1 < len then ⟨.ok (), sock, pos⟩
      else
        match plan with
        | [] => ⟨.ok (), blocked, pos⟩
        | outcome :: plan =>
            let sock := { sock with sendPlan := plan }
            let blocked := { blocked with sendPlan := plan }
            match outcome with
            | .ready n =>
                let count := min (n + 1) (len - (pos - pos1))
                tcpSocketSendLoop buffer pos1 len sock plan
                  (sent ++ slice buffer pos count) (pos + count)
            | .wouldBlock => ⟨.ok (), blocked, pos⟩
            | .failed => ⟨.error .connectionError, sock, pos⟩
            | .closed =>
                if pos = pos1 then ⟨.error .connectionError, sock, pos⟩
                else ⟨.ok (), sock, pos⟩

/-- `robotraconteurlite_tcp_socket_send_nonblocking`. -/
def tcpSocketSendNonblocking (sock : Socket) (buffer : List UInt8) (pos len : Nat) :
    SendRun :=
  let sock := { sock with
    flags := flagsClear sock.flags SOCKET_FLAGS_SEND_WOULD_BLOCK }
  tcpSocketSendLoop buffer pos len sock sock.sendPlan sock.sent pos

/-- The system call `close` on the handle, which stays where it is. -/
def Socket.close (sock : Socket) : Socket := { sock with closed := sock.closed ++ [sock.sock] }

/-- `robotraconteurlite_tcp_socket_is_connection_complete`. -/
def tcpSocketIsConnectionComplete (sock : Socket) : Result Unit × Socket :=
  match sock.pollPlan with
  | [] => (.error .retry, sock)
  | outcome :: plan =>
      let sock := { sock with pollPlan := plan }
      match outcome with
      | .failed => (.error .systemError, sock.close)
      | .timeout => (.error .retry, sock)
      | .writable => (.ok (), sock)
      | .error => (.error .connectionError, sock.close)
      | .other => (.error .internalError, sock)

/-- `robotraconteurlite_tcp_socket_close`. -/
def tcpSocketClose (sock : Socket) : Socket :=
  { sock.close with flags := flagsClear sock.flags SOCKET_FLAGS_ACTIVE }

end RobotRaconteurLite
