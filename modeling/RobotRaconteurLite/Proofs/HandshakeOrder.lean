import RobotRaconteurLite.Lib.CallSequence
import RobotRaconteurLite.Proofs.NodeWorks
import RobotRaconteurLite.TcpTransport

/-!
# The order of the client's handshake

The handshake sends its three requests one after the other, and between them it
waits for replies. Its state goes on with every step, but for one event: when the
transport reports that the socket is connected it starts over. The opening
request can be queued before that report, from the end of a cycle.
-/

namespace RobotRaconteurLite

open CallSequence

/-! ## States and requests -/

namespace HandshakeState

def isError : HandshakeState → Bool
  | .error => true
  | .invalidObjectType => true
  | _ => false

/-- Where a state stands in the handshake. -/
def rank : HandshakeState → Nat
  | .init => 0
  | .connected => 1
  | .createconnectionSent => 2
  | .createconnectionCompleted => 3
  | .objecttypeSent => 4
  | .objecttypeCompleted => 5
  | .connectclientSent => 6
  | .connectclientCompleted => 7
  | .completed => 8
  | .error => 9
  | .invalidObjectType => 10

end HandshakeState

/-- The requests of the handshake in their order. -/
def handshakeRequestTypes : List UInt16 :=
  [MESSAGEENTRYTYPE_STREAMOP, MESSAGEENTRYTYPE_OBJECTTYPENAME, MESSAGEENTRYTYPE_CONNECTCLIENT]

/-- The requests that were queued when the handshake is in a state that is no error. -/
def HandshakeState.requests : HandshakeState → List UInt16
  | .init => []
  | .connected => []
  | .createconnectionSent => handshakeRequestTypes.take 1
  | .createconnectionCompleted => handshakeRequestTypes.take 1
  | .objecttypeSent => handshakeRequestTypes.take 2
  | .objecttypeCompleted => handshakeRequestTypes.take 2
  | _ => handshakeRequestTypes

/-- The handshake went from one state to another, and queued requests. -/
inductive HandshakeState.Goes : HandshakeState → HandshakeState → List UInt16 → Prop
  | stays (s : HandshakeState) : Goes s s []
  | fails (s : HandshakeState) : Goes s .error []
  | createconnection : Goes .init .createconnectionSent [MESSAGEENTRYTYPE_STREAMOP]
  | createconnectionRet : Goes .createconnectionSent .createconnectionCompleted []
  | objecttype :
      Goes .createconnectionCompleted .objecttypeSent [MESSAGEENTRYTYPE_OBJECTTYPENAME]
  | objecttypeRet : Goes .objecttypeSent .objecttypeCompleted []
  | objecttypeInvalid : Goes .objecttypeSent .invalidObjectType []
  | connectclient :
      Goes .objecttypeCompleted .connectclientSent [MESSAGEENTRYTYPE_CONNECTCLIENT]
  | connectclientRet : Goes .connectclientSent .connectclientCompleted []
  | completes : Goes .connectclientCompleted .completed []

/-- The state went on, or was an error already. -/
def HandshakeState.Advances (s s' : HandshakeState) : Prop := s.isError = true ∨ s.rank ≤ s'.rank

namespace HandshakeState.Goes

variable {s s' s'' : HandshakeState} {requests requests' : List UInt16}

theorem advances (h : s.Goes s' requests) : s.Advances s' := by
  cases h with
  | fails s => cases s <;> first | exact Or.inl rfl | exact Or.inr (by decide)
  | stays s => exact Or.inr (Nat.le_refl _)
  | _ => exact Or.inr (by decide)

theorem advances_trans (h : s.Goes s' requests) (h' : s'.Goes s'' requests') : s.Advances s'' := by
  cases h with
  | stays s => exact h'.advances
  | fails s =>
      cases h' with
      | stays _ => exact (fails s).advances
      | fails _ => exact (fails s).advances
  | _ => cases h' <;> exact Or.inr (by decide)

end HandshakeState.Goes

section

variable [SizeT]

/-- The type of a request of the handshake that was queued on a connection. -/
def Effect.handshakeRequest (i : Nat) : Effect → Option UInt16
  | .call _ => none
  | .queued j header =>
      if j = i ∧ header.entryType ∈ handshakeRequestTypes then some header.entryType else none

/-- The requests of the handshake that were queued on a connection, the first one first. -/
def Node.handshakeRequests (node : Node) (i : Nat) : List UInt16 :=
  node.effects.filterMap (Effect.handshakeRequest i)

/-- A client whose handshake queued what its state says. -/
def Node.InOrder (node : Node) (client : Nat) : Prop :=
  ((node.client client).handshakeState.isError = true ∧
      node.handshakeRequests (node.client client).clientConnection <+: handshakeRequestTypes) ∨
    (node.client client).handshakeState.isError = false ∧
      node.handshakeRequests (node.client client).clientConnection =
        (node.client client).handshakeState.requests

/-- The handshake of a client went on between two nodes. -/
structure Node.Goes (node node' : Node) (client : Nat) : Prop where
  clientConnection :
    (node'.client client).clientConnection = (node.client client).clientConnection
  goes : ∃ requests, (node.client client).handshakeState.Goes
      (node'.client client).handshakeState requests ∧
    node'.handshakeRequests (node.client client).clientConnection =
      node.handshakeRequests (node.client client).clientConnection ++ requests

theorem Node.InOrder.prefix_of {node : Node} {client : Nat} (h : node.InOrder client) :
    node.handshakeRequests (node.client client).clientConnection <+: handshakeRequestTypes := by
  rcases h with ⟨-, h⟩ | ⟨-, h⟩
  · exact h
  · rw [h]
    cases (node.client client).handshakeState <;> decide

theorem Node.Goes.inOrder {node node' : Node} {client : Nat} (h : node.Goes node' client)
    (hn : node.InOrder client) : node'.InOrder client := by
  obtain ⟨hconnection, requests, hgoes, hrequests⟩ := h
  have hprefix := hn.prefix_of
  unfold Node.InOrder at hn ⊢
  rw [hconnection, hrequests]
  generalize (node.client client).handshakeState = s at hgoes hn
  generalize (node'.client client).handshakeState = s' at hgoes ⊢
  cases hgoes with
  | stays s => rwa [List.append_nil]
  | fails s =>
      rw [List.append_nil]
      exact Or.inl ⟨rfl, hprefix⟩
  | objecttypeInvalid =>
      rw [List.append_nil]
      exact Or.inl ⟨rfl, hprefix⟩
  | _ =>
      rcases hn with ⟨herror, -⟩ | ⟨-, hn⟩
      · cases herror
      · rw [hn]
        exact Or.inr ⟨rfl, rfl⟩

/-! ## Steps -/

section

variable {node node' : Node} {client : Nat}

theorem Node.Goes.refl (node : Node) (client : Nat) : node.Goes node client :=
  ⟨rfl, [], .stays _, (List.append_nil _).symm⟩

theorem handshakeRequests_append (node : Node) (i : Nat) (effects : List Effect) :
    { node with effects := node.effects ++ effects : Node }.handshakeRequests i =
      node.handshakeRequests i ++ effects.filterMap (Effect.handshakeRequest i) :=
  List.filterMap_append

/-- Responses are no requests. -/
theorem Node.Answers.handshakeRequests {j : Nat} (h : node.Answers node' j) (i : Nat) :
    node'.handshakeRequests i = node.handshakeRequests i := by
  obtain ⟨headers, heffects, heven⟩ := h.effects
  have hnone : (headers.map (Effect.queued j)).filterMap (Effect.handshakeRequest i) = [] := by
    rw [List.filterMap_eq_nil_iff]
    intro e he
    obtain ⟨header, hheader, rfl⟩ := List.mem_map.mp he
    refine if_neg fun hand => ?_
    have hmem := hand.2
    have hz := heven header hheader
    simp only [handshakeRequestTypes, List.mem_cons, List.not_mem_nil, or_false] at hmem
    rcases hmem with h | h | h
    · rw [h] at hz; exact absurd hz (by decide)
    · rw [h] at hz; exact absurd hz (by decide)
    · rw [h] at hz; exact absurd hz (by decide)
  rw [Node.handshakeRequests, heffects, List.filterMap_append, hnone, List.append_nil,
    Node.handshakeRequests]

/-- What the node answers itself is no step of the handshake. -/
theorem Node.Answers.goes {j : Nat} (h : node.Answers node' j) : node.Goes node' client where
  clientConnection := by rw [h.client]
  goes := ⟨[], by rw [h.client]; exact .stays _, by
    rw [h.handshakeRequests, List.append_nil]⟩

/-- A change of the state, with nothing queued. -/
theorem Node.Goes.setHandshakeState {s : HandshakeState}
    (h : (node.client client).handshakeState.Goes s []) :
    node.Goes (node.setHandshakeState client s) client := by
  have hclient : (node.setHandshakeState client s).client client =
      { node.client client with handshakeState := s } := Node.setClient_client node client _
  refine ⟨by rw [hclient], [], ?_, (List.append_nil _).symm⟩
  rw [hclient]
  exact h

/-- A step of the handshake can be seen from before a connection was dealt with, and from after. -/
theorem Node.Answers.goes_trans {node₁ : Node} {j : Nat} (h : node.Answers node₁ j)
    (h' : node₁.Goes node' client) : node.Goes node' client := by
  obtain ⟨hconnection, requests, hgoes, hrequests⟩ := h'
  rw [h.client] at hconnection hgoes hrequests
  refine ⟨hconnection, requests, hgoes, ?_⟩
  rw [hrequests, h.handshakeRequests]

theorem clientHandshakeError_goes (node : Node) (client : Nat) :
    node.Goes (clientHandshakeError node client).2 client :=
  (Node.Answers.modifyConnection node _ connectionClose).goes_trans
    (.setHandshakeState (.fails _))

theorem Node.Goes.tried (c : Connection) (requestId : UInt32) :
    node.Goes (node.tried client c requestId) client := by
  refine ⟨by rw [Node.tried_client], [], ?_, (List.append_nil _).symm⟩
  rw [Node.tried_client]
  exact .stays _

/-- A request of the handshake is queued when the state goes on, and only then. -/
theorem Tried.goes {entryType : UInt16} {sent : HandshakeState} {out : Result Unit × Node}
    (h : Tried node client entryType sent out) (hType : entryType ∈ handshakeRequestTypes)
    (hsent : (node.client client).handshakeState.Goes sent [entryType]) :
    node.Goes out.2 client := by
  cases h with
  | busy hc requestId => exact .tried _ requestId
  | @failed c hc requestId =>
      have herror := clientHandshakeError_goes (node.tried client c requestId) client
      have hstate : ((clientHandshakeError (node.tried client c requestId) client).2.client
          client).handshakeState = .error :=
        congrArg ClientRecord.handshakeState (Node.setClient_client _ client _)
      refine ⟨by rw [herror.clientConnection, Node.tried_client], [], ?_, (List.append_nil _).symm⟩
      rw [hstate]
      exact .fails _
  | @sent c hc header hheader =>
      have hclient : ((((node.tried client c header.requestId).addEffect (.queued
          (node.client client).clientConnection header)).setHandshakeState client sent).client
            client) = { node.client client with
              handshakeRequestId := header.requestId, handshakeState := sent } := by
        refine (Node.setClient_client _ client _).trans ?_
        change { (node.tried client c header.requestId).client client with handshakeState := sent } = _
        rw [Node.tried_client]
      refine ⟨by rw [hclient], [entryType], ?_, ?_⟩
      · rw [hclient]
        exact hsent
      · refine (handshakeRequests_append node _ _).trans ?_
        rw [List.filterMap_cons, Effect.handshakeRequest, hheader, if_pos ⟨rfl, hType⟩]
        rfl

theorem clientHandshakeSend_goes (node : Node) (client : Nat) :
    node.Goes (clientHandshakeSend node client).2 client := by
  unfold clientHandshakeSend
  split
  · next hstate =>
      exact (clientHandshakeOpen_tried node client).goes (by decide)
        (by rw [hstate]; exact .createconnection)
  · exact .refl node client
  · exact .refl node client
  · exact .refl node client
  · next hstate =>
      exact (clientHandshakeRequest_tried node client _ _).goes (by decide)
        (by rw [hstate]; exact .objecttype)
  · next hstate =>
      exact (clientHandshakeRequest_tried node client _ _).goes (by decide)
        (by rw [hstate]; exact .connectclient)
  · next hstate =>
      exact .setHandshakeState (by rw [hstate]; exact .completes)
  all_goals exact clientHandshakeError_goes node client

/-- What an event of the connection does to the handshake, but for the one that starts it over. -/
theorem HandshakeState.Takes.goes {s s' : HandshakeState} {event : Event} {accepted : Bool}
    (h : s.Takes event accepted s')
    (hevent : event.eventType = .connectionClientSocketConnected → s = .init) : s.Goes s' [] := by
  cases h with
  | stays s => exact .stays s
  | fails s => exact .fails s
  | restarts s h =>
      rw [hevent h]
      exact .stays _
  | createconnection _ _ => exact .createconnectionRet
  | objecttype _ _ _ => exact .objecttypeRet
  | objecttypeInvalid => exact .objecttypeInvalid
  | connectclient _ _ => exact .connectclientRet

theorem clientHandshakeEvent_goes (event : Event)
    (hown : (node.client client).clientConnection = event.connection)
    (hevent : event.eventType = .connectionClientSocketConnected →
      (node.client client).handshakeState = .init) :
    node.Goes (clientHandshakeEvent node client event).2 client where
  clientConnection := (clientHandshakeEvent_handles hown).clientConnection client
  goes := ⟨[], (clientHandshakeEvent_takes node client event).goes hevent, by
    rw [Node.handshakeRequests, clientHandshakeEvent_effects, List.append_nil,
      Node.handshakeRequests]⟩

theorem consumed_goes (node : Node) (client : Nat) (event : Event) :
    node.Goes (node.consumed event) client := by
  refine ⟨by rw [consumed_client], [], by rw [consumed_client]; exact .stays _, ?_⟩
  rw [Node.handshakeRequests, Node.handshakeRequests, consumed_effects, List.append_nil]

/-- One call of the handshake moves it on, and may then queue a request. -/
theorem clientHandshake_goes (node : Node) (client : Nat) (event : Event)
    (hevent : event.eventType = .connectionClientSocketConnected →
      event.connection = (node.client client).clientConnection →
        (node.client client).handshakeState = .init) :
    ∃ node₁, node.Goes node₁ client ∧ node₁.Goes (clientHandshake node client event).2 client := by
  unfold clientHandshake
  split
  · exact ⟨node.consumed event, consumed_goes node client event, clientHandshakeSend_goes _ client⟩
  · next hcycle =>
      split
      · exact ⟨node, .refl node client, .refl node client⟩
      · next hown =>
          have hanswers := (nodeEventSpecialRequest_cases node event).answers hcycle
          split
          · next node₁ hrun =>
              rw [hrun] at hanswers
              exact ⟨node₁, hanswers.goes, consumed_goes node₁ client event⟩
          · next node₁ _ hrun =>
              rw [hrun] at hanswers
              refine ⟨node₁, hanswers.goes, ?_⟩
              unfold clientHandshakeHandleError
              split
              · exact .refl node₁ client
              · exact clientHandshakeError_goes node₁ client
          · next node₁ hrun =>
              rw [hrun] at hanswers
              have hevent' : node₁.Goes (clientHandshakeEvent node₁ client event).2 client :=
                clientHandshakeEvent_goes event
                  (by rw [hanswers.client]; exact (not_not.mp hown).symm)
                  fun hType => by rw [hanswers.client]; exact hevent hType (not_not.mp hown)
              split
              · next hrun' =>
                  rw [hrun'] at hevent'
                  exact ⟨_, hanswers.goes, hevent'⟩
              · next hrun' =>
                  rw [hrun'] at hevent'
                  exact ⟨_, hanswers.goes_trans hevent', clientHandshakeSend_goes _ client⟩

end

/-! ## Runs -/

/-- What happens to a node whose client is in its handshake: a connection changes, by the transport
or by the application, or the next event is passed to the handshake. -/
inductive HandshakeMove
  | connection (i : Nat) (c : Connection)
  | event (now : Int64)

def handshakeStep (client : Nat) (node : Node) : HandshakeMove → Result Unit × Node
  | .connection i c => (.ok (), node.setConnection i c)
  | .event now => clientHandshake (node.nextEvent now).2 client (node.nextEvent now).1

/-- The move takes the handshake on, and leaves each request queued at most once and in order. -/
def HandshakeInOrder (client : Nat) (node : Node) (move : HandshakeMove) : Prop :=
  (node.client client).handshakeState.Advances
      ((handshakeStep client node move).2.client client).handshakeState ∧
    (handshakeStep client node move).2.handshakeRequests (node.client client).clientConnection <+:
      handshakeRequestTypes

/-- The connected socket of the client is not reported after the handshake has begun. -/
def SocketFirst (client : Nat) (node : Node) : HandshakeMove → Prop
  | .connection _ _ => True
  | .event now =>
      (node.nextEvent now).1.eventType = .connectionClientSocketConnected →
        (node.nextEvent now).1.connection = (node.client client).clientConnection →
          (node.client client).handshakeState = .init

theorem nextEvent_client (node : Node) (now : Int64) :
    (node.nextEvent now).2.client = node.client := by
  rw [nextEvent_rest]

theorem nextEvent_effects (node : Node) (now : Int64) :
    (node.nextEvent now).2.effects = node.effects := by
  rw [nextEvent_rest]

/-- A move is up to two steps of the handshake. -/
theorem handshakeStep_goes {node : Node} {client : Nat} {move : HandshakeMove}
    (h : SocketFirst client node move) :
    ∃ node₁, node.Goes node₁ client ∧ node₁.Goes (handshakeStep client node move).2 client := by
  cases move with
  | connection i c => exact ⟨node, .refl node client, ⟨rfl, [], .stays _, (List.append_nil _).symm⟩⟩
  | event now =>
      obtain ⟨node₁, ⟨hconnection, requests, hgoes, hrequests⟩, hsecond⟩ :=
        clientHandshake_goes (node.nextEvent now).2 client (node.nextEvent now).1
          (by rw [nextEvent_client]; exact h)
      rw [nextEvent_client] at hconnection hgoes hrequests
      rw [Node.handshakeRequests, Node.handshakeRequests, nextEvent_effects] at hrequests
      exact ⟨node₁, ⟨hconnection, requests, hgoes, hrequests⟩, hsecond⟩

theorem handshakeStep_inOrder {node : Node} {client : Nat} {move : HandshakeMove}
    (hn : node.InOrder client) (h : SocketFirst client node move) :
    (handshakeStep client node move).2.InOrder client ∧ HandshakeInOrder client node move := by
  obtain ⟨node₁, hfirst, hsecond⟩ := handshakeStep_goes h
  have hlast := hsecond.inOrder (hfirst.inOrder hn)
  refine ⟨hlast, ?_, ?_⟩
  · obtain ⟨_, _, hgoes, _⟩ := hfirst
    obtain ⟨_, _, hgoes', _⟩ := hsecond
    exact hgoes.advances_trans hgoes'
  · rw [← hfirst.clientConnection, ← hsecond.clientConnection]
    exact hlast.prefix_of

/-- Whatever comes in whatever order, the handshake does not go back and sends each request once and
in order, so long as the connected socket is reported before it begins. -/
theorem handshake_in_order (node : Node) (client : Nat) (moves : List HandshakeMove)
    (hinit : (node.client client).handshakeState = .init)
    (hnone : node.handshakeRequests (node.client client).clientConnection = [])
    (h : EveryCall (handshakeStep client) (SocketFirst client) node moves) :
    EveryCall (handshakeStep client) (HandshakeInOrder client) node moves := by
  have hn : node.InOrder client := by
    refine Or.inr ⟨by rw [hinit]; rfl, ?_⟩
    rw [hnone, hinit]
    rfl
  exact (EveryCall.invariant (I := fun node => node.InOrder client) (P := SocketFirst client)
    (Q := HandshakeInOrder client) (fun _ _ hn h => (handshakeStep_inOrder hn h).1)
    (fun _ _ hn h => (handshakeStep_inOrder hn h).2) hn h).2

end

section

open Lp64

/-- A node whose client has just asked for a connection. -/
def openingNode (connectionState : BitVec 32) : Node :=
  Node.init .any [] [0] fun _ =>
    { connectionInit (connectionConstruct (List.replicate 512 0) []) with
      transportType := TCP_TRANSPORT
      sock := ⟨SOCKET_FLAGS_ACTIVE, [], [], [], [.writable], [], 3, []⟩
      connectionState := connectionState }

/-- The transport looks after the connection of a node. -/
def processControlMove (node : Node) : HandshakeMove :=
  .connection 0 (tcpConnectionCommunicateProcessControl noDigest (node.connection 0)).2

/-- The node after the opening request was queued at the end of a cycle. -/
def openedNode : Node := (handshakeStep 0 (openingNode STATUS_FLAGS_CONNECTING) (.event 0)).2

/-- The node after the transport found that the socket is connected. -/
def connectedNode : Node := (handshakeStep 0 openedNode (processControlMove openedNode)).2

/-- When the socket is reported first the opening request is queued, and the reply waited for. -/
theorem openingNode_in_order :
    EveryCall (handshakeStep 0) (HandshakeInOrder 0)
      (openingNode (STATUS_FLAGS_CONNECTING ||| STATUS_FLAGS_CLIENT_SOCKET_CONNECTED))
      [.event 0, .event 0] := by
  have hcycle : ((handshakeStep 0
      (openingNode (STATUS_FLAGS_CONNECTING ||| STATUS_FLAGS_CLIENT_SOCKET_CONNECTED))
      (.event 0)).2.nextEvent 0).1.eventType = .nextCycle := by decide +kernel
  refine handshake_in_order _ 0 _ rfl rfl ⟨fun _ _ => rfl, fun htype => ?_, trivial⟩
  rw [hcycle] at htype
  cases htype

/-- When it is reported after the end of a cycle the handshake goes back. -/
theorem openingNode_goes_back :
    ((openingNode STATUS_FLAGS_CONNECTING).client 0).handshakeState = .init ∧
      ¬ EveryCall (handshakeStep 0) (HandshakeInOrder 0) (openingNode STATUS_FLAGS_CONNECTING)
        [.event 0, processControlMove openedNode, .event 0] := by
  have hopened : (handshakeStep 0 (openingNode STATUS_FLAGS_CONNECTING) (.event 0)).2 =
      openedNode := rfl
  have hconnected : (handshakeStep 0 openedNode (processControlMove openedNode)).2 =
      connectedNode := rfl
  have hsent : (connectedNode.client 0).handshakeState = .createconnectionSent := by decide +kernel
  have hback : ((handshakeStep 0 connectedNode (.event 0)).2.client 0).handshakeState = .init := by
    decide +kernel
  refine ⟨rfl, fun h => ?_⟩
  rw [EveryCall, hopened, EveryCall, hconnected, EveryCall] at h
  obtain ⟨-, -, ⟨hadvances, -⟩, -⟩ := h
  rw [hsent, hback] at hadvances
  rcases hadvances with h | h
  · cases h
  · exact absurd h (by decide)

end

end RobotRaconteurLite
