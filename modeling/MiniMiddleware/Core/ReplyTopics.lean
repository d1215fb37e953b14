import MiniMiddleware.Core.RpcSegments
import MiniMiddleware.Core.Rpc
import Mathlib.Data.List.Nodup

/-!
# Private reply topics

`create_client` builds the id of a client from the name of its node, the
participant id and the number of entities that the node has created so far.
The segment of such an id ends with the two numbers, whatever the name is, so
it determines both: no two clients have a reply topic in common.
-/

namespace MiniMiddleware.Core

open MiniMiddleware.Library

/-- The id that `create_client` gives to a client. -/
def nodeClientId (name : Text) (pid size : Nat) : Text :=
  name ++ '-' :: decimal pid ++ '-' :: decimal size

/-! ## The segment of a client -/

/-- A separator keeps what follows it from being cut off in front. -/
theorem dropWhile_separated
    (dropped : Char → Bool) {separator first : Char} (name rest : Text)
    (separates : dropped separator = true) (kept : dropped first = false) :
    ∃ front,
      separator :: (name ++ separator :: first :: rest).dropWhile dropped =
        front ++ separator :: first :: rest := by
  induction name with
  | nil => exact ⟨[], by simp [separates, kept]⟩
  | cons char name inductionHypothesis =>
      by_cases cut : dropped char = true
      · simpa [cut] using inductionHypothesis
      · exact ⟨separator :: char :: name, by simp [cut]⟩

theorem decimal_ne_nil (number : Nat) : decimal number ≠ [] :=
  Nat.toDigits_ne_nil

theorem isAlphanum_of_mem_decimal
    {char : Char} {number : Nat} (member : char ∈ decimal number) :
    char.isAlphanum = true := by
  simp [Char.isAlphanum, isDigit_of_mem_decimal member]

theorem trimmedName_nodeClientId (name : Text) (pid size : Nat) :
    ∃ front,
      '-' :: trimmedName (nodeClientId name pid size) =
        front ++ '-' :: (decimal pid ++ '-' :: decimal size) := by
  obtain ⟨first, digits, pidDigits⟩ :=
    List.exists_cons_of_ne_nil (decimal_ne_nil pid)
  obtain ⟨body, last, sizeDigits⟩ :=
    List.eq_nil_or_concat'  (decimal size) |>.resolve_left
      (decimal_ne_nil size)
  have kept : (!first.isAlphanum) = false := by
    have member : first ∈ decimal pid := by simp [pidDigits]
    simp [isAlphanum_of_mem_decimal member]
  have lastKept : ¬ (!last.isAlphanum) = true := by
    have member : last ∈ decimal size := by simp [sizeDigits]
    simp [isAlphanum_of_mem_decimal member]
  have whole :
      nodeClientId name pid size =
        name ++ '-' :: first :: (digits ++ '-' :: decimal size) := by
    simp [nodeClientId, pidDigits]
  obtain ⟨front, cut⟩ :=
    dropWhile_separated (fun char => !char.isAlphanum) name
      (digits ++ '-' :: decimal size) (rfl : (! '-'.isAlphanum) = true) kept
  rw [← whole] at cut
  have concat :
      '-' :: (nodeClientId name pid size).dropWhile
          (fun char => !char.isAlphanum) =
        (front ++ '-' :: first :: (digits ++ '-' :: body)) ++ [last] := by
    simp [cut, sizeDigits]
  obtain ⟨rest, shape⟩ :
      ∃ rest,
        (nodeClientId name pid size).dropWhile
          (fun char => !char.isAlphanum) = rest ++ [last] := by
    cases front with
    | nil => exact ⟨_, (List.cons.inj concat).2⟩
    | cons char front => exact ⟨_, (List.cons.inj concat).2⟩
  refine ⟨front, ?_⟩
  have uncut :=
    List.rdropWhile_concat_neg (fun char => !char.isAlphanum) rest last lastKept
  rw [trimmedName, shape, uncut, ← shape, cut, pidDigits]
  rfl

/-- The segment of a client ends with the two numbers. -/
theorem rpcClientSegment_nodeClientId (name : Text) (pid size : Nat) :
    ∃ front,
      '_' :: rpcClientSegment (nodeClientId name pid size) =
        front ++ '_' :: (decimal pid ++ '_' :: decimal size) := by
  have digits (number : Nat) :
      (decimal number).map segmentChar = decimal number := by
    refine (List.map_congr_left fun char member => ?_).trans (List.map_id _)
    simp [segmentChar, isAlphanum_of_mem_decimal member]
  have dash : segmentChar '-' = '_' := rfl
  obtain ⟨front, trimmed⟩ := trimmedName_nodeClientId name pid size
  have remains : trimmedName (nodeClientId name pid size) ≠ [] := by
    intro nothing
    have length := congrArg List.length trimmed
    simp [nothing] at length
    omega
  refine ⟨front.map segmentChar, ?_⟩
  have mapped := congrArg (List.map segmentChar) trimmed
  simpa [rpcClientSegment, rpcSanitizeSegment_eq, coreName, remains, digits,
    dash] using mapped

/-- The segment of a client determines its node and its place. -/
theorem nodeClientId_segment_inj
    {name otherName : Text} {pid otherPid size otherSize : Nat}
    (equal :
      rpcClientSegment (nodeClientId name pid size) =
        rpcClientSegment (nodeClientId otherName otherPid otherSize)) :
    pid = otherPid ∧ size = otherSize := by
  obtain ⟨front, ends⟩ := rpcClientSegment_nodeClientId name pid size
  obtain ⟨otherFront, otherEnds⟩ :=
    rpcClientSegment_nodeClientId otherName otherPid otherSize
  have backwards :
      (decimal size).reverse ++ '_' :: ((decimal pid).reverse ++
          '_' :: front.reverse) =
        (decimal otherSize).reverse ++ '_' :: ((decimal otherPid).reverse ++
          '_' :: otherFront.reverse) := by
    have same := ends.symm.trans ((congrArg ('_' :: ·) equal).trans otherEnds)
    simpa using congrArg List.reverse same
  have free (number : Nat) : '_' ∉ (decimal number).reverse := by
    rw [List.mem_reverse]
    exact notMem_decimal rfl number
  obtain ⟨sizes, rest⟩ := append_separator (free _) (free _) backwards
  obtain ⟨pids, _⟩ := append_separator (free _) (free _) rest
  exact
    ⟨decimal_injective (List.reverse_injective pids),
      decimal_injective (List.reverse_injective sizes)⟩

/-! ## Nodes and their clients -/

/-- A client with the names that its topics are made of. -/
structure NodeClient where
  pid : Nat
  serviceName : Text
  clientId : Text
  deriving DecidableEq, Repr

/-- `reply_topic_` of a client. -/
def NodeClient.replyTopic (client : NodeClient) : Text :=
  rpcReplyTopic client.serviceName client.clientId

/-- Nodes by participant id: their names, the number of entities each holds,
and all clients in the order of their creation. -/
structure NodeSet where
  names : Nat → Text
  entities : Nat → Nat
  clients : List NodeClient

/-- The calls of the factory methods of a node. -/
inductive NodeCall where
  | createPublisher (pid : Nat)
  | createSubscriber (pid : Nat)
  | createService (pid : Nat)
  | createClient (pid : Nat) (serviceName : Text)
  deriving DecidableEq, Repr

namespace NodeSet

/-- `entities_.push_back`. -/
def addEntity (nodes : NodeSet) (pid : Nat) : NodeSet :=
  { nodes with
    entities := Function.update nodes.entities pid (nodes.entities pid + 1) }

/-- `create_client`. -/
def createClient (nodes : NodeSet) (pid : Nat) (serviceName : Text) :
    NodeSet :=
  { nodes.addEntity pid with
    clients :=
      nodes.clients ++
        [⟨pid, serviceName,
          nodeClientId (nodes.names pid) pid (nodes.entities pid)⟩] }

/-- One call. -/
def step (nodes : NodeSet) : NodeCall → NodeSet
  | .createPublisher pid => nodes.addEntity pid
  | .createSubscriber pid => nodes.addEntity pid
  | .createService pid => nodes.addEntity pid
  | .createClient pid serviceName => nodes.createClient pid serviceName

end NodeSet

/-- Nodes of any names as a machine. -/
def nodeSetMachine : Machine NodeSet NodeCall Unit where
  initial nodes := nodes.clients = [] ∧ nodes.entities = fun _ => 0
  step nodes call := some (nodes.step call, [])

/-- Every client was created at a place of its own. -/
def PlacedClients (nodes : NodeSet) : Prop :=
  ∃ places : List (Nat × Nat), places.Nodup ∧
    (∀ place ∈ places, place.2 < nodes.entities place.1) ∧
    nodes.clients.map NodeClient.clientId =
      places.map fun place =>
        nodeClientId (nodes.names place.1) place.1 place.2

namespace PlacedClients

variable {nodes : NodeSet}

theorem lt_addEntity
    {place : Nat × Nat} (below : place.2 < nodes.entities place.1)
    (pid : Nat) : place.2 < (nodes.addEntity pid).entities place.1 := by
  dsimp only [NodeSet.addEntity]
  by_cases same : place.1 = pid
  · rw [same, Function.update_self]
    rw [same] at below
    omega
  · rwa [Function.update_of_ne same]

theorem addEntity (placed : PlacedClients nodes) (pid : Nat) :
    PlacedClients (nodes.addEntity pid) := by
  obtain ⟨places, distinct, below, ids⟩ := placed
  exact
    ⟨places, distinct, fun place member => lt_addEntity (below place member) pid,
      ids⟩

theorem createClient
    (placed : PlacedClients nodes) (pid : Nat) (serviceName : Text) :
    PlacedClients (nodes.createClient pid serviceName) := by
  obtain ⟨places, distinct, below, ids⟩ := placed
  have fresh : (pid, nodes.entities pid) ∉ places :=
    fun member => Nat.lt_irrefl _ (below _ member)
  refine ⟨places ++ [(pid, nodes.entities pid)], ?_, ?_, ?_⟩
  · rw [List.nodup_append]
    refine ⟨distinct, List.nodup_singleton _, ?_⟩
    rintro place member _ last rfl
    rw [List.mem_singleton.mp last] at member
    exact fresh member
  · intro place member
    rcases List.mem_append.mp member with member | member
    · exact lt_addEntity (below place member) pid
    · rw [List.mem_singleton.mp member]
      simp [NodeSet.createClient, NodeSet.addEntity]
  · simp only [NodeSet.createClient, NodeSet.addEntity, List.map_append, ids,
      List.map_cons, List.map_nil]

theorem step (placed : PlacedClients nodes) (call : NodeCall) :
    PlacedClients (nodes.step call) := by
  cases call with
  | createPublisher pid => exact placed.addEntity pid
  | createSubscriber pid => exact placed.addEntity pid
  | createService pid => exact placed.addEntity pid
  | createClient pid serviceName => exact placed.createClient pid serviceName

theorem of_run
    {calls : List NodeCall} {events : List Unit}
    (run : nodeSetMachine.Run Machine.free calls nodes events) :
    PlacedClients nodes := by
  refine run.invariant (fun nodes _ => PlacedClients nodes) ?_ ?_
  · rintro nodes ⟨none, _⟩
    exact ⟨[], List.nodup_nil, by simp, by simp [none]⟩
  · intro nodes _ call target _ placed _ stepped
    have equal : nodes.step call = target :=
      congrArg Prod.fst (Option.some.inj stepped)
    exact equal ▸ placed.step call

theorem segments_nodup (placed : PlacedClients nodes) :
    (nodes.clients.map fun client => rpcClientSegment client.clientId).Nodup := by
  obtain ⟨places, distinct, _, ids⟩ := placed
  have segments :
      (nodes.clients.map fun client => rpcClientSegment client.clientId) =
        places.map fun place =>
          rpcClientSegment
            (nodeClientId (nodes.names place.1) place.1 place.2) := by
    simpa [Function.comp_def] using congrArg (List.map rpcClientSegment) ids
  rw [segments]
  refine distinct.map fun place other equal => ?_
  obtain ⟨pids, sizes⟩ := nodeClientId_segment_inj equal
  exact Prod.ext pids sizes

theorem replyTopics_nodup (placed : PlacedClients nodes) :
    (nodes.clients.map NodeClient.replyTopic).Nodup := by
  have distinct := placed.segments_nodup
  rw [List.Nodup, List.pairwise_map] at distinct ⊢
  refine distinct.imp fun different equal => ?_
  exact different (rpcClientSegment_eq_of_topic equal)

/-- Clients that were created by such nodes have reply topics of their own. -/
theorem replyTopic_injective
    {Clients Services : Type} (system : RpcSystem Clients Services)
    (placed : PlacedClients nodes) (place : Clients → Nat)
    (distinct : Function.Injective place)
    (created :
      ∀ client, ∃ pid,
        nodes.clients[place client]? =
          some ⟨pid, system.serviceName client, system.clientId client⟩) :
    Function.Injective system.replyTopic := by
  intro first second equal
  obtain ⟨firstPid, firstAt⟩ := created first
  obtain ⟨secondPid, secondAt⟩ := created second
  have topicAt {index : Nat} {client : NodeClient}
      (found : nodes.clients[index]? = some client) :
      (nodes.clients.map NodeClient.replyTopic)[index]? =
        some client.replyTopic := by
    rw [List.getElem?_map, found, Option.map_some]
  have below : place first < (nodes.clients.map NodeClient.replyTopic).length :=
    (List.getElem?_eq_some_iff.mp (topicAt firstAt)).1
  have same :
      (nodes.clients.map NodeClient.replyTopic)[place first]? =
        (nodes.clients.map NodeClient.replyTopic)[place second]? := by
    rw [topicAt firstAt, topicAt secondAt]
    exact congrArg some equal
  exact distinct ((List.getElem?_inj below placed.replyTopics_nodup).mp same)

end PlacedClients

/-- In every run of the nodes, the reply topics of the clients are pairwise
different, and none of them is a request topic. -/
theorem reply_topics_private
    {calls : List NodeCall} {nodes : NodeSet} {events : List Unit}
    (run : nodeSetMachine.Run Machine.free calls nodes events) :
    (nodes.clients.map NodeClient.replyTopic).Nodup ∧
      ∀ client ∈ nodes.clients, ∀ serviceName : Text,
        client.replyTopic ≠ rpcRequestTopic serviceName := by
  have placed := PlacedClients.of_run run
  exact
    ⟨placed.replyTopics_nodup,
      fun client _ serviceName => rpcReplyTopic_ne_rpcRequestTopic _ _ _⟩

/-- Two nodes whose names end in numbers and separators: the ids of their
clients look alike, the reply topics do not. -/
theorem reply_topics_private_numbers :
    ∃ nodes events,
      nodeSetMachine.Run Machine.free
          [.createClient 2 ['s'], .createPublisher 12, .createClient 12 ['s'],
            .createClient 12 ['s']]
          nodes events ∧
        nodes.clients.map NodeClient.clientId =
          ["n-1-2-0".toList, "-12-1".toList, "-12-2".toList] ∧
        (nodes.clients.map NodeClient.replyTopic).Nodup := by
  obtain ⟨nodes, events, run, checked⟩ :=
    Machine.run_of_exec_check nodeSetMachine Machine.free
      [.createClient 2 ['s'], .createPublisher 12, .createClient 12 ['s'],
        .createClient 12 ['s']]
      ⟨fun pid => if pid = 2 then "n-1".toList else [], fun _ => 0, []⟩
      (fun nodes _ =>
        nodes.clients.map NodeClient.clientId =
          ["n-1-2-0".toList, "-12-1".toList, "-12-2".toList])
      ⟨rfl, rfl⟩ (by decide +kernel)
  exact
    ⟨nodes, events, run, of_decide_eq_true checked,
      (reply_topics_private run).1⟩

end MiniMiddleware.Core
