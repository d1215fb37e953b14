import MiniMiddleware.Common.Text

/-!
# Endpoints and their matches

`match_endpoints` pairs the endpoints of this process with those of a remote
participant, local endpoints in the outer loop.  A match is later known by its
`match_key`, which names both kinds, the topic and the participant, but
neither the type nor the reliability.
-/

namespace MiniMiddleware.Discovery

/-- `EndpointInfo.Kind`.  The enumeration is open: a message can carry a value
that has no name. -/
inductive EndpointKind where
  | publisher
  | subscriber
  | service
  | client
  | unrecognized (number : Int) (unknown : number < 0 ∨ 3 < number)
  deriving DecidableEq, Repr

/-- The enumeration's value, `static_cast<int>(kind)`. -/
def EndpointKind.value : EndpointKind → Int
  | .publisher => 0
  | .subscriber => 1
  | .service => 2
  | .client => 3
  | .unrecognized number _ => number

/-- `EndpointInfo`; a reliability of zero is best effort. -/
structure EndpointInfo where
  kind : EndpointKind
  topic : Text
  typeName : Text
  reliability : Nat := 0
  responseTypeName : Text := []
  deriving DecidableEq, Repr

/-- `Locator`. -/
structure Locator where
  ip : Text
  port : Nat
  deriving DecidableEq, Repr

/-- `MatchInfo`. -/
structure MatchInfo where
  localEndpoint : EndpointInfo
  remoteEndpoint : EndpointInfo
  remoteLocator : Locator
  remoteParticipantId : Nat
  remoteHostId : Text
  deriving DecidableEq, Repr

/-- `Qos::Reliability`. -/
inductive Reliability where
  | bestEffort
  | reliable
  deriving DecidableEq, Repr

/-- `static_cast<int>` of a reliability. -/
def Reliability.value : Reliability → Nat
  | .bestEffort => 0
  | .reliable => 1

/-- `Qos::compatible`: what the writer offers covers what the reader
requests. -/
def compatible (offeredWriter requestedReader : Reliability) : Bool :=
  offeredWriter.value ≥ requestedReader.value

/-- `rel_of`. -/
def relOf (endpoint : EndpointInfo) : Reliability :=
  if endpoint.reliability = 0 then .bestEffort else .reliable

/-- `pubsub_pair` in `match_endpoints`. -/
def pubsubPair (le re : EndpointInfo) : Bool :=
  (le.kind = .publisher ∧ re.kind = .subscriber) ∨
    (le.kind = .subscriber ∧ re.kind = .publisher)

/-- `rpc_pair` in `match_endpoints`. -/
def rpcPair (le re : EndpointInfo) : Bool :=
  (le.kind = .service ∧ re.kind = .client) ∨
    (le.kind = .client ∧ re.kind = .service)

/-- The endpoint of a pair that writes. -/
def writerOf (le re : EndpointInfo) : EndpointInfo :=
  if le.kind = .publisher ∨ le.kind = .service then le else re

/-- The endpoint of a pair that reads. -/
def readerOf (le re : EndpointInfo) : EndpointInfo :=
  if le.kind = .subscriber ∨ le.kind = .client then le else re

/-- The body of the inner loop of `match_endpoints`: whether it reaches
`out.push_back`. -/
def pairMatches (le re : EndpointInfo) : Bool :=
  if !pubsubPair le re && !rpcPair le re then
    false
  else if le.topic ≠ re.topic ∨ le.typeName ≠ re.typeName then
    false
  else if rpcPair le re ∧ le.responseTypeName ≠ re.responseTypeName then
    false
  else
    compatible (relOf (writerOf le re)) (relOf (readerOf le re))

/-- `match_endpoints`.  The host id is filled in by the caller, `try_match`. -/
def matchEndpoints (localEndpoints : List EndpointInfo) (remoteId : Nat)
    (remoteLocator : Locator) (remoteEndpoints : List EndpointInfo)
    (remoteHostId : Text) : List MatchInfo :=
  localEndpoints.flatMap fun le =>
    (remoteEndpoints.filter fun re => pairMatches le re).map fun re =>
      { localEndpoint := le
        remoteEndpoint := re
        remoteLocator := remoteLocator
        remoteParticipantId := remoteId
        remoteHostId := remoteHostId }

/-- `match_key`. -/
def matchKey (m : MatchInfo) : Text :=
  signedDecimal m.localEndpoint.kind.value ++ ':' :: m.localEndpoint.topic ++
    '|' :: decimal m.remoteParticipantId ++
    '|' :: signedDecimal m.remoteEndpoint.kind.value ++
    ':' :: m.remoteEndpoint.topic

/-! ## Matches -/

theorem mem_matchEndpoints
    {localEndpoints remoteEndpoints : List EndpointInfo} {remoteId : Nat}
    {remoteLocator : Locator} {remoteHostId : Text} {m : MatchInfo} :
    m ∈ matchEndpoints localEndpoints remoteId remoteLocator remoteEndpoints
          remoteHostId ↔
      m.localEndpoint ∈ localEndpoints ∧ m.remoteEndpoint ∈ remoteEndpoints ∧
        pairMatches m.localEndpoint m.remoteEndpoint ∧
        m.remoteLocator = remoteLocator ∧
        m.remoteParticipantId = remoteId ∧ m.remoteHostId = remoteHostId := by
  simp only [matchEndpoints, List.mem_flatMap, List.mem_map, List.mem_filter]
  constructor
  · rintro ⟨le, localMember, re, ⟨remoteMember, paired⟩, rfl⟩
    exact ⟨localMember, remoteMember, paired, rfl, rfl, rfl⟩
  · rintro ⟨localMember, remoteMember, paired, rfl, rfl, rfl⟩
    exact ⟨_, localMember, _, ⟨remoteMember, paired⟩, rfl⟩

theorem topic_of_pairMatches
    {le re : EndpointInfo} (paired : pairMatches le re) :
    le.topic = re.topic := by
  by_contra different
  simp [pairMatches, different] at paired

theorem subscriber_of_publisher
    {le re : EndpointInfo} (paired : pairMatches le re)
    (publisher : le.kind = .publisher) :
    re.kind = .subscriber := by
  by_contra other
  simp [pairMatches, pubsubPair, rpcPair, publisher, other] at paired

theorem publisher_of_subscriber
    {le re : EndpointInfo} (paired : pairMatches le re)
    (subscriber : le.kind = .subscriber) :
    re.kind = .publisher := by
  by_contra other
  simp [pairMatches, pubsubPair, rpcPair, subscriber, other] at paired

theorem pairMatches_comm (le re : EndpointInfo) :
    pairMatches le re = pairMatches re le := by
  obtain ⟨localKind, localTopic, localType, localReliability, localResponse⟩ :=
    le
  obtain ⟨remoteKind, remoteTopic, remoteType, remoteReliability,
    remoteResponse⟩ := re
  have topics : (localTopic = remoteTopic) = (remoteTopic = localTopic) :=
    propext eq_comm
  have types : (localType = remoteType) = (remoteType = localType) :=
    propext eq_comm
  have responses :
      (localResponse = remoteResponse) = (remoteResponse = localResponse) :=
    propext eq_comm
  cases localKind <;> cases remoteKind <;>
    simp [pairMatches, pubsubPair, rpcPair, writerOf, readerOf, topics, types,
      responses]

/-! ## Keys -/

/-- The place of a named kind in the enumeration. -/
def EndpointKind.index? : EndpointKind → Option (Fin 4)
  | .publisher => some 0
  | .subscriber => some 1
  | .service => some 2
  | .client => some 3
  | .unrecognized _ _ => none

/-- A named kind is determined by its place, which is its value. -/
theorem EndpointKind.eq_of_index
    {first second : EndpointKind} {place : Fin 4}
    (firstAt : first.index? = some place)
    (secondAt : second.index? = some place) : first = second := by
  have samePlace : first.index? = second.index? := firstAt.trans secondAt.symm
  cases first with
  | unrecognized number unknown =>
      cases firstAt
  | _ =>
      cases second <;>
        first
        | rfl
        | simp [EndpointKind.index?] at samePlace

theorem EndpointKind.text_of_index
    {kind : EndpointKind} {place : Fin 4} (found : kind.index? = some place) :
    signedDecimal kind.value = decimal place := by
  cases kind <;> simp_all [EndpointKind.index?] <;> subst found <;> rfl

/-- Only endpoints of named kinds match. -/
theorem exists_index_of_pairMatches
    {le re : EndpointInfo} (paired : pairMatches le re) :
    ∃ localPlace remotePlace,
      le.kind.index? = some localPlace ∧ re.kind.index? = some remotePlace := by
  cases localKind : le.kind <;> cases remoteKind : re.kind <;>
    simp [pairMatches, pubsubPair, rpcPair, localKind, remoteKind,
      EndpointKind.index?] at paired ⊢

/-- Two texts that carry a topic twice, around a number between separators,
are built from the same topic.  If one topic were longer, its last separator
would meet a digit of the other number. -/
private theorem topic_of_framed
    {first second : Text} {number other : Nat} {tail : Text} {rest : Text}
    (sameSize : tail.length = rest.length)
    (equal :
      first ++ '|' :: (decimal number ++ '|' :: (tail ++ first)) =
        second ++ '|' :: (decimal other ++ '|' :: (rest ++ second))) :
    second.length ≤ first.length := by
  by_contra longer
  have lengths := congrArg List.length equal
  simp only [List.length_append, List.length_cons] at lengths
  -- The character behind the longer topic, read in both texts.
  have separator := congrArg (fun text => text[second.length]?) equal
  simp only [List.getElem?_append_right (Nat.le_refl second.length),
    Nat.sub_self, List.getElem?_cons_zero,
    List.getElem?_append_right (show first.length ≤ second.length by omega)]
    at separator
  obtain ⟨offset, size⟩ : ∃ offset, second.length - first.length = offset + 1 :=
    ⟨second.length - first.length - 1, by omega⟩
  rw [size, List.getElem?_cons_succ,
    List.getElem?_append_left (by omega)] at separator
  have digit := isDigit_of_mem_decimal (List.mem_of_getElem? separator)
  exact absurd digit (by decide)

/-- Among matches the key determines both kinds, the topic and the
participant. -/
theorem matchKey_eq_iff
    {first second : MatchInfo}
    (firstPaired : pairMatches first.localEndpoint first.remoteEndpoint)
    (secondPaired : pairMatches second.localEndpoint second.remoteEndpoint) :
    matchKey first = matchKey second ↔
      first.localEndpoint.kind = second.localEndpoint.kind ∧
        first.remoteEndpoint.kind = second.remoteEndpoint.kind ∧
        first.localEndpoint.topic = second.localEndpoint.topic ∧
        first.remoteParticipantId = second.remoteParticipantId := by
  have noDigit : Char.isDigit ':' = false := by decide
  have noDigitBar : Char.isDigit '|' = false := by decide
  have firstTopic := topic_of_pairMatches firstPaired
  have secondTopic := topic_of_pairMatches secondPaired
  obtain ⟨firstLocal, firstRemote, firstLocalAt, firstRemoteAt⟩ :=
    exists_index_of_pairMatches firstPaired
  obtain ⟨secondLocal, secondRemote, secondLocalAt, secondRemoteAt⟩ :=
    exists_index_of_pairMatches secondPaired
  constructor
  · intro equal
    unfold matchKey at equal
    rw [← firstTopic, ← secondTopic,
      EndpointKind.text_of_index firstLocalAt,
      EndpointKind.text_of_index firstRemoteAt,
      EndpointKind.text_of_index secondLocalAt,
      EndpointKind.text_of_index secondRemoteAt] at equal
    simp only [List.append_assoc, List.cons_append] at equal
    obtain ⟨localKind, behind⟩ := decimal_append_separator noDigit equal
    have size (place : Fin 4) : (decimal place).length = 1 := by
      revert place
      decide
    have rearranged (topic : Text) (number : Nat) (place : Fin 4) :
        topic ++ '|' :: (decimal number ++
            '|' :: (decimal place ++ ':' :: topic)) =
          topic ++ '|' :: (decimal number ++
            '|' :: ((decimal place ++ [':']) ++ topic)) := by
      simp
    rw [rearranged, rearranged] at behind
    have sameLength :=
      Nat.le_antisymm
        (topic_of_framed (by simp [size]) behind.symm)
        (topic_of_framed (by simp [size]) behind)
    obtain ⟨topic, afterTopic⟩ := List.append_inj behind sameLength
    obtain ⟨participant, afterNumber⟩ :=
      decimal_append_separator noDigitBar (List.cons.inj afterTopic).2
    rw [List.append_assoc, List.append_assoc] at afterNumber
    obtain ⟨remoteKind, _⟩ := decimal_append_separator noDigit afterNumber
    rw [Fin.val_inj] at localKind remoteKind
    subst localKind remoteKind
    exact ⟨EndpointKind.eq_of_index firstLocalAt secondLocalAt,
      EndpointKind.eq_of_index firstRemoteAt secondRemoteAt, topic, participant⟩
  · rintro ⟨localKind, remoteKind, topic, participant⟩
    unfold matchKey
    rw [← firstTopic, ← secondTopic, localKind, remoteKind, topic, participant]

end MiniMiddleware.Discovery
