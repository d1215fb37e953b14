import MiniMiddleware.Discovery.Coverage
import MiniMiddleware.Library.PairSearch

/-!
# Recorded pairs are minimal

`try_match` records the first pair of a key that the nested loops of
`match_endpoints` meet.  Such a pair sits at a minimal position of the two
endpoint lists, whichever end walks them, and stays there as the lists grow.
-/

namespace MiniMiddleware.Discovery

open MiniMiddleware.Library

/-- The positions of the compatible pairs of a publisher and a subscriber on
one topic. -/
def Pairing (publishers subscribers : List EndpointInfo) (topic : Text) :
    ℕ × ℕ → Prop :=
  Passing
    (fun publisher subscriber =>
      publisher.kind = .publisher ∧ publisher.topic = topic ∧
        pairMatches publisher subscriber)
    publishers subscribers

/-- A match between the endpoints at a minimal position. -/
def AtMinimal (publishers subscribers : List EndpointInfo)
    (publisher subscriber : EndpointInfo) : Prop :=
  ∃ position,
    publishers[position.1]? = some publisher ∧
      subscribers[position.2]? = some subscriber ∧
      Minimal (Pairing publishers subscribers publisher.topic) position

theorem AtMinimal.extend
    {publishers morePublishers subscribers moreSubscribers : List EndpointInfo}
    {publisher subscriber : EndpointInfo}
    (atMinimal : AtMinimal publishers subscribers publisher subscriber)
    (publishersGrow : publishers <+: morePublishers)
    (subscribersGrow : subscribers <+: moreSubscribers) :
    AtMinimal morePublishers moreSubscribers publisher subscriber := by
  obtain ⟨position, publisherAt, subscriberAt, minimal⟩ := atMinimal
  exact ⟨position, getElem?_of_prefix publishersGrow publisherAt,
    getElem?_of_prefix subscribersGrow subscriberAt,
    minimal_passing_extend publishersGrow subscribersGrow minimal⟩

/-- A match of this side is at a minimal position, whichever end publishes. -/
structure RecordsMinimal (own peer : List EndpointInfo) (m : MatchInfo) :
    Prop where
  publishing :
    m.localEndpoint.kind = .publisher →
      AtMinimal own peer m.localEndpoint m.remoteEndpoint
  subscribing :
    m.localEndpoint.kind = .subscriber →
      AtMinimal peer own m.remoteEndpoint m.localEndpoint

theorem RecordsMinimal.extend
    {own moreOwn peer morePeer : List EndpointInfo} {m : MatchInfo}
    (records : RecordsMinimal own peer m)
    (ownGrows : own <+: moreOwn) (peerGrows : peer <+: morePeer) :
    RecordsMinimal moreOwn morePeer m :=
  ⟨fun publisher => (records.publishing publisher).extend ownGrows peerGrows,
    fun subscriber =>
      (records.subscribing subscriber).extend peerGrows ownGrows⟩

/-- The first pair of a key in the loops of `match_endpoints`. -/
theorem recordsMinimal_of_find?
    {remote : Remote} {remoteId : Nat} {own : List EndpointInfo} {key : Text}
    {m : MatchInfo}
    (found :
      (remote.matches remoteId own).find? (fun other => matchKey other = key) =
        some m) :
    RecordsMinimal own remote.endpoints m := by
  have member := List.mem_of_find?_eq_some found
  have isKey : matchKey m = key := by simpa using List.find?_some found
  have paired := (mem_matches member).1
  obtain ⟨position, le, re, leAt, reAt, rfl, minimal⟩ := minimal_of_find? found
  have sameKey (left right : EndpointInfo) (both : pairMatches left right) :
      matchKey ⟨left, right, remote.locator, remoteId, remote.hostId⟩ = key ↔
        left.kind = le.kind ∧ right.kind = re.kind ∧ left.topic = le.topic := by
    rw [← isKey,
      matchKey_eq_iff both paired]
    simp
  refine ⟨fun publisher => ⟨position, leAt, reAt, ?_⟩,
    fun subscriber => ⟨position.swap, reAt, leAt, ?_⟩⟩
  · refine minimal_passing_congr (fun left right => ?_) minimal
    constructor
    · rintro ⟨both, equal⟩
      rw [decide_eq_true_eq, sameKey left right both] at equal
      exact ⟨equal.1.trans publisher, equal.2.2, both⟩
    · rintro ⟨kind, topic, both⟩
      refine ⟨both, ?_⟩
      rw [decide_eq_true_eq, sameKey left right both]
      exact ⟨kind.trans publisher.symm,
        (subscriber_of_publisher both kind).trans
          (subscriber_of_publisher paired publisher).symm, topic⟩
  · have isPublisher := publisher_of_subscriber paired subscriber
    refine
      minimal_passing_swap
        (minimal_passing_congr (fun left right => ?_) minimal)
    constructor
    · rintro ⟨both, equal⟩
      rw [decide_eq_true_eq, sameKey left right both] at equal
      refine ⟨equal.2.1.trans isPublisher, ?_, by rwa [pairMatches_comm]⟩
      exact
        (topic_of_pairMatches both).symm.trans
          (equal.2.2.trans (topic_of_pairMatches paired))
    · rintro ⟨kind, topic, both⟩
      rw [pairMatches_comm] at both
      refine ⟨both, ?_⟩
      rw [decide_eq_true_eq, sameKey left right both]
      have leftKind : left.kind = .subscriber :=
        subscriber_of_publisher (by rwa [pairMatches_comm] at both) kind
      exact ⟨leftKind.trans subscriber.symm, kind.trans isPublisher.symm,
        (topic_of_pairMatches both).trans
          (topic.trans (topic_of_pairMatches paired).symm)⟩

/-- What `try_match` enters is minimal in the lists it was given. -/
theorem recordsMinimal_tryMatch
    {agent : DiscoveryAgent} {remoteId : Nat} {remote : Remote}
    {key : Text} {m : MatchInfo}
    (found :
      (agent.tryMatch remoteId remote).1.activeMatches[key]? = some m) :
    agent.activeMatches[key]? = some m ∨
      RecordsMinimal agent.localEndpoints remote.endpoints m ∧
        m.remoteParticipantId = remoteId ∧ m.remoteHostId = remote.hostId := by
  simp only [DiscoveryAgent.tryMatch, getElem?_recordAll] at found
  rcases Option.or_eq_some_iff.mp found with old | ⟨_, first⟩
  · exact Or.inl old
  · obtain ⟨_, _, _, _, participant, host⟩ :=
      mem_matchEndpoints.mp (List.mem_of_find?_eq_some first)
    exact Or.inr ⟨recordsMinimal_of_find? first, participant, host⟩

end MiniMiddleware.Discovery
