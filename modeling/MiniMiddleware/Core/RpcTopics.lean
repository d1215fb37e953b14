import MiniMiddleware.Common.Text
import MiniMiddleware.Transport.ShmRing
import Mathlib.Data.List.DropRight

/-!
# Topics and messages of a remote call

A service receives its requests on one internal topic and every client its
replies on a topic of its own.  Requests and replies travel in two envelopes
whose payload is the serialized message of the user.
-/

namespace MiniMiddleware.Core

open MiniMiddleware.Transport

/-- `rpc_sanitize_segment`. -/
def rpcSanitizeSegment (value : Text) : Text :=
  let out := value.map fun char => if char.isAlphanum then char else '_'
  let trimmed := (out.dropWhile (· = '_')).rdropWhile (· = '_')
  if trimmed = [] then "default".toList else trimmed

/-- `rpc_topic_segment`. -/
def rpcTopicSegment (serviceName : Text) : Text :=
  rpcSanitizeSegment serviceName

/-- `rpc_client_segment`. -/
def rpcClientSegment (clientId : Text) : Text :=
  rpcSanitizeSegment clientId

/-- `rpc_request_topic`. -/
def rpcRequestTopic (serviceName : Text) : Text :=
  "/_mm/rpc/".toList ++ rpcTopicSegment serviceName ++ "/request".toList

/-- `rpc_reply_topic`. -/
def rpcReplyTopic (serviceName clientId : Text) : Text :=
  "/_mm/rpc/".toList ++ rpcTopicSegment serviceName ++ "/reply/".toList ++
    rpcClientSegment clientId

/-- The envelope of a request. -/
structure RpcRequest where
  requestId : Nat
  replyTopic : Text
  payload : Bytes
  deriving DecidableEq, Repr

/-- The envelope of a reply. -/
structure RpcReply where
  requestId : Nat
  payload : Bytes
  ok : Bool
  error : Text
  deriving DecidableEq, Repr

/-- `SerializeToString` and `ParseFromString` of one message type.  Either may
fail, but what was serialized is parsed back. -/
structure Codec (Message : Type) where
  serialize : Message → Option Bytes
  parse : Bytes → Option Message
  parse_serialize :
    ∀ message bytes, serialize message = some bytes →
      parse bytes = some message

/-- A codec that is only known at one message. -/
def Codec.only {Message : Type} [DecidableEq Message] (message : Message)
    (bytes : Bytes) : Codec Message where
  serialize other := if other = message then some bytes else none
  parse other := if other = bytes then some message else none
  parse_serialize := by
    intro other serialized equal
    split at equal
    · rename_i same
      cases equal
      rw [if_pos rfl, same]
    · cases equal

/-- Messages that are byte strings. -/
def bytesCodec : Codec Bytes where
  serialize message := some message
  parse bytes := some bytes
  parse_serialize := by
    intro message bytes serialized
    exact serialized.symm

end MiniMiddleware.Core
