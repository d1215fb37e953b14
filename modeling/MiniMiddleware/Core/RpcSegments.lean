import MiniMiddleware.Core.RpcTopics
import Mathlib.Data.List.Basic
import Mathlib.Data.List.Forall2

/-!
# Names as segments of topics

`rpc_sanitize_segment` cuts everything that is not alphanumeric off both ends
of a name and replaces it by an underscore in between, so a segment never
contains a separator of topics.

Two names have the same segment exactly if they are alike: of one length after
the cut, and at each place with the same character or with two characters that
are not alphanumeric.
-/

namespace MiniMiddleware.Core

/-- A character of a segment. -/
def segmentChar (char : Char) : Char :=
  if char.isAlphanum then char else '_'

/-- A name without what is not alphanumeric at its ends. -/
def trimmedName (name : Text) : Text :=
  (name.dropWhile fun char => !char.isAlphanum).rdropWhile
    fun char => !char.isAlphanum

/-- What is left of a name, or the substitute for nothing. -/
def coreName (name : Text) : Text :=
  if trimmedName name = [] then "default".toList else trimmedName name

/-- Two characters that a segment does not tell apart. -/
def AlikeChars (first second : Char) : Prop :=
  first = second ∨ (first.isAlphanum = false ∧ second.isAlphanum = false)

instance (first second : Char) : Decidable (AlikeChars first second) :=
  inferInstanceAs (Decidable (_ ∨ _))

/-- Two names that a topic does not tell apart. -/
def AlikeNames (first second : Text) : Prop :=
  List.Forall₂ AlikeChars (coreName first) (coreName second)

instance (first second : Text) : Decidable (AlikeNames first second) :=
  inferInstanceAs (Decidable (List.Forall₂ _ _ _))

theorem ne_underscore_of_isAlphanum
    {char : Char} (alphanum : char.isAlphanum = true) : char ≠ '_' := by
  rintro rfl
  cases alphanum

theorem segmentChar_eq_underscore (char : Char) :
    decide (segmentChar char = '_') = !char.isAlphanum := by
  unfold segmentChar
  by_cases alphanum : char.isAlphanum
  · simp [alphanum, ne_underscore_of_isAlphanum alphanum]
  · simp [alphanum]

theorem segmentChar_eq_iff (first second : Char) :
    segmentChar first = segmentChar second ↔ AlikeChars first second := by
  unfold segmentChar AlikeChars
  by_cases left : first.isAlphanum
  · by_cases right : second.isAlphanum
    · simp [left, right]
    · have different : first ≠ second := by
        rintro rfl
        exact right left
      simp [left, right, ne_underscore_of_isAlphanum left, different]
  · by_cases right : second.isAlphanum
    · have different : first ≠ second := by
        rintro rfl
        exact left right
      simp [left, right, (ne_underscore_of_isAlphanum right).symm, different]
    · simp [left, right]

theorem rpcSanitizeSegment_eq (name : Text) :
    rpcSanitizeSegment name = (coreName name).map segmentChar := by
  have underscores :
      (fun char => decide (char = '_')) ∘ segmentChar =
        fun char => !char.isAlphanum :=
    funext segmentChar_eq_underscore
  have default :
      "default".toList.map segmentChar = "default".toList := by decide
  have trimmed :
      ((name.map segmentChar).dropWhile (· = '_')).rdropWhile (· = '_') =
        (trimmedName name).map segmentChar := by
    rw [List.dropWhile_map, underscores, List.rdropWhile, ← List.map_reverse,
      List.dropWhile_map, underscores, ← List.map_reverse]
    rfl
  unfold coreName
  simp only [rpcSanitizeSegment]
  change
    (if ((name.map segmentChar).dropWhile (· = '_')).rdropWhile (· = '_') = []
      then "default".toList
      else ((name.map segmentChar).dropWhile (· = '_')).rdropWhile (· = '_')) =
      _
  simp only [trimmed, List.map_eq_nil_iff]
  split
  · exact default.symm
  · rfl

/-- Segments are equal exactly if the names are alike. -/
theorem rpcSanitizeSegment_eq_iff (first second : Text) :
    rpcSanitizeSegment first = rpcSanitizeSegment second ↔
      AlikeNames first second := by
  rw [rpcSanitizeSegment_eq, rpcSanitizeSegment_eq, ← List.forall₂_eq_eq_eq,
    List.forall₂_map_left_iff, List.forall₂_map_right_iff]
  simp only [segmentChar_eq_iff, AlikeNames]

theorem slash_notMem_rpcSanitizeSegment (name : Text) :
    '/' ∉ rpcSanitizeSegment name := by
  rw [rpcSanitizeSegment_eq]
  intro member
  obtain ⟨char, _, equal⟩ := List.mem_map.mp member
  unfold segmentChar at equal
  split at equal
  · rename_i alphanum
    subst equal
    cases alphanum
  · cases equal

/-! ## Topics -/

/-- Request topics are equal exactly if the service names are alike. -/
theorem rpcRequestTopic_eq_iff (first second : Text) :
    rpcRequestTopic first = rpcRequestTopic second ↔
      AlikeNames first second := by
  rw [← rpcSanitizeSegment_eq_iff]
  unfold rpcRequestTopic rpcTopicSegment
  rw [List.append_left_inj, List.append_right_inj]

/-- A reply topic determines the segment of its client. -/
theorem rpcClientSegment_eq_of_topic
    {first second firstClient secondClient : Text}
    (equal :
      rpcReplyTopic first firstClient = rpcReplyTopic second secondClient) :
    rpcClientSegment firstClient = rpcClientSegment secondClient := by
  unfold rpcReplyTopic rpcTopicSegment at equal
  simp only [List.append_assoc, List.append_cancel_left_eq] at equal
  have parts :=
    append_separator (slash_notMem_rpcSanitizeSegment first)
      (slash_notMem_rpcSanitizeSegment second) equal
  exact List.append_cancel_left parts.2

/-- No reply topic is a request topic. -/
theorem rpcReplyTopic_ne_rpcRequestTopic (first clientId second : Text) :
    rpcReplyTopic first clientId ≠ rpcRequestTopic second := by
  intro equal
  unfold rpcReplyTopic rpcRequestTopic rpcTopicSegment at equal
  simp only [List.append_assoc, List.append_cancel_left_eq] at equal
  have parts :=
    append_separator (slash_notMem_rpcSanitizeSegment first)
      (slash_notMem_rpcSanitizeSegment second) equal
  have third := congrArg (fun text => text[2]?) parts.2
  cases third

end MiniMiddleware.Core
