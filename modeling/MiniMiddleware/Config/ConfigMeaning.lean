import MiniMiddleware.Config.Config
import MiniMiddleware.Library.Lists

/-!
# What a configuration means

Read as a whole, a text is a list of lines, and each of the seven settings has
the value of its last assignment, or its default.  Nothing is said about the
order of different settings or about other keys.

The parser goes through the lines once.  In front of a line it holds the
section and the settings of the lines before it, and none of these is wrong.
-/

namespace MiniMiddleware.Config

open MiniMiddleware.Core MiniMiddleware.Discovery MiniMiddleware.Library

/-! ## Lines and settings -/

/-- What a line says. -/
inductive LineKind where
  | blank
  | header (name : Text)
  | assignment (key value : Text)
  | malformed
  deriving DecidableEq, Repr

/-- A line is cut at its first `#` and trimmed. -/
def lineKind (raw : Text) : LineKind :=
  let line := trim (stripComment raw)
  if line = [] then
    .blank
  else if line.getLast? = some ':' then
    .header (trim line.dropLast)
  else if ':' ∉ line then
    .malformed
  else
    .assignment (trim (line.takeWhile (· ≠ ':')))
      (trim (line.dropWhile (· ≠ ':')).tail)

/-- The lines of a text. -/
def linesOf (text : Text) : List LineKind :=
  (text.splitOn '\n').map lineKind

/-- The name in a header. -/
def LineKind.headerName : LineKind → Option Text
  | .header name => some name
  | _ => none

/-- The section of a line: the name in the nearest header in front of it. -/
def sectionAt (lines : List LineKind) (index : Nat) : Text :=
  ((lines.take index).filterMap LineKind.headerName).getLast?.getD []

/-- The settings. -/
inductive Setting where
  | nodeName
  | enableShm
  | group
  | port
  | reliability
  | history
  | depth
  deriving DecidableEq, Repr

namespace Setting

/-- The section of a setting. -/
def sectionName : Setting → Text
  | .nodeName => "node".toList
  | .enableShm => "transport".toList
  | .group => "discovery".toList
  | .port => "discovery".toList
  | .reliability => "qos".toList
  | .history => "qos".toList
  | .depth => "qos".toList

/-- The key of a setting. -/
def key : Setting → Text
  | .nodeName => "name".toList
  | .enableShm => "enable_shm".toList
  | .group => "group".toList
  | .port => "port".toList
  | .reliability => "reliability".toList
  | .history => "history".toList
  | .depth => "depth".toList

/-- The values that a setting may have. -/
def Valid : Setting → Text → Prop
  | .nodeName, _ => True
  | .enableShm, value => value = "true".toList ∨ value = "false".toList
  | .group, _ => True
  | .port, value => IsDecimal value ∧ digitsValue value ≤ 65535
  | .reliability, value =>
      value = "best_effort".toList ∨ value = "reliable".toList
  | .history, value => value = "keep_last".toList ∨ value = "keep_all".toList
  | .depth, value => IsDecimal value ∧ digitsValue value ≤ 4294967295

/-- A configuration has the value that a text denotes. -/
def HasValue (cfg : MiddlewareConfig) : Setting → Text → Prop
  | .nodeName, value => cfg.node.name = value
  | .enableShm, value =>
      cfg.transport.enableShm = decide (value = "true".toList)
  | .group, value => cfg.discovery.group = value
  | .port, value => cfg.discovery.port.toNat = digitsValue value
  | .reliability, value =>
      cfg.qos.reliability =
        if value = "reliable".toList then .reliable else .bestEffort
  | .history, value =>
      cfg.qos.history =
        if value = "keep_all".toList then .keepAll else .keepLast
  | .depth, value => cfg.qos.depth.toNat = digitsValue value

/-- Two configurations agree on a setting. -/
def SameIn (cfg other : MiddlewareConfig) : Setting → Prop
  | .nodeName => cfg.node.name = other.node.name
  | .enableShm => cfg.transport.enableShm = other.transport.enableShm
  | .group => cfg.discovery.group = other.discovery.group
  | .port => cfg.discovery.port = other.discovery.port
  | .reliability => cfg.qos.reliability = other.qos.reliability
  | .history => cfg.qos.history = other.qos.history
  | .depth => cfg.qos.depth = other.qos.depth

end Setting

/-- A line assigns a value to a setting. -/
def Assigns (lines : List LineKind) (index : Nat) (setting : Setting)
    (value : Text) : Prop :=
  lines[index]? = some (.assignment setting.key value) ∧
    sectionAt lines index = setting.sectionName

/-- A line has no colon, or assigns what the setting may not have. -/
def Offends (lines : List LineKind) (index : Nat) : Prop :=
  lines[index]? = some .malformed ∨
    ∃ setting value, Assigns lines index setting value ∧
      ¬ setting.Valid value

/-- The last assignment to a setting. -/
def LastAssigns (lines : List LineKind) (setting : Setting) (value : Text) :
    Prop :=
  ∃ index, Assigns lines index setting value ∧
    ∀ later other, index < later → ¬ Assigns lines later setting other

/-- The error that names a line. -/
def NamesLine (lines : List LineKind) (index : Nat) (error : Text) : Prop :=
  ∃ reason,
    error = "line ".toList ++ decimal (index + 1) ++ ": ".toList ++ reason ∧
      (lines[index]? = some .malformed →
        reason = "expected key: value".toList) ∧
      ∀ setting value, Assigns lines index setting value →
        reason = "invalid ".toList ++ setting.key

/-- A result is what some lines mean. -/
structure Means (lines : List LineKind) (result : ConfigParseResult) :
    Prop where
  ok : result.ok = true ↔ ∀ index, ¬ Offends lines index
  assigned :
    result.ok = true → ∀ setting value, LastAssigns lines setting value →
      setting.HasValue result.config value
  default :
    result.ok = true → ∀ setting : Setting,
      (∀ index value, ¬ Assigns lines index setting value) →
        setting.SameIn result.config defaultConfig
  error :
    ∀ index, Offends lines index →
      (∀ earlier, earlier < index → ¬ Offends lines earlier) →
        NamesLine lines index result.error

/-! ## One assignment -/

namespace Setting

theorem eq_of_names
    {first second : Setting}
    (sections : first.sectionName = second.sectionName)
    (keys : first.key = second.key) :
    first = second := by
  cases first <;> cases second <;>
    first
      | rfl
      | exact absurd sections (by decide)
      | exact absurd keys (by decide)

/-- The change that a value makes, if the setting may have it. -/
def update : Setting → Text → Option (MiddlewareConfig → MiddlewareConfig)
  | .nodeName, value => some fun cfg => { cfg with node := ⟨value⟩ }
  | .enableShm, value =>
      (parseBool value).map fun parsed cfg =>
        { cfg with transport := ⟨parsed⟩ }
  | .group, value =>
      some fun cfg =>
        { cfg with discovery := { cfg.discovery with group := value } }
  | .port, value =>
      (parseU16 value).map fun parsed cfg =>
        { cfg with discovery := { cfg.discovery with port := parsed } }
  | .reliability, value =>
      (parseReliability value).map fun parsed cfg =>
        { cfg with qos := { cfg.qos with reliability := parsed } }
  | .history, value =>
      (parseHistory value).map fun parsed cfg =>
        { cfg with qos := { cfg.qos with history := parsed } }
  | .depth, value =>
      (parseU32 value).map fun parsed cfg =>
        { cfg with qos := { cfg.qos with depth := parsed } }

theorem assign_setting
    (setting : Setting) (cfg : MiddlewareConfig) (value : Text) :
    assign cfg setting.sectionName setting.key value =
      match setting.update value with
      | none => .error ("invalid ".toList ++ setting.key)
      | some change => .ok (change cfg) := by
  unfold assign
  cases setting with
  | nodeName => rw [if_pos (by decide)]; rfl
  | enableShm =>
      rw [if_neg (by decide), if_pos (by decide), update]
      cases parseBool value <;> rfl
  | group =>
      rw [if_neg (by decide), if_neg (by decide), if_pos (by decide)]
      rfl
  | port =>
      rw [if_neg (by decide), if_neg (by decide), if_neg (by decide),
        if_pos (by decide), update]
      cases parseU16 value <;> rfl
  | reliability =>
      rw [if_neg (by decide), if_neg (by decide), if_neg (by decide),
        if_neg (by decide), if_pos (by decide), update]
      cases parseReliability value <;> rfl
  | history =>
      rw [if_neg (by decide), if_neg (by decide), if_neg (by decide),
        if_neg (by decide), if_neg (by decide), if_pos (by decide), update]
      cases parseHistory value <;> rfl
  | depth =>
      rw [if_neg (by decide), if_neg (by decide), if_neg (by decide),
        if_neg (by decide), if_neg (by decide), if_neg (by decide),
        if_pos (by decide), update]
      cases parseU32 value <;> rfl

theorem assign_unknown
    {sectionName key : Text} (cfg : MiddlewareConfig) (value : Text)
    (unknown :
      ∀ setting : Setting,
        ¬ (sectionName = setting.sectionName ∧ key = setting.key)) :
    assign cfg sectionName key value = .ok cfg := by
  unfold assign
  refine (if_neg (unknown .nodeName)).trans ?_
  refine (if_neg (unknown .enableShm)).trans ?_
  refine (if_neg (unknown .group)).trans ?_
  refine (if_neg (unknown .port)).trans ?_
  refine (if_neg (unknown .reliability)).trans ?_
  refine (if_neg (unknown .history)).trans ?_
  exact if_neg (unknown .depth)

/-- A number is accepted exactly if it is decimal and within the bound. -/
theorem parseUnsigned_isSome_iff
    {maxValue : Nat} (large : 9 ≤ maxValue) (value : Text) :
    (parseUnsigned value maxValue).isSome = true ↔
      IsDecimal value ∧ digitsValue value ≤ maxValue := by
  rw [parseUnsigned_eq large]
  split
  · rename_i fits
    exact ⟨fun _ => fits, fun _ => rfl⟩
  · rename_i unfit
    refine ⟨fun accepted => ?_, fun fits => absurd fits unfit⟩
    cases accepted

theorem word_isSome_iff
    {Value : Type} (value first second : Text) (one other : Value) :
    (if value = first then some one
        else if value = second then some other
        else none).isSome = true ↔
      value = first ∨ value = second := by
  by_cases isFirst : value = first
  · rw [if_pos isFirst]
    exact ⟨fun _ => .inl isFirst, fun _ => rfl⟩
  · rw [if_neg isFirst]
    by_cases isSecond : value = second
    · rw [if_pos isSecond]
      exact ⟨fun _ => .inr isSecond, fun _ => rfl⟩
    · rw [if_neg isSecond]
      exact ⟨nofun, fun word => absurd word (not_or.mpr ⟨isFirst, isSecond⟩)⟩

theorem update_isSome_iff (setting : Setting) (value : Text) :
    (setting.update value).isSome = true ↔ setting.Valid value := by
  cases setting with
  | nodeName => exact ⟨fun _ => trivial, fun _ => rfl⟩
  | enableShm =>
      rw [update, Option.isSome_map]
      exact word_isSome_iff value _ _ true false
  | group => exact ⟨fun _ => trivial, fun _ => rfl⟩
  | port =>
      rw [update, Option.isSome_map, parseU16, Option.isSome_map]
      exact parseUnsigned_isSome_iff (by decide) value
  | reliability =>
      rw [update, Option.isSome_map]
      exact word_isSome_iff value _ _ Reliability.bestEffort .reliable
  | history =>
      rw [update, Option.isSome_map]
      exact word_isSome_iff value _ _ History.keepLast .keepAll
  | depth =>
      rw [update, Option.isSome_map, parseU32, Option.isSome_map]
      exact parseUnsigned_isSome_iff (by decide) value

/-- What an accepted value does. -/
theorem update_hasValue
    {setting : Setting} {value : Text}
    {change : MiddlewareConfig → MiddlewareConfig}
    (accepted : setting.update value = some change) (cfg : MiddlewareConfig) :
    setting.HasValue (change cfg) value := by
  have valid : setting.Valid value :=
    (update_isSome_iff setting value).mp (by rw [accepted]; rfl)
  cases setting with
  | nodeName | group =>
      cases accepted
      rfl
  | enableShm | reliability | history =>
      rcases valid with rfl | rfl <;> cases accepted <;> rfl
  | port =>
      have fits : IsDecimal value ∧ digitsValue value ≤ 2 ^ 16 - 1 := valid
      have parsed : parseU16 value = some (UInt16.ofNat (digitsValue value)) := by
        rw [parseU16, parseUnsigned_eq (by decide), if_pos fits,
          Option.map_some]
      rw [update, parsed] at accepted
      cases accepted
      exact UInt16.toNat_ofNat_of_lt' (Nat.lt_succ_of_le valid.2)
  | depth =>
      have fits : IsDecimal value ∧ digitsValue value ≤ 2 ^ 32 - 1 := valid
      have parsed : parseU32 value = some (UInt32.ofNat (digitsValue value)) := by
        rw [parseU32, parseUnsigned_eq (by decide), if_pos fits,
          Option.map_some]
      rw [update, parsed] at accepted
      cases accepted
      exact UInt32.toNat_ofNat_of_lt' (Nat.lt_succ_of_le valid.2)

/-- What an accepted value leaves alone. -/
theorem update_sameIn
    {setting other : Setting} {value : Text}
    {change : MiddlewareConfig → MiddlewareConfig}
    (accepted : setting.update value = some change)
    (different : other ≠ setting) (cfg : MiddlewareConfig) :
    other.SameIn (change cfg) cfg := by
  cases setting with
  | nodeName | group =>
      cases accepted
      cases other <;> first | rfl | exact absurd rfl different
  | enableShm | port | reliability | history | depth =>
      obtain ⟨parsed, _, rfl⟩ := Option.map_eq_some_iff.mp accepted
      cases other <;> first | rfl | exact absurd rfl different

end Setting

/-! ## A line behind the others -/

section Concat

variable {lines : List LineKind} {kind : LineKind}

theorem sectionAt_append
    {index : Nat} (inside : index ≤ lines.length) (more : List LineKind) :
    sectionAt (lines ++ more) index = sectionAt lines index := by
  unfold sectionAt
  rw [List.take_append_of_le_length inside]

theorem sectionAt_concat (lines : List LineKind) (kind : LineKind) :
    sectionAt (lines ++ [kind]) (lines.length + 1) =
      kind.headerName.getD (sectionAt lines lines.length) := by
  have whole : (lines ++ [kind]).take (lines.length + 1) = lines ++ [kind] :=
    List.take_of_length_le (by simp)
  unfold sectionAt
  rw [whole, List.take_length, List.filterMap_append]
  cases named : kind.headerName with
  | none => simp [named]
  | some name => simp [named]

/-- The assignments of some lines are those of the last one and of the lines
in front of it. -/
theorem assigns_concat_iff {index : Nat} {setting : Setting} {value : Text} :
    Assigns (lines ++ [kind]) index setting value ↔
      Assigns lines index setting value ∨
        (index = lines.length ∧ kind = .assignment setting.key value ∧
          sectionAt lines lines.length = setting.sectionName) := by
  unfold Assigns
  rw [getElem?_concat_eq_some]
  constructor
  · rintro ⟨before | ⟨rfl, rfl⟩, named⟩
    · have inside := (List.getElem?_eq_some_iff.mp before).1
      rw [sectionAt_append inside.le] at named
      exact .inl ⟨before, named⟩
    · rw [sectionAt_append le_rfl] at named
      exact .inr ⟨rfl, rfl, named⟩
  · rintro (⟨before, named⟩ | ⟨rfl, rfl, named⟩)
    · have inside := (List.getElem?_eq_some_iff.mp before).1
      rw [sectionAt_append inside.le]
      exact ⟨.inl before, named⟩
    · rw [sectionAt_append le_rfl]
      exact ⟨.inr ⟨rfl, rfl⟩, named⟩

/-- The wrong lines of some lines. -/
theorem offends_concat_iff {index : Nat} :
    Offends (lines ++ [kind]) index ↔
      Offends lines index ∨
        (index = lines.length ∧
          (kind = .malformed ∨
            ∃ (setting : Setting) (value : Text),
              kind = .assignment setting.key value ∧
              sectionAt lines lines.length = setting.sectionName ∧
              ¬ setting.Valid value)) := by
  unfold Offends
  rw [getElem?_concat_eq_some]
  simp only [assigns_concat_iff]
  constructor
  · rintro ((before | ⟨rfl, rfl⟩) |
      ⟨setting, value, before | ⟨rfl, rfl, named⟩, invalid⟩)
    · exact .inl (.inl before)
    · exact .inr ⟨rfl, .inl rfl⟩
    · exact .inl (.inr ⟨setting, value, before, invalid⟩)
    · exact .inr ⟨rfl, .inr ⟨setting, value, rfl, named, invalid⟩⟩
  · rintro ((before | ⟨setting, value, before, invalid⟩) |
      ⟨rfl, rfl | ⟨setting, value, rfl, named, invalid⟩⟩)
    · exact .inl (.inl before)
    · exact .inr ⟨setting, value, .inl before, invalid⟩
    · exact .inl (.inr ⟨rfl, rfl⟩)
    · exact .inr ⟨setting, value, .inr ⟨rfl, rfl, named⟩, invalid⟩

/-- The line assigns a value to a setting. -/
def AssignsHere (lines : List LineKind) (kind : LineKind) (setting : Setting)
    (value : Text) : Prop :=
  kind = .assignment setting.key value ∧
    sectionAt lines lines.length = setting.sectionName

/-- A line that does not assign to a setting leaves the last assignment to it
as it was. -/
theorem lastAssigns_of_concat
    {setting : Setting} {value : Text}
    (silent : ∀ other, ¬ AssignsHere lines kind setting other)
    (last : LastAssigns (lines ++ [kind]) setting value) :
    LastAssigns lines setting value := by
  obtain ⟨index, assigns, final⟩ := last
  rcases assigns_concat_iff.mp assigns with before | ⟨_, here⟩
  · refine ⟨index, before, fun later other behind assignsLater => ?_⟩
    exact final later other behind (assigns_concat_iff.mpr (.inl assignsLater))
  · exact absurd here (silent value)

/-- The value of a line that assigns to a setting is the last one. -/
theorem eq_of_lastAssigns_concat
    {setting : Setting} {value other : Text}
    (here : AssignsHere lines kind setting value)
    (last : LastAssigns (lines ++ [kind]) setting other) :
    other = value := by
  obtain ⟨index, assigns, final⟩ := last
  rcases assigns_concat_iff.mp assigns with before | ⟨_, sameKind, _⟩
  · have inside := (List.getElem?_eq_some_iff.mp before.1).1
    exact
      absurd (assigns_concat_iff.mpr (.inr ⟨rfl, here⟩))
        (final lines.length value inside)
  · rw [here.1] at sameKind
    cases sameKind
    rfl

end Concat

theorem Setting.HasValue.congr
    {setting : Setting} {cfg other : MiddlewareConfig} {value : Text}
    (has : setting.HasValue cfg value) (same : setting.SameIn other cfg) :
    setting.HasValue other value := by
  cases setting with
  | port => exact (congrArg UInt16.toNat same).trans has
  | depth => exact (congrArg UInt32.toNat same).trans has
  | _ => exact same.trans has

/-! ## The parser in front of a line -/

/-- The section and the settings are those of the lines so far, none of which
is wrong. -/
structure Tracks (lines : List LineKind) (cfg : MiddlewareConfig)
    (sectionName : Text) : Prop where
  sectionName : sectionName = sectionAt lines lines.length
  valid : ∀ index, ¬ Offends lines index
  assigned :
    ∀ setting value, LastAssigns lines setting value →
      setting.HasValue cfg value
  default :
    ∀ setting : Setting, (∀ index value, ¬ Assigns lines index setting value) →
      setting.SameIn cfg defaultConfig

namespace Tracks

variable {lines : List LineKind} {cfg : MiddlewareConfig} {sectionName : Text}

theorem created : Tracks [] defaultConfig [] where
  sectionName := rfl
  valid := by simp [Offends, Assigns]
  assigned := by simp [LastAssigns, Assigns]
  default setting _ := by cases setting <;> rfl

theorem silent
    {kind : LineKind} (tracks : Tracks lines cfg sectionName)
    (wellFormed : kind ≠ .malformed)
    (silent : ∀ setting value, ¬ AssignsHere lines kind setting value) :
    Tracks (lines ++ [kind]) cfg (kind.headerName.getD sectionName) where
  sectionName := by
    rw [List.length_append, List.length_singleton, sectionAt_concat,
      ← tracks.sectionName]
  valid index := by
    rw [offends_concat_iff]
    rintro (before | ⟨_, malformed | ⟨setting, value, here, named, _⟩⟩)
    · exact tracks.valid index before
    · exact wellFormed malformed
    · exact silent setting value ⟨here, named⟩
  assigned setting value last :=
    tracks.assigned setting value
      (lastAssigns_of_concat (silent setting) last)
  default setting never :=
    tracks.default setting fun index value before =>
      never index value (assigns_concat_iff.mpr (.inl before))

theorem assign
    {setting : Setting} {value : Text}
    {change : MiddlewareConfig → MiddlewareConfig}
    (tracks : Tracks lines cfg sectionName)
    (named : sectionName = setting.sectionName)
    (accepted : setting.update value = some change) :
    Tracks (lines ++ [.assignment setting.key value]) (change cfg)
      sectionName := by
  have here :
      AssignsHere lines (.assignment setting.key value) setting value :=
    ⟨rfl, tracks.sectionName.symm.trans named⟩
  have others (other : Setting) (different : other ≠ setting) (text : Text) :
      ¬ AssignsHere lines (.assignment setting.key value) other text := by
    rintro ⟨sameKind, sameSection⟩
    have keys : setting.key = other.key := (LineKind.assignment.inj sameKind).1
    exact
      different
        (Setting.eq_of_names (sameSection.symm.trans here.2) keys.symm)
  have valid : setting.Valid value :=
    (setting.update_isSome_iff value).mp (by rw [accepted]; rfl)
  constructor
  case sectionName =>
    rw [List.length_append, List.length_singleton, sectionAt_concat]
    exact tracks.sectionName
  case valid =>
    intro index
    rw [offends_concat_iff]
    rintro (before | ⟨_, malformed | ⟨other, text, otherHere, otherNamed,
      invalid⟩⟩)
    · exact tracks.valid index before
    · cases malformed
    · by_cases same : other = setting
      · subst same
        cases otherHere
        exact invalid valid
      · exact others other same text ⟨otherHere, otherNamed⟩
  case assigned =>
    intro other text last
    by_cases same : other = setting
    · subst same
      rw [eq_of_lastAssigns_concat here last]
      exact Setting.update_hasValue accepted cfg
    · have before := lastAssigns_of_concat (others other same) last
      exact
        (tracks.assigned other text before).congr
          (Setting.update_sameIn accepted same cfg)
  case default =>
    intro other never
    have different : other ≠ setting := by
      rintro rfl
      exact
        never lines.length value (assigns_concat_iff.mpr (.inr ⟨rfl, here⟩))
    have before :=
      tracks.default other fun index text assigns =>
        never index text (assigns_concat_iff.mpr (.inl assigns))
    have same := Setting.update_sameIn accepted different cfg
    cases other <;> exact same.trans before

end Tracks

/-- What follows a line does not make it right or wrong. -/
theorem assigns_append_iff
    {lines : List LineKind} {index : Nat} (inside : index < lines.length)
    (more : List LineKind) (setting : Setting) (value : Text) :
    Assigns (lines ++ more) index setting value ↔
      Assigns lines index setting value := by
  unfold Assigns
  rw [List.getElem?_append_left inside, sectionAt_append inside.le]

theorem offends_append_iff
    {lines : List LineKind} {index : Nat} (inside : index < lines.length)
    (more : List LineKind) :
    Offends (lines ++ more) index ↔ Offends lines index := by
  unfold Offends
  simp only [assigns_append_iff inside, List.getElem?_append_left inside]

/-- The end of the text is reached. -/
theorem Tracks.means
    {lines : List LineKind} {cfg : MiddlewareConfig} {sectionName : Text}
    (tracks : Tracks lines cfg sectionName) : Means lines ⟨true, cfg, []⟩ where
  ok := ⟨fun _ => tracks.valid, fun _ => rfl⟩
  assigned _ := tracks.assigned
  default _ := tracks.default
  error index offends := absurd offends (tracks.valid index)

theorem means_fail
    {lines : List LineKind} {cfg : MiddlewareConfig} {index : Nat}
    {reason : Text}
    (offends : Offends lines index)
    (first : ∀ earlier, earlier < index → ¬ Offends lines earlier)
    (malformed :
      lines[index]? = some .malformed → reason = "expected key: value".toList)
    (invalid :
      ∀ setting value, Assigns lines index setting value →
        reason = "invalid ".toList ++ setting.key) :
    Means lines (fail cfg (index + 1) reason) where
  ok := ⟨(by cases ·), fun harmless => absurd offends (harmless index)⟩
  assigned accepted := by cases accepted
  default accepted := by cases accepted
  error other otherOffends otherFirst := by
    have same : other = index := by
      rcases Nat.lt_trichotomy other index with before | same | behind
      · exact absurd otherOffends (first other before)
      · exact same
      · exact absurd offends (otherFirst index behind)
    subst same
    exact ⟨reason, rfl, malformed, invalid⟩

/-- One round of the loop: the configuration and the section behind the line,
or what is wrong with the line. -/
def round (cfg : MiddlewareConfig) (sectionName : Text) :
    LineKind → Except Text (MiddlewareConfig × Text)
  | .blank => .ok (cfg, sectionName)
  | .header name => .ok (cfg, name)
  | .malformed => .error "expected key: value".toList
  | .assignment key value =>
      match assign cfg sectionName key value with
      | .error reason => .error reason
      | .ok assigned => .ok (assigned, sectionName)

theorem parseLines_cons
    {lineNo : Nat} (counted : lineNo < intMax) (cfg : MiddlewareConfig)
    (sectionName raw : Text) (rest : List Text) :
    parseLines lineNo cfg sectionName (raw :: rest) =
      match round cfg sectionName (lineKind raw) with
      | .error reason => some (fail cfg (lineNo + 1) reason)
      | .ok (next, name) => parseLines (lineNo + 1) next name rest := by
  rw [parseLines, if_neg (Nat.not_le.mpr counted)]
  unfold lineKind
  dsimp only
  split
  · rfl
  · split
    · rfl
    · split
      · rfl
      · rw [round]
        generalize assign cfg sectionName _ _ = assigned
        cases assigned <;> rfl

namespace Tracks

variable {lines : List LineKind} {cfg : MiddlewareConfig} {sectionName : Text}

/-- The parser keeps track of a line that it accepts. -/
theorem round_ok
    {kind : LineKind} {next : MiddlewareConfig} {name : Text}
    (tracks : Tracks lines cfg sectionName)
    (accepted : round cfg sectionName kind = .ok (next, name)) :
    Tracks (lines ++ [kind]) next name := by
  cases kind with
  | blank =>
      cases accepted
      exact tracks.silent (by simp) (by simp [AssignsHere])
  | header other =>
      cases accepted
      exact tracks.silent (by simp) (by simp [AssignsHere])
  | malformed => cases accepted
  | assignment key value =>
      rw [round] at accepted
      by_cases known :
          ∃ setting : Setting,
            sectionName = setting.sectionName ∧ key = setting.key
      · obtain ⟨setting, named, rfl⟩ := known
        have branch := setting.assign_setting cfg value
        rw [← named] at branch
        rw [branch] at accepted
        cases updated : setting.update value with
        | none =>
            rw [updated] at accepted
            cases accepted
        | some change =>
            rw [updated] at accepted
            cases accepted
            exact tracks.assign named updated
      · have unknown (setting : Setting) :
            ¬ (sectionName = setting.sectionName ∧ key = setting.key) :=
          fun names => known ⟨setting, names⟩
        rw [Setting.assign_unknown cfg value unknown] at accepted
        cases accepted
        refine tracks.silent (by simp) ?_
        rintro setting text ⟨sameKind, sameName⟩
        exact
          unknown setting
            ⟨tracks.sectionName.trans sameName,
              (LineKind.assignment.inj sameKind).1⟩

/-- A line that the parser stops at is wrong, and the reason says in what
way. -/
theorem round_error
    {kind : LineKind} {reason : Text} {more : List LineKind}
    (tracks : Tracks lines cfg sectionName)
    (refused : round cfg sectionName kind = .error reason) :
    Offends (lines ++ kind :: more) lines.length ∧
      Means (lines ++ kind :: more) (fail cfg (lines.length + 1) reason) := by
  have here : (lines ++ kind :: more)[lines.length]? = some kind := by simp
  have sameSection :
      sectionAt (lines ++ kind :: more) lines.length = sectionName :=
    (sectionAt_append le_rfl _).trans tracks.sectionName.symm
  have unharmed (index : Nat) (earlier : index < lines.length) :
      ¬ Offends (lines ++ kind :: more) index := by
    rw [offends_append_iff earlier]
    exact tracks.valid index
  cases kind with
  | blank => cases refused
  | header other => cases refused
  | malformed =>
      cases refused
      have offends : Offends (lines ++ .malformed :: more) lines.length :=
        .inl here
      refine ⟨offends, means_fail offends unharmed (fun _ => rfl) ?_⟩
      intro setting value assigns
      cases here.symm.trans assigns.1
  | assignment key value =>
      rw [round] at refused
      by_cases known :
          ∃ setting : Setting,
            sectionName = setting.sectionName ∧ key = setting.key
      · obtain ⟨setting, named, rfl⟩ := known
        have branch := setting.assign_setting cfg value
        rw [← named] at branch
        rw [branch] at refused
        cases updated : setting.update value with
        | some change =>
            rw [updated] at refused
            cases refused
        | none =>
            rw [updated] at refused
            cases refused
            have invalid : ¬ setting.Valid value := by
              intro valid
              have accepted := (setting.update_isSome_iff value).mpr valid
              rw [updated] at accepted
              cases accepted
            have offends :
                Offends (lines ++ .assignment setting.key value :: more)
                  lines.length :=
              .inr ⟨setting, value, ⟨here, sameSection.trans named⟩, invalid⟩
            refine ⟨offends, means_fail offends unharmed ?_ ?_⟩
            · intro malformed
              cases here.symm.trans malformed
            · intro other text otherAssigns
              have same := here.symm.trans otherAssigns.1
              rw [(LineKind.assignment.inj (Option.some.inj same)).1]
      · have unknown (setting : Setting) :
            ¬ (sectionName = setting.sectionName ∧ key = setting.key) :=
          fun names => known ⟨setting, names⟩
        rw [Setting.assign_unknown cfg value unknown] at refused
        cases refused

end Tracks

/-- The first lines within the range of the counter decide how the parser
ends. -/
def EndsWithinCount (lines : List LineKind) : Prop :=
  lines.length ≤ intMax ∨ ∃ index < intMax, Offends lines index

/-- How the parser ends. -/
def EndsAs (lines : List LineKind) : Option ConfigParseResult → Prop
  | some result => Means lines result ∧ EndsWithinCount lines
  | none => ¬ EndsWithinCount lines

/-- The loop, behind lines that it keeps track of. -/
theorem parseLines_endsAs (raws : List Text) :
    ∀ (before : List LineKind) (cfg : MiddlewareConfig) (sectionName : Text),
      Tracks before cfg sectionName → before.length ≤ intMax →
      EndsAs (before ++ raws.map lineKind)
        (parseLines before.length cfg sectionName raws) := by
  induction raws with
  | nil =>
      intro before cfg sectionName tracks counted
      rw [List.map_nil, List.append_nil]
      exact ⟨tracks.means, .inl counted⟩
  | cons raw rest inductionHypothesis =>
      intro before cfg sectionName tracks counted
      rw [List.map_cons]
      rcases counted.eq_or_lt with full | room
      · rw [parseLines, if_pos full.ge]
        rintro (short | ⟨index, earlier, offends⟩)
        · rw [List.length_append, List.length_cons] at short
          omega
        · rw [offends_append_iff (full.symm ▸ earlier)] at offends
          exact tracks.valid index offends
      · rw [parseLines_cons room]
        cases line : round cfg sectionName (lineKind raw) with
        | error reason =>
            obtain ⟨offends, means⟩ := tracks.round_error line
            exact ⟨means, .inr ⟨before.length, room, offends⟩⟩
        | ok behind =>
            obtain ⟨next, name⟩ := behind
            have tracked := tracks.round_ok line
            have length :
                (before ++ [lineKind raw]).length = before.length + 1 := by
              simp
            have rests :=
              inductionHypothesis _ next name tracked (by rw [length]; exact room)
            rwa [length, List.append_assoc, List.singleton_append] at rests

/-! ## The lines of a text -/

theorem getLines_eq_nil {text : Text} (none : getLines text = []) :
    text = [] := by
  cases text with
  | nil => rfl
  | cons char rest =>
      simp only [getLines] at none
      split at none
      · cases none
      · split at none <;> cases none

/-- `getline` returns the parts between the newlines, but not an empty part
behind the last one. -/
theorem splitOn_newline (text : Text) :
    text.splitOn '\n' = getLines text ∨
      text.splitOn '\n' = getLines text ++ [[]] := by
  induction text with
  | nil => exact .inr (by simp [getLines])
  | cons char rest inductionHypothesis =>
      rw [List.splitOn_cons_eq_if_modifyHead, getLines]
      by_cases newline : char = '\n'
      · rw [if_pos (by simpa using newline), if_pos newline]
        rcases inductionHypothesis with same | blank
        · exact .inl (congrArg ([] :: ·) same)
        · exact .inr (congrArg ([] :: ·) blank)
      · rw [if_neg (by simpa using newline), if_neg newline]
        cases lines : getLines rest with
        | nil =>
            obtain rfl := getLines_eq_nil lines
            exact .inl (by simp)
        | cons line others =>
            rw [lines] at inductionHypothesis
            rcases inductionHypothesis with same | blank
            · exact .inl (by simp [same])
            · exact .inr (by simp [blank])

/-- A blank line at the end means nothing. -/
theorem assigns_blank_iff
    {lines : List LineKind} {index : Nat} {setting : Setting} {value : Text} :
    Assigns (lines ++ [.blank]) index setting value ↔
      Assigns lines index setting value := by
  rw [assigns_concat_iff]
  simp

theorem offends_blank_iff {lines : List LineKind} {index : Nat} :
    Offends (lines ++ [.blank]) index ↔ Offends lines index := by
  rw [offends_concat_iff]
  simp

/-- So such a line leaves the meaning alone. -/
theorem Means.blank
    {lines : List LineKind} {result : ConfigParseResult}
    (means : Means lines result) : Means (lines ++ [.blank]) result where
  ok := by simpa only [offends_blank_iff] using means.ok
  assigned := by
    simpa only [LastAssigns, assigns_blank_iff] using means.assigned
  default := by simpa only [assigns_blank_iff] using means.default
  error index offends first := by
    simp only [offends_blank_iff] at offends first
    obtain ⟨reason, named, malformed, invalid⟩ := means.error index offends first
    refine ⟨reason, named, fun found => malformed ?_, fun setting value => ?_⟩
    · rcases getElem?_concat_eq_some.mp found with before | ⟨_, impossible⟩
      · exact before
      · cases impossible
    · rw [assigns_blank_iff]
      exact invalid setting value

/-- The lines of a text are those that are read, and perhaps a blank one. -/
theorem linesOf_eq (text : Text) :
    linesOf text = (getLines text).map lineKind ∨
      linesOf text = (getLines text).map lineKind ++ [.blank] := by
  have blank : lineKind [] = .blank := by decide
  unfold linesOf
  rcases splitOn_newline text with same | more
  · exact .inl (congrArg (List.map lineKind) same)
  · rw [more, List.map_append, List.map_cons, List.map_nil, blank]
    exact .inr rfl

/-! ## The meaning of a text -/

/-- The number of lines: one for each newline, and one for what stands behind
the last one. -/
def lineCount (text : Text) : Nat :=
  text.count '\n' + if text.getLast? ∈ [none, some '\n'] then 0 else 1

theorem length_getLines (text : Text) :
    (getLines text).length = lineCount text := by
  unfold lineCount
  induction text with
  | nil => rfl
  | cons char rest inductionHypothesis =>
      rw [getLines, List.count_cons]
      by_cases none : rest = []
      · subst none
        by_cases newline : char = '\n' <;> simp [newline, getLines]
      · have last : (char :: rest).getLast? = rest.getLast? :=
          List.getLast?_cons_of_ne_nil none
        rw [last]
        by_cases newline : char = '\n'
        · rw [if_pos newline, List.length_cons, inductionHypothesis]
          simp only [newline, beq_self_eq_true, if_true]
          omega
        · rw [if_neg newline]
          cases lines : getLines rest with
          | nil => exact absurd (getLines_eq_nil lines) none
          | cons line others =>
              rw [lines] at inductionHypothesis
              simpa [newline] using inductionHypothesis

/-- The text has at most `INT_MAX` lines, or one of the first `INT_MAX` lines
is wrong. -/
def CountableLines (text : Text) : Prop :=
  lineCount text ≤ intMax ∨ ∃ index < intMax, Offends (linesOf text) index

theorem endsWithinCount_iff (text : Text) :
    EndsWithinCount ((getLines text).map lineKind) ↔ CountableLines text := by
  unfold EndsWithinCount CountableLines
  rw [List.length_map, length_getLines]
  rcases linesOf_eq text with same | more
  · rw [same]
  · simp only [more, offends_blank_iff]

/-- The increment of the line counter overflows. -/
theorem parseConfigText_eq_none_iff (text : Text) :
    parseConfigText text = none ↔ ¬ CountableLines text := by
  have ends :
      EndsAs ([] ++ (getLines text).map lineKind) (parseConfigText text) :=
    parseLines_endsAs (getLines text) [] defaultConfig [] Tracks.created
      (Nat.zero_le intMax)
  rw [← endsWithinCount_iff]
  cases parsed : parseConfigText text with
  | none =>
      rw [parsed] at ends
      exact ⟨fun _ => ends, fun _ => rfl⟩
  | some result =>
      rw [parsed] at ends
      exact ⟨by simp, fun overflows => absurd ends.2 overflows⟩

/-- What is returned is what the text means. -/
theorem means_of_parseConfigText
    {text : Text} {result : ConfigParseResult}
    (parsed : parseConfigText text = some result) :
    Means (linesOf text) result := by
  have ends :
      EndsAs ([] ++ (getLines text).map lineKind) (parseConfigText text) :=
    parseLines_endsAs (getLines text) [] defaultConfig [] Tracks.created
      (Nat.zero_le intMax)
  rw [parsed] at ends
  rcases linesOf_eq text with same | more
  · rw [same]
    exact ends.1
  · rw [more]
    exact ends.1.blank

/-- The parser returns what the text means exactly if it does not have to count
more than `INT_MAX` lines. -/
theorem parse_config_text_means_iff (text : Text) :
    (∃ result, parseConfigText text = some result ∧
      Means (linesOf text) result) ↔
      CountableLines text := by
  constructor
  · rintro ⟨result, parsed, _⟩
    by_contra overflows
    rw [(parseConfigText_eq_none_iff text).mpr overflows] at parsed
    cases parsed
  · intro countable
    cases parsed : parseConfigText text with
    | none =>
        exact absurd countable ((parseConfigText_eq_none_iff text).mp parsed)
    | some result => exact ⟨result, rfl, means_of_parseConfigText parsed⟩

/-! ## A line that cannot be counted -/

theorem linesOf_newlines (count : Nat) :
    linesOf (List.replicate count '\n' ++ ['x']) =
      List.replicate count .blank ++ [.malformed] := by
  have blank : lineKind [] = .blank := by decide
  have malformed : lineKind ['x'] = .malformed := by decide
  have split :
      (List.replicate count '\n' ++ ['x']).splitOn '\n' =
        List.replicate count [] ++ [['x']] := by
    induction count with
    | zero => rfl
    | succ count inductionHypothesis =>
        rw [List.replicate_succ, List.cons_append,
          List.splitOn_cons_eq_if_modifyHead, if_pos (by simp),
          inductionHypothesis]
        rfl
  rw [linesOf, split, List.map_append, List.map_replicate, blank, List.map_cons,
    malformed]
  rfl

theorem lineCount_newlines (count : Nat) :
    lineCount (List.replicate count '\n' ++ ['x']) = count + 1 := by
  simp [lineCount]

theorem parseConfigText_newlines
    {count : Nat} (large : intMax ≤ count) :
    parseConfigText (List.replicate count '\n' ++ ['x']) = none := by
  rw [parseConfigText_eq_none_iff]
  rintro (short | ⟨index, early, offends⟩)
  · rw [lineCount_newlines] at short
    omega
  · have inside : index < (List.replicate count LineKind.blank).length := by
      rw [List.length_replicate]
      omega
    rw [linesOf_newlines, offends_append_iff inside] at offends
    have blank {kind : LineKind}
        (found : (List.replicate count LineKind.blank)[index]? = some kind) :
        kind = .blank :=
      List.eq_of_mem_replicate (List.mem_of_getElem? found)
    rcases offends with malformed | ⟨setting, value, assigns, _⟩
    · cases blank malformed
    · cases blank assigns.1

/-- Behind 2³¹ empty lines a wrong line is not named. -/
theorem parse_config_text_overflow :
    ¬ ∃ result,
      parseConfigText (List.replicate (2 ^ 31) '\n' ++ ['x']) = some result ∧
        Means (linesOf (List.replicate (2 ^ 31) '\n' ++ ['x'])) result := by
  rintro ⟨result, parsed, _⟩
  rw [parseConfigText_newlines (by decide)] at parsed
  cases parsed

end MiniMiddleware.Config
