import MiniMiddleware.Config.ConfigMeaning

/-!
# Writing a configuration and reading it back

In the documented shape every section has a header, and every setting an
indented line.  A value is read back unless it ends with a colon: its line is
then a header, so the setting keeps its default, and so do the settings of the
section behind it.
-/

namespace MiniMiddleware.Config

open MiniMiddleware.Core MiniMiddleware.Discovery

/-! ## The documented shape -/

/-- `true` or `false`. -/
def boolText (value : Bool) : Text :=
  if value then "true".toList else "false".toList

/-- The names of the reliabilities. -/
def reliabilityText : Reliability → Text
  | .bestEffort => "best_effort".toList
  | .reliable => "reliable".toList

/-- The names of the histories. -/
def historyText : History → Text
  | .keepLast => "keep_last".toList
  | .keepAll => "keep_all".toList

/-- An indented line with a value. -/
def settingLine (setting : Setting) (value : Text) : Text :=
  "  ".toList ++ setting.key ++ ": ".toList ++ value

/-- The lines of a configuration. -/
def renderLines (cfg : MiddlewareConfig) : List Text :=
  ["node:".toList,
    settingLine .nodeName cfg.node.name,
    "transport:".toList,
    settingLine .enableShm (boolText cfg.transport.enableShm),
    "discovery:".toList,
    settingLine .group cfg.discovery.group,
    settingLine .port (decimal cfg.discovery.port.toNat),
    "qos:".toList,
    settingLine .reliability (reliabilityText cfg.qos.reliability),
    settingLine .history (historyText cfg.qos.history),
    settingLine .depth (decimal cfg.qos.depth.toNat)]

/-- The text of a configuration. -/
def render (cfg : MiddlewareConfig) : Text :=
  (renderLines cfg).flatMap (· ++ ['\n'])

/-- A value that stands on a line as it is: it is not empty, has no white space
at its ends, and contains neither a comment nor a newline. -/
structure PlainValue (value : Text) : Prop where
  first : ∃ char rest, value = char :: rest ∧ isSpace char = false
  last : ∃ init char, value = init ++ [char] ∧ isSpace char = false
  noComment : '#' ∉ value
  noNewline : '\n' ∉ value

/-- A value whose line looks like a header. -/
def EndsWithColon (value : Text) : Prop :=
  value.getLast? = some ':'

instance (value : Text) : Decidable (EndsWithColon value) :=
  inferInstanceAs (Decidable (_ = _))

/-! ## Lines -/

/-- The lines of a text that was put together from lines. -/
theorem getLines_flatMap
    {lines : List Text} (whole : ∀ line ∈ lines, '\n' ∉ line) :
    getLines (lines.flatMap (· ++ ['\n'])) = lines := by
  have first (line rest : Text) (free : '\n' ∉ line) :
      getLines (line ++ '\n' :: rest) = line :: getLines rest := by
    induction line with
    | nil => simp [getLines]
    | cons char line inductionHypothesis =>
        rw [List.mem_cons, not_or] at free
        rw [List.cons_append, getLines, if_neg (Ne.symm free.1),
          inductionHypothesis free.2]
  induction lines with
  | nil => rfl
  | cons line lines inductionHypothesis =>
      rw [List.flatMap_cons, List.append_assoc, List.singleton_append,
        first line _ (whole line List.mem_cons_self),
        inductionHypothesis fun other member =>
          whole other (List.mem_cons_of_mem line member)]

/-- Trimming leaves a text alone that has no white space at its ends. -/
theorem trim_eq_self
    {char last : Char} {rest init : Text} {text : Text}
    (front : text = char :: rest) (back : text = init ++ [last])
    (first : isSpace char = false) (final : isSpace last = false) :
    trim text = text := by
  have kept : text.dropWhile isSpace = text := by
    rw [front, List.dropWhile_cons_of_neg (by simp [first])]
  rw [trim, kept, back, List.rdropWhile_concat_neg _ _ _ (by simp [final])]

theorem PlainValue.trim_eq
    {value : Text} (plain : PlainValue value) : trim value = value := by
  obtain ⟨char, rest, front, first⟩ := plain.first
  obtain ⟨init, last, back, final⟩ := plain.last
  exact trim_eq_self front back first final

theorem trim_cons_of_isSpace
    {char : Char} (space : isSpace char = true) (text : Text) :
    trim (char :: text) = trim text := by
  rw [trim, List.dropWhile_cons_of_pos space, trim]

theorem Setting.key_char
    {setting : Setting} {char : Char} (member : char ∈ setting.key) :
    char ≠ '#' ∧ char ≠ ':' ∧ char ≠ '\n' ∧ isSpace char = false := by
  have passes :
      setting.key.all (fun char =>
        decide (char ≠ '#') && decide (char ≠ ':') && decide (char ≠ '\n') &&
          !isSpace char) = true := by
    cases setting <;> decide
  have here := List.all_eq_true.mp passes char member
  simp only [Bool.and_eq_true, decide_eq_true_eq, Bool.not_eq_true'] at here
  obtain ⟨⟨⟨comment, colon⟩, newline⟩, visible⟩ := here
  exact ⟨comment, colon, newline, visible⟩

theorem Setting.key_plain (setting : Setting) : PlainValue setting.key where
  first := by cases setting <;> exact ⟨_, _, rfl, by decide⟩
  last := by
    have nonempty : setting.key ≠ [] := by cases setting <;> decide
    obtain ⟨init, last, back⟩ :=
      (List.eq_nil_or_concat' setting.key).resolve_left nonempty
    have member : last ∈ setting.key := by simp [back]
    exact ⟨init, last, back, (Setting.key_char member).2.2.2⟩
  noComment member := (Setting.key_char member).1 rfl
  noNewline member := (Setting.key_char member).2.2.1 rfl

/-- A line of a setting without its indentation. -/
def settingContent (setting : Setting) (value : Text) : Text :=
  setting.key ++ ':' :: ' ' :: value

theorem settingContent_plain
    {value : Text} (plain : PlainValue value) (setting : Setting) :
    PlainValue (settingContent setting value) where
  first := by
    obtain ⟨char, rest, front, first⟩ := setting.key_plain.first
    exact ⟨char, rest ++ ':' :: ' ' :: value, by simp [settingContent, front], first⟩
  last := by
    obtain ⟨init, last, back, final⟩ := plain.last
    exact
      ⟨setting.key ++ ':' :: ' ' :: init, last, by simp [settingContent, back],
        final⟩
  noComment := by
    simp [settingContent, setting.key_plain.noComment, plain.noComment]
  noNewline := by
    simp [settingContent, setting.key_plain.noNewline, plain.noNewline]

theorem lineKind_settingLine
    {value : Text} (plain : PlainValue value) (setting : Setting) :
    lineKind (settingLine setting value) =
      if EndsWithColon value then
        .header (trim (settingContent setting value).dropLast)
      else
        .assignment setting.key value := by
  have content := settingContent_plain plain setting
  have whole :
      settingLine setting value = ' ' :: ' ' :: settingContent setting value := by
    simp [settingLine, settingContent]
  have uncommented :
      stripComment (settingLine setting value) = settingLine setting value := by
    refine List.takeWhile_eq_self_iff.mpr fun char member => ?_
    have other : char ≠ '#' := by
      rintro rfl
      rw [whole] at member
      simp only [List.mem_cons] at member
      rcases member with impossible | impossible | commented
      · cases impossible
      · cases impossible
      · exact content.noComment commented
    simpa using other
  have line :
      trim (stripComment (settingLine setting value)) =
        settingContent setting value := by
    rw [uncommented, whole, trim_cons_of_isSpace rfl, trim_cons_of_isSpace rfl,
      content.trim_eq]
  have nonempty : settingContent setting value ≠ [] := by
    simp [settingContent]
  have last : (settingContent setting value).getLast? = value.getLast? := by
    obtain ⟨init, last, back, _⟩ := plain.last
    simp [settingContent, back, List.getLast?_append, List.getLast?_cons]
  have colon : ':' ∈ settingContent setting value := by
    simp [settingContent]
  have keyChars (char : Char) (member : char ∈ setting.key) :
      decide (char ≠ ':') = true :=
    decide_eq_true (Setting.key_char member).2.1
  have front :
      (settingContent setting value).takeWhile (· ≠ ':') = setting.key := by
    rw [settingContent, List.takeWhile_append_of_pos keyChars]
    simp
  have back :
      (settingContent setting value).dropWhile (· ≠ ':') = ':' :: ' ' :: value := by
    rw [settingContent, List.dropWhile_append_of_pos keyChars]
    simp
  have blank : isSpace ' ' = true := rfl
  unfold lineKind EndsWithColon
  simp only [line, if_neg nonempty, last, front, back, List.tail_cons,
    setting.key_plain.trim_eq, trim_cons_of_isSpace blank, plain.trim_eq,
    if_neg (not_not.mpr colon)]
  rfl

/-! ## Values -/

theorem isSpace_of_isAlphanum
    {char : Char} (alphanum : char.isAlphanum = true) :
    isSpace char = false := by
  by_contra space
  simp only [isSpace, Bool.not_eq_false, Bool.or_eq_true,
    decide_eq_true_eq] at space
  rcases space with ((((rfl | rfl) | rfl) | rfl) | rfl) | rfl <;> cases alphanum

/-- Numbers and words of letters and underscores are plain values. -/
theorem plainValue_of_chars
    {value : Text} (nonempty : value ≠ [])
    (chars : ∀ char ∈ value, char.isAlphanum = true ∨ char = '_') :
    PlainValue value ∧ ¬ EndsWithColon value := by
  have visible (char : Char) (member : char ∈ value) : isSpace char = false := by
    rcases chars char member with alphanum | rfl
    · exact isSpace_of_isAlphanum alphanum
    · rfl
  have absent {char : Char} (other : char.isAlphanum = false)
      (noUnderscore : char ≠ '_') : char ∉ value := by
    intro member
    rcases chars char member with alphanum | same
    · rw [other] at alphanum
      cases alphanum
    · exact noUnderscore same
  refine
    ⟨⟨?_, ?_, absent rfl (by decide), absent rfl (by decide)⟩, fun ends => ?_⟩
  · obtain ⟨char, rest, front⟩ := List.exists_cons_of_ne_nil nonempty
    exact ⟨char, rest, front, visible char (by simp [front])⟩
  · obtain ⟨init, last, back⟩ :=
      (List.eq_nil_or_concat' value).resolve_left nonempty
    exact ⟨init, last, back, visible last (by simp [back])⟩
  · have colon : ':' ∈ value := List.mem_of_getLast? ends
    exact absent rfl (by decide) colon

theorem decimal_plain (number : Nat) :
    PlainValue (decimal number) ∧ ¬ EndsWithColon (decimal number) := by
  refine plainValue_of_chars Nat.toDigits_ne_nil fun char member => .inl ?_
  simp [Char.isAlphanum, isDigit_of_mem_decimal member]

theorem plainValue_of_word
    {value : Text} (nonempty : value ≠ [])
    (word :
      value.all (fun char => char.isAlphanum || decide (char = '_')) = true) :
    PlainValue value ∧ ¬ EndsWithColon value := by
  refine plainValue_of_chars nonempty fun char member => ?_
  have here := List.all_eq_true.mp word char member
  rwa [Bool.or_eq_true, decide_eq_true_eq] at here

theorem boolText_plain (value : Bool) :
    PlainValue (boolText value) ∧ ¬ EndsWithColon (boolText value) := by
  cases value <;> exact plainValue_of_word (by decide) (by decide)

theorem reliabilityText_plain (value : Reliability) :
    PlainValue (reliabilityText value) ∧
      ¬ EndsWithColon (reliabilityText value) := by
  cases value <;> exact plainValue_of_word (by decide) (by decide)

theorem historyText_plain (value : History) :
    PlainValue (historyText value) ∧ ¬ EndsWithColon (historyText value) := by
  cases value <;> exact plainValue_of_word (by decide) (by decide)

theorem parseU16_decimal (value : UInt16) :
    parseU16 (decimal value.toNat) = some value := by
  have bound : value.toNat ≤ 2 ^ 16 - 1 := Nat.le_of_lt_succ value.toNat_lt
  rw [parseU16, parseUnsigned_eq (by decide),
    if_pos ⟨isDecimal_decimal _, by rwa [digitsValue_decimal]⟩,
    digitsValue_decimal, Option.map_some, UInt16.ofNat_toNat]

theorem parseU32_decimal (value : UInt32) :
    parseU32 (decimal value.toNat) = some value := by
  have bound : value.toNat ≤ 2 ^ 32 - 1 := Nat.le_of_lt_succ value.toNat_lt
  rw [parseU32, parseUnsigned_eq (by decide),
    if_pos ⟨isDecimal_decimal _, by rwa [digitsValue_decimal]⟩,
    digitsValue_decimal, Option.map_some, UInt32.ofNat_toNat]

/-! ## Reading back -/

section Rounds

variable {lineNo : Nat} (counted : lineNo < intMax) (cfg : MiddlewareConfig)
  (rest : List Text)

include counted

theorem parseLines_setting
    {setting : Setting} {value : Text}
    {change : MiddlewareConfig → MiddlewareConfig}
    (plain : PlainValue value ∧ ¬ EndsWithColon value)
    (accepted : setting.update value = some change) :
    parseLines lineNo cfg setting.sectionName
        (settingLine setting value :: rest) =
      parseLines (lineNo + 1) (change cfg) setting.sectionName rest := by
  rw [parseLines_cons counted, lineKind_settingLine plain.1, if_neg plain.2,
    round, setting.assign_setting, accepted]

theorem parseLines_unknown
    {sectionName : Text} {setting : Setting} {value : Text}
    (plain : PlainValue value ∧ ¬ EndsWithColon value)
    (unknown : ∀ other : Setting, sectionName ≠ other.sectionName) :
    parseLines lineNo cfg sectionName (settingLine setting value :: rest) =
      parseLines (lineNo + 1) cfg sectionName rest := by
  rw [parseLines_cons counted, lineKind_settingLine plain.1, if_neg plain.2,
    round,
    Setting.assign_unknown cfg value fun other names => unknown other names.1]

theorem parseLines_colon
    {sectionName : Text} {setting : Setting} {value : Text}
    (plain : PlainValue value) (ends : EndsWithColon value) :
    parseLines lineNo cfg sectionName (settingLine setting value :: rest) =
      parseLines (lineNo + 1) cfg
        (trim (settingContent setting value).dropLast) rest := by
  rw [parseLines_cons counted, lineKind_settingLine plain, if_pos ends, round]

theorem parseLines_header
    {sectionName raw name : Text} (header : lineKind raw = .header name) :
    parseLines lineNo cfg sectionName (raw :: rest) =
      parseLines (lineNo + 1) cfg name rest := by
  rw [parseLines_cons counted, header, round]

end Rounds

/-- What is read back: the settings of the section behind a value that ends
with a colon keep their defaults. -/
def readBack (cfg : MiddlewareConfig) : MiddlewareConfig :=
  { cfg with
    node :=
      if EndsWithColon cfg.node.name then defaultConfig.node else cfg.node
    discovery :=
      if EndsWithColon cfg.discovery.group then
        defaultConfig.discovery
      else
        cfg.discovery }

/-- Trimming keeps what is visible in front. -/
theorem head?_trim
    {char : Char} (visible : isSpace char = false) (text : Text) :
    (trim (char :: text)).head? = some char := by
  rw [trim, List.dropWhile_cons_of_neg (by simp [visible])]
  have kept : (char :: text).rdropWhile isSpace ≠ [] := by
    intro nothing
    have blank := List.rdropWhile_eq_nil_iff.mp nothing char List.mem_cons_self
    rw [visible] at blank
    cases blank
  obtain ⟨tail, whole⟩ :
      (char :: text).rdropWhile isSpace <+: char :: text :=
    List.rdropWhile_prefix isSpace _
  cases front : (char :: text).rdropWhile isSpace with
  | nil => exact absurd front kept
  | cons first rest =>
      rw [front] at whole
      rw [List.head?_cons, (List.cons.inj whole).1]

/-- The section that a line of the group opens is none of the settings. -/
theorem trim_group_ne (value : Text) (other : Setting) :
    trim (settingContent .group value).dropLast ≠ other.sectionName := by
  have front :
      (settingContent .group value).dropLast =
        'g' :: ("roup:".toList ++ ' ' :: value).dropLast := by
    rfl
  intro equal
  have head := congrArg List.head? equal
  rw [front, head?_trim rfl] at head
  cases other <;> cases head

/-- No line of a configuration contains a newline. -/
theorem notMem_renderLines
    {cfg : MiddlewareConfig} (name : PlainValue cfg.node.name)
    (group : PlainValue cfg.discovery.group) :
    ∀ line ∈ renderLines cfg, '\n' ∉ line := by
  have free {value : Text} (plain : PlainValue value) (setting : Setting) :
      '\n' ∉ settingLine setting value := by
    have content := (settingContent_plain plain setting).noNewline
    have whole :
        settingLine setting value =
          ' ' :: ' ' :: settingContent setting value := by
      simp [settingLine, settingContent]
    rw [whole]
    simp [content]
  intro line member
  simp only [renderLines, List.mem_cons, List.not_mem_nil, or_false] at member
  rcases member with rfl | rfl | rfl | rfl | rfl | rfl | rfl | rfl | rfl | rfl |
    rfl
  · decide
  · exact free name .nodeName
  · decide
  · exact free (boolText_plain _).1 .enableShm
  · decide
  · exact free group .group
  · exact free (decimal_plain _).1 .port
  · decide
  · exact free (reliabilityText_plain _).1 .reliability
  · exact free (historyText_plain _).1 .history
  · exact free (decimal_plain _).1 .depth

theorem parseLines_node
    {name : Text} (plain : PlainValue name) (rest : List Text) :
    parseLines 1 defaultConfig "node".toList
        (settingLine .nodeName name :: "transport:".toList :: rest) =
      parseLines 3
        { defaultConfig with
          node := if EndsWithColon name then defaultConfig.node else ⟨name⟩ }
        "transport".toList rest := by
  have header : lineKind "transport:".toList = .header "transport".toList := by
    decide
  split
  · rename_i ends
    rw [parseLines_colon (by decide) _ _ plain ends,
      parseLines_header (by decide) _ _ header]
  · rename_i plainEnd
    have accepted :
        Setting.nodeName.update name =
          some fun cfg => { cfg with node := ⟨name⟩ } := rfl
    have round :=
      parseLines_setting (by decide : 1 < intMax) defaultConfig
        ("transport:".toList :: rest) ⟨plain, plainEnd⟩ accepted
    exact round.trans (parseLines_header (by decide) _ _ header)

theorem parseLines_discovery
    {group : Text} (plain : PlainValue group) (port : UInt16)
    (cfg : MiddlewareConfig) (rest : List Text) :
    parseLines 5 cfg "discovery".toList
        (settingLine .group group :: settingLine .port (decimal port.toNat) ::
          "qos:".toList :: rest) =
      parseLines 8
        { cfg with
          discovery :=
            if EndsWithColon group then cfg.discovery else ⟨group, port⟩ }
        "qos".toList rest := by
  have header : lineKind "qos:".toList = .header "qos".toList := by
    decide
  split
  · rename_i ends
    rw [parseLines_colon (by decide) _ _ plain ends,
      parseLines_unknown (by decide) _ _ (decimal_plain _)
        (trim_group_ne group),
      parseLines_header (by decide) _ _ header]
  · rename_i plainEnd
    have groupAccepted :
        Setting.group.update group =
          some fun cfg =>
            { cfg with discovery := { cfg.discovery with group := group } } :=
      rfl
    have portAccepted :
        Setting.port.update (decimal port.toNat) =
          some fun cfg =>
            { cfg with discovery := { cfg.discovery with port := port } } := by
      rw [Setting.update, parseU16_decimal, Option.map_some]
    have first :=
      parseLines_setting (by decide : 5 < intMax) cfg
        (settingLine .port (decimal port.toNat) :: "qos:".toList :: rest)
        ⟨plain, plainEnd⟩ groupAccepted
    have second :=
      parseLines_setting (by decide : 6 < intMax)
        { cfg with discovery := { cfg.discovery with group := group } }
        ("qos:".toList :: rest) (decimal_plain port.toNat) portAccepted
    exact
      first.trans (second.trans (parseLines_header (by decide) _ _ header))

theorem parseLines_qos (qos : QosConfig) (cfg : MiddlewareConfig) :
    parseLines 8 cfg "qos".toList
        [settingLine .reliability (reliabilityText qos.reliability),
          settingLine .history (historyText qos.history),
          settingLine .depth (decimal qos.depth.toNat)] =
      some ⟨true, { cfg with qos := qos }, []⟩ := by
  have reliabilityAccepted :
      Setting.reliability.update (reliabilityText qos.reliability) =
        some fun cfg =>
          { cfg with
            qos := { cfg.qos with reliability := qos.reliability } } := by
    cases qos.reliability <;> rfl
  have historyAccepted :
      Setting.history.update (historyText qos.history) =
        some fun cfg =>
          { cfg with qos := { cfg.qos with history := qos.history } } := by
    cases qos.history <;> rfl
  have depthAccepted :
      Setting.depth.update (decimal qos.depth.toNat) =
        some fun cfg =>
          { cfg with qos := { cfg.qos with depth := qos.depth } } := by
    rw [Setting.update, parseU32_decimal, Option.map_some]
  have first :=
    parseLines_setting (by decide : 8 < intMax) cfg
      [settingLine .history (historyText qos.history),
        settingLine .depth (decimal qos.depth.toNat)]
      (reliabilityText_plain qos.reliability) reliabilityAccepted
  have second :=
    parseLines_setting (by decide : 9 < intMax)
      { cfg with qos := { cfg.qos with reliability := qos.reliability } }
      [settingLine .depth (decimal qos.depth.toNat)]
      (historyText_plain qos.history) historyAccepted
  have third :=
    parseLines_setting (by decide : 10 < intMax)
      { cfg with
        qos :=
          { cfg.qos with
            reliability := qos.reliability
            history := qos.history } }
      [] (decimal_plain qos.depth.toNat) depthAccepted
  exact first.trans (second.trans third)

/-- What the parser makes of a configuration in the documented shape. -/
theorem parseConfigText_render
    {cfg : MiddlewareConfig} (name : PlainValue cfg.node.name)
    (group : PlainValue cfg.discovery.group) :
    parseConfigText (render cfg) = some ⟨true, readBack cfg, []⟩ := by
  have nodeHeader : lineKind "node:".toList = .header "node".toList := by
    decide
  have discoveryHeader :
      lineKind "discovery:".toList = .header "discovery".toList := by
    decide
  have shmAccepted :
      Setting.enableShm.update (boolText cfg.transport.enableShm) =
        some fun other => { other with transport := cfg.transport } := by
    obtain ⟨_, ⟨enableShm⟩, _, _⟩ := cfg
    cases enableShm <;> rfl
  have shmRound :=
    parseLines_setting (by decide : 3 < intMax)
      { defaultConfig with
        node :=
          if EndsWithColon cfg.node.name then defaultConfig.node
          else ⟨cfg.node.name⟩ }
      ("discovery:".toList :: settingLine .group cfg.discovery.group ::
        settingLine .port (decimal cfg.discovery.port.toNat) ::
        "qos:".toList ::
        [settingLine .reliability (reliabilityText cfg.qos.reliability),
          settingLine .history (historyText cfg.qos.history),
          settingLine .depth (decimal cfg.qos.depth.toNat)])
      (boolText_plain cfg.transport.enableShm) shmAccepted
  rw [parseConfigText, render, getLines_flatMap (notMem_renderLines name group),
    renderLines, parseLines_header (by decide) _ _ nodeHeader,
    parseLines_node name]
  refine shmRound.trans ?_
  rw [parseLines_header (by decide) _ _ discoveryHeader,
    parseLines_discovery group, parseLines_qos]
  rfl

theorem readBack_eq_iff (cfg : MiddlewareConfig) :
    readBack cfg = cfg ↔
      ¬ EndsWithColon cfg.node.name ∧ ¬ EndsWithColon cfg.discovery.group := by
  have nameEnd : ¬ EndsWithColon defaultConfig.node.name := by decide
  have groupEnd : ¬ EndsWithColon defaultConfig.discovery.group := by decide
  constructor
  · intro same
    have node := congrArg MiddlewareConfig.node same
    have discovery := congrArg MiddlewareConfig.discovery same
    simp only [readBack] at node discovery
    refine ⟨fun ends => nameEnd ?_, fun ends => groupEnd ?_⟩
    · rw [if_pos ends] at node
      rwa [node]
    · rw [if_pos ends] at discovery
      rwa [discovery]
  · rintro ⟨name, group⟩
    simp only [readBack, if_neg name, if_neg group]

/-- A configuration of plain values that is written in the documented shape is
read back exactly if neither value ends with a colon. -/
theorem config_round_trip_iff
    {cfg : MiddlewareConfig} (name : PlainValue cfg.node.name)
    (group : PlainValue cfg.discovery.group) :
    parseConfigText (render cfg) = some ⟨true, cfg, []⟩ ↔
      ¬ EndsWithColon cfg.node.name ∧ ¬ EndsWithColon cfg.discovery.group := by
  rw [parseConfigText_render name group, ← readBack_eq_iff]
  simp

/-- A name and a group with colons in the middle. -/
theorem config_round_trip_colons :
    let cfg : MiddlewareConfig :=
      { defaultConfig with
        node := ⟨"robot: left".toList⟩
        discovery := ⟨"ff02::1".toList, 65535⟩ }
    parseConfigText (render cfg) = some ⟨true, cfg, []⟩ := by
  intro cfg
  have name : PlainValue cfg.node.name :=
    ⟨⟨_, _, rfl, rfl⟩, ⟨"robot: lef".toList, 't', rfl, rfl⟩, by decide,
      by decide⟩
  have group : PlainValue cfg.discovery.group :=
    ⟨⟨_, _, rfl, rfl⟩, ⟨"ff02::".toList, '1', rfl, rfl⟩, by decide, by decide⟩
  exact (config_round_trip_iff name group).mpr ⟨by decide, by decide⟩

/-- A group that ends with a colon. -/
theorem config_round_trip_fails :
    let cfg : MiddlewareConfig :=
      { defaultConfig with discovery := ⟨"ff02::".toList, 7500⟩ }
    PlainValue cfg.node.name ∧ PlainValue cfg.discovery.group ∧
      parseConfigText (render cfg) = some ⟨true, defaultConfig, []⟩ ∧
      cfg ≠ defaultConfig := by
  intro cfg
  have name : PlainValue cfg.node.name :=
    ⟨⟨_, _, rfl, rfl⟩, ⟨"mm_cl".toList, 'i', rfl, rfl⟩, by decide, by decide⟩
  have group : PlainValue cfg.discovery.group :=
    ⟨⟨_, _, rfl, rfl⟩, ⟨"ff02:".toList, ':', rfl, rfl⟩, by decide, by decide⟩
  refine ⟨name, group, ?_, by decide⟩
  rw [parseConfigText_render name group]
  rfl

end MiniMiddleware.Config
