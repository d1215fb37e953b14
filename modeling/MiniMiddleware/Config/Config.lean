import MiniMiddleware.Common.CLibrary
import MiniMiddleware.Core.Subscriber
import MiniMiddleware.Discovery.EndpointMatcher

/-!
# The configuration parser

A configuration is read line by line: a line that ends with a colon opens a
section, any other line assigns a value to a key of the current section, and
everything behind a `#` is a comment.  The first line that is wrong ends the
parsing.

Lines are counted in an `int`.  The increment past `INT_MAX` is undefined; the
result is then `none`.
-/

namespace MiniMiddleware.Config

open MiniMiddleware.Core MiniMiddleware.Discovery

/-- `NodeConfig`. -/
structure NodeConfig where
  name : Text
  deriving DecidableEq, Repr

/-- `TransportConfig`. -/
structure TransportConfig where
  enableShm : Bool
  deriving DecidableEq, Repr

/-- `DiscoveryConfig`. -/
structure DiscoveryConfig where
  group : Text
  port : UInt16
  deriving DecidableEq, Repr

/-- `Qos` with the reliability, which only discovery looks at. -/
structure QosConfig extends Qos where
  reliability : Reliability
  deriving DecidableEq, Repr

/-- `MiddlewareConfig`. -/
structure MiddlewareConfig where
  node : NodeConfig
  transport : TransportConfig
  discovery : DiscoveryConfig
  qos : QosConfig
  deriving DecidableEq, Repr

/-- `ConfigParseResult`. -/
structure ConfigParseResult where
  ok : Bool
  config : MiddlewareConfig
  error : Text
  deriving DecidableEq, Repr

/-- `default_config`. -/
def defaultConfig : MiddlewareConfig where
  node := ⟨"mm_cli".toList⟩
  transport := ⟨true⟩
  discovery := ⟨"239.255.0.1".toList, 7400⟩
  qos := ⟨⟨.keepLast, 16⟩, .bestEffort⟩

/-! ## Parts of a line -/

/-- `trim`. -/
def trim (text : Text) : Text :=
  (text.dropWhile isSpace).rdropWhile isSpace

/-- `strip_comment`. -/
def stripComment (line : Text) : Text :=
  line.takeWhile (· ≠ '#')

/-- `parse_bool`. -/
def parseBool (value : Text) : Option Bool :=
  if value = "true".toList then some true
  else if value = "false".toList then some false
  else none

/-- The loop of `parse_unsigned`. -/
def parseUnsignedFrom (maxValue : Nat) : Nat → Text → Option Nat
  | parsed, [] => some parsed
  | parsed, char :: rest =>
      if !char.isDigit then
        none
      else if (maxValue - digitValue char) / 10 < parsed then
        none
      else
        parseUnsignedFrom maxValue (parsed * 10 + digitValue char) rest

/-- `parse_unsigned`. -/
def parseUnsigned (value : Text) (maxValue : Nat) : Option Nat :=
  if value = [] then none else parseUnsignedFrom maxValue 0 value

/-- The loop, behind some digits whose value is within the bound. -/
theorem parseUnsignedFrom_digitsValue
    {maxValue : Nat} (large : 9 ≤ maxValue) (rest : Text) :
    ∀ before : Text, digitsValue before ≤ maxValue →
      parseUnsignedFrom maxValue (digitsValue before) rest =
        if rest.all Char.isDigit = true ∧
            digitsValue (before ++ rest) ≤ maxValue then
          some (digitsValue (before ++ rest))
        else
          none := by
  induction rest with
  | nil =>
      intro before bounded
      rw [List.append_nil, if_pos ⟨by simp, bounded⟩]
      rfl
  | cons char rest inductionHypothesis =>
      intro before bounded
      rw [parseUnsignedFrom]
      by_cases digit : char.isDigit = true
      · have small := digitValue_le digit
        have grown := digitsValue_concat before char
        have whole : before ++ char :: rest = (before ++ [char]) ++ rest := by
          simp
        have further := digitsValue_le_append (before ++ [char]) rest
        rw [if_neg (by simp [digit]), ← grown, whole]
        split
        · rw [if_neg]
          rintro ⟨_, within⟩
          omega
        · rw [inductionHypothesis (before ++ [char]) (by omega)]
          simp [digit]
      · rw [if_pos (by simp [digit]), if_neg]
        rintro ⟨digits, _⟩
        exact digit (List.all_eq_true.mp digits char List.mem_cons_self)

/-- `parse_unsigned` accepts exactly the decimal numbers up to the bound. -/
theorem parseUnsigned_eq
    {maxValue : Nat} (large : 9 ≤ maxValue) (value : Text) :
    parseUnsigned value maxValue =
      if IsDecimal value ∧ digitsValue value ≤ maxValue then
        some (digitsValue value)
      else
        none := by
  unfold parseUnsigned IsDecimal
  by_cases empty : value = []
  · simp [empty]
  · have read :=
      parseUnsignedFrom_digitsValue large value [] (Nat.zero_le maxValue)
    rw [List.nil_append] at read
    rw [if_neg empty]
    exact read.trans (by simp [empty])

/-- `parse_u16`. -/
def parseU16 (value : Text) : Option UInt16 :=
  (parseUnsigned value (2 ^ 16 - 1)).map UInt16.ofNat

/-- `parse_u32`. -/
def parseU32 (value : Text) : Option UInt32 :=
  (parseUnsigned value (2 ^ 32 - 1)).map UInt32.ofNat

/-- The values of `qos.reliability`. -/
def parseReliability (value : Text) : Option Reliability :=
  if value = "best_effort".toList then some .bestEffort
  else if value = "reliable".toList then some .reliable
  else none

/-- The values of `qos.history`. -/
def parseHistory (value : Text) : Option History :=
  if value = "keep_last".toList then some .keepLast
  else if value = "keep_all".toList then some .keepAll
  else none

/-! ## The loop -/

/-- The assignment of a value to a key of a section, or what is wrong with
it. -/
def assign (cfg : MiddlewareConfig) (sectionName key value : Text) :
    Except Text MiddlewareConfig :=
  if sectionName = "node".toList ∧ key = "name".toList then
    .ok { cfg with node := ⟨value⟩ }
  else if sectionName = "transport".toList ∧ key = "enable_shm".toList then
    match parseBool value with
    | none => .error "invalid enable_shm".toList
    | some parsed => .ok { cfg with transport := ⟨parsed⟩ }
  else if sectionName = "discovery".toList ∧ key = "group".toList then
    .ok { cfg with discovery := { cfg.discovery with group := value } }
  else if sectionName = "discovery".toList ∧ key = "port".toList then
    match parseU16 value with
    | none => .error "invalid port".toList
    | some parsed =>
        .ok { cfg with discovery := { cfg.discovery with port := parsed } }
  else if sectionName = "qos".toList ∧ key = "reliability".toList then
    match parseReliability value with
    | none => .error "invalid reliability".toList
    | some parsed => .ok { cfg with qos := { cfg.qos with reliability := parsed } }
  else if sectionName = "qos".toList ∧ key = "history".toList then
    match parseHistory value with
    | none => .error "invalid history".toList
    | some parsed => .ok { cfg with qos := { cfg.qos with history := parsed } }
  else if sectionName = "qos".toList ∧ key = "depth".toList then
    match parseU32 value with
    | none => .error "invalid depth".toList
    | some parsed => .ok { cfg with qos := { cfg.qos with depth := parsed } }
  else
    .ok cfg

/-- The lines that `getline` returns. -/
def getLines : Text → List Text
  | [] => []
  | char :: rest =>
      if char = '\n' then
        [] :: getLines rest
      else
        match getLines rest with
        | [] => [[char]]
        | line :: lines => (char :: line) :: lines

/-- `INT_MAX`. -/
def intMax : Nat := 2 ^ 31 - 1

/-- `fail`. -/
def fail (cfg : MiddlewareConfig) (lineNo : Nat) (reason : Text) :
    ConfigParseResult where
  ok := false
  config := cfg
  error := "line ".toList ++ decimal lineNo ++ ": ".toList ++ reason

/-- The loop of `parse_config_text`, in front of the given lines. -/
def parseLines (lineNo : Nat) (cfg : MiddlewareConfig) (sectionName : Text) :
    List Text → Option ConfigParseResult
  | [] => some ⟨true, cfg, []⟩
  | raw :: rest =>
      if intMax ≤ lineNo then
        none
      else
        let line := trim (stripComment raw)
        if line = [] then
          parseLines (lineNo + 1) cfg sectionName rest
        else if line.getLast? = some ':' then
          parseLines (lineNo + 1) cfg (trim line.dropLast) rest
        else if ':' ∉ line then
          some (fail cfg (lineNo + 1) "expected key: value".toList)
        else
          match
            assign cfg sectionName (trim (line.takeWhile (· ≠ ':')))
              (trim (line.dropWhile (· ≠ ':')).tail)
          with
          | .error reason => some (fail cfg (lineNo + 1) reason)
          | .ok assigned => parseLines (lineNo + 1) assigned sectionName rest

/-- `parse_config_text`. -/
def parseConfigText (text : Text) : Option ConfigParseResult :=
  parseLines 0 defaultConfig [] (getLines text)

end MiniMiddleware.Config
