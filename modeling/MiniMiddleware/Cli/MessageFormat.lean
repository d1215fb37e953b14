import MiniMiddleware.Common.Text
import MiniMiddleware.Transport.ShmRing

/-!
# Messages as text

`format_message` parses the bytes of a message of a known type and prints its
fields.  The parsers are generated code and the printing of floating point
numbers is that of the standard streams; both are parameters here.
-/

namespace MiniMiddleware.Cli

open MiniMiddleware.Transport

/-- `FormatResult`. -/
structure FormatResult where
  ok : Bool := false
  text : Text := []
  error : Text := []
  deriving DecidableEq, Repr

/-- `Point3D`. -/
structure Point3D (Float : Type) where
  x : Float
  y : Float
  z : Float
  deriving DecidableEq, Repr

/-- `PointCloud`, of whose points only the number is printed. -/
structure PointCloud (Double : Type) where
  timestamp : Double
  frameId : Text
  pointsSize : Nat
  deriving DecidableEq, Repr

/-- `ParseFromString` of the known types, and `operator<<` on numbers. -/
structure MessageFormats (Float Double : Type) where
  parseString : Bytes → Option Text
  parsePoint : Bytes → Option (Point3D Float)
  parseCloud : Bytes → Option (PointCloud Double)
  showFloat : Float → Text
  showDouble : Double → Text

def stringMsgType : Text := "mm.StringMsg".toList
def pointType : Text := "mm.Point3D".toList
def pointCloudType : Text := "mm.PointCloud".toList

/-- `supported_message_types`. -/
def supportedMessageTypes : List Text :=
  [stringMsgType, pointType, pointCloudType]

/-- `is_supported_message_type`. -/
def isSupportedMessageType (typeName : Text) : Bool :=
  typeName ∈ supportedMessageTypes

def parseError (typeName : Text) : FormatResult where
  error := "failed to parse ".toList ++ typeName

def unsupportedError (typeName : Text) : FormatResult where
  error := "unsupported message type: ".toList ++ typeName

def okResult (text : Text) : FormatResult where
  ok := true
  text := text

variable {Float Double : Type}

/-- `format_message`. -/
def formatMessage (formats : MessageFormats Float Double)
    (typeName : Text) (bytes : Bytes) : FormatResult :=
  if typeName = stringMsgType then
    match formats.parseString bytes with
    | none => parseError typeName
    | some data => okResult ("data: ".toList ++ data)
  else if typeName = pointType then
    match formats.parsePoint bytes with
    | none => parseError typeName
    | some point =>
        okResult
          ("x: ".toList ++ formats.showFloat point.x ++ ['\n'] ++
            "y: ".toList ++ formats.showFloat point.y ++ ['\n'] ++
            "z: ".toList ++ formats.showFloat point.z)
  else if typeName = pointCloudType then
    match formats.parseCloud bytes with
    | none => parseError typeName
    | some cloud =>
        okResult
          ("timestamp: ".toList ++ formats.showDouble cloud.timestamp ++
            ['\n'] ++ "frame_id: ".toList ++ cloud.frameId ++ ['\n'] ++
            "points: ".toList ++ decimal cloud.pointsSize)
  else
    unsupportedError typeName

/-- The error of a message names its type, and that of a known type is one of
its parser. -/
theorem error_formatMessage
    (formats : MessageFormats Float Double) (typeName : Text) (bytes : Bytes) :
    (formatMessage formats typeName bytes).ok = true ∨
      formatMessage formats typeName bytes =
        if isSupportedMessageType typeName then
          parseError typeName
        else
          unsupportedError typeName := by
  unfold formatMessage
  by_cases isString : typeName = stringMsgType
  · subst isString
    cases formats.parseString bytes with
    | none =>
        exact Or.inr rfl
    | some data =>
        exact Or.inl rfl
  · rw [if_neg isString]
    by_cases isPoint : typeName = pointType
    · subst isPoint
      cases formats.parsePoint bytes with
      | none =>
          exact Or.inr rfl
      | some point =>
          exact Or.inl rfl
    · rw [if_neg isPoint]
      by_cases isCloud : typeName = pointCloudType
      · subst isCloud
        cases formats.parseCloud bytes with
        | none =>
            exact Or.inr rfl
        | some cloud =>
            exact Or.inl rfl
      · rw [if_neg isCloud]
        right
        have unsupported : ¬isSupportedMessageType typeName := by
          simp [isSupportedMessageType, supportedMessageTypes, isString,
            isPoint, isCloud]
        rw [if_neg unsupported]

end MiniMiddleware.Cli
