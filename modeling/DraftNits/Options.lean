import DraftNits.Json.Value
import DraftNits.Text.Trim

/-! # Options of a run

How strictly documents are judged (`Mode`) and how much is shown (`Options`). Showing more never
changes what is found. -/

namespace DraftNits

/-- How strictly deviations are judged. -/
inductive Mode
  /-- Every deviation counts. -/
  | normal
  /-- Only the more serious deviations count. -/
  | lenient
  /-- Text is taken as a document that is about to be submitted, without pages. -/
  | submission
  deriving DecidableEq, Repr, Inhabited

namespace Mode

/-- The name of a mode. -/
def name : Mode → String
  | .normal => "normal"
  | .lenient => "lenient"
  | .submission => "submission"

/-- The mode of a name. -/
def ofName? : String → Option Mode
  | "normal" => some .normal
  | "lenient" => some .lenient
  | "submission" => some .submission
  | _ => none

/-- A name as it is looked up: without white space around it, ASCII letters small. -/
def normalName (text : String) : String :=
  String.ofList ((Text.trim text.toList).map Text.asciiLower)

/-- The mode that a text names, or the message that there is none. -/
def ofText (text : String) : Except String Mode :=
  match ofName? (normalName text) with
  | some mode => .ok mode
  | none => .error ("unknown mode '" ++ normalName text ++ "'")

/-- Whether only the more serious deviations count. -/
def isLenient (mode : Mode) : Bool := mode == .lenient

@[simp] theorem ofName?_name (mode : Mode) : ofName? mode.name = some mode := by
  cases mode <;> rfl

/-- A mode as a JSON value. -/
def toJson (mode : Mode) : Json := .str mode.name

/-- The mode of a JSON value. -/
def ofJson? (v : Json) : Option Mode := v.choice?.bind ofName?

end Mode

/-- The options of a run. -/
structure Options where
  /-- How strictly deviations are judged. -/
  mode : Mode
  /-- Whether every nit is shown with its line. -/
  verbose : Bool
  /-- Whether progress is logged. -/
  debug : Bool
  deriving DecidableEq, Repr, Inhabited

namespace Options

/-- The options that only choose a mode. -/
def ofMode (mode : Mode) : Options := ⟨mode, false, false⟩

/-- The options with the detailed listing switched on or off. -/
def withVerbose (options : Options) (enabled : Bool) : Options :=
  { options with verbose := enabled }

/-- The options with the log switched on or off. -/
def withDebug (options : Options) (enabled : Bool) : Options := { options with debug := enabled }

/-- Options as a JSON value. -/
def toJson (options : Options) : Json :=
  .obj [("mode", options.mode.toJson), ("verbose", .bool options.verbose),
    ("debug", .bool options.debug)]

/-- The options of a JSON value. -/
def ofJson? (v : Json) : Option Options := do
  let members ← v.record? ["mode", "verbose", "debug"]
  return {
    mode := ← Json.required? Mode.ofJson? "mode" members
    verbose := ← Json.required? Json.bool? "verbose" members
    debug := ← Json.required? Json.bool? "debug" members }

/-- Options are read back from their JSON value. -/
@[simp] theorem ofJson?_toJson (options : Options) : ofJson? options.toJson = some options := by
  rcases options with ⟨mode, verbose, debug⟩
  cases mode <;> rfl

end Options

end DraftNits
