import DraftNits.Finding
import DraftNits.Options

/-! # Rules

A rule is a check with the formats and kinds of documents it is meant for. A rule whose check is
still to be written keeps its place in a rule set but is neither listed nor run. -/

namespace DraftNits

/-! ## Scopes -/

/-- Where a rule applies, by one property of a document. -/
inductive Scope (α : Type)
  /-- Everywhere. -/
  | any
  /-- For one value. -/
  | only (value : α)
  /-- For some values. -/
  | among (values : List α)
  deriving DecidableEq, Repr

namespace Scope

variable {α : Type}

/-- Whether a scope takes in a value. -/
def includes [DecidableEq α] (scope : Scope α) (value : α) : Bool :=
  match scope with
  | any => true
  | only wanted => wanted == value
  | among values => values.contains value

/-- The label of a scope in the listing, with `/` between the labels of its values. -/
def label (valueLabel : α → String) : Scope α → String
  | any => "any"
  | only value => valueLabel value
  | among values => "/".intercalate (values.map valueLabel)

@[simp] theorem includes_any [DecidableEq α] (value : α) : (any : Scope α).includes value = true :=
  rfl

end Scope

/-! ## Rules -/

/-- What a check failed at. -/
inductive FailureCause
  /-- The work of a rule, told by its name. -/
  | rule (id : String)
  /-- Data in JSON that the check read or wrote. -/
  | json
  deriving DecidableEq, Repr

/-- The name of a rule stands for its work. -/
instance : Coe String FailureCause := ⟨.rule⟩

/-- A check that could not do its work. -/
structure RuleFailure where
  /-- What it failed at. -/
  cause : FailureCause
  /-- What went wrong. -/
  reason : String
  deriving DecidableEq, Repr

/-- The message of a failure. -/
def RuleFailure.message (failure : RuleFailure) : String :=
  match failure.cause with
  | .rule id => "Rule evaluation failed: " ++ id ++ " - " ++ failure.reason
  | .json => "JSON error: " ++ failure.reason

/-- What a rule does with a document: it makes findings or fails. -/
abbrev Check := Document → Options → Except RuleFailure (List Finding)

/-- A rule. -/
structure Rule where
  /-- The name of the rule. -/
  id : String
  /-- The formats it is meant for. -/
  formats : Scope SourceFormat
  /-- The kinds of documents it is meant for. -/
  kinds : Scope DocumentKind
  /-- The severity of its findings. -/
  severity : Severity
  /-- What it checks. -/
  description : String
  /-- The check, if it is written. -/
  check : Option Check

namespace Rule

/-- A rule for every document, whose findings are errors. -/
def ofCheck (id description : String) (check : Check) : Rule :=
  ⟨id, .any, .any, .error, description, some check⟩

/-- A rule whose check is still to be written. -/
def placeholder (id description : String) : Rule := ⟨id, .any, .any, .error, description, none⟩

/-- The rule for one format only. -/
def forFormat (rule : Rule) (format : SourceFormat) : Rule := { rule with formats := .only format }

/-- The rule for some formats only. -/
def forFormats (rule : Rule) (formats : List SourceFormat) : Rule :=
  { rule with formats := .among formats }

/-- The rule for one kind of document only. -/
def forKind (rule : Rule) (kind : DocumentKind) : Rule := { rule with kinds := .only kind }

/-- The rule with another severity. -/
def withSeverity (rule : Rule) (severity : Severity) : Rule := { rule with severity := severity }

/-- Whether the check is still to be written. -/
def isPlaceholder (rule : Rule) : Bool := rule.check.isNone

/-- Whether the rule runs on documents of a format and a kind. -/
def appliesTo (rule : Rule) (format : SourceFormat) (kind : DocumentKind) : Bool :=
  !rule.isPlaceholder && rule.formats.includes format && rule.kinds.includes kind

end Rule

/-! ## Rule sets -/

/-- A row of the listing of rules. -/
structure ListingRow where
  /-- The formats. -/
  formats : String
  /-- The kinds of documents. -/
  kinds : String
  /-- What is checked. -/
  description : String
  deriving DecidableEq, Repr

/-- The row of a rule. -/
def Rule.listingRow (rule : Rule) : ListingRow :=
  ⟨rule.formats.label SourceFormat.label, rule.kinds.label DocumentKind.label, rule.description⟩

/-- Rules in the order in which they run and are listed. -/
structure RuleSet where
  /-- The name of the set. -/
  name : String
  /-- The rules in order. -/
  rules : List Rule

namespace RuleSet

/-- A set without rules. -/
def empty (name : String) : RuleSet := ⟨name, []⟩

/-- The set with one more rule at its end. -/
def add (set : RuleSet) (rule : Rule) : RuleSet := { set with rules := set.rules ++ [rule] }

/-- The first rule of a name. -/
def get? (set : RuleSet) (id : String) : Option Rule := set.rules.find? fun rule => rule.id == id

/-- The rules that run on documents of a format and a kind, in order. -/
def applicable (set : RuleSet) (format : SourceFormat) (kind : DocumentKind) : List Rule :=
  set.rules.filter fun rule => rule.appliesTo format kind

/-- The listing of the rules whose check is written, in order. -/
def listing (set : RuleSet) : List ListingRow :=
  (set.rules.filter fun rule => !rule.isPlaceholder).map Rule.listingRow

end RuleSet

end DraftNits
