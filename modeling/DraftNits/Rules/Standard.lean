import DraftNits.Rule.Run
import DraftNits.Rules.CrossReferences
import DraftNits.Rules.FrontMatter
import DraftNits.Rules.Layout

/-! # The standard rules

The rules that every document is checked against, in the order in which they run. -/

namespace DraftNits

namespace Rules

/-- The formats of plain text. -/
def textFormats : List SourceFormat := [.paginated, .submission]

/-- The standard rules in order. -/
def standard : List Rule :=
  [Rule.ofCheck "title" "Check that the document has a title" title,
   (Rule.ofCheck "docname" "Check that the draft name is present and well formed"
      draftName).forKind .draft,
   (Rule.ofCheck "category" "Check that the RFC states its category" category).forKind .rfc,
   (Rule.ofCheck "authors" "Check that authors are listed, and not too many of them"
      authors).withSeverity .warning,
   Rule.ofCheck "abstract" "Check that the document has an Abstract" abstract,
   (Rule.ofCheck "boilerplate" "Check for the Status of This Memo and Copyright Notice sections"
      boilerplate).forFormats textFormats,
   (Rule.ofCheck "line-length" "Check that no line is longer than 72 characters"
      lineLengths).forFormats textFormats,
   ((Rule.ofCheck "page-length" "Check that no page is longer than 58 lines"
      pageLengths).forFormat .paginated).withSeverity .warning,
   ((Rule.ofCheck "pagination" "Check that submission text carries no page breaks or footers"
      pagination).forFormat .submission).withSeverity .warning,
   (Rule.ofCheck "undefined-citations" "Check that every citation has a matching reference"
      undefinedCitations).withSeverity .warning,
   (Rule.ofCheck "unused-references" "Check that every reference is cited"
      unusedReferences).withSeverity .comment,
   (((Rule.ofCheck "expiry" "Check that the expiration date follows the document date"
      expiry).forFormats textFormats).forKind .draft).withSeverity .warning,
   ((Rule.ofCheck "xml-version" "Check that the source declares the v3 vocabulary"
      xmlVersion).forFormat .xml).withSeverity .comment,
   (Rule.ofCheck "characters" "Check for control characters and non-ASCII text"
      characters).forFormats textFormats,
   Rule.placeholder "iana-considerations" "Check that the IANA Considerations section is complete",
   (Rule.placeholder "security-considerations"
      "Check that the Security Considerations section is not empty").withSeverity .warning]

end Rules

/-- The standard rule set. -/
def RuleSet.standard : RuleSet := ⟨"Standard Rules", Rules.standard⟩

end DraftNits
