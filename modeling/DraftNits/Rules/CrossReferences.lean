import DraftNits.Rule.Basic

/-! # Rules on references

Every citation has a reference, and every reference is cited. -/

namespace DraftNits.Rules

/-- Every citation names a reference. -/
def undefinedCitations : Check := fun doc _ =>
  let missing := doc.citations.filter fun c => !doc.hasReference c.anchor
  .ok (Finding.ofNits
    (missing.map fun c =>
      Nit.onLine c.line ("Citation [" ++ c.anchor ++ "] has no matching reference"))
    fun n => "Found " ++ countOf n "citation" ++ " without a matching reference")

/-- Every reference is cited; in lenient mode only normative references count. -/
def unusedReferences : Check := fun doc options =>
  let unused := doc.references.filter fun r =>
    (r.normative || !options.mode.isLenient) && !doc.cites r.anchor
  .ok (Finding.ofNits
    (unused.map fun r =>
      Nit.onLine r.line ("Reference [" ++ r.anchor ++ "] is not cited in the text"))
    fun n => "Found " ++ countOf n "unused reference")

end DraftNits.Rules
