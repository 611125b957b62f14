import DraftNits.Proofs.ProperFindings
import DraftNits.Proofs.TextDocumentLines

/-! # From bytes to a report

Whatever bytes are taken in as a document, in whatever mode, the standard rules report on it and the
report can be written.

* `readBytes_safe` — the document is located, its report is proper, and its text exists. -/

namespace DraftNits

/-- Every document that is read from bytes is located. -/
theorem located_readBytes {path : String} {mode : Mode} {bytes : List UInt8} {doc : Document}
    (done : readBytes path mode bytes = .ok doc) : doc.Located := by
  unfold readBytes at done
  split at done
  · cases done
  · exact located_readText done

/-- Bytes that become a document are safe to check and to report on. Every line number that the
document holds is that of one of its lines; the standard rules do not fail; no message of their
report ends with a period and every line that it points to is there; and the report can be written
under any file name, with all details or without. -/
theorem readBytes_safe {path : String} {mode : Mode} {bytes : List UInt8} {doc : Document}
    (done : readBytes path mode bytes = .ok doc) (options : Options) :
    doc.Located ∧
      ∃ report, RuleSet.standard.check doc options = .ok report ∧
        (∀ severity, ∀ finding ∈ report.bucket severity,
          endsWithPeriod finding.summary = false ∧
            ∀ nit ∈ finding.nits, endsWithPeriod nit.message = false ∧
              ∀ n ∈ nit.line, doc.HasLine n) ∧
        ∀ file verbose, ∃ out, report.render file verbose = .ok out := by
  have located := located_readBytes done
  obtain ⟨report, checked, proper⟩ :=
    RuleSet.exists_report_of_isSound (Rules.standard_isSound located options) located
  refine ⟨located, report, checked, fun severity finding mem => ?_,
    Report.exists_render_of_isProper proper⟩
  have fine := proper severity finding mem
  exact ⟨fine.summary, fun nit among => ⟨fine.messages nit among, fine.lines nit among⟩⟩

/-- An XML text that breaks off on its second line, and quotes a period, is safe. -/
theorem readBytes_safe_brokenXml :
    ∃ doc, readBytes "a.xml" .normal "<rfc>\n<xref target='A.'/>&y;".toUTF8.toList = .ok doc ∧
      doc.diagnostics.map Diagnostic.line = [some 2] ∧ doc.Located ∧
      ∃ report, RuleSet.standard.check doc (.ofMode .lenient) = .ok report ∧
        ∃ out, report.render "a.xml" true = .ok out := by
  have read : (readBytes "a.xml" .normal "<rfc>\n<xref target='A.'/>&y;".toUTF8.toList).toOption.map
      (fun doc => doc.diagnostics.map Diagnostic.line) = some [some 2] := by decide +kernel
  cases done : readBytes "a.xml" .normal "<rfc>\n<xref target='A.'/>&y;".toUTF8.toList with
  | error error =>
    rw [done] at read
    cases read
  | ok doc =>
    rw [done] at read
    obtain ⟨located, report, checked, -, written⟩ := readBytes_safe done (.ofMode .lenient)
    exact ⟨doc, rfl, Option.some.inj read, located, report, checked, written "a.xml" true⟩

end DraftNits
