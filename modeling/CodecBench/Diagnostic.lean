import CodecBench.Decimal.Text
import CodecBench.Grid
import CodecBench.Text.Quoted
/-!
Diagnostics: what a report had to leave out and why, with the wording of each cause. An entry may be
rejected, a category skipped, a comparison not made.
-/

namespace CodecBench

def reportUnit : String := "ns"

inductive CategoryFault where
  | mismatched (mismatch : Mismatch)
  | unknownBaseline (algorithm : String)
  | unexpectedUnit (unit : String)

inductive Diagnostic where
  | rejected (rejection : Rejection)
  | skipped (category : String) (fault : CategoryFault)
  | uncompared (fault : ComparisonFault)

/-- Times in messages: all digits up to the point and no more after it than needed. -/
def timeManner : Manner := ⟨fun _ => true, false, true⟩

def Rejection.message : Rejection → String
  | .malformedName name fault => s!"malformed benchmark name `{name}`: {fault.reason}"
  | .missingField name field => s!"benchmark `{name}` has no `{field.key}`"
  | .invalidCpuTime name value =>
    s!"benchmark `{name}` has invalid cpu_time {shortestText timeManner value}"

def Mismatch.message : Mismatch → String
  | .length encode decode => s!"{encode} encode vs {decode} decode records"
  | .algorithm index encode decode =>
    s!"encode `{encode}` paired with decode `{decode}` at position {index}"
  | .label name expected found =>
    s!"label {quotedOption found} on `{name}` differs from {quotedOption expected}"
  | .timeUnit name expected found =>
    s!"time unit `{found}` on `{name}` differs from `{expected}`"
  | .category name expected found =>
    s!"category `{found}` on `{name}` differs from `{expected}`"

def CategoryFault.message : CategoryFault → String
  | .mismatched mismatch => mismatch.message
  | .unknownBaseline algorithm => s!"baseline algorithm `{algorithm}` not measured"
  | .unexpectedUnit unit => s!"measured in `{unit}`, tables are in `{reportUnit}`"

def ComparisonFault.message : ComparisonFault → String
  | .missingBaseline kind baseline =>
    s!"no {kind.tag} data for baseline variant `{baseline}`, comparison skipped"
  | .incomplete kind variant subject =>
    s!"{kind.tag} comparison skipped: variant `{variant}` has no measurement for `{subject}`"

def Diagnostic.message : Diagnostic → String
  | .rejected rejection => rejection.message
  | .skipped category fault => s!"category `{category}` skipped: {fault.message}"
  | .uncompared fault => fault.message

end CodecBench
