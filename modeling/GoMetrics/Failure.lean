import GoMetrics.Explanation
import GoMetrics.FileTree
import GoMetrics.Metrics.Record
import GoMetrics.Report.Style

/-!
What can go wrong. A complaint is a failure that is expected and explained to the user. The other
failures have no such explanation.
-/

namespace GoMetrics

inductive Complaint
  | configuration (message : String)
  | fileAccess (path reason : String)
  | parsing (path language reason : String)
  | parserUnavailable (language : String)
  | thresholdsExceeded (functions packages : Int)
  | invalidPath (path reason : String)
  | invalidSetting (key value reason : String)
  deriving DecidableEq, Repr

namespace Complaint

def kind : Complaint → ComplaintKind
  | .configuration _ => .configuration
  | .fileAccess .. => .fileAccess
  | .parsing .. => .parsing
  | .parserUnavailable _ => .parserUnavailable
  | .thresholdsExceeded .. => .thresholdsExceeded
  | .invalidPath .. => .invalidPath
  | .invalidSetting .. => .invalidSetting

def explanation : Complaint → Explanation
  | .configuration message => .named message []
  | .fileAccess path reason => .fileAccess (.text path) (.text reason)
  | .parsing path language reason => .parsing (.text path) (.text language) (.text reason)
  | .parserUnavailable language => .parserUnavailable (.text language)
  | .thresholdsExceeded functions packages => .thresholdsExceeded (.int functions) (.int packages)
  | .invalidPath path reason => .invalidPath (.text path) (.text reason)
  | .invalidSetting key value reason => .invalidSetting (.text key) (.text value) (.text reason)

def message (c : Complaint) : String :=
  c.explanation.message.render

/-- The hint of a complaint that has one. -/
def hint? (c : Complaint) : Option String :=
  match c.explanation.hint with
  | .none => none
  | hint => some hint.render

def render (c : Complaint) : String :=
  c.explanation.render

end Complaint

inductive Failure
  | complaint (c : Complaint)
  | mismatch (m : Mismatch)
  | unmeasured (u : Unmeasured)
  | unknownStyle (name : String)
  | illFormedText
  | access (f : AccessFault)
  | incomplete (what : Absence)
  deriving DecidableEq, Repr

end GoMetrics
