import TierHeap.Backend.Simulated
import TierHeap.Backend.System
import TierHeap.Report.Failure
import TierHeap.Report.Tier

/-!
# Reports on backends

What a simulated backend has been asked, each call as a list that starts with its kind, and
what a backend of the operating system answers.
-/

namespace TierHeap.Report

def servedBy (servedByEngine : Bool) : Json :=
  .string (if servedByEngine then "engine" else "system")

def backendEvent : BackendEvent → Json
  | .commit len base insideEngine =>
      .array [.string "commit", .nat len, Json.ofOption .nat base, .bool insideEngine]
  | .release segment insideEngine =>
      .array [.string "release", .nat segment.len, .nat segment.base, .bool insideEngine]
  | .probe servedByEngine => .array [.string "probe", servedBy servedByEngine]

def released (answer : Except BackendError Unit) : Json :=
  result backendError (fun _ => .bool true) answer

/-- What a system backend answers when it is asked for a segment, and when it gets the
segment back. -/
def trial
    (backend : SystemBackend)
    (len : Nat) : Json :=
  let commit :=
    match backend.commit len with
    | (.error err, _) => backendError err
    | (.ok segment, backend) =>
        .object
          [("len", .nat segment.len), ("page_aligned", .bool (segment.base % pageSize == 0)),
           ("released", released (backend.release segment).1)]
  .object
    [("describe", .string backend.describe), ("tier", tier backend.tier), ("commit", commit)]

end TierHeap.Report
