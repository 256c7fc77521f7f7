import TierHeap.Journal.Check
import TierHeap.Report.Failure

/-!
# Reports on journals

The forms in which the outcomes of checks of journal lines and files are written.
-/

namespace TierHeap.Report

/-- A fault as a list: its line, its field, its wording and, unless the line could not be
read at all, the whole text. -/
def fault (found : Journal.LineFault) : Json :=
  let head := [.nat found.line, .string found.fault.field, .string found.fault.message]
  match found.fault with
  | .notJson => .array head
  | .notEntry => .array head
  | _ => .array (head ++ [.string found.text])

/-- The faults of a line, or the entry that it holds, written anew. -/
def checkedLine (line : Nat) : Except (List Journal.Fault) Journal.Entry → Json
  | .ok entry => .object [("ok", .string entry.line)]
  | .error faults =>
      .object [("errors", Json.ofList (fun found => fault ⟨line, found⟩) faults)]

def checkedFile (report : Journal.Report) : Json :=
  .object [("lines", .nat report.lines), ("errors", Json.ofList fault report.faults)]

def fileError (kind : String) : Json :=
  .object [("error", .string "io"), ("kind", .string kind)]

end TierHeap.Report
