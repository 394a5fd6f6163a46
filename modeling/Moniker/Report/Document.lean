import Moniker.Json.Writer
import Moniker.Report.Layout

/-!
# Reports as JSON

A report is written as an object with a member a line, indented by two spaces;
the identifiers are indented by four.  There is no line feed at the end.
-/

namespace Moniker
namespace Report

def idsDocument : List Text -> Text
  | [] => "[]".toList
  | ids =>
      "[\n    ".toList
        ++ Json.separated ",\n    ".toList (ids.map Json.quote)
        ++ "\n  ]".toList

def memberDocument (member : Text × Text) : Text :=
  Json.quote member.1 ++ ": ".toList ++ member.2

def document (r : Report) : Text :=
  "\x7b\n  ".toList
    ++ Json.separated ",\n  ".toList
      ([("ids".toList, idsDocument r.ids),
        ("attempts".toList, Decimal.render r.attempts),
        ("target_count".toList, Decimal.render r.target),
        ("fulfillment".toList, Json.quote r.fulfillment.name)].map memberDocument)
    ++ "\n\x7d".toList

def text (r : Report) : Layout -> Text
  | .lines => lines r.ids
  | .columns width => columns r.ids width
  | .document => r.document

end Report
end Moniker
