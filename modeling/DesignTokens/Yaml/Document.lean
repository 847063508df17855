import DesignTokens.Text.Utf8
import DesignTokens.Yaml.Building
import DesignTokens.Yaml.Graph.Reading

/-!
# Documents as data

`parse` reads a text as nested data: its tokens give a graph, and the graph gives the data.
The empty text has no value. Of bytes that are no text from a place on, only the portions
before that place are looked at.
-/

namespace DesignTokens.Yaml

/-- The data of the document with the given tokens. -/
def ofTokens (tokens : TokenList) : Read Datum := do
  match ← GraphReader.document tokens with
  | (_, none) => return .scalar .null
  | (graph, some place) => graph.datumAt place

/-- The data of a text. -/
def parse (text : String) : Read Datum :=
  ofTokens (tokenize (Text.normalizeBreaks text.toList) none)

/-- The data of bytes. -/
def parseBytes (bytes : List UInt8) : Read Datum :=
  let decoded := Text.decode bytes
  match decoded.error with
  | none => ofTokens (tokenize (Text.normalizeBreaks decoded.text) none)
  | some error =>
      let text := Text.normalizeBreaks (decoded.text.take error.before)
      ofTokens (tokenize (wholePortions text.length text) (some (.notUnicode error)))

end DesignTokens.Yaml
