/-!
The tokens of YAML text. Indentation is told by tokens that open and close blocks, so what comes after need
not look at columns again.
-/
namespace Journal.Yaml

inductive Token where
  | version
  | tagHandle (handle replacement : String)
  | documentStart
  | documentEnd
  | blockSequence
  | blockMapping
  | blockEnd
  | flowSequence
  | flowSequenceEnd
  | flowMapping
  | flowMappingEnd
  | blockEntry
  | flowEntry
  | key
  | value
  | alias (name : String)
  | anchor (name : String)
  | tag (handle suffix : String)
  | scalar (plain : Bool) (text : String)
  deriving DecidableEq, Repr

end Journal.Yaml
