namespace PixelPipeline.Yaml

inductive Fault where
  | forbiddenCharacter
  | strayCharacter
  | missingColon
  | misplacedEntry
  | misplacedKey
  | misplacedValue
  | tab
  | directive
  | anchorName
  | tag
  | undefinedHandle
  | blockHeader
  | unclosedQuote
  | escape
  | flowColon
  | unexpectedToken
  | unknownAnchor
  | repetition
  | noDocument
  | severalDocuments
  | expected (what : String)
  | unknownField (name : String)
  | repeatedField (name : String)
  | missingField (name : String)
  deriving DecidableEq, Repr

def Fault.message : Fault → String
  | forbiddenCharacter => "control characters are not allowed"
  | strayCharacter => "found character that cannot start any token"
  | missingColon => "could not find expected ':'"
  | misplacedEntry => "block sequence entries are not allowed in this context"
  | misplacedKey => "mapping keys are not allowed in this context"
  | misplacedValue => "mapping values are not allowed in this context"
  | tab => "found a tab character where an indentation space is expected"
  | directive => "malformed directive"
  | anchorName => "did not find expected alphabetic or numeric character"
  | tag => "malformed tag"
  | undefinedHandle => "found undefined tag handle"
  | blockHeader => "malformed block scalar header"
  | unclosedQuote => "found unexpected end of a quoted scalar"
  | escape => "found unknown escape character"
  | flowColon => "found unexpected ':'"
  | unexpectedToken => "did not find expected node content"
  | unknownAnchor => "unknown anchor"
  | repetition => "repetition limit exceeded"
  | noDocument => "no document"
  | severalDocuments => "more than one document"
  | expected what => s!"invalid type, expected {what}"
  | unknownField name => s!"unknown field '{name}'"
  | repeatedField name => s!"duplicate field '{name}'"
  | missingField name => s!"missing field '{name}'"

end PixelPipeline.Yaml
