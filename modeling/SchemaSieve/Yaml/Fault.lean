import SchemaSieve.Yaml.Source

/-!
# Texts that are no documents
-/

namespace SchemaSieve.Yaml

/-- Why a text is not one document. -/
inductive Problem where
  | controlCharacter
  | noToken
  | unfinishedKey
  | misplacedItem
  | misplacedKey
  | misplacedValue
  | badDirective
  | badVersion
  | repeatedDirective
  | badName
  | badTag
  | unknownHandle
  | unknownAnchor
  | badEscape
  | openQuote
  | badBlockHeader
  | tabIndent
  | ambiguousColon
  | noContent
  | noItem
  | noKey
  | openList
  | openMapping
  | noDocumentStart
  | secondDocument
  deriving DecidableEq

/-- What messages say about a problem. -/
def Problem.text : Problem → String
  | controlCharacter => "control characters are not allowed"
  | noToken => "found character that cannot start any token"
  | unfinishedKey => "could not find expected ':'"
  | misplacedItem => "block sequence entries are not allowed in this context"
  | misplacedKey => "mapping keys are not allowed in this context"
  | misplacedValue => "mapping values are not allowed in this context"
  | badDirective => "could not read directive"
  | badVersion => "found incompatible YAML document"
  | repeatedDirective => "found duplicate directive"
  | badName => "did not find expected alphabetic or numeric character"
  | badTag => "did not find expected tag"
  | unknownHandle => "found undefined tag handle"
  | unknownAnchor => "unknown anchor"
  | badEscape => "found unknown escape character"
  | openQuote => "found unexpected end of quoted scalar"
  | badBlockHeader => "did not find expected comment or line break"
  | tabIndent => "found a tab character where an indentation space is expected"
  | ambiguousColon => "found unexpected ':'"
  | noContent => "did not find expected node content"
  | noItem => "did not find expected '-' indicator"
  | noKey => "did not find expected key"
  | openList => "did not find expected ',' or ']'"
  | openMapping => "did not find expected ',' or '\x7d'"
  | noDocumentStart => "did not find expected <document start>"
  | secondDocument => "deserializing from YAML containing more than one document is not supported"

/-- A problem and where it was found. -/
structure SyntaxFault where
  problem : Problem
  mark : Mark
  deriving DecidableEq

def SyntaxFault.message (f : SyntaxFault) : String := s!"{f.problem.text} at {f.mark.text}"

/-- A problem at the next character. -/
def failAt {α : Type} (problem : Problem) (cells : List Cell) : Except SyntaxFault α :=
  .error ⟨problem, here cells⟩

end SchemaSieve.Yaml
