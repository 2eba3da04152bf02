import SchemaSieve.Yaml.Fault

/-!
# Tokens

The tokens of a document. Those of block structure (`blockList`, `blockMapping`, `blockEnd`) and
the `key` before a key without a sign are not written in the text; the indentation and the colon
behind the key tell that they are there.
-/

namespace SchemaSieve.Yaml

/-- How a scalar is written. -/
inductive ScalarStyle where
  | plain
  | quoted
  | block
  deriving DecidableEq

/-- What a token is. A tag has a handle and a suffix; verbatim tags and the tag `!` have an empty
handle. -/
inductive TokenKind where
  | version (major minor : Nat)
  | tagHandle (handle lead : String)
  | documentStart
  | documentEnd
  | blockList
  | blockMapping
  | blockEnd
  | listStart
  | listEnd
  | mappingStart
  | mappingEnd
  | item
  | comma
  | key
  | value
  | aliasOf (name : String)
  | anchor (name : String)
  | tag (handle suffix : String)
  | scalar (style : ScalarStyle) (text : String)
  | streamEnd
  deriving DecidableEq

/-- A token, where it starts and where it ends. -/
structure Token where
  kind : TokenKind
  start : Mark
  stop : Mark
  deriving DecidableEq

end SchemaSieve.Yaml
