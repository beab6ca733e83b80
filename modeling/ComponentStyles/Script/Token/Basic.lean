import ComponentStyles.Number.Binary64
import ComponentStyles.Script.Diagnostic
import ComponentStyles.Tree.Node

/-!
# Tokens of scripts

A token knows the text from its first character on, because what a slash, a brace or an angle
bracket begins depends on where it stands: the reader of the grammar may ask for it to be read
again.
-/

namespace ComponentStyles.Script

/-- A place in a text: the characters to come and the byte offset of the first. -/
structure Cursor where
  rest : Text
  offset : Nat
  deriving Repr

namespace Cursor

def skip (n : Nat) (c : Cursor) : Cursor :=
  { rest := c.rest.drop n, offset := c.offset + Text.byteLength (c.rest.take n) }

/-- The longest run of characters of a class, and the place behind it. -/
def span (accepts : Char → Bool) (c : Cursor) : Text × Cursor :=
  let run := c.rest.takeWhile accepts
  (run, { rest := c.rest.dropWhile accepts, offset := c.offset + Text.byteLength run })

end Cursor

/-- The kinds of tokens. -/
inductive TokenKind where
  | endOfText
  /-- Characters that are no token; a diagnostic has been given. -/
  | invalid
  /-- A name or a word of the language; escapes are decoded. -/
  | name (text : String) (escaped : Bool)
  | privateName
  | number (value : Binary64)
  | bigint
  | string (value : String)
  /-- A part of a template; the last part ends with a backtick. Escapes that are allowed only behind
  a tag make it invalid. -/
  | template (isLast isValid : Bool)
  | regex
  | mark (text : String)
  deriving DecidableEq, Repr

/-- A token, where it stands, whether a line break precedes it, and the text from its start on. -/
structure Token where
  kind : TokenKind
  span : Span
  onNewLine : Bool
  source : Text

/-- The token as a diagnostic names it. -/
def TokenKind.describe : TokenKind → String
  | .endOfText => "EOF"
  | .invalid => "Unknown"
  | .name text _ => if reserved.contains text then text else "Identifier"
  | .privateName => "#identifier"
  | .number _ => "decimal"
  | .bigint => "bigint"
  | .string _ => "string"
  | .template true _ => "\x7d"
  | .template false _ => "$\x7b"
  | .regex => "/regexp/"
  | .mark text => text
where
  /-- Words that a diagnostic names as they are. -/
  reserved : List String :=
    ["await", "break", "case", "catch", "class", "const", "continue", "debugger", "default",
      "delete", "do", "else", "enum", "export", "extends", "false", "finally", "for", "function",
      "if", "import", "in", "instanceof", "new", "null", "return", "super", "switch", "this",
      "throw", "true", "try", "typeof", "var", "void", "while", "with", "yield", "async", "from",
      "get", "meta", "of", "set", "target", "accessor", "abstract", "as", "declare", "let",
      "static", "type", "interface", "namespace", "module", "using"]

/-- What reading one token yields. -/
structure Lexeme where
  token : Token
  /-- The place behind the token. -/
  next : Cursor
  /-- The comments before the token, the last one first. -/
  comments : List Span
  /-- What is wrong with the token, the last fault first. -/
  faults : List Located

end ComponentStyles.Script
