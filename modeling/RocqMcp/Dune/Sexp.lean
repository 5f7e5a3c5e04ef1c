import RocqMcp.Types

/-! The lexer of Dune's S-expressions, and what Dune prints. -/

namespace RocqMcp

/-- The state of the loop of `sexp_tokens`. -/
structure Lexer where
  out : List String := []
  token : String := ""
  quote : Bool := false
  comment : Bool := false
  depth : Nat := 0

namespace Lexer

/-- Push the pending token. -/
def flush (lexer : Lexer) : Lexer :=
  if lexer.token = "" then lexer
  else { lexer with out := lexer.out ++ [lexer.token], token := "" }

/-- A structural parenthesis. -/
def parenthesis (lexer : Lexer) (character : Char) : Except Error Lexer :=
  let flushed := lexer.flush
  let out := flushed.out ++ [String.singleton character]
  if character = '(' then .ok { flushed with out, depth := flushed.depth + 1 }
  else if flushed.depth = 0 then
    .error (.new .invalidConfiguration "unbalanced project expression")
  else .ok { flushed with out, depth := flushed.depth - 1 }

def step (lexer : Lexer) (character : Char) : Except Error Lexer :=
  if lexer.comment then .ok { lexer with comment := character ≠ '\n' }
  else if !lexer.quote && (character = ';' || character = '#') then
    .ok { lexer with comment := true }
  else if character = '"' then .ok { lexer with quote := !lexer.quote }
  else if !lexer.quote && (character = '(' || character = ')') then lexer.parenthesis character
  else if !lexer.quote && isWhitespace character then .ok lexer.flush
  else .ok { lexer with token := lexer.token.push character }

def run (lexer : Lexer) : List Char → Except Error Lexer
  | [] => .ok lexer
  | character :: rest =>
    match lexer.step character with
    | .ok next => next.run rest
    | .error error => .error error

end Lexer

/-- `sexp_tokens`. -/
def sexpTokens (source : String) : Except Error (List String) :=
  match ({} : Lexer).run source.toList with
  | .error error => .error error
  | .ok final =>
    if final.quote || final.depth ≠ 0 then
      .error (.new .invalidConfiguration "unterminated project expression")
    else .ok final.flush.out

inductive Sexp where
  | atom (text : String)
  | list (items : List Sexp)

/-- An atom or a structural parenthesis. -/
inductive SexpToken where
  | opening
  | closing
  | atom (text : String)
  deriving DecidableEq

namespace SexpToken

def text : SexpToken → String
  | opening => "("
  | closing => ")"
  | atom text => text

def isAtom : SexpToken → Bool
  | atom _ => true
  | _ => false

end SexpToken

mutual

def Sexp.tokens : Sexp → List SexpToken
  | .atom text => [.atom text]
  | .list items => .opening :: (Sexp.tokensOf items ++ [.closing])

def Sexp.tokensOf : List Sexp → List SexpToken
  | [] => []
  | item :: rest => item.tokens ++ Sexp.tokensOf rest

end

/-- `char::is_control`. -/
def isControl (character : Char) : Bool :=
  character.toNat < 0x20 || (0x7f ≤ character.toNat && character.toNat ≤ 0x9f)

/-- Dune prints the atom in double quotes. -/
def needsQuotes (text : String) : Bool :=
  text = "" || text.toList.any fun character =>
    isWhitespace character || character ∈ ['(', ')', '"', ';'] || isControl character

/-- The digits of a decimal escape. -/
def decimalEscape (code : Nat) : List Char :=
  [Char.ofNat (48 + code / 100 % 10), Char.ofNat (48 + code / 10 % 10), Char.ofNat (48 + code % 10)]

def escapeCharacter (character : Char) : List Char :=
  if character = '"' || character = '\\' then ['\\', character]
  else if character = '\n' then ['\\', 'n']
  else if character = '\t' then ['\\', 't']
  else if character = '\r' then ['\\', 'r']
  else if character = '\x08' then ['\\', 'b']
  else if isControl character then '\\' :: decimalEscape character.toNat
  else [character]

/-- What Dune prints of the text of an atom, without the quotes. -/
def atomContent (text : String) : List Char :=
  if needsQuotes text then text.toList.flatMap escapeCharacter else text.toList

def SexpToken.characters : SexpToken → List Char
  | opening => ['(']
  | closing => [')']
  | atom text => if needsQuotes text then '"' :: (atomContent text ++ ['"']) else atomContent text

/-- White space, or a comment up to the end of its line. -/
inductive Blank where
  | space (character : Char) (white : isWhitespace character = true)
  | comment (text : List Char) (line : '\n' ∉ text)

def Blank.isSpace : Blank → Bool
  | space _ _ => true
  | comment _ _ => false

def Blank.characters : Blank → List Char
  | space character _ => [character]
  | comment text _ => ';' :: (text ++ ['\n'])

def gapCharacters (gap : List Blank) : List Char := gap.flatMap Blank.characters

/-- A token, and the gap after it. -/
abbrev Printed := SexpToken × List Blank

/-- The characters of tokens and gaps. -/
def entryCharacters (entries : List Printed) : List Char :=
  entries.flatMap fun entry => entry.1.characters ++ gapCharacters entry.2

/-- S-expressions with the gaps between their tokens: two atoms are kept apart. -/
structure Printing where
  items : List Sexp
  lead : List Blank
  entries : List Printed
  shows : entries.map Prod.fst = Sexp.tokensOf items
  separated : entries.IsChain fun left right => left.1.isAtom → right.1.isAtom → left.2 ≠ []

namespace Printing

variable (printing : Printing)

def tokens : List SexpToken := printing.entries.map Prod.fst

def text : String :=
  String.ofList (gapCharacters printing.lead ++ entryCharacters printing.entries)

/-- The lexer gives back the tokens, and no atom is taken for a parenthesis. -/
def Inverted : Prop :=
  sexpTokens printing.text = .ok (printing.tokens.map SexpToken.text) ∧
    ∀ token ∈ printing.tokens, (token.text = "(" ↔ token = .opening) ∧
      (token.text = ")" ↔ token = .closing)

end Printing

/-- The lexer decodes no escape, and takes a number sign for a comment. -/
structure PlainAtom (text : String) : Prop where
  nonempty : text ≠ ""
  opening : text ≠ "("
  closing : text ≠ ")"
  quotes : '"' ∉ text.toList
  controls : ∀ character ∈ text.toList, isControl character = false
  numbers : '#' ∈ text.toList → needsQuotes text = true
  backslashes : '\\' ∈ text.toList → needsQuotes text = false

structure Printing.Plain (printing : Printing) : Prop where
  atoms : ∀ text, .atom text ∈ printing.tokens → PlainAtom text
  gaps : printing.entries.IsChain fun left right =>
    left.1.isAtom → right.1.isAtom → left.2.any Blank.isSpace = true

end RocqMcp
