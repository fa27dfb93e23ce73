import TrustedKeyring.Json.Number
import TrustedKeyring.Json.Text

/-!
# Reading JSON documents of a known shape

A document is read from its characters straight into the value that is asked for.  A value of
another kind is a mismatch as soon as it begins, unless its beginning breaks the grammar.  A value
that nobody asked for is passed over by its grammar alone.
-/

namespace TrustedKeyring.Json

def isSpace (c : Char) : Bool :=
  c == ' ' || c == '\n' || c == '\t' || c == '\r'

def skipSpace (text : List Char) : List Char :=
  text.dropWhile isSpace

def word : List Char → List Char → Except Fault (List Char)
  | [], text => .ok text
  | _ :: _, [] => .error .truncated
  | e :: expected, c :: text => if e = c then word expected text else .error .malformed

def mismatch (text : List Char) : Fault :=
  let found {α : Type} : Except Fault α → Fault
    | .error fault => fault
    | .ok _ => .mismatched
  match text with
  | 'n' :: rest => found (word ['u', 'l', 'l'] rest)
  | 't' :: rest => found (word ['r', 'u', 'e'] rest)
  | 'f' :: rest => found (word ['a', 'l', 's', 'e'] rest)
  | '-' :: rest => found (Number.unsigned rest)
  | '"' :: rest => found (stringBody rest)
  | '[' :: _ => .mismatched
  | '{' :: _ => .mismatched
  | c :: _ => if Number.isDigit c then found (Number.unsigned text) else .malformed
  | [] => .malformed

def string (text : List Char) : Except Fault (List Char × List Char) :=
  match skipSpace text with
  | [] => .error .truncated
  | '"' :: rest => stringBody rest
  | rest => .error (mismatch rest)

def nullWord (text : List Char) : Except Fault (List Char) :=
  match skipSpace text with
  | [] => .error .truncated
  | 'n' :: rest => word ['u', 'l', 'l'] rest
  | rest => .error (mismatch rest)

def colon (text : List Char) : Except Fault (List Char) :=
  match skipSpace text with
  | [] => .error .truncated
  | ':' :: rest => .ok rest
  | _ => .error .malformed

def finish (text : List Char) : Except Fault Unit :=
  match skipSpace text with
  | [] => .ok ()
  | _ => .error .malformed

/-- Passes over the body of a string.  Escapes by number may name any surrogate. -/
def skipString : List Char → Except Fault (List Char)
  | [] => .error .truncated
  | '"' :: rest => .ok rest
  | ['\\'] => .error .truncated
  | '\\' :: letter :: rest =>
    if letter = 'u' then
      match rest with
      | a :: b :: c :: d :: rest =>
        if [a, b, c, d].all fun c => (Hex.value? c).isSome then skipString rest
        else .error .malformed
      | rest =>
        if rest.foldl (fun n c => n + c.utf8Size) 0 < 4 then .error .truncated
        else .error .malformed
    else if (letterEscape? letter).isSome then skipString rest
    else .error .malformed
  | c :: rest => if c.toNat < 0x20 then .error .malformed else skipString rest

def skipScalar : List Char → Except Fault (List Char)
  | 'n' :: rest => word ['u', 'l', 'l'] rest
  | 't' :: rest => word ['r', 'u', 'e'] rest
  | 'f' :: rest => word ['a', 'l', 's', 'e'] rest
  | '-' :: rest => Number.skip rest
  | '"' :: rest => skipString rest
  | c :: rest => if Number.isDigit c then Number.skip (c :: rest) else .error .malformed
  | [] => .error .truncated

inductive Bracket where
  | list
  | object

def Bracket.closing : Bracket → Char
  | .list => ']'
  | .object => '}'

def Bracket.memberName (bracket : Bracket) (text : List Char) : Except Fault (List Char) :=
  match bracket with
  | .list => .ok text
  | .object =>
    match skipSpace text with
    | [] => .error .truncated
    | '"' :: rest =>
      match skipString rest with
      | .error fault => .error fault
      | .ok rest => colon rest
    | _ => .error .malformed

inductive Expecting where
  | value
  | member (isFirst : Bool)

/-- Passes over a value with the brackets in `opened` around it.  Every second step consumes a
character, which bounds `fuel`. -/
def skipFrom : Nat → Expecting → List Bracket → List Char → Except Fault (List Char)
  | 0, _, _, _ => .error .truncated
  | fuel + 1, .value, opened, text =>
    match skipSpace text with
    | [] => .error .truncated
    | '[' :: rest => skipFrom fuel (.member true) (.list :: opened) rest
    | '{' :: rest => skipFrom fuel (.member true) (.object :: opened) rest
    | rest =>
      match skipScalar rest with
      | .error fault => .error fault
      | .ok rest => skipFrom fuel (.member false) opened rest
  | _ + 1, .member _, [], text => .ok text
  | fuel + 1, .member isFirst, bracket :: opened, text =>
    match skipSpace text with
    | [] => .error .truncated
    | c :: rest =>
      if c = bracket.closing then skipFrom fuel (.member false) opened rest
      else if isFirst then
        match bracket.memberName (c :: rest) with
        | .error fault => .error fault
        | .ok rest => skipFrom fuel .value (bracket :: opened) rest
      else if c = ',' then
        match bracket.memberName rest with
        | .error fault => .error fault
        | .ok rest => skipFrom fuel .value (bracket :: opened) rest
      else .error .malformed

def skipValue (text : List Char) : Except Fault (List Char) :=
  skipFrom (2 * text.length + 2) .value [] text

/-- Reads one of the names of an enumeration: either the bare name, or an object whose only
member has that name and the value null. -/
def choice {α : Type} (ofName? : String → Option α) (text : List Char) :
    Except Fault (α × List Char) :=
  let named (text : List Char) : Except Fault (α × List Char) :=
    match string text with
    | .error fault => .error fault
    | .ok (name, rest) =>
      match ofName? (String.ofList name) with
      | some value => .ok (value, rest)
      | none => .error .mismatched
  match skipSpace text with
  | [] => .error .truncated
  | '"' :: rest => named ('"' :: rest)
  | '{' :: rest =>
    match named rest with
    | .error fault => .error fault
    | .ok (value, rest) =>
      match colon rest with
      | .error fault => .error fault
      | .ok rest =>
        match nullWord rest with
        | .error fault => .error fault
        | .ok rest =>
          match skipSpace rest with
          | [] => .error .truncated
          | '}' :: rest => .ok (value, rest)
          | _ => .error .malformed
  | _ => .error .malformed

def document {α : Type} (read : List Char → Except Fault (α × List Char)) (text : String) :
    Except Fault α :=
  match read text.toList with
  | .error fault => .error fault
  | .ok (value, rest) => (finish rest).map fun _ => value

end TrustedKeyring.Json
