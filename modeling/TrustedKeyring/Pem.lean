import TrustedKeyring.Base64

/-!
# Armoured text

Byte strings in text form between a BEGIN line and an END line with the same label.  A block may
have a header, which an empty line separates from the body.  The first certificate of a text is
found by passing over the blocks before it, all of which must be well formed.  A byte order mark is
passed over at the beginning and after each block.  A zero octet hides what follows it in a line,
the line end included.
-/

namespace TrustedKeyring.Pem

def beginMark : Bytes := Bytes.ascii "-----BEGIN "

def endMark : Bytes := Bytes.ascii "-----END "

def tailMark : Bytes := Bytes.ascii "-----"

def lineFeed : UInt8 := 10

def maxLine : Nat := 254

def splitLine : Nat → Bytes → Bytes × Bytes
  | 0, bytes => ([], bytes)
  | _ + 1, [] => ([], [])
  | room + 1, b :: rest =>
    if b = lineFeed then ([b], rest)
    else
      let (line, rest) := splitLine room rest
      (b :: line, rest)

/-- The lines of a text.  Each has at least one octet, which bounds `fuel`. -/
def linesFrom : Nat → Bytes → List Bytes
  | 0, _ => []
  | _ + 1, [] => []
  | fuel + 1, bytes =>
    let (line, rest) := splitLine maxLine bytes
    line :: linesFrom fuel rest

def lines (text : Bytes) : List Bytes :=
  linesFrom text.length text

/-- Whether an octet does not count at the end of a line: control characters, spaces, and what is
no ASCII. -/
def isTrailing (b : UInt8) : Bool :=
  b ≤ 32 || 128 ≤ b

def trimLine (line : Bytes) : Bytes :=
  (line.reverse.dropWhile isTrailing).reverse

/-- Whether a line was split for its length, so that it goes on with the next one. -/
def isSplit (line : Bytes) : Bool :=
  line.length == maxLine && line.getLast? != some lineFeed

def visible (octets : Bytes) : Bytes :=
  octets.takeWhile (· != 0)

def beginLabel? (line : Bytes) : Option Bytes :=
  let line := trimLine line
  if beginMark.isPrefixOf line ∧ tailMark.isSuffixOf line then
    some
      (visible
        ((line.drop beginMark.length).take (line.length - beginMark.length - tailMark.length)))
  else
    none

/-- What a line of a block belongs to.  A block has a header if a colon stands in it before the
first empty line. -/
inductive Section where
  | undecided
  | header
  | body
deriving DecidableEq, Repr

structure Block where
  part : Section := .undecided
  header : Bytes := []
  body : Bytes := []
  isSplit : Bool := false
  isEnded : Bool := false

/-- The length of the lines in a body that follows an empty line; only the last may be shorter. -/
def bodyLine : Nat := 64

inductive Progress where
  | reading (block : Block)
  | finished (header body : Bytes)
  | broken

def Block.readLine (label : Bytes) (block : Block) (line : Bytes) : Progress :=
  let part := if block.part = .undecided ∧ line.contains 58 then .header else block.part
  let trimmed := trimLine line
  let block' := { block with part := part, isSplit := Pem.isSplit line }
  -- the blank end of a line that was split for its length is no empty line
  if trimmed.isEmpty then
    if block.isSplit then .reading block'
    else if part = .body then .broken
    else .reading { block' with part := .body }
  else if endMark.isPrefixOf trimmed then
    if trimmed = endMark ++ label ++ tailMark then
      -- without a header, what might have been one is the body
      if part = .undecided then .finished [] block.header else .finished block.header block.body
    else
      .broken
  else if block.isEnded then .broken
  else
    -- of a line that holds a zero octet, only what stands before it counts
    let text := visible (trimmed ++ [lineFeed])
    if part = .body then
      if bodyLine < trimmed.length then .broken
      else
        .reading
          { block' with body := block.body ++ text, isEnded := trimmed.length < bodyLine }
    else
      .reading { block' with header := block.header ++ text }

def readBlock (label : Bytes) (block : Block) : List Bytes → Option (Bytes × Bytes × List Bytes)
  | [] => none
  | line :: rest =>
    match block.readLine label line with
    | .broken => none
    | .reading block => readBlock label block rest
    | .finished header body =>
      match Base64.decode? body with
      | none => none
      | some [] => none
      | some content => some (header, content, rest)

def byteOrderMark : Bytes := [0xEF, 0xBB, 0xBF]

/-- The lines of a text with no byte order mark before the first, where a block may begin. -/
def unmark : List Bytes → List Bytes
  | [] => []
  | line :: rest =>
    if byteOrderMark.length < line.length ∧ byteOrderMark.isPrefixOf line then
      line.drop byteOrderMark.length :: rest
    else line :: rest

def certificateLabels : List Bytes :=
  [Bytes.ascii "CERTIFICATE", Bytes.ascii "X509 CERTIFICATE"]

/-- The content of the first certificate among the lines.  A certificate with a header is
refused. -/
def firstCertificate? : Nat → List Bytes → Option Bytes
  | 0, _ => none
  | _ + 1, [] => none
  | fuel + 1, line :: rest =>
    match beginLabel? line with
    | none => firstCertificate? fuel rest
    | some label =>
      -- a block of another label is passed over, but it must be one that can be read
      match readBlock label {} rest with
      | none => none
      | some (header, content, rest) =>
        if certificateLabels.contains label then
          if header.isEmpty then some content else none
        else
          firstCertificate? fuel (unmark rest)

def certificate? (text : Bytes) : Option Bytes :=
  let lines := unmark (lines text)
  firstCertificate? (lines.length + 1) lines

def mark : Bytes := Bytes.ascii "-----BEGIN"

def isArmoured (data : Bytes) : Bool :=
  mark.isPrefixOf data

def write (lineEnd label content : Bytes) : Bytes :=
  let body := Base64.encode content
  beginMark ++ label ++ tailMark ++ lineEnd ++
    (Bytes.pieces bodyLine body).flatMap (· ++ lineEnd) ++
    endMark ++ label ++ tailMark ++ lineEnd

end TrustedKeyring.Pem
