import SipCodec.Text.Bytes

/-! Failures of the codec. A failure has a kind, or several when it joins others, and an exact
text: a kind's word, then `": "` and the detail or the cause it wraps. Joined failures list
their members under a prefix, one per line. -/

namespace SipCodec

/-- What went wrong, in the order in which a failure's kinds are reported. -/
inductive Kind where
  | incomplete
  | messageTooLarge
  | invalidMessage
  | missingHeader
  | invalidParam
  | unsupportedAlgorithm
  | parse
  | tokenize
  | utf8
  | invalidArgument
  | unexpected
  deriving DecidableEq, Repr, BEq

namespace Kind

def all : List Kind :=
  [.incomplete, .messageTooLarge, .invalidMessage, .missingHeader, .invalidParam,
    .unsupportedAlgorithm, .parse, .tokenize, .utf8, .invalidArgument, .unexpected]

/-- The word that opens the text of a failure of this kind. -/
def text : Kind → String
  | .incomplete => "incomplete input"
  | .messageTooLarge => "message too large"
  | .invalidMessage => "invalid message"
  | .missingHeader => "missing header"
  | .invalidParam => "invalid param"
  | .unsupportedAlgorithm => "unsupported digest algorithm"
  | .parse => "parse error"
  | .tokenize => "tokenize error"
  | .utf8 => "invalid utf-8"
  | .invalidArgument => "invalid argument"
  | .unexpected => "unexpected error"

/-- The short name of the kind. -/
def code : Kind → String
  | .incomplete => "incomplete"
  | .messageTooLarge => "message_too_large"
  | .invalidMessage => "invalid_message"
  | .missingHeader => "missing_header"
  | .invalidParam => "invalid_param"
  | .unsupportedAlgorithm => "unsupported_algorithm"
  | .parse => "parse"
  | .tokenize => "tokenize"
  | .utf8 => "utf8"
  | .invalidArgument => "invalid_argument"
  | .unexpected => "unexpected"

def ofCode? (s : String) : Option Kind := all.find? (·.code == s)

end Kind

/-- A failure and its causes. -/
inductive Fault where
  /-- A kind alone: its word is the whole text. -/
  | sentinel (k : Kind)
  /-- A kind with a detail: `word: detail`. -/
  | detail (k : Kind) (text : Bytes)
  /-- A kind wrapping a cause: `word: cause`, with the kinds of the cause as well. -/
  | wrap (k : Kind) (cause : Fault)
  /-- A described failure without a kind of its own. A description that repeats a kind's word
  exactly is that kind. -/
  | note (text : Bytes)
  /-- A failure from outside the codec; its text never counts as a kind. -/
  | foreign (text : Bytes)
  /-- A failure of the grammar layer: no kind, marked as coming from the grammar. -/
  | grammar (text : Bytes)
  /-- A cause under a label: `label: cause`. -/
  | labeled (label : Bytes) (cause : Fault)
  /-- Several failures: the prefix, then each member on a line of its own. -/
  | list (pre : Bytes) (members : List Fault)
  deriving Inhabited

namespace Fault

mutual
/-- The text of a failure. -/
def message : Fault → Bytes
  | .sentinel k => lit k.text
  | .detail k t => lit k.text ++ lit ": " ++ t
  | .wrap k c => lit k.text ++ lit ": " ++ c.message
  | .note t => t
  | .foreign t => t
  | .grammar t => t
  | .labeled l c => l ++ lit ": " ++ c.message
  | .list p ms => p ++ listed ms

/-- Members of a list, each after `"\n  - "` and indented by four more blanks. -/
def listed : List Fault → Bytes
  | [] => []
  | m :: ms => lit "\n  - " ++ Bytes.replaceByte 10 (lit "\n    ") m.message ++ listed ms
end

mutual
/-- Whether the failure is of kind `k`, itself or through a cause or member. -/
def has (k : Kind) : Fault → Bool
  | .sentinel k' => k == k'
  | .detail k' _ => k == k'
  | .wrap k' c => k == k' || c.has k
  | .note t => t == lit k.text
  | .foreign _ => false
  | .grammar _ => false
  | .labeled _ c => c.has k
  | .list _ ms => anyHas k ms

def anyHas (k : Kind) : List Fault → Bool
  | [] => false
  | m :: ms => m.has k || anyHas k ms
end

/-- The kinds of a failure, in the fixed order of `Kind.all`. -/
def kinds (f : Fault) : List Kind := Kind.all.filter f.has

/-- Whether the failure only says that more input is needed. -/
def isIncomplete (f : Fault) : Bool := f.has .incomplete

mutual
/-- Whether the failure comes from the grammar layer, itself or through a cause. -/
def fromGrammar : Fault → Bool
  | .grammar _ => true
  | .wrap _ c => c.fromGrammar
  | .labeled _ c => c.fromGrammar
  | .list _ ms => anyFromGrammar ms
  | _ => false

def anyFromGrammar : List Fault → Bool
  | [] => false
  | m :: ms => m.fromGrammar || anyFromGrammar ms
end

/-- Wraps a cause in a kind, unless the cause already is of that kind. -/
def wrapIn (k : Kind) (cause : Fault) : Fault :=
  if cause.has k then cause else .wrap k cause

/-- A kind with a detail given as text. -/
def withText (k : Kind) (s : String) : Fault := .detail k (lit s)

def tokenizeText (s : String) : Fault := .detail .tokenize (lit s)

/-- Input left over after a complete value. -/
def trailing : Fault := .detail .tokenize (lit "tokenizing left trailing input")

/-- Joins failures: none is no failure, one is itself, more form an unprefixed list. -/
def join : List Fault → Option Fault
  | [] => none
  | [f] => some f
  | fs => some (.list [] fs)

/-- Joins failures under a prefix: one becomes `prefix: failure`, with the prefix's trailing
colons dropped; more form a list. -/
def joinPrefix (pre : Bytes) : List Fault → Option Fault
  | [] => none
  | [f] => some (.labeled (Bytes.trimRightBy (· == 58) pre) f)
  | fs => some (.list pre fs)

/-- The short reason of a failure, checked in this order: too large, a missing header, bad
UTF-8, a bad parameter, parsing, tokenizing; anything else is `other`. -/
def reason (f : Fault) : String :=
  if f.has .messageTooLarge then "too_large"
  else if f.has .missingHeader then "missing_header"
  else if f.has .utf8 then "utf8"
  else if f.has .invalidParam then "invalid_param"
  else if f.has .parse then "parse"
  else if f.has .tokenize then "tokenize"
  else "other"

end Fault

/-- Results of the codec: a value or a failure. -/
abbrev Outcome (α : Type) := Except Fault α

end SipCodec
