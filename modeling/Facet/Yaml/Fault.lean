namespace Facet.Yaml

structure Mark where
  line : Nat
  column : Nat
  deriving DecidableEq

namespace Mark

def origin : Mark := ⟨0, 0⟩

def text (m : Mark) : String :=
  "line " ++ toString (m.line + 1) ++ " column " ++ toString (m.column + 1)

def suffix (m : Mark) : String := if m = origin then "" else " at " ++ m.text

end Mark

inductive Problem
  | controlCharacter
  | missingColon | noTokenStart
  | entryNotAllowed | keyNotAllowed | valueNotAllowed
  | directiveUnnamed | directiveLetter | directiveUnknown | lineNotEnded
  | versionDot | versionLong | versionMissing
  | blankMissing | blankOrBreakMissing
  | nameMissing
  | tagNotClosed | tagMarkMissing | tagEmpty | octetMissing | leadingOctet | trailingOctet
  | zeroIndentation | tabIndentation
  | documentIndicator | textEnds | unknownEscape | notHexadecimal | noCharacter
  | plainColon | tabInPlain
  | documentStartMissing | versionTwice | versionOther | handleTwice | handleUnknown
  | contentMissing | dashMissing | keyMissing | sequenceNotEnded | mappingNotEnded
  | unknownAnchor
  deriving DecidableEq

def Problem.text : Problem → String
  | .controlCharacter => "control characters are not allowed"
  | .missingColon => "could not find expected ':'"
  | .noTokenStart => "found character that cannot start any token"
  | .entryNotAllowed => "block sequence entries are not allowed in this context"
  | .keyNotAllowed => "mapping keys are not allowed in this context"
  | .valueNotAllowed => "mapping values are not allowed in this context"
  | .directiveUnnamed => "could not find expected directive name"
  | .directiveLetter => "found unexpected non-alphabetical character"
  | .directiveUnknown => "found unknown directive name"
  | .lineNotEnded => "did not find expected comment or line break"
  | .versionDot => "did not find expected digit or '.' character"
  | .versionLong => "found extremely long version number"
  | .versionMissing => "did not find expected version number"
  | .blankMissing => "did not find expected whitespace"
  | .blankOrBreakMissing => "did not find expected whitespace or line break"
  | .nameMissing => "did not find expected alphabetic or numeric character"
  | .tagNotClosed => "did not find the expected '>'"
  | .tagMarkMissing => "did not find expected '!'"
  | .tagEmpty => "did not find expected tag URI"
  | .octetMissing => "did not find URI escaped octet"
  | .leadingOctet => "found an incorrect leading UTF-8 octet"
  | .trailingOctet => "found an incorrect trailing UTF-8 octet"
  | .zeroIndentation => "found an indentation indicator equal to 0"
  | .tabIndentation => "found a tab character where an indentation space is expected"
  | .documentIndicator => "found unexpected document indicator"
  | .textEnds => "found unexpected end of stream"
  | .unknownEscape => "found unknown escape character"
  | .notHexadecimal => "did not find expected hexdecimal number"
  | .noCharacter => "found invalid Unicode character escape code"
  | .plainColon => "found unexpected ':'"
  | .tabInPlain => "found a tab character that violates indentation"
  | .documentStartMissing => "did not find expected <document start>"
  | .versionTwice => "found duplicate %YAML directive"
  | .versionOther => "found incompatible YAML document"
  | .handleTwice => "found duplicate %TAG directive"
  | .handleUnknown => "found undefined tag handle"
  | .contentMissing => "did not find expected node content"
  | .dashMissing => "did not find expected '-' indicator"
  | .keyMissing => "did not find expected key"
  | .sequenceNotEnded => "did not find expected ',' or ']'"
  | .mappingNotEnded => "did not find expected ',' or '\x7d'"
  | .unknownAnchor => "unknown anchor"

inductive Activity
  | simpleKey | nextToken
  | directive | versionDirective | tagDirective | directiveHandle | directiveMark | directivePrefix
  | tag | tagUri | anchor | reference
  | blockScalar | quotedScalar | quotedEscape | plainScalar
  | node | blockNode | flowNode
  | blockSequence | blockMapping | flowSequence | flowMapping
  deriving DecidableEq

def Activity.text : Activity → String
  | .simpleKey => "while scanning a simple key"
  | .nextToken => "while scanning for the next token"
  | .directive => "while scanning a directive"
  | .versionDirective => "while scanning a %YAML directive"
  | .tagDirective => "while scanning a %TAG directive"
  | .directiveHandle => "while parsing a tag directive"
  | .directiveMark => "while scanning a tag directive"
  | .directivePrefix => "while parsing a %TAG directive"
  | .tag => "while scanning a tag"
  | .tagUri => "while parsing a tag"
  | .anchor => "while scanning an anchor"
  | .reference => "while scanning an alias"
  | .blockScalar => "while scanning a block scalar"
  | .quotedScalar => "while scanning a quoted scalar"
  | .quotedEscape => "while parsing a quoted scalar"
  | .plainScalar => "while scanning a plain scalar"
  | .node => "while parsing a node"
  | .blockNode => "while parsing a block node"
  | .flowNode => "while parsing a flow node"
  | .blockSequence => "while parsing a block collection"
  | .blockMapping => "while parsing a block mapping"
  | .flowSequence => "while parsing a flow sequence"
  | .flowMapping => "while parsing a flow mapping"

inductive Fault
  | unreadable : Problem → (offset : Nat) → Fault
  | plain : Problem → Mark → Fault
  | during : Problem → Mark → Activity → (start : Mark) → Fault
  deriving DecidableEq

def Fault.message : Fault → String
  | .unreadable p offset =>
    p.text ++ if offset = 0 then "" else " at position " ++ toString offset
  | .plain p m => p.text ++ m.suffix
  | .during p m a start =>
    p.text ++ m.suffix ++ ", " ++ a.text ++ if start = m then "" else start.suffix

end Facet.Yaml
