import Facet.Yaml.Tag

/-!
Tokens of a YAML text. Whether a scalar is a key is known only at the colon behind it, so a token that
may begin a key is held back until that is decided.
-/

namespace Facet.Yaml

inductive Token.Kind
  | streamEnd
  | directive : Directive → Token.Kind
  | documentStart | documentEnd
  | blockSequenceStart | blockMappingStart | blockEnd
  | flowSequenceStart | flowSequenceEnd | flowMappingStart | flowMappingEnd
  | blockEntry | flowEntry | key | value
  | reference : List Char → Token.Kind
  | anchor : List Char → Token.Kind
  | tag : Tag → Token.Kind
  | scalar : List Char → Style → Token.Kind

structure Token where
  kind : Token.Kind
  start : Mark
  stop : Mark

structure Candidate where
  required : Bool
  number : Nat
  mark : Mark

/-- The tokens read ahead, of all those before `taken` are gone, and what decides how the next ones are
read: the indentation of the open block collections, and the candidate for a key in each open flow
collection and outside them. -/
structure Tokens where
  source : Source
  indent : Int
  indents : List Int
  keyAllowed : Bool
  candidate : Option Candidate
  outer : List (Option Candidate)
  queue : List Token
  taken : Nat

namespace Tokens

def ofText (s : String) : Tokens := ⟨.ofText s, -1, [], true, none, [], [], 0⟩

def inFlow (t : Tokens) : Bool := !t.outer.isEmpty

def mark (t : Tokens) : Mark := t.source.mark

/-! ### Candidates -/

def Candidate.missing (k : Candidate) (m : Mark) : Fault :=
  .during .missingColon m .simpleKey k.mark

/-- A key stands on one line and is at most 1024 characters long. -/
def isStale (m : Mark) (k : Candidate) : Bool := k.mark.line < m.line || k.mark.column + 1024 < m.column

def checkStale (m : Mark) : Option Candidate → Except Fault (Option Candidate)
  | none => .ok none
  | some k =>
    if isStale m k then if k.required then .error (Candidate.missing k m) else .ok none
    else .ok (some k)

def dropStale (t : Tokens) : Except Fault Tokens := do
  let outer ← t.outer.mapM (checkStale t.mark)
  let candidate ← checkStale t.mark t.candidate
  return { t with candidate, outer }

def dropCandidate (t : Tokens) : Except Fault Tokens :=
  match t.candidate with
  | some k => if k.required then .error (Candidate.missing k t.mark) else .ok { t with candidate := none }
  | none => .ok t

def saveCandidate (t : Tokens) : Except Fault Tokens :=
  if t.keyAllowed then do
    let t ← t.dropCandidate
    let required := !t.inFlow && t.indent = t.mark.column
    return { t with candidate := some ⟨required, t.taken + t.queue.length, t.mark⟩ }
  else .ok t

/-! ### The queue -/

def push (t : Tokens) (kind : Token.Kind) (start : Mark) : Tokens :=
  { t with queue := t.queue ++ [⟨kind, start, t.mark⟩] }

def insert (t : Tokens) (number : Nat) (kind : Token.Kind) (m : Mark) : Tokens :=
  let n := number - t.taken
  { t with queue := t.queue.take n ++ ⟨kind, m, m⟩ :: t.queue.drop n }

def mark1 (t : Tokens) (n : Nat) (kind : Token.Kind) : Tokens :=
  { t with source := t.source.skipMany n }.push kind t.mark

/-- Opens a block collection at the column if it is indented deeper than those around it; `number` is
that of the token it starts with, if that one is in the queue already. -/
def rollIndent (t : Tokens) (column : Nat) (number : Option Nat) (kind : Token.Kind) (m : Mark) : Tokens :=
  if !t.inFlow && t.indent < column then
    let t := { t with indents := t.indent :: t.indents, indent := column }
    t.insert (number.getD (t.taken + t.queue.length)) kind m
  else t

def unroll (column : Int) (indent : Int) : List Int → Nat × Int × List Int
  | [] => (0, indent, [])
  | i :: indents =>
    if column < indent then
      let (n, indent, indents) := unroll column i indents
      (n + 1, indent, indents)
    else (0, indent, i :: indents)

def unrollIndent (t : Tokens) (column : Int) : Tokens :=
  if t.inFlow then t
  else
    let (n, indent, indents) := unroll column t.indent t.indents
    { t with
      indent
      indents
      queue := t.queue ++ List.replicate n ⟨.blockEnd, t.mark, t.mark⟩ }

/-! ### Blanks between tokens -/

/-- Skips blanks, comments and line ends. Outside flow collections a new line allows for a key, and
where a key is allowed a tab is no blank. -/
def skipBetween (flow : Bool) (allowed comment : Bool) (m : Mark) : List Char → Bool × Source
  | [] => (allowed, ⟨m, []⟩)
  | c :: cs =>
    if isBreak c then skipBetween flow (allowed || !flow) false (m.after c) cs
    else if comment || c = ' ' || (c = '\t' && (flow || !allowed)) then
      skipBetween flow allowed comment (m.after c) cs
    else if c = '#' then skipBetween flow allowed true (m.after c) cs
    else (allowed, ⟨m, c :: cs⟩)

def toNext (t : Tokens) : Tokens :=
  let s := t.source
  let s := if s.mark = .origin && s.rest.head? = some '\ufeff' then s.skip else s
  let (keyAllowed, source) := skipBetween t.inFlow t.keyAllowed false s.mark s.rest
  { t with source, keyAllowed }

/-! ### Reading one token -/

def endStream (t : Tokens) : Except Fault Tokens := do
  let m := if t.mark.column = 0 then t.mark else ⟨t.mark.line + 1, 0⟩
  let t ← ({ t with source := ⟨m, t.source.rest⟩ }.unrollIndent (-1)).dropCandidate
  return { t with keyAllowed := false }.push .streamEnd m

def directive (t : Tokens) : Except Fault Tokens := do
  let t ← (t.unrollIndent (-1)).dropCandidate
  let (d, source) ← Yaml.directive t.source
  return { t with source, keyAllowed := false }.push (.directive d) t.mark

def documentMark (t : Tokens) (kind : Token.Kind) : Except Fault Tokens := do
  let t ← (t.unrollIndent (-1)).dropCandidate
  return { t with keyAllowed := false }.mark1 3 kind

def openFlow (t : Tokens) (kind : Token.Kind) : Except Fault Tokens := do
  let t ← t.saveCandidate
  return { t with candidate := none, outer := t.candidate :: t.outer, keyAllowed := true }.mark1 1 kind

def closeFlow (t : Tokens) (kind : Token.Kind) : Except Fault Tokens := do
  let t ← t.dropCandidate
  let t := match t.outer with
    | [] => t
    | candidate :: outer => { t with candidate, outer }
  return { t with keyAllowed := false }.mark1 1 kind

def flowEntry (t : Tokens) : Except Fault Tokens := do
  let t ← t.dropCandidate
  return { t with keyAllowed := true }.mark1 1 .flowEntry

def blockIndicator (t : Tokens) (problem : Problem) (kind : Token.Kind) : Except Fault Tokens :=
  if t.inFlow then .ok t
  else if !t.keyAllowed then .error (.plain problem t.mark)
  else .ok (t.rollIndent t.mark.column none kind t.mark)

def blockEntry (t : Tokens) : Except Fault Tokens := do
  let t ← t.blockIndicator .entryNotAllowed .blockSequenceStart
  let t ← t.dropCandidate
  return { t with keyAllowed := true }.mark1 1 .blockEntry

def key (t : Tokens) : Except Fault Tokens := do
  let t ← t.blockIndicator .keyNotAllowed .blockMappingStart
  let t ← t.dropCandidate
  return { t with keyAllowed := !t.inFlow }.mark1 1 .key

def value (t : Tokens) : Except Fault Tokens :=
  match t.candidate with
  | some k =>
    let t := t.insert k.number .key k.mark
    let t := t.rollIndent k.mark.column (some k.number) .blockMappingStart k.mark
    .ok ({ t with candidate := none, keyAllowed := false }.mark1 1 .value)
  | none => do
    let t ← t.blockIndicator .valueNotAllowed .blockMappingStart
    return { t with keyAllowed := !t.inFlow }.mark1 1 .value

def content (t : Tokens) (read : Tokens → Except Fault (Token.Kind × Source)) : Except Fault Tokens := do
  let t ← t.saveCandidate
  let (kind, source) ← read t
  return { t with source, keyAllowed := false }.push kind t.mark

def reference (t : Tokens) : Except Fault Tokens := t.content fun t => do
  let (name, s) ← anchorName .reference t.source
  return (.reference name, s)

def anchor (t : Tokens) : Except Fault Tokens := t.content fun t => do
  let (name, s) ← anchorName .anchor t.source
  return (.anchor name, s)

def tag (t : Tokens) : Except Fault Tokens := t.content fun t => do
  let (tag, s) ← Yaml.tag t.inFlow t.source
  return (.tag tag, s)

def quoted (t : Tokens) (single : Bool) : Except Fault Tokens := t.content fun t => do
  let s := t.source.skip
  let (text, s) ← quotedFrom t.mark single [] .none none s.mark s.rest
  return (.scalar text (if single then .singleQuoted else .doubleQuoted), s)

def block (t : Tokens) (literal : Bool) : Except Fault Tokens := do
  let t ← t.dropCandidate
  let (text, source) ← Yaml.block literal t.indent t.source
  return { t with source, keyAllowed := true }.push
    (.scalar text (if literal then .literal else .folded)) t.mark

def plain (t : Tokens) : Except Fault Tokens := do
  let t ← t.saveCandidate
  let p ← plainFrom t.mark (t.indent + 1) t.inFlow [] .none t.mark t.source.rest
  return { t with source := p.source, keyAllowed := p.broken }.push (.scalar p.text .plain) t.mark

def startsPlain (flow : Bool) (c : Char) (cs : List Char) : Bool :=
  !(isBlank c || isBreak c || "-?:,[]\x7b\x7d#&*!|>'\"%@`".toList.contains c) ||
    (c = '-' && !(cs.head?.any isBlank)) || (!flow && (c = '?' || c = ':') && !atBlank cs)

def fetch (t : Tokens) : Except Fault Tokens := do
  let t ← t.toNext.dropStale
  let t := t.unrollIndent t.mark.column
  match t.source.rest with
  | [] => t.endStream
  | c :: cs =>
    let flow := t.inFlow
    if t.mark.column = 0 && c = '%' then t.directive
    else if t.mark.column = 0 && atIndicator (c :: cs) then
      t.documentMark (if c = '-' then .documentStart else .documentEnd)
    else if c = '[' then t.openFlow .flowSequenceStart
    else if c = '\x7b' then t.openFlow .flowMappingStart
    else if c = ']' then t.closeFlow .flowSequenceEnd
    else if c = '\x7d' then t.closeFlow .flowMappingEnd
    else if c = ',' then t.flowEntry
    else if c = '-' && atBlank cs then t.blockEntry
    else if c = '?' && (flow || atBlank cs) then t.key
    else if c = ':' && (flow || atBlank cs) then t.value
    else if c = '*' then t.reference
    else if c = '&' then t.anchor
    else if c = '!' then t.tag
    else if c = '|' && !flow then t.block true
    else if c = '>' && !flow then t.block false
    else if c = '\'' then t.quoted true
    else if c = '"' then t.quoted false
    else if startsPlain flow c cs then t.plain
    else .error (.during .noTokenStart t.mark .nextToken t.mark)

def isCandidate (t : Tokens) (number : Nat) : Bool :=
  (t.candidate :: t.outer).any fun k => k.any (·.number = number)

/-- Reads on until the first token in the queue is there and is no candidate any more. All tokens but the
last take up text, and behind the last one every candidate is stale. -/
def settle (t : Tokens) : Except Fault Tokens := do
  let t' ← if t.queue.isEmpty then .ok t else t.dropStale
  if !t'.queue.isEmpty && !t'.isCandidate t'.taken then .ok t'
  else
    let next ← t'.fetch
    if next.source.rest.length < t.source.rest.length then next.settle else next.dropStale
termination_by t.source.rest.length

def peek (t : Tokens) : Except Fault (Token × Tokens) := do
  let t ← t.settle
  return (t.queue.headD ⟨.streamEnd, t.mark, t.mark⟩, t)

def skip (t : Tokens) : Tokens := { t with queue := t.queue.tail, taken := t.taken + 1 }

end Tokens

end Facet.Yaml
