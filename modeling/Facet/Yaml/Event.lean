import Facet.Yaml.Token

namespace Facet.Yaml

inductive Event
  | streamEnd
  | documentStart | documentEnd
  | reference : List Char → Event
  | scalar : (anchor : Option (List Char)) → (tag : Option Bytes) → List Char → Style → Event
  | sequenceStart : (anchor : Option (List Char)) → (tag : Option Bytes) → Event
  | sequenceEnd
  | mappingStart : (anchor : Option (List Char)) → (tag : Option Bytes) → Event
  | mappingEnd

inductive Phase
  | start | afterDocument | documentContent | documentEnd
  | blockNode
  | blockSequence | indentlessSequence
  | blockMappingKey | blockMappingValue
  | flowSequence : (first : Bool) → Phase
  | flowPairKey | flowPairValue | flowPairEnd
  | flowMappingKey : (first : Bool) → Phase
  | flowMappingValue : (empty : Bool) → Phase
  | finished

/-- The tokens to come, the current phase and those to return to, where the open collections begin, and
the tag handles of the document. -/
structure Events where
  tokens : Tokens
  phase : Phase
  outer : List Phase
  marks : List Mark
  handles : List (List Char × Bytes)

namespace Events

abbrev Next := Except Fault (Event × Mark × Events)

def ofText (s : String) : Events := ⟨.ofText s, .start, [], [], []⟩

def peek (e : Events) : Except Fault (Token × Events) := do
  let (token, tokens) ← e.tokens.peek
  return (token, { e with tokens })

def skip (e : Events) : Events := { e with tokens := e.tokens.skip }

def goTo (e : Events) (phase : Phase) : Events := { e with phase }

def call (e : Events) (after : Phase) : Events := { e with outer := after :: e.outer }

def resume (e : Events) : Events :=
  { e with phase := e.outer.headD .finished, outer := e.outer.tail }

def enter (e : Events) (m : Mark) : Events := { e with marks := m :: e.marks }

def leave (e : Events) : Events := { e.resume with marks := e.marks.tail }

def opening (e : Events) : Mark := e.marks.headD .origin

def emptyScalar (e : Events) (m : Mark) : Next := .ok (.scalar none none [] .plain, m, e)

/-! ### Documents -/

def defaultHandles : List (List Char × Bytes) :=
  [(['!'], bytesOf ['!']), (['!', '!'], bytesOf "tag:yaml.org,2002:".toList)]

def declare (e : Events) (version : Bool) (m : Mark) : Directive → Except Fault (Bool × Events)
  | .version major minor =>
    if version then .error (.plain .versionTwice m)
    else if major ≠ 1 ∨ ¬(minor = 1 ∨ minor = 2) then .error (.plain .versionOther m)
    else .ok (true, e)
  | .tag name uri =>
    if e.handles.any (·.1 == name) then .error (.plain .handleTwice m)
    else .ok (version, { e with handles := e.handles ++ [(name, uri)] })

def directives (version : Bool) (token : Token) (e : Events) : Except Fault (Token × Events) :=
  match token.kind with
  | .directive d => do
    let (version, e') ← e.declare version token.start d
    let (next, e') ← e'.skip.peek
    if e'.tokens.source.rest.length < e.tokens.source.rest.length then directives version next e'
    else return (next, e')
  | _ => .ok (token, e)
termination_by e.tokens.source.rest.length

def withDefaults (e : Events) : Events :=
  { e with handles := e.handles ++ defaultHandles.filter fun h => !e.handles.any (·.1 == h.1) }

def isDocumentEnd : Token.Kind → Bool
  | .documentEnd => true
  | _ => false

def skipDocumentEnds (token : Token) (e : Events) : Except Fault (Token × Events) :=
  if isDocumentEnd token.kind then do
    let (next, e') ← e.skip.peek
    if e'.tokens.source.rest.length < e.tokens.source.rest.length then skipDocumentEnds next e'
    else return (next, e')
  else .ok (token, e)
termination_by e.tokens.source.rest.length

def document (first : Bool) (e : Events) : Next := do
  let (token, e) ← e.peek
  let (token, e) ← if first then .ok (token, e) else skipDocumentEnds token e
  let explicit (e : Events) : Next := do
    let (token', e) ← directives false token e
    match token'.kind with
    | .documentStart =>
      return (.documentStart, token.start, ((e.withDefaults.call .documentEnd).goTo .documentContent).skip)
    | _ => .error (.plain .documentStartMissing token'.start)
  match token.kind with
  | .streamEnd => return (.streamEnd, token.start, (e.goTo .finished).skip)
  | .directive _ | .documentStart => explicit e
  | _ =>
    if first then
      return (.documentStart, token.start, (e.withDefaults.call .documentEnd).goTo .blockNode)
    else explicit e

def documentEnd (e : Events) : Next := do
  let (token, e) ← e.peek
  let e := { e with phase := .afterDocument, handles := [] }
  return (.documentEnd, token.start, if isDocumentEnd token.kind then e.skip else e)

/-! ### Nodes -/

structure Properties where
  anchor : Option (List Char)
  tag : Option (Tag × Mark)

def properties (e : Events) : Except Fault (Properties × Token × Events) := do
  let (token, e) ← e.peek
  match token.kind with
  | .anchor name =>
    let (token, e) ← e.skip.peek
    match token.kind with
    | .tag t =>
      let m := token.start
      let (token, e) ← e.skip.peek
      return (⟨some name, some (t, m)⟩, token, e)
    | _ => return (⟨some name, none⟩, token, e)
  | .tag t =>
    let m := token.start
    let (token, e) ← e.skip.peek
    match token.kind with
    | .anchor name =>
      let (token, e) ← e.skip.peek
      return (⟨some name, some (t, m)⟩, token, e)
    | _ => return (⟨none, some (t, m)⟩, token, e)
  | _ => return (⟨none, none⟩, token, e)

def resolve (e : Events) (start : Mark) : Option (Tag × Mark) → Except Fault (Option Bytes)
  | none => .ok none
  | some (t, m) =>
    if t.handle.isEmpty then .ok (some t.suffix)
    else
      match e.handles.find? (·.1 == t.handle) with
      | some (_, uri) => .ok (some (uri ++ t.suffix))
      | none => .error (.during .handleUnknown m .node start)

/-- A node. Block collections are nodes if `block` is set, and entries without indentation of their own
if `indentless` is. -/
def node (e : Events) (block indentless : Bool) : Next := do
  let (first, e) ← e.peek
  let start := first.start
  match first.kind with
  | .reference name => return (.reference name, start, e.resume.skip)
  | _ =>
    let (p, token, e) ← e.properties
    let tag ← e.resolve start p.tag
    let empty : Next :=
      if p.anchor.isSome || tag.isSome then .ok (.scalar p.anchor tag [] .plain, start, e.resume)
      else
        .error (.during .contentMissing token.start (if block then .blockNode else .flowNode) start)
    match token.kind with
    | .blockEntry =>
      if indentless then return (.sequenceStart p.anchor tag, start, e.goTo .indentlessSequence)
      else empty
    | .scalar text style =>
      let tag := if tag = some (bytesOf ['!']) then none else tag
      return (.scalar p.anchor tag text style, start, e.resume.skip)
    | .flowSequenceStart => return (.sequenceStart p.anchor tag, start, openNode token e (.flowSequence true))
    | .flowMappingStart => return (.mappingStart p.anchor tag, start, openNode token e (.flowMappingKey true))
    | .blockSequenceStart =>
      if block then return (.sequenceStart p.anchor tag, start, openNode token e .blockSequence)
      else empty
    | .blockMappingStart =>
      if block then return (.mappingStart p.anchor tag, start, openNode token e .blockMappingKey)
      else empty
    | _ => empty
where
  openNode (token : Token) (e : Events) (phase : Phase) : Events := ((e.enter token.start).goTo phase).skip

def documentContent (e : Events) : Next := do
  let (token, e) ← e.peek
  match token.kind with
  | .directive _ | .documentStart | .documentEnd | .streamEnd => e.resume.emptyScalar token.start
  | _ => e.node true false

/-! ### Block collections -/

def endsEntry : Token.Kind → Bool
  | .blockEntry | .blockEnd => true
  | _ => false

def endsIndentless : Token.Kind → Bool
  | .blockEntry | .key | .value | .blockEnd => true
  | _ => false

def endsMappingPart : Token.Kind → Bool
  | .key | .value | .blockEnd => true
  | _ => false

def blockPart (e : Events) (m : Mark) (ends : Token.Kind → Bool) (indentless : Bool) (after : Phase) :
    Next := do
  let (token, e) ← e.peek
  if ends token.kind then (e.goTo after).emptyScalar m else (e.call after).node true indentless

def blockSequence (e : Events) : Next := do
  let (token, e) ← e.peek
  match token.kind with
  | .blockEntry => e.skip.blockPart token.stop endsEntry false .blockSequence
  | .blockEnd => return (.sequenceEnd, token.start, e.leave.skip)
  | _ => .error (.during .dashMissing token.start .blockSequence e.opening)

def indentlessSequence (e : Events) : Next := do
  let (token, e) ← e.peek
  match token.kind with
  | .blockEntry => e.skip.blockPart token.stop endsIndentless false .indentlessSequence
  | _ => return (.sequenceEnd, token.start, e.resume)

def blockMappingKey (e : Events) : Next := do
  let (token, e) ← e.peek
  match token.kind with
  | .key => e.skip.blockPart token.stop endsMappingPart true .blockMappingValue
  | .blockEnd => return (.mappingEnd, token.start, e.leave.skip)
  | _ => .error (.during .keyMissing token.start .blockMapping e.opening)

def blockMappingValue (e : Events) : Next := do
  let (token, e) ← e.peek
  match token.kind with
  | .value => e.skip.blockPart token.stop endsMappingPart true .blockMappingKey
  | _ => (e.goTo .blockMappingKey).emptyScalar token.start

/-! ### Flow collections -/

def endsFlowSequencePart : Token.Kind → Bool
  | .flowEntry | .flowSequenceEnd => true
  | _ => false

def endsFlowMappingPart : Token.Kind → Bool
  | .flowEntry | .flowMappingEnd => true
  | _ => false

def isValue : Token.Kind → Bool
  | .value => true
  | _ => false

def separated (e : Events) (first : Bool) (token : Token) (problem : Problem) (activity : Activity) :
    Except Fault (Token × Events) :=
  if first then .ok (token, e)
  else
    match token.kind with
    | .flowEntry => e.skip.peek
    | _ => .error (.during problem token.start activity e.opening)

def flowSequence (e : Events) (first : Bool) : Next := do
  let (token, e) ← e.peek
  let close (token : Token) (e : Events) : Next := .ok (.sequenceEnd, token.start, e.leave.skip)
  match token.kind with
  | .flowSequenceEnd => close token e
  | _ =>
    let (token, e) ← e.separated first token .sequenceNotEnded .flowSequence
    match token.kind with
    | .key => return (.mappingStart none none, token.start, (e.goTo .flowPairKey).skip)
    | .flowSequenceEnd => close token e
    | _ => (e.call (.flowSequence false)).node false false

def flowPairKey (e : Events) : Next := do
  let (token, e) ← e.peek
  if isValue token.kind || endsFlowSequencePart token.kind then
    (e.goTo .flowPairValue).skip.emptyScalar token.stop
  else (e.call .flowPairValue).node false false

def flowValue (e : Events) (ends : Token.Kind → Bool) (after : Phase) : Next := do
  let (token, e) ← e.peek
  if isValue token.kind then
    let (token, e) ← e.skip.peek
    if ends token.kind then (e.goTo after).emptyScalar token.start
    else (e.call after).node false false
  else (e.goTo after).emptyScalar token.start

def flowPairEnd (e : Events) : Next := do
  let (token, e) ← e.peek
  return (.mappingEnd, token.start, e.goTo (.flowSequence false))

def flowMappingKey (e : Events) (first : Bool) : Next := do
  let (token, e) ← e.peek
  let close (token : Token) (e : Events) : Next := .ok (.mappingEnd, token.start, e.leave.skip)
  match token.kind with
  | .flowMappingEnd => close token e
  | _ =>
    let (token, e) ← e.separated first token .mappingNotEnded .flowMapping
    match token.kind with
    | .key =>
      let (token, e) ← e.skip.peek
      if isValue token.kind || endsFlowMappingPart token.kind then
        (e.goTo (.flowMappingValue false)).emptyScalar token.start
      else (e.call (.flowMappingValue false)).node false false
    | .flowMappingEnd => close token e
    | _ => (e.call (.flowMappingValue true)).node false false

def flowMappingValue (e : Events) (empty : Bool) : Next :=
  if empty then do
    let (token, e) ← e.peek
    (e.goTo (.flowMappingKey false)).emptyScalar token.start
  else e.flowValue endsFlowMappingPart (.flowMappingKey false)

def next (e : Events) : Next :=
  match e.phase with
  | .start => e.document true
  | .afterDocument => e.document false
  | .documentContent => e.documentContent
  | .documentEnd => e.documentEnd
  | .blockNode => e.node true false
  | .blockSequence => e.blockSequence
  | .indentlessSequence => e.indentlessSequence
  | .blockMappingKey => e.blockMappingKey
  | .blockMappingValue => e.blockMappingValue
  | .flowSequence first => e.flowSequence first
  | .flowPairKey => e.flowPairKey
  | .flowPairValue => e.flowValue endsFlowSequencePart .flowPairEnd
  | .flowPairEnd => e.flowPairEnd
  | .flowMappingKey first => e.flowMappingKey first
  | .flowMappingValue empty => e.flowMappingValue empty
  | .finished => .ok (.streamEnd, e.tokens.mark, e)

end Events

end Facet.Yaml
