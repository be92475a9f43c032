import Facet.Yaml.Event

namespace Facet.Yaml

inductive Item
  | void
  | reference : (anchor : Nat) → Item
  | scalar : (tag : Option Bytes) → List Char → Style → Item
  | sequenceStart : (tag : Option Bytes) → Item
  | sequenceEnd
  | mappingStart : (tag : Option Bytes) → Item
  | mappingEnd

abbrev Items := List (Item × Mark)

structure Document where
  items : Items
  anchors : List (Nat × Nat)
  fault : Option Fault
  followed : Bool

structure Gathering where
  items : Items
  names : List (List Char × Nat)
  anchors : List (Nat × Nat)

namespace Gathering

def empty : Gathering := ⟨[], [], []⟩

def add (g : Gathering) (item : Item) (m : Mark) : Gathering := { g with items := (item, m) :: g.items }

/-- An anchor is numbered by how many names there are before it, and the number is that of the latest
anchor that got it. -/
def name (g : Gathering) : Option (List Char) → Gathering
  | none => g
  | some name =>
    let id := g.names.length
    { g with
      names := (name, id) :: g.names.filter (·.1 != name)
      anchors := (id, g.items.length) :: g.anchors }

def finish (g : Gathering) (fault : Option Fault) (followed : Bool) : Document :=
  ⟨g.items.reverse, g.anchors, fault, followed⟩

def finishText (g : Gathering) (m : Mark) : Document :=
  (if g.items.isEmpty then g.add .void m else g).finish none false

end Gathering

def isStreamEnd : Event → Bool
  | .streamEnd => true
  | _ => false

def followed (e : Events) : Bool :=
  match e.next with
  | .ok (event, _, _) => !isStreamEnd event
  | .error _ => true

def gather : (n : Nat) → Events → Gathering → Document
  | 0, _, g => g.finish none false
  | n + 1, e, g =>
    match e.next with
    | .error fault => g.finish (some fault) false
    | .ok (event, m, e) =>
      match event with
      | .streamEnd => g.finishText m
      | .documentStart => gather n e g
      | .documentEnd => g.finish none (followed e)
      | .reference name =>
        match g.names.find? (·.1 == name) with
        | none => g.finish (some (.plain .unknownAnchor m)) false
        | some (_, id) => gather n e (g.add (.reference id) m)
      | .scalar anchor tag text style => gather n e ((g.name anchor).add (.scalar tag text style) m)
      | .sequenceStart anchor tag => gather n e ((g.name anchor).add (.sequenceStart tag) m)
      | .sequenceEnd => gather n e (g.add .sequenceEnd m)
      | .mappingStart anchor tag => gather n e ((g.name anchor).add (.mappingStart tag) m)
      | .mappingEnd => gather n e (g.add .mappingEnd m)

namespace Document

/-- A character makes at most four tokens, and a token at most four events. -/
def eventBound (s : String) : Nat := 16 * (s.length + 4)

def ofText (s : String) : Document :=
  match forbidden? 0 s.toList with
  | some offset => ⟨[], [], some (.unreadable .controlCharacter offset), false⟩
  | none => gather (eventBound s) (.ofText s) .empty

def target (d : Document) (anchor : Nat) : Items :=
  match d.anchors.find? (·.1 == anchor) with
  | none => []
  | some (_, i) => d.items.drop i

end Document

end Facet.Yaml
