import Facet.Value.Ty

namespace Facet

inductive Capability
  | person | catalog | kit | empty
  deriving DecidableEq

def Capability.name : Capability → String
  | .person => "Person"
  | .catalog => "Catalog"
  | .kit => "Kit"
  | .empty => "Empty"

abbrev Args : List Ty → Type
  | [] => Unit
  | t :: ts => t.Val × Args ts

inductive Method : Capability → Type
  | getName : Method .person
  | getNameWithArgument : Method .person
  | getNameWithArguments : Method .person
  | getAge : Method .person
  | getNickname : Method .person
  | label : Method .catalog
  | initial : Method .catalog
  | maybe : Method .catalog
  | scaled : Method .catalog
  | flagged : Method .catalog
  | small : Method .kit
  | signed : Method .kit
  | unsigned : Method .kit
  | wide : Method .kit
  | ratio : Method .kit
  | maybeReal : Method .kit
  | nested : Method .kit
  | tags : Method .kit
  | reals : Method .kit
  | maybes : Method .kit
  | table : Method .kit
  | keyed : Method .kit
  | pair : Method .kit
  | point : Method .kit
  | shape : Method .kit
  | nothing : Method .kit
  | trunc : Method .kit
  | drift : Method .kit
  | veiled : Method .kit
  | masked : Method .kit
  | mixed : Method .kit
  | path : Method .kit
  deriving DecidableEq

namespace Method

def name {c : Capability} : Method c → String
  | .getName => "get_name"
  | .getNameWithArgument => "get_name_with_argument"
  | .getNameWithArguments => "get_name_with_arguments"
  | .getAge => "get_age"
  | .getNickname => "get_nickname"
  | .label => "label"
  | .initial => "initial"
  | .maybe => "maybe"
  | .scaled => "scaled"
  | .flagged => "flagged"
  | .small => "small"
  | .signed => "signed"
  | .unsigned => "unsigned"
  | .wide => "wide"
  | .ratio => "ratio"
  | .maybeReal => "maybe_real"
  | .nested => "nested"
  | .tags => "tags"
  | .reals => "reals"
  | .maybes => "maybes"
  | .table => "table"
  | .keyed => "keyed"
  | .pair => "pair"
  | .point => "point"
  | .shape => "shape"
  | .nothing => "nothing"
  | .trunc => "trunc"
  | .drift => "drift"
  | .veiled => "opaque"
  | .masked => "masked"
  | .mixed => "mixed"
  | .path => "path"

def params {c : Capability} : Method c → List Ty
  | .getName | .getAge => []
  | .getNameWithArgument => [.str]
  | .getNameWithArguments => [.str, .str]
  | .getNickname => [.string, .bool, .int .i64]
  | .label => [.locale]
  | .initial => [.char]
  | .maybe => [.option (.int .u32)]
  | .scaled => [.real .double]
  | .flagged => [.bool, .int .i64]
  | .small => [.int .u8]
  | .signed => [.int .i64]
  | .unsigned => [.int .u64]
  | .wide => [.int .i128]
  | .ratio => [.real .single]
  | .maybeReal => [.option (.real .double)]
  | .nested => [.option (.option (.int .u32))]
  | .tags => [.list .string]
  | .reals => [.list (.real .double)]
  | .maybes => [.list (.option (.real .double))]
  | .table => [.table (.int .i64)]
  | .keyed => [.byteTable (.int .i64)]
  | .pair => [.pair (.int .i64) .string]
  | .point => [.point]
  | .shape => [.shape]
  | .nothing => [.unit]
  | .trunc => [.trunc]
  | .drift => [.drift]
  | .veiled => [.veiled]
  | .masked => [.masked]
  | .mixed => [.real .double, .str, .option (.real .double), .list (.real .double)]
  | .path => [.path]

def returns {c : Capability} : Method c → Ty
  | .getName | .getNameWithArgument | .getNameWithArguments => .name
  | .getAge => .int .u32
  | .getNickname => .string
  | .label | .maybe | .flagged => .string
  | .initial => .char
  | .scaled => .real .double
  | .small => .int .u8
  | .signed => .int .i64
  | .unsigned => .int .u64
  | .wide => .int .i128
  | .ratio => .real .single
  | .maybeReal => .option (.real .double)
  | .nested => .option (.option (.int .u32))
  | .tags => .list .string
  | .reals => .list (.real .double)
  | .maybes => .list (.option (.real .double))
  | .table => .table (.int .i64)
  | .keyed => .int .i64
  | .pair => .pair (.int .i64) .string
  | .point => .point
  | .shape => .shape
  | .nothing => .unit
  | .trunc => .real .double
  | .drift | .veiled => .int .i64
  | .masked => .int .u32
  | .mixed => .string
  | .path => .path

def all : (c : Capability) → List (Method c)
  | .person => [.getName, .getNameWithArgument, .getNameWithArguments, .getAge, .getNickname]
  | .catalog => [.label, .initial, .maybe, .scaled, .flagged]
  | .kit =>
    [.small, .signed, .unsigned, .wide, .ratio, .maybeReal, .nested, .tags, .reals, .maybes, .table,
      .keyed, .pair, .point, .shape, .nothing, .trunc, .drift, .veiled, .masked, .mixed, .path]
  | .empty => []

def ofName? (c : Capability) (name : String) : Option (Method c) :=
  (all c).find? (·.name == name)

theorem mem_all {c : Capability} (m : Method c) : m ∈ all c := by
  cases m <;> decide

theorem ofName?_name {c : Capability} (m : Method c) : ofName? c m.name = some m := by
  cases m <;> rfl

theorem name_of_ofName? {c : Capability} {n : String} {m : Method c} (h : ofName? c n = some m) :
    m.name = n := by
  simpa using List.find?_some h

theorem name_ne_of_ofName? {c : Capability} {n : String} (h : ofName? c n = none) (m : Method c) :
    m.name ≠ n := by
  simpa using List.find?_eq_none.1 h m m.mem_all

theorem eq_of_name_eq {c : Capability} {m m' : Method c} (h : m.name = m'.name) : m = m' := by
  have hfound := m.ofName?_name
  rw [h, m'.ofName?_name] at hfound
  exact (Option.some.inj hfound).symm

end Method

end Facet
