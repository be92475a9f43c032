import Facet.Number.Binary
import Facet.Number.Word
import Facet.Value.Path
import Facet.Value.Table

namespace Facet

open Number

structure Name where
  text : String
  deriving DecidableEq, Inhabited

inductive Locale
  | en | fr
  deriving DecidableEq

structure Point where
  x : Binary .double
  label : Option String
  deriving DecidableEq, Inhabited

inductive Shape
  | dot : Shape
  | circle : (radius : Binary .double) → Shape
  | line : (start stop : Word .i64) → Shape
  | rect : (width height : Binary .double) → Shape
  deriving DecidableEq

/-- A real number that is encoded as an integer, without its fraction. -/
structure Trunc where
  val : Binary .double
  deriving DecidableEq, Inhabited

structure Drift where
  val : Word .i64
  deriving DecidableEq, Inhabited

structure Veiled where
  val : Word .i64
  deriving DecidableEq, Inhabited

/-- A record whose secret is not encoded. -/
structure Masked where
  secret : Word .u32
  note : Option String
  deriving DecidableEq, Inhabited

inductive Ty
  | str | string | name | char | bool | unit
  | int : Width → Ty
  | real : Format → Ty
  | option : Ty → Ty
  | list : Ty → Ty
  | pair : Ty → Ty → Ty
  | table : Ty → Ty
  | byteTable : Ty → Ty
  | point | shape | locale | path
  | trunc | drift | veiled | masked
  deriving DecidableEq

namespace Ty

abbrev Val : Ty → Type
  | .str => String
  | .string => String
  | .name => Name
  | .char => Char
  | .bool => Bool
  | .unit => Unit
  | .int w => Word w
  | .real f => Binary f
  | .option t => Option t.Val
  | .list t => List t.Val
  | .pair s t => s.Val × t.Val
  | .table t => Table String t.Val
  | .byteTable t => Table (List UInt8) t.Val
  | .point => Point
  | .shape => Shape
  | .locale => Locale
  | .path => Path
  | .trunc => Trunc
  | .drift => Drift
  | .veiled => Veiled
  | .masked => Masked

def default : (t : Ty) → t.Val
  | .str | .string => ""
  | .name => ⟨""⟩
  | .char => '\x00'
  | .bool => false
  | .unit => ()
  | .int w => ⟨0, w.holds_zero⟩
  | .real f => .zero f false
  | .option _ => none
  | .list _ => []
  | .pair s t => (s.default, t.default)
  | .table _ => .empty
  | .byteTable _ => .empty
  | .point => ⟨.zero .double false, none⟩
  | .shape => .dot
  | .locale => .en
  | .path => ⟨""⟩
  | .trunc => ⟨.zero .double false⟩
  | .drift => ⟨0, Width.i64.holds_zero⟩
  | .veiled => ⟨0, Width.i64.holds_zero⟩
  | .masked => ⟨⟨0, Width.u32.holds_zero⟩, none⟩

def fullName : Ty → String
  | .str => "str"
  | .string => "alloc::string::String"
  | .name => "driver::fixtures::Name"
  | .char => "char"
  | .bool => "bool"
  | .unit => "()"
  | .int w => w.name
  | .real .single => "f32"
  | .real .double => "f64"
  | .option t => "core::option::Option<" ++ t.fullName ++ ">"
  | .list t => "alloc::vec::Vec<" ++ t.fullName ++ ">"
  | .pair s t => "(" ++ s.fullName ++ ", " ++ t.fullName ++ ")"
  | .table t => "alloc::collections::btree::map::BTreeMap<alloc::string::String, " ++ t.fullName ++ ">"
  | .byteTable t =>
    "alloc::collections::btree::map::BTreeMap<alloc::vec::Vec<u8>, " ++ t.fullName ++ ">"
  | .point => "driver::fixtures::Point"
  | .shape => "driver::fixtures::Shape"
  | .locale => "driver::fixtures::Locale"
  | .path => "std::path::PathBuf"
  | .trunc => "driver::fixtures::Trunc"
  | .drift => "driver::fixtures::Drift"
  | .veiled => "driver::fixtures::Opaque"
  | .masked => "driver::fixtures::Masked"

def spelling : Ty → String
  | .str => "&str"
  | .string => "String"
  | .name => "Name"
  | .char => "char"
  | .bool => "bool"
  | .unit => "()"
  | .int w => w.name
  | .real .single => "f32"
  | .real .double => "f64"
  | .option t => "Option<" ++ t.spelling ++ ">"
  | .list t => "Vec<" ++ t.spelling ++ ">"
  | .pair s t => "(" ++ s.spelling ++ ", " ++ t.spelling ++ ")"
  | .table t => "BTreeMap<String, " ++ t.spelling ++ ">"
  | .byteTable t => "BTreeMap<Vec<u8>, " ++ t.spelling ++ ">"
  | .point => "Point"
  | .shape => "Shape"
  | .locale => "Locale"
  | .path => "PathBuf"
  | .trunc => "Trunc"
  | .drift => "Drift"
  | .veiled => "Opaque"
  | .masked => "Masked"

end Ty

end Facet
