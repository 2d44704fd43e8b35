import GrammarRefs.Attribute
import GrammarRefs.NameTable

/-! Dictionaries of attributes. Every attribute is kept in the order of insertion, so that a
duplicate can be reported with both places; look-up answers with the first of its name. -/
namespace GrammarRefs

inductive DictKind
  | argument
  | returnValue
  | ruleScope
  | predefinedRule
  | predefinedTreeRule
  | predefinedLexerRule
  | predefinedToken
deriving DecidableEq

/-- The index holds, for every name, where its first attribute stands. -/
structure Dict where
  kind : DictKind
  name : Option String := none
  attributes : List Attribute := []
  index : NameTable Nat := {}
  indexed : ∀ n, index.get? n = attributes.findIdx? (·.name == n) := by intro n; rfl
deriving DecidableEq

namespace Dict

variable {d : Dict} {a : Attribute} {n : String}

def add (d : Dict) (a : Attribute) : Dict where
  kind := d.kind
  name := d.name
  attributes := d.attributes ++ [a]
  index := d.index.insertNew a.name d.attributes.length
  indexed := NameTable.get?_insertNew_eq_findIdx? d.indexed a

def ofAttributes (kind : DictKind) (attributes : List Attribute) : Dict :=
  attributes.foldl add { kind }

def ofNames (kind : DictKind) (names : List String) : Dict :=
  ofAttributes kind (names.map fun name => { name })

/-- A global scope before its attributes are added. -/
def emptyScope (name : String) : Dict := { kind := .ruleScope, name := some name }

def get? (d : Dict) (n : String) : Option Attribute :=
  (d.index.get? n).bind fun i => d.attributes[i]?

def contains (d : Dict) (n : String) : Bool := d.index.contains n

def names (d : Dict) : List String := d.attributes.map (·.name)

def size (d : Dict) : Nat := d.attributes.length

def isEmpty (d : Dict) : Bool := d.attributes.isEmpty

/-- Equality up to the positions of the attributes. -/
def same (d e : Dict) : Bool :=
  d.kind == e.kind && d.name == e.name &&
    d.attributes.map Attribute.unplaced == e.attributes.map Attribute.unplaced

def display (d : Dict) : String :=
  "[" ++ ", ".intercalate (d.attributes.map Attribute.display) ++ "]"

theorem get?_eq_find? : d.get? n = d.attributes.find? (·.name == n) := by
  rw [get?, d.indexed, List.find?_eq_bind_findIdx?_getElem?]

theorem contains_eq_isSome_get? : d.contains n = (d.get? n).isSome := by
  rw [contains, NameTable.contains, d.indexed, get?_eq_find?, List.findIdx?_isSome,
    Bool.eq_iff_iff, List.any_eq_true, List.find?_isSome]

end Dict
end GrammarRefs
