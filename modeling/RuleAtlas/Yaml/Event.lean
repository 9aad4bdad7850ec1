import RuleAtlas.Yaml.Token

/-! # Events of YAML text

Events tell the structure of a stream in the order of the text: where documents, sequences and
mappings begin and end, and the scalars and aliases between. -/

namespace RuleAtlas.Yaml

structure Properties where
  anchor : Option (List Char)
  tag : Option (List Char)
  deriving DecidableEq, Repr, Inhabited

def Properties.none : Properties := ⟨.none, .none⟩

/-- What happens at a place of the text. -/
inductive EventValue where
  | streamStart
  | streamEnd
  | documentStart
  | documentEnd
  | alias (name : List Char)
  | scalar (properties : Properties) (text : List Char) (style : ScalarStyle)
  | sequenceStart (properties : Properties)
  | sequenceEnd
  | mappingStart (properties : Properties)
  | mappingEnd
  deriving DecidableEq, Repr, Inhabited

structure Event where
  value : EventValue
  mark : Mark
  deriving DecidableEq, Repr, Inhabited

/-- The event of a scalar that is not written. -/
def Event.missing (mark : Mark) : Event := ⟨.scalar .none [] .plain, mark⟩

end RuleAtlas.Yaml
