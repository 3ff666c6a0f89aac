import SqlTemplate.Binary64.Basic

namespace SqlTemplate

/-- Whole numbers and others are told apart. The members of an object are in ascending order of
their names. -/
inductive Json : Type
  | null : Json
  | boolean : Bool → Json
  | integer : Int → Json
  | real : Binary64 → Json
  | string : String → Json
  | array : List Json → Json
  | object : List (String × Json) → Json
  deriving Inhabited

end SqlTemplate
