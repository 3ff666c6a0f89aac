import SqlTemplate.Json.Printer
import SqlTemplate.Template.Reader
import SqlTemplate.Template.Render

namespace SqlTemplate

structure Statement where
  id : String
  body : List Node

structure RenderedSql where
  id : String
  sql : String
  params : List Value

namespace Statement

def ofDocument? (functions : Registry) (d : Document) : Except Error Statement := do
  return ⟨d.id, ← Template.buildAll functions d.body⟩

def describe (s : Statement) : String :=
  Tree.element "statement" (Tree.labelled "id" s.id) (Node.describeAll s.body)

def render (s : Statement) (dialect : Dialect) (source : Source) : Except Error RenderedSql := do
  let (sql, params) ← Node.render ⟨dialect, source⟩ s.body
  return ⟨s.id, sql, params⟩

end Statement

def RenderedSql.toJson (r : RenderedSql) : Json :=
  .object [("id", .string r.id), ("sql", .string r.sql),
    ("params", .array (Value.toJsonItems r.params))]

end SqlTemplate
