import SqlBuilder.Term.Write
import SqlBuilder.Term.Defect
import SqlBuilder.Log

namespace SqlBuilder

class Query (α : Type) where
  fragment : α → Fragment
  defect? : α → Option Defect
  write : α → Writer String
  write_eq (q : α) : write q = (fragment q).render

structure Built where
  sql : String
  params : Params

namespace Query

variable {α : Type} [Query α]

def render (q : α) (ps : Params) : String × Params := (write q).run ps

def validate (q : α) : Except Error Unit := Defect.check (defect? q)

def toSql (q : α) : String := (render q .empty).1

def build (q : α) : Built :=
  let (sql, params) := render q .empty
  ⟨sql, params⟩

def buildWith (config : LogConfig) (q : α) : Built × List Event :=
  let built := build q
  (built, config.report built.sql built.params.size)

theorem render_eq (q : α) (ps : Params) :
    render q ps = ((fragment q).textFrom (ps.size + 1), ps.append (fragment q).values) := by
  rw [render, write_eq]
  rfl

end Query

instance : Query Condition :=
  ⟨Condition.standalone, Condition.defect?, Condition.writeStandalone, Condition.writeStandalone_eq⟩

instance : Query Select := ⟨Select.fragment, Select.defect?, Select.write, Select.write_eq⟩

def Expr.toSql (e : Expr) : String := (e.write .empty).1

end SqlBuilder
