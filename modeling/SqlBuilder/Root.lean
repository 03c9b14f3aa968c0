import SqlBuilder.Statement.Step

namespace SqlBuilder

inductive Root
  | condition (c : Condition)
  | select (s : Select)
  | statement (s : Statement)

namespace Root

def fragment : Root → Fragment
  | .condition c => c.standalone
  | .select s => s.fragment
  | .statement s => s.fragment

def defect? : Root → Option Defect
  | .condition c => c.defect?
  | .select s => s.defect?
  | .statement s => s.defect?

def write : Root → Writer String
  | .condition c => c.writeStandalone
  | .select s => s.write
  | .statement s => s.write

theorem write_eq (q : Root) : q.write = q.fragment.render := by
  cases q with
  | condition c => exact c.writeStandalone_eq
  | select s => exact s.write_eq
  | statement s => exact s.write_eq

instance : Query Root := ⟨fragment, defect?, write, write_eq⟩

end Root
end SqlBuilder
