import SqlBuilder.Value

namespace SqlBuilder

structure RecordSet where
  values : List Value

namespace RecordSet

def size (r : RecordSet) : Nat := r.values.length

def isEmpty (r : RecordSet) : Bool := r.values.isEmpty

def inspect (r : RecordSet) : String := Value.inspectAll r.values

end RecordSet
end SqlBuilder
