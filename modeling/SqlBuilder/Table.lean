import SqlBuilder.Ident.Parse

namespace SqlBuilder

structure Table where
  ident : Ident
  deriving DecidableEq, Repr

namespace Table

def ofName (name : String) : Except IdentError Table := (Ident.parse name).map Table.mk

def sql (t : Table) : String := t.ident.sql

end Table
end SqlBuilder
