import DocumentQuery.Error
import DocumentQuery.Text.Basic

/-!
# Names in query text

* `Sql.checkName`: which names of tables and columns are accepted;
* `Sql.quoteName`: a name between double quotes.
-/

namespace DocumentQuery.Sql

/-- The greatest length of a name. -/
def maxNameLength : Nat := 64

/-- Words that are no names, in capitals. -/
def reserved : List String :=
  ["SELECT", "INSERT", "UPDATE", "DELETE", "DROP", "CREATE", "ALTER", "TABLE", "FROM", "WHERE",
   "JOIN", "UNION", "ORDER", "GROUP", "INDEX", "PRAGMA"]

/-- Whether a name is a reserved word in any case. -/
def isReserved (name : String) : Bool :=
  reserved.any fun word => Text.sameIgnoringCase name.toList word.toList

/-- Refuses a name that is not an ASCII word of moderate length or that is reserved. -/
def checkName (name : String) : Except Error Unit :=
  match name.toList with
  | [] => .error (.identifier .empty)
  | c :: cs =>
    if !Text.isWordStart c then .error (.identifier (.badStart name))
    else if !cs.all Text.isWordChar then .error (.identifier (.badCharacter name))
    else if maxNameLength < (c :: cs).length then .error (.identifier (.tooLong name))
    else if isReserved name then .error (.identifier (.reserved name))
    else .ok ()

/-- A name between double quotes, where those inside are doubled. -/
def quoteName (name : String) : String := String.ofList (Text.enclose '"' name.toList)

end DocumentQuery.Sql
