import TableQuery.Connection.Choice
import TableQuery.Schema.Table

/-!
# Sessions

A session is configured with the dialect its statements are written in and with the tables that are
to be mapped at once.  The dialect may be given by name, by a connection URL and by the type of a
connection; whatever is given has to agree.
-/

namespace TableQuery

/-- What a session is configured with. -/
structure SessionConfig where
  dialect : Option Dialect := none
  url : Option String := none
  connection : Option String := none
  tables : List (Except Error Table) := []

/-- A session: its dialect, and the tables mapped when it was built. -/
structure Session where
  dialect : Dialect
  tables : List Table

namespace SessionConfig

/-- The dialects that the configuration selects, with what selects them. -/
def candidates (c : SessionConfig) : Except Error (List (String × Dialect)) := do
  let named := c.dialect.toList.map fun d => ("dialect", d)
  let fromUrl ← match c.url with
    | none => pure []
    | some url => do pure [("url", ← Dialect.ofUrl url)]
  let fromConnection ← match c.connection with
    | none => pure []
    | some name =>
      match Dialect.ofConnectionType? name with
      | some d => pure [("connection", d)]
      | none => throw (.invalidArgument (.connectionType name))
  return named ++ fromUrl ++ fromConnection

/-- The one dialect that the configuration selects. -/
def resolveDialect (c : SessionConfig) : Except Error Dialect := do
  match ← c.candidates with
  | [] => throw (.invalidArgument .noDialect)
  | (first, dialect) :: rest =>
    match rest.find? (fun (_, d) => d != dialect) with
    | some (other, d) => throw (.invalidArgument (.dialectConflict other d first dialect))
    | none => return dialect

/-- The tables of a configuration, up to the first whose description is not consistent. -/
def resolveTables : List (Except Error Table) → Except Error (List Table)
  | [] => .ok []
  | t :: ts => do return (← t) :: (← resolveTables ts)

/-- The session of a configuration. -/
def build (c : SessionConfig) : Except Error Session := do
  return ⟨← c.resolveDialect, ← resolveTables c.tables⟩

end SessionConfig

end TableQuery
