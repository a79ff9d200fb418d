import TableQuery.Calendar.Text
import TableQuery.Guid

/-!
# Text formats

Dates and times and identifiers are written and read by libraries, which are given here by what they
do with the formats that conversions ask for.  The standard formats are the documented ones, spelled
out.
-/

namespace TableQuery

/-- How dates and times and identifiers are written and read. -/
structure Formats where
  /-- Writes a date and time in the form `%Y-%m-%d %H:%M:%S`. -/
  writeDateTime : Calendar.DateTime → List Char
  /-- Reads a date and time in the form `%Y-%m-%d %H:%M:%S`. -/
  readDateTime : List Char → Option Calendar.DateTime
  /-- Reads a date and time in the form `%Y-%m-%dT%H:%M:%S%.f`. -/
  readTimestamp : List Char → Option Calendar.DateTime
  /-- Writes an identifier in groups of digits. -/
  writeGuid : Guid → List Char
  /-- Reads an identifier in any of its forms. -/
  readGuid : List Char → Except Guid.Fault Guid

namespace Formats

/-- The formats as they are documented. -/
def standard : Formats where
  writeDateTime := Calendar.DateTime.text
  readDateTime := Calendar.DateTime.readPlain
  readTimestamp := Calendar.DateTime.readStamp
  writeGuid := Guid.text
  readGuid := Guid.read

/-- The standard reading of an identifier. -/
@[simp] theorem standard_readGuid (cs : List Char) : standard.readGuid cs = Guid.read cs := rfl

end Formats

end TableQuery
