import Discovery.Finding
import Discovery.Json.Read
import Discovery.Json.Write
import Discovery.Text.Lines
/-!
# Findings as JSON lines

A findings file holds one JSON object per line, one line per shown finding. An object
has the entity, the status, the size, whether the entity is an address, the redirect
target and the extra text, in that order; the body is never written, nor read back. A
line is read back when it has the entity, the status and the flag, and the size, the
redirect target and the extra text where they are present and not null; it then gives
the finding without its body.

`ofJson_toJson` says that reading back what was written loses only the body.
-/

namespace Discovery

open Discovery.Json

/-- A text value, or null. -/
def textOrNull : Option String → Json
  | some s => .str s
  | none => .null

/-- A count, or null. -/
def countOrNull : Option Nat → Json
  | some n => .num n
  | none => .null

/-- The JSON object of a finding, without its body. -/
def Finding.toJson (r : Finding) : Json :=
  .obj [("entity", .str r.entity), ("status", .num r.status), ("size", countOrNull r.size),
    ("is_entity_url", .bool r.isEntityUrl), ("redirect_url", textOrNull r.redirect),
    ("extra", textOrNull r.extra)]

/-- The line of a finding, with its line feed. -/
def Finding.jsonLine (r : Finding) : String := render r.toJson ++ "\n"

/-- A member that may be left out: missing or null gives nothing, and any other value must
read. -/
def optionalField? {α : Type} (j : Json) (key : String) (read : Json → Option α) :
    Option (Option α) :=
  match j.field? key with
  | none => some none
  | some v => (read v).map some

/-- A finding read from its JSON object: the entity, the status and the flag are needed,
and a body member is not read. -/
def Finding.ofJson? (j : Json) : Option Finding := do
  let entity ← (j.field? "entity").bind str?
  let status ← (j.field? "status").bind nat?
  let size ← optionalField? j "size" nat?
  let isEntityUrl ← (j.field? "is_entity_url").bind bool?
  let redirect ← optionalField? j "redirect_url" str?
  let extra ← optionalField? j "extra" str?
  pure { entity, status, size, isEntityUrl, redirect, extra }

/-- The findings of a file of JSON lines, skipping lines that are not findings. -/
def readJsonLines (text : String) : List Finding :=
  (Text.lines text).filterMap fun l => (parse? l).bind Finding.ofJson?

theorem ofJson_toJson (r : Finding) : Finding.ofJson? r.toJson = some { r with content := none } := by
  obtain ⟨entity, status, size, content, isEntityUrl, redirect, extra⟩ := r
  cases size <;> cases redirect <;> cases extra <;> rfl

end Discovery
