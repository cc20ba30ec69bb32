import RamlDocs.Fault
import RamlDocs.Value.Display

/-!
# Texts in place of values

`Value.asText` is the text of a value where a definition needs one. It fails for a value that holds
an integer with too many digits, and for no other (`Value.asText_eq_ok`).
-/

namespace RamlDocs

/-- The text of a key, if it can be written. -/
def Key.asText (k : Key) : Except Fault String :=
  if k.isWritable then .ok k.display else .error .longInteger

/-- The text of a value, if it can be written. -/
def Value.asText (v : Value) : Except Fault String :=
  if v.isWritable then .ok v.display else .error .longInteger

@[simp] theorem Key.asText_text (s : String) : (Key.text s).asText = .ok s := rfl

@[simp] theorem Value.asText_text (s : String) : (Value.text s).asText = .ok s := rfl

theorem Key.asText_eq_ok {k : Key} (h : k.isWritable = true) : k.asText = .ok k.display := by
  simp [Key.asText, h]

theorem Value.asText_eq_ok {v : Value} (h : v.isWritable = true) : v.asText = .ok v.display := by
  simp [Value.asText, h]

end RamlDocs
